import Mathlib
/-
The finding aggregator and verdict engine of the scanner specification (spec §4.4, §4.5), as an abstract model.
The report functions of the repository are shown to implement it: `Hypermesh.Quantum.Report` for
`QUANTUM_CERTIFICATE_SECURITY_AUDIT.py` and `Hypermesh.Validator` for `SECURITY_PRODUCTION_READINESS_VALIDATOR.py`.

A scan is a list of findings of any type `α` with a severity `sev`. `hist` tallies the severities; `verdict` applies
the fixed precedence of §4.5: a CRITICAL finding gives `criticalVulnerabilitiesFound`, else a HIGH finding gives
`highRiskVulnerabilitiesFound`, else `acceptableRiskLevel`, and only the last is deployment-ready.

Results:
- `hist_append`: the tally is additive;
- `ready_iff`: a scan is deployment-ready exactly when it has no CRITICAL and no HIGH finding;
- `ready_of_ready_append`: adding findings never makes a scan ready (§8, verdict monotonicity).
-/

namespace Hypermesh.Engine

/-- the specification's ordered severity scale, most severe first -/
inductive Severity where
  | critical | high | medium | low | info
  deriving DecidableEq, Repr

/-- a severity histogram -/
abbrev Hist := Severity → Nat

/-- the overall risk status -/
inductive Status where
  | criticalVulnerabilitiesFound | highRiskVulnerabilitiesFound | acceptableRiskLevel
  deriving DecidableEq, Repr

/-- the status strings of the report -/
def Status.text : Status → String
  | .criticalVulnerabilitiesFound => "CRITICAL_VULNERABILITIES_FOUND"
  | .highRiskVulnerabilitiesFound => "HIGH_RISK_VULNERABILITIES_FOUND"
  | .acceptableRiskLevel => "ACCEPTABLE_RISK_LEVEL"

theorem Status.text_inj {a b : Status} : a.text = b.text ↔ a = b := by
  cases a <;> cases b <;> simp [Status.text]

structure Verdict where
  status : Status
  deploymentReady : Bool
  deriving DecidableEq, Repr

/-- the precedence of §4.5 -/
def verdict (h : Hist) : Verdict :=
  if 0 < h .critical then ⟨.criticalVulnerabilitiesFound, false⟩
  else if 0 < h .high then ⟨.highRiskVulnerabilitiesFound, false⟩
  else ⟨.acceptableRiskLevel, true⟩

section Hist

variable {α : Type} (sev : α → Severity)

/-- the tally of a scan: how many findings have each severity -/
def hist (fs : List α) : Hist := fun s => fs.countP fun f => sev f = s

theorem hist_append (fs gs : List α) (s : Severity) : hist sev (fs ++ gs) s = hist sev fs s + hist sev gs s := by
  simp [hist, List.countP_append]

theorem hist_eq_zero_iff (fs : List α) (s : Severity) : hist sev fs s = 0 ↔ ∀ f ∈ fs, sev f ≠ s := by
  simp [hist, List.countP_eq_zero]

theorem hist_pos_iff (fs : List α) (s : Severity) : 0 < hist sev fs s ↔ ∃ f ∈ fs, sev f = s := by
  simp [hist, List.countP_pos_iff]

end Hist

/-! ## The verdict -/

theorem ready_iff (h : Hist) : (verdict h).deploymentReady = true ↔ h .critical = 0 ∧ h .high = 0 := by
  unfold verdict
  split_ifs <;> simp <;> omega

theorem status_critical_iff (h : Hist) :
    (verdict h).status = .criticalVulnerabilitiesFound ↔ 0 < h .critical := by
  unfold verdict; split_ifs <;> simp_all

theorem status_high_iff (h : Hist) :
    (verdict h).status = .highRiskVulnerabilitiesFound ↔ h .critical = 0 ∧ 0 < h .high := by
  unfold verdict; split_ifs <;> simp <;> omega

theorem status_acceptable_iff (h : Hist) :
    (verdict h).status = .acceptableRiskLevel ↔ h .critical = 0 ∧ h .high = 0 := by
  unfold verdict; split_ifs <;> simp <;> omega

/-- **Verdict monotonicity.** A scan with more findings is ready only if the smaller one was. -/
theorem ready_of_ready_append {α : Type} (sev : α → Severity) (fs gs : List α)
    (h : (verdict (hist sev (fs ++ gs))).deploymentReady = true) : (verdict (hist sev fs)).deploymentReady = true := by
  rw [ready_iff] at h ⊢
  simp only [hist_append] at h
  omega

end Hypermesh.Engine
