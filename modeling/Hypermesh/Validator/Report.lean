import Hypermesh.Counts
import Hypermesh.Engine
/-
`TrustChainSecurityValidator.generate_security_report` (`SECURITY_PRODUCTION_READINESS_VALIDATOR.py`) and the exit
status of its `main`, over the validator's data model (`SecurityLevel`, `SecurityViolation`, `self.violations`).

`severity_counts` is a dict keyed by the four `SecurityLevel` members; the loop bumps the key of each violation and
the report reads the four counts back into `severity_breakdown`. `_print_security_summary` is console output and is
not modelled.

Results: `generateSecurityReport_eq` (the report always exists, with each level's count of violations) and
`productionReady_eq` (readiness is the `Engine.verdict` of the violations' severities).
-/

namespace Hypermesh.Validator

open Engine

inductive SecurityLevel where
  | critical | high | medium | low
  deriving DecidableEq, Repr

/-- iteration order of the enum -/
def SecurityLevel.members : List SecurityLevel := [.critical, .high, .medium, .low]

theorem SecurityLevel.mem_members (l : SecurityLevel) : l ∈ SecurityLevel.members := by
  cases l <;> simp [SecurityLevel.members]

structure SecurityViolation where
  filePath : String
  lineNumber : Nat
  violationType : String
  severity : SecurityLevel
  description : String
  evidence : String
  deriving DecidableEq, Repr

/-- the validator's state: `self.project_root` and `self.violations` -/
structure TrustChainSecurityValidator where
  projectRoot : String
  violations : List SecurityViolation
  deriving DecidableEq, Repr

structure SecurityReport where
  productionReady : Bool
  totalViolations : Nat
  severityBreakdown : Counts String
  violations : List SecurityViolation
  deriving DecidableEq, Repr

/-- the counting loop `for violation in self.violations: severity_counts[violation.severity] += 1` -/
def tally (violations : List SecurityViolation) : Option (Counts SecurityLevel) :=
  violations.foldlM (fun counts v => counts.bump v.severity) (Counts.ofFn SecurityLevel.members fun _ => 0)

def generateSecurityReport (self : TrustChainSecurityValidator) : Option SecurityReport := do
  let severityCounts ← tally self.violations
  let critical ← severityCounts.get? .critical
  let high ← severityCounts.get? .high
  let medium ← severityCounts.get? .medium
  let low ← severityCounts.get? .low
  pure {
    productionReady := critical == 0 && high == 0
    totalViolations := self.violations.length
    severityBreakdown := [("critical", critical), ("high", high), ("medium", medium), ("low", low)]
    violations := self.violations }

/-- the exit status of `main` once the audit has run: writing the report file may raise (exit status 1), else
`exit(0)` when production-ready and `exit(1)` otherwise -/
def mainExitStatus (report : SecurityReport) (reportWritten : Bool) : Nat :=
  if !reportWritten then 1 else if report.productionReady then 0 else 1

/-- how many violations have level `l` -/
def levelCount (vs : List SecurityViolation) (l : SecurityLevel) : Nat := vs.countP (·.severity = l)

theorem tally_eq (vs : List SecurityViolation) :
    tally vs = some (Counts.ofFn SecurityLevel.members (levelCount vs)) := by
  simpa [levelCount] using Counts.foldlM_bump_ofFn SecurityLevel.members SecurityViolation.severity vs (fun _ => 0)
    fun v _ => v.severity.mem_members

/-- **The report always exists**, with each level's count of violations. -/
theorem generateSecurityReport_eq (self : TrustChainSecurityValidator) :
    generateSecurityReport self = some
      { productionReady := levelCount self.violations .critical == 0 && levelCount self.violations .high == 0
        totalViolations := self.violations.length
        severityBreakdown := [("critical", levelCount self.violations .critical),
          ("high", levelCount self.violations .high), ("medium", levelCount self.violations .medium),
          ("low", levelCount self.violations .low)]
        violations := self.violations } := by
  simp [generateSecurityReport, tally_eq, Counts.get?_ofFn _ (SecurityLevel.mem_members _)]

/-! ## The verdict -/

/-- the specification's severity of a level -/
def SecurityLevel.toEngine : SecurityLevel → Severity
  | .critical => .critical
  | .high => .high
  | .medium => .medium
  | .low => .low

/-- the severities of the violations on the specification's scale -/
def engineSeverity (v : SecurityViolation) : Severity := v.severity.toEngine

theorem hist_engineSeverity (vs : List SecurityViolation) (l : SecurityLevel) :
    hist engineSeverity vs l.toEngine = levelCount vs l := by
  unfold hist levelCount engineSeverity
  congr; funext v; cases v.severity <;> cases l <;> rfl

/-- **The report implements the verdict engine**: readiness is `verdict` of the severity tally. -/
theorem generateSecurityReport_verdict (self : TrustChainSecurityValidator) :
    ∃ r, generateSecurityReport self = some r ∧
      r.productionReady = (verdict (hist engineSeverity self.violations)).deploymentReady := by
  refine ⟨_, generateSecurityReport_eq self, ?_⟩
  have hc := hist_engineSeverity self.violations .critical
  have hh := hist_engineSeverity self.violations .high
  simp only [SecurityLevel.toEngine] at hc hh
  simp only [verdict, hc, hh]
  split_ifs <;> simp <;> omega

@[simp] theorem engineSeverity_eq_critical (v : SecurityViolation) :
    engineSeverity v = .critical ↔ v.severity = .critical := by
  unfold engineSeverity; cases v.severity <;> simp [SecurityLevel.toEngine]

@[simp] theorem engineSeverity_eq_high (v : SecurityViolation) : engineSeverity v = .high ↔ v.severity = .high := by
  unfold engineSeverity; cases v.severity <;> simp [SecurityLevel.toEngine]

section Report

variable {self : TrustChainSecurityValidator} {r : SecurityReport} (h : generateSecurityReport self = some r)
include h

theorem productionReady_eq :
    r.productionReady = (verdict (hist engineSeverity self.violations)).deploymentReady := by
  obtain ⟨r', h', hr⟩ := generateSecurityReport_verdict self
  rw [h, Option.some.injEq] at h'; subst h'; exact hr

theorem productionReady_iff : r.productionReady = true ↔
    (∀ v ∈ self.violations, v.severity ≠ .critical) ∧ ∀ v ∈ self.violations, v.severity ≠ .high := by
  simp [productionReady_eq h, ready_iff, hist_eq_zero_iff]

end Report

/-- the key of a level in `severity_breakdown` -/
def SecurityLevel.breakdownKey : SecurityLevel → String
  | .critical => "critical"
  | .high => "high"
  | .medium => "medium"
  | .low => "low"

/-- every violation is counted once in `severity_breakdown` -/
theorem total_levelCount (vs : List SecurityViolation) :
    Counts.total (SecurityLevel.members.map fun l => (l.breakdownKey, levelCount vs l)) = vs.length := by
  induction vs with
  | nil => rfl
  | cons v vs ih =>
    simp only [Counts.total, SecurityLevel.members, List.map, List.sum_cons, List.sum_nil, levelCount,
      List.countP_cons, List.length_cons] at ih ⊢
    cases v.severity <;> simp <;> omega

theorem mainExitStatus_eq_zero (r : SecurityReport) (written : Bool) :
    mainExitStatus r written = 0 ↔ written = true ∧ r.productionReady = true := by
  unfold mainExitStatus; cases written <;> cases r.productionReady <;> simp

end Hypermesh.Validator
