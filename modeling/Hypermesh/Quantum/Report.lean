import Hypermesh.Counts
import Hypermesh.Quantum.Finding
/-
`QuantumCertificateSecurityAuditor.generate_security_report` (`QUANTUM_CERTIFICATE_SECURITY_AUDIT.py`), with
`_get_deployment_recommendation`, `_get_remediation_priorities` and the exit status of `main`.

The report tallies the findings into two dicts (`severity_counts`, `category_counts`) in one loop, reads the
CRITICAL and HIGH counts back, and derives the status, `production_ready` and the recommendation from them. The
tally and the reads are dict operations that could raise `KeyError`, so the report is an `Option`.
`audit_metadata`, `compliance_assessment` (constant tables) and `_print_audit_summary` (console output) are not
modelled.

Results:
- `generateSecurityReport_eq`: the report always exists, and its histograms hold each key's count of findings;
- `status_eq`, `productionReady_eq`: status and readiness are the `Engine.verdict` of the findings' severities;
- `recommendation_approved_iff`, `recommendation_ne_review`: the recommendation approves exactly the ready scans,
  and its last branch is dead;
- `remediation_priorities_match_histogram`: the priority list counts what the severity histogram counts, and is
  empty exactly when the report is production-ready.
-/

namespace Hypermesh.Quantum

open Engine

/-- the keys of `severity_counts`, in order -/
def severityKeys : List String := SecuritySeverity.members.map (·.value)

/-- the keys of `category_counts`, in order -/
def categoryKeys : List String := SecurityCategory.members.map (·.value)

theorem value_mem_severityKeys (s : SecuritySeverity) : s.value ∈ severityKeys := s.value_mem

theorem value_mem_categoryKeys (c : SecurityCategory) : c.value ∈ categoryKeys := c.value_mem

/-- one pass of the counting loop: `severity_counts[...] += 1`, then `category_counts[...] += 1` -/
def tallyStep (counts : Counts String × Counts String) (finding : SecurityFinding) :
    Option (Counts String × Counts String) := do
  let severityCounts ← counts.1.bump finding.severity.value
  let categoryCounts ← counts.2.bump finding.category.value
  pure (severityCounts, categoryCounts)

/-- the counting loop of `generate_security_report`, from `{value: 0 for ... in Enum}` -/
def tally (findings : List SecurityFinding) : Option (Counts String × Counts String) :=
  findings.foldlM tallyStep (Counts.ofFn severityKeys fun _ => 0, Counts.ofFn categoryKeys fun _ => 0)

def getDeploymentRecommendation (productionReady : Bool) (critical high : Nat) : String :=
  if critical > 0 then "DEPLOYMENT BLOCKED - Critical security vulnerabilities must be resolved"
  else if high > 0 then "DEPLOYMENT AT RISK - High severity vulnerabilities should be resolved"
  else if productionReady then "DEPLOYMENT APPROVED - Security requirements met"
  else "FURTHER REVIEW REQUIRED - Additional security analysis needed"

structure RemediationPriority where
  priority : Nat
  category : String
  count : Nat
  timeline : String
  description : String
  deriving DecidableEq, Repr

def getRemediationPriorities (findings : List SecurityFinding) : List RemediationPriority :=
  let criticalFindings := findings.filter (·.severity = .critical)
  let highFindings := findings.filter (·.severity = .high)
  (if criticalFindings.isEmpty then [] else
    [⟨1, "Critical Security Fixes", criticalFindings.length, "Immediate (0-24 hours)",
      "Address all critical security vulnerabilities before any deployment"⟩]) ++
  (if highFindings.isEmpty then [] else
    [⟨2, "High Severity Fixes", highFindings.length, "Urgent (1-7 days)",
      "Resolve high severity issues to reduce security risk"⟩])

structure SecurityReport where
  securityStatus : String
  productionReady : Bool
  totalFindings : Nat
  criticalFindings : Nat
  highFindings : Nat
  recommendation : String
  auditStatistics : AuditStats
  findingsBySeverity : Counts String
  findingsByCategory : Counts String
  detailedFindings : List SecurityFinding
  remediationPriority : List RemediationPriority
  deriving DecidableEq, Repr

def generateSecurityReport (self : QuantumCertificateSecurityAuditor) : Option SecurityReport := do
  let (severityCounts, categoryCounts) ← tally self.findings
  let criticalCount ← severityCounts.get? SecuritySeverity.critical.value
  let highCount ← severityCounts.get? SecuritySeverity.high.value
  let securityStatus :=
    if criticalCount > 0 then "CRITICAL_VULNERABILITIES_FOUND"
    else if highCount > 0 then "HIGH_RISK_VULNERABILITIES_FOUND"
    else "ACCEPTABLE_RISK_LEVEL"
  let productionReady := criticalCount == 0 && highCount == 0
  pure {
    securityStatus
    productionReady
    totalFindings := self.findings.length
    criticalFindings := criticalCount
    highFindings := highCount
    recommendation := getDeploymentRecommendation productionReady criticalCount highCount
    auditStatistics := self.stats
    findingsBySeverity := severityCounts
    findingsByCategory := categoryCounts
    detailedFindings := self.findings
    remediationPriority := getRemediationPriorities self.findings }

/-- the exit status of `main` once the audit has run: writing either report file may raise (exit status 1),
else `exit(0)` when production-ready and `exit(1)` otherwise -/
def mainExitStatus (report : SecurityReport) (reportsWritten : Bool) : Nat :=
  if !reportsWritten then 1 else if report.productionReady then 0 else 1

/-! ## The tally -/

/-- the severity histogram of a finding list, as `generate_security_report` holds it -/
def severityHistogram (findings : List SecurityFinding) : Counts String :=
  Counts.ofFn severityKeys fun k => findings.countP fun f => f.severity.value = k

/-- the category histogram of a finding list -/
def categoryHistogram (findings : List SecurityFinding) : Counts String :=
  Counts.ofFn categoryKeys fun k => findings.countP fun f => f.category.value = k

theorem severityHistogram_append (fs gs : List SecurityFinding) :
    severityHistogram (fs ++ gs) = (severityHistogram fs).merge (severityHistogram gs) := by
  simp [severityHistogram, Counts.merge_ofFn, List.countP_append]

theorem categoryHistogram_append (fs gs : List SecurityFinding) :
    categoryHistogram (fs ++ gs) = (categoryHistogram fs).merge (categoryHistogram gs) := by
  simp [categoryHistogram, Counts.merge_ofFn, List.countP_append]

theorem severityHistogram_perm {fs gs : List SecurityFinding} (h : fs.Perm gs) :
    severityHistogram fs = severityHistogram gs := by
  simp only [severityHistogram, h.countP_eq]

theorem categoryHistogram_perm {fs gs : List SecurityFinding} (h : fs.Perm gs) :
    categoryHistogram fs = categoryHistogram gs := by
  simp only [categoryHistogram, h.countP_eq]

theorem total_severityHistogram (fs : List SecurityFinding) : (severityHistogram fs).total = fs.length :=
  Counts.total_ofFn_countP (by decide) _ fs fun f _ => value_mem_severityKeys f.severity

theorem total_categoryHistogram (fs : List SecurityFinding) : (categoryHistogram fs).total = fs.length :=
  Counts.total_ofFn_countP (by decide) _ fs fun f _ => value_mem_categoryKeys f.category

private theorem foldlM_tallyStep (fs : List SecurityFinding) (g h : String → Nat) :
    fs.foldlM tallyStep (Counts.ofFn severityKeys g, Counts.ofFn categoryKeys h) =
      some (Counts.ofFn severityKeys (fun k => g k + fs.countP fun f => f.severity.value = k),
        Counts.ofFn categoryKeys (fun k => h k + fs.countP fun f => f.category.value = k)) := by
  induction fs generalizing g h with
  | nil => simp
  | cons f fs ih =>
    have hstep : tallyStep (Counts.ofFn severityKeys g, Counts.ofFn categoryKeys h) f =
        some (Counts.ofFn severityKeys (fun k => g k + if k = f.severity.value then 1 else 0),
          Counts.ofFn categoryKeys (fun k => h k + if k = f.category.value then 1 else 0)) := by
      simp [tallyStep, Counts.bump, Counts.add_ofFn _ _ (value_mem_severityKeys _),
        Counts.add_ofFn _ _ (value_mem_categoryKeys _)]
    rw [List.foldlM_cons, hstep]
    refine (ih _ _).trans ?_
    congr 3 <;> funext k <;> simp only [List.countP_cons, decide_eq_true_eq, eq_comm (a := k)] <;> omega

theorem tally_eq (fs : List SecurityFinding) : tally fs = some (severityHistogram fs, categoryHistogram fs) := by
  simpa using foldlM_tallyStep fs (fun _ => 0) (fun _ => 0)

theorem severityHistogram_get? (fs : List SecurityFinding) (s : SecuritySeverity) :
    (severityHistogram fs).get? s.value = some (fs.countP fun f => f.severity = s) := by
  simp [severityHistogram, Counts.get?_ofFn _ (value_mem_severityKeys s), SecuritySeverity.value_inj]

/-- **The report always exists**: no dict operation of `generate_security_report` raises. -/
theorem generateSecurityReport_eq (self : QuantumCertificateSecurityAuditor) :
    generateSecurityReport self = some
      (let critical := self.findings.countP (·.severity = .critical)
       let high := self.findings.countP (·.severity = .high)
       { securityStatus :=
          if critical > 0 then "CRITICAL_VULNERABILITIES_FOUND"
          else if high > 0 then "HIGH_RISK_VULNERABILITIES_FOUND"
          else "ACCEPTABLE_RISK_LEVEL"
         productionReady := critical == 0 && high == 0
         totalFindings := self.findings.length
         criticalFindings := critical
         highFindings := high
         recommendation := getDeploymentRecommendation (critical == 0 && high == 0) critical high
         auditStatistics := self.stats
         findingsBySeverity := severityHistogram self.findings
         findingsByCategory := categoryHistogram self.findings
         detailedFindings := self.findings
         remediationPriority := getRemediationPriorities self.findings }) := by
  simp [generateSecurityReport, tally_eq, severityHistogram_get?]

/-! ## The verdict -/

/-- the severities of the findings on the specification's scale -/
def engineSeverity (f : SecurityFinding) : Severity := f.severity.toEngine

theorem hist_engineSeverity (fs : List SecurityFinding) (s : SecuritySeverity) :
    hist engineSeverity fs s.toEngine = fs.countP (·.severity = s) := by
  simp [hist, engineSeverity, SecuritySeverity.toEngine_inj]

theorem hist_critical (fs : List SecurityFinding) :
    hist engineSeverity fs .critical = fs.countP (·.severity = .critical) :=
  hist_engineSeverity fs .critical

theorem hist_high (fs : List SecurityFinding) : hist engineSeverity fs .high = fs.countP (·.severity = .high) :=
  hist_engineSeverity fs .high

/-- **The report implements the verdict engine**: status and readiness are `verdict` of the severity tally. -/
theorem generateSecurityReport_verdict (self : QuantumCertificateSecurityAuditor) :
    ∃ r, generateSecurityReport self = some r ∧
      r.securityStatus = (verdict (hist engineSeverity self.findings)).status.text ∧
      r.productionReady = (verdict (hist engineSeverity self.findings)).deploymentReady := by
  refine ⟨_, generateSecurityReport_eq self, ?_, ?_⟩ <;> simp only [verdict, hist_critical, hist_high, gt_iff_lt]
  · split_ifs <;> rfl
  · split_ifs with h1 h2
    · simp [Nat.pos_iff_ne_zero.mp h1]
    · simp [Nat.pos_iff_ne_zero.mp h2]
    · simp [Nat.eq_zero_of_not_pos h1, Nat.eq_zero_of_not_pos h2]

@[simp] theorem engineSeverity_eq_critical (f : SecurityFinding) :
    engineSeverity f = .critical ↔ f.severity = .critical := by
  unfold engineSeverity; cases f.severity <;> simp [SecuritySeverity.toEngine]

@[simp] theorem engineSeverity_eq_high (f : SecurityFinding) : engineSeverity f = .high ↔ f.severity = .high := by
  unfold engineSeverity; cases f.severity <;> simp [SecuritySeverity.toEngine]

section Report

variable {self : QuantumCertificateSecurityAuditor} {r : SecurityReport} (h : generateSecurityReport self = some r)
include h

theorem securityStatus_eq : r.securityStatus = (verdict (hist engineSeverity self.findings)).status.text := by
  obtain ⟨r', h', hs, -⟩ := generateSecurityReport_verdict self
  rw [h, Option.some.injEq] at h'; subst h'; exact hs

theorem productionReady_eq : r.productionReady = (verdict (hist engineSeverity self.findings)).deploymentReady := by
  obtain ⟨r', h', -, hr⟩ := generateSecurityReport_verdict self
  rw [h, Option.some.injEq] at h'; subst h'; exact hr

theorem productionReady_iff : r.productionReady = true ↔
    (∀ f ∈ self.findings, f.severity ≠ .critical) ∧ ∀ f ∈ self.findings, f.severity ≠ .high := by
  simp [productionReady_eq h, ready_iff, hist_eq_zero_iff]

theorem securityStatus_critical_iff :
    r.securityStatus = "CRITICAL_VULNERABILITIES_FOUND" ↔ ∃ f ∈ self.findings, f.severity = .critical := by
  rw [securityStatus_eq h, show "CRITICAL_VULNERABILITIES_FOUND" = Status.criticalVulnerabilitiesFound.text from rfl,
    Status.text_inj, status_critical_iff, hist_pos_iff]
  simp

theorem securityStatus_high_iff : r.securityStatus = "HIGH_RISK_VULNERABILITIES_FOUND" ↔
    (∃ f ∈ self.findings, f.severity = .high) ∧ ∀ f ∈ self.findings, f.severity ≠ .critical := by
  rw [securityStatus_eq h, show "HIGH_RISK_VULNERABILITIES_FOUND" = Status.highRiskVulnerabilitiesFound.text from rfl,
    Status.text_inj, status_high_iff, hist_pos_iff, hist_eq_zero_iff]
  simp [and_comm]

theorem securityStatus_acceptable_iff : r.securityStatus = "ACCEPTABLE_RISK_LEVEL" ↔
    (∀ f ∈ self.findings, f.severity ≠ .critical) ∧ ∀ f ∈ self.findings, f.severity ≠ .high := by
  rw [securityStatus_eq h, show "ACCEPTABLE_RISK_LEVEL" = Status.acceptableRiskLevel.text from rfl,
    Status.text_inj, status_acceptable_iff, hist_eq_zero_iff, hist_eq_zero_iff]
  simp

end Report

theorem recommendation_approved_iff (ready : Bool) (critical high : Nat) (h : ready = (critical == 0 && high == 0)) :
    getDeploymentRecommendation ready critical high = "DEPLOYMENT APPROVED - Security requirements met" ↔
      ready = true := by
  subst h; unfold getDeploymentRecommendation; split_ifs <;> simp at * <;> omega

/-- the `FURTHER REVIEW REQUIRED` branch is dead when readiness is computed as the report computes it -/
theorem recommendation_ne_review (critical high : Nat) :
    getDeploymentRecommendation (critical == 0 && high == 0) critical high ≠
      "FURTHER REVIEW REQUIRED - Additional security analysis needed" := by
  unfold getDeploymentRecommendation; split_ifs <;> simp_all

theorem mainExitStatus_eq_zero (r : SecurityReport) (written : Bool) :
    mainExitStatus r written = 0 ↔ written = true ∧ r.productionReady = true := by
  unfold mainExitStatus; cases written <;> cases r.productionReady <;> simp

/-! ## The remediation priorities -/

/-- `_get_remediation_priorities` filters the findings by severity; an entry stands for each nonempty group -/
theorem getRemediationPriorities_eq (fs : List SecurityFinding) :
    getRemediationPriorities fs =
      (if 0 < fs.countP (·.severity = .critical) then
        [⟨1, "Critical Security Fixes", fs.countP (·.severity = .critical), "Immediate (0-24 hours)",
          "Address all critical security vulnerabilities before any deployment"⟩] else []) ++
      (if 0 < fs.countP (·.severity = .high) then
        [⟨2, "High Severity Fixes", fs.countP (·.severity = .high), "Urgent (1-7 days)",
          "Resolve high severity issues to reduce security risk"⟩] else []) := by
  simp only [getRemediationPriorities, List.countP_eq_length_filter, List.isEmpty_iff_length_eq_zero,
    Nat.pos_iff_ne_zero, ne_eq, ite_not]

/-- each priority entry is the CRITICAL entry, counting the CRITICAL findings, or the HIGH one -/
theorem mem_getRemediationPriorities {fs : List SecurityFinding} {p : RemediationPriority}
    (hp : p ∈ getRemediationPriorities fs) :
    p.priority = 1 ∧ p.count = fs.countP (·.severity = .critical) ∨
      p.priority = 2 ∧ p.count = fs.countP (·.severity = .high) := by
  rw [getRemediationPriorities_eq, List.mem_append] at hp
  rcases hp with hp | hp <;> split_ifs at hp <;> simp at hp <;> simp [hp]

/-- **The priority list agrees with the histogram.** The list and the severity tally are computed apart from the
same findings: the list holds a priority-1 entry counting the CRITICAL findings when there are any, then a
priority-2 entry counting the HIGH ones when there are any, and nothing else. Its counts are the tally's, and it is
empty exactly when the report is production-ready. -/
theorem remediation_priorities_match_histogram (self : QuantumCertificateSecurityAuditor) :
    ∃ r, generateSecurityReport self = some r ∧
      r.remediationPriority =
        (if 0 < self.findings.countP (·.severity = .critical) then
          [⟨1, "Critical Security Fixes", self.findings.countP (·.severity = .critical), "Immediate (0-24 hours)",
            "Address all critical security vulnerabilities before any deployment"⟩] else []) ++
        (if 0 < self.findings.countP (·.severity = .high) then
          [⟨2, "High Severity Fixes", self.findings.countP (·.severity = .high), "Urgent (1-7 days)",
            "Resolve high severity issues to reduce security risk"⟩] else []) ∧
      (∀ p ∈ r.remediationPriority, p.priority = 1 →
        r.findingsBySeverity.get? SecuritySeverity.critical.value = some p.count) ∧
      (∀ p ∈ r.remediationPriority, p.priority = 2 →
        r.findingsBySeverity.get? SecuritySeverity.high.value = some p.count) ∧
      (r.remediationPriority = [] ↔ r.productionReady = true) := by
  refine ⟨_, generateSecurityReport_eq self, getRemediationPriorities_eq _, fun p hp h1 => ?_,
    fun p hp h2 => ?_, ?_⟩
  · rcases mem_getRemediationPriorities hp with ⟨-, hc⟩ | ⟨h2, -⟩
    · rw [severityHistogram_get?, hc]
    · omega
  · rcases mem_getRemediationPriorities hp with ⟨h1, -⟩ | ⟨-, hc⟩
    · omega
    · rw [severityHistogram_get?, hc]
  · simp only [getRemediationPriorities_eq, List.append_eq_nil, ite_eq_right_iff, List.cons_ne_nil, imp_false,
      not_lt, Nat.le_zero, Bool.and_eq_true, beq_iff_eq]

end Hypermesh.Quantum
