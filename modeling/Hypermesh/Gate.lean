import Hypermesh.Quantum.Report
import Hypermesh.Validator.Report
/-
The deployment gate and the severity histograms of the two report functions that CI gates on:
`QuantumCertificateSecurityAuditor.generate_security_report` (`QUANTUM_CERTIFICATE_SECURITY_AUDIT.py`) and
`TrustChainSecurityValidator.generate_security_report` (`SECURITY_PRODUCTION_READINESS_VALIDATOR.py`).

Both are shown to implement the verdict engine of `Hypermesh.Engine` (`generateSecurityReport_verdict` in each
module); the results here restate what that gives in the scripts' own terms.

Results:
- `deployment_gate`: for every finding list, readiness holds exactly without CRITICAL and HIGH findings, the status
  follows the §4.5 precedence, the recommendation approves exactly the ready reports (its review branch is dead),
  `main` exits 0 only on a ready report, and appending findings never makes a report ready;
- `histograms_additive`: the histograms of a concatenation are the pointwise sums, a single finding gives the
  indicator of its severity and category, the tally ignores order and counts every finding once.
-/

namespace Hypermesh.Gate

open Engine Quantum Validator

theorem deployment_gate :
    (∀ self : QuantumCertificateSecurityAuditor, ∃ r, Quantum.generateSecurityReport self = some r ∧
      (r.productionReady = true ↔
        (∀ f ∈ self.findings, f.severity ≠ .critical) ∧ ∀ f ∈ self.findings, f.severity ≠ .high) ∧
      (r.securityStatus = "CRITICAL_VULNERABILITIES_FOUND" ↔ ∃ f ∈ self.findings, f.severity = .critical) ∧
      (r.securityStatus = "HIGH_RISK_VULNERABILITIES_FOUND" ↔
        (∃ f ∈ self.findings, f.severity = .high) ∧ ∀ f ∈ self.findings, f.severity ≠ .critical) ∧
      (r.securityStatus = "ACCEPTABLE_RISK_LEVEL" ↔
        (∀ f ∈ self.findings, f.severity ≠ .critical) ∧ ∀ f ∈ self.findings, f.severity ≠ .high) ∧
      (r.recommendation = "DEPLOYMENT APPROVED - Security requirements met" ↔ r.productionReady = true) ∧
      r.recommendation ≠ "FURTHER REVIEW REQUIRED - Additional security analysis needed" ∧
      (∀ written, Quantum.mainExitStatus r written = 0 ↔ written = true ∧ r.productionReady = true) ∧
      ∀ more, ∃ r', Quantum.generateSecurityReport { self with findings := self.findings ++ more } = some r' ∧
        (r'.productionReady = true → r.productionReady = true)) ∧
    (∀ self : TrustChainSecurityValidator, ∃ r, Validator.generateSecurityReport self = some r ∧
      (r.productionReady = true ↔
        (∀ v ∈ self.violations, v.severity ≠ .critical) ∧ ∀ v ∈ self.violations, v.severity ≠ .high) ∧
      (∀ written, Validator.mainExitStatus r written = 0 ↔ written = true ∧ r.productionReady = true) ∧
      ∀ more, ∃ r', Validator.generateSecurityReport { self with violations := self.violations ++ more } = some r' ∧
        (r'.productionReady = true → r.productionReady = true)) := by
  constructor
  · intro self
    have h := Quantum.generateSecurityReport_eq self
    refine ⟨_, h, Quantum.productionReady_iff h, securityStatus_critical_iff h, securityStatus_high_iff h,
      securityStatus_acceptable_iff h, recommendation_approved_iff _ _ _ rfl, recommendation_ne_review _ _,
      Quantum.mainExitStatus_eq_zero _, fun more => ⟨_, Quantum.generateSecurityReport_eq _, fun h' => ?_⟩⟩
    rw [Quantum.productionReady_eq (Quantum.generateSecurityReport_eq _)] at h'
    rw [Quantum.productionReady_eq h]
    exact ready_of_ready_append _ _ _ h'
  · intro self
    have h := Validator.generateSecurityReport_eq self
    refine ⟨_, h, Validator.productionReady_iff h, Validator.mainExitStatus_eq_zero _,
      fun more => ⟨_, Validator.generateSecurityReport_eq _, fun h' => ?_⟩⟩
    rw [Validator.productionReady_eq (Validator.generateSecurityReport_eq _)] at h'
    rw [Validator.productionReady_eq h]
    exact ready_of_ready_append _ _ _ h'

theorem histograms_additive :
    (∀ (self : QuantumCertificateSecurityAuditor) (fs gs : List SecurityFinding), ∃ r₁ r₂ r,
      Quantum.generateSecurityReport { self with findings := fs } = some r₁ ∧
      Quantum.generateSecurityReport { self with findings := gs } = some r₂ ∧
      Quantum.generateSecurityReport { self with findings := fs ++ gs } = some r ∧
      r.findingsBySeverity = r₁.findingsBySeverity.merge r₂.findingsBySeverity ∧
      r.findingsByCategory = r₁.findingsByCategory.merge r₂.findingsByCategory) ∧
    (∀ (self : QuantumCertificateSecurityAuditor) (f : SecurityFinding), ∃ r,
      Quantum.generateSecurityReport { self with findings := [f] } = some r ∧
      r.findingsBySeverity = Counts.ofFn severityKeys (fun k => if f.severity.value = k then 1 else 0) ∧
      r.findingsByCategory = Counts.ofFn categoryKeys (fun k => if f.category.value = k then 1 else 0)) ∧
    (∀ (self : QuantumCertificateSecurityAuditor) (fs gs : List SecurityFinding), fs.Perm gs → ∃ r r',
      Quantum.generateSecurityReport { self with findings := fs } = some r ∧
      Quantum.generateSecurityReport { self with findings := gs } = some r' ∧
      r.findingsBySeverity = r'.findingsBySeverity ∧ r.findingsByCategory = r'.findingsByCategory) ∧
    (∀ self : QuantumCertificateSecurityAuditor, ∃ r, Quantum.generateSecurityReport self = some r ∧
      r.findingsBySeverity.total = r.totalFindings ∧ r.findingsByCategory.total = r.totalFindings) ∧
    (∀ (self : TrustChainSecurityValidator) (vs ws : List SecurityViolation), ∃ r₁ r₂ r,
      Validator.generateSecurityReport { self with violations := vs } = some r₁ ∧
      Validator.generateSecurityReport { self with violations := ws } = some r₂ ∧
      Validator.generateSecurityReport { self with violations := vs ++ ws } = some r ∧
      r.severityBreakdown = r₁.severityBreakdown.merge r₂.severityBreakdown) ∧
    (∀ (self : TrustChainSecurityValidator) (v : SecurityViolation), ∃ r,
      Validator.generateSecurityReport { self with violations := [v] } = some r ∧
      r.severityBreakdown = SecurityLevel.members.map fun l => (l.breakdownKey, if v.severity = l then 1 else 0)) ∧
    (∀ (self : TrustChainSecurityValidator) (vs ws : List SecurityViolation), vs.Perm ws → ∃ r r',
      Validator.generateSecurityReport { self with violations := vs } = some r ∧
      Validator.generateSecurityReport { self with violations := ws } = some r' ∧
      r.severityBreakdown = r'.severityBreakdown) ∧
    (∀ self : TrustChainSecurityValidator, ∃ r, Validator.generateSecurityReport self = some r ∧
      r.severityBreakdown.total = r.totalViolations) := by
  refine ⟨fun self fs gs => ⟨_, _, _, Quantum.generateSecurityReport_eq _, Quantum.generateSecurityReport_eq _,
      Quantum.generateSecurityReport_eq _, severityHistogram_append fs gs, categoryHistogram_append fs gs⟩,
    fun self f => ⟨_, Quantum.generateSecurityReport_eq _, ?_, ?_⟩,
    fun self fs gs h => ⟨_, _, Quantum.generateSecurityReport_eq _, Quantum.generateSecurityReport_eq _,
      severityHistogram_perm h, categoryHistogram_perm h⟩,
    fun self => ⟨_, Quantum.generateSecurityReport_eq _, total_severityHistogram _, total_categoryHistogram _⟩,
    fun self vs ws => ⟨_, _, _, Validator.generateSecurityReport_eq _, Validator.generateSecurityReport_eq _,
      Validator.generateSecurityReport_eq _, ?_⟩,
    fun self v => ⟨_, Validator.generateSecurityReport_eq _, ?_⟩,
    fun self vs ws h => ⟨_, _, Validator.generateSecurityReport_eq _, Validator.generateSecurityReport_eq _, ?_⟩,
    fun self => ⟨_, Validator.generateSecurityReport_eq _, total_levelCount _⟩⟩
  · simp [severityHistogram, List.countP_cons]
  · simp [categoryHistogram, List.countP_cons]
  · simp [Counts.merge, levelCount, List.countP_append]
  · simp [SecurityLevel.members, SecurityLevel.breakdownKey, levelCount, List.countP_cons]
  · simp only [levelCount, h.countP_eq]

end Hypermesh.Gate
