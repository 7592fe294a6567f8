import Hypermesh.Engine
/-
The data model of `QUANTUM_CERTIFICATE_SECURITY_AUDIT.py`: the `SecuritySeverity` and `SecurityCategory` enums with
their `.value` strings and member order, the `SecurityFinding` dataclass, and the auditor's state (`self.findings`,
`self.stats`).

`self.stats` is a dict whose three keys are all set in `__init__` and only ever incremented, so it is a record here.
`toEngine` reads a severity on the specification's scale of `Hypermesh.Engine`.
-/

namespace Hypermesh.Quantum

inductive SecuritySeverity where
  | critical | high | medium | low | info
  deriving DecidableEq, Repr

/-- `severity.value` -/
def SecuritySeverity.value : SecuritySeverity → String
  | .critical => "CRITICAL"
  | .high => "HIGH"
  | .medium => "MEDIUM"
  | .low => "LOW"
  | .info => "INFO"

/-- iteration order of the enum -/
def SecuritySeverity.members : List SecuritySeverity := [.critical, .high, .medium, .low, .info]

inductive SecurityCategory where
  | quantumCrypto | certificateMgmt | consensusProof | apiSecurity | configSecurity | productionReadiness
  deriving DecidableEq, Repr

/-- `category.value` -/
def SecurityCategory.value : SecurityCategory → String
  | .quantumCrypto => "quantum_cryptography"
  | .certificateMgmt => "certificate_management"
  | .consensusProof => "consensus_proof_validation"
  | .apiSecurity => "api_security"
  | .configSecurity => "configuration_security"
  | .productionReadiness => "production_readiness"

/-- iteration order of the enum -/
def SecurityCategory.members : List SecurityCategory :=
  [.quantumCrypto, .certificateMgmt, .consensusProof, .apiSecurity, .configSecurity, .productionReadiness]

structure SecurityFinding where
  category : SecurityCategory
  severity : SecuritySeverity
  title : String
  description : String
  filePath : String
  lineNumber : Nat
  evidence : String
  impact : String
  remediation : String
  cveReference : Option String := none
  deriving DecidableEq, Repr

/-- `self.stats` -/
structure AuditStats where
  filesScanned : Nat
  linesScanned : Nat
  vulnerabilitiesFound : Nat
  deriving DecidableEq, Repr

/-- the auditor's state: `self.project_root`, `self.findings`, `self.stats` -/
structure QuantumCertificateSecurityAuditor where
  projectRoot : String
  findings : List SecurityFinding
  stats : AuditStats
  deriving DecidableEq, Repr

/-- `QuantumCertificateSecurityAuditor(project_root)` -/
def QuantumCertificateSecurityAuditor.init (projectRoot : String) : QuantumCertificateSecurityAuditor :=
  ⟨projectRoot, [], ⟨0, 0, 0⟩⟩

theorem SecuritySeverity.value_inj {a b : SecuritySeverity} : a.value = b.value ↔ a = b := by
  cases a <;> cases b <;> simp [SecuritySeverity.value]

theorem SecurityCategory.value_inj {a b : SecurityCategory} : a.value = b.value ↔ a = b := by
  cases a <;> cases b <;> simp [SecurityCategory.value]

theorem SecuritySeverity.value_mem (s : SecuritySeverity) : s.value ∈ SecuritySeverity.members.map (·.value) := by
  cases s <;> simp [SecuritySeverity.members]

theorem SecurityCategory.value_mem (c : SecurityCategory) : c.value ∈ SecurityCategory.members.map (·.value) := by
  cases c <;> simp [SecurityCategory.members]

/-- the specification's severity of a finding -/
def SecuritySeverity.toEngine : SecuritySeverity → Engine.Severity
  | .critical => .critical
  | .high => .high
  | .medium => .medium
  | .low => .low
  | .info => .info

theorem SecuritySeverity.toEngine_inj {a b : SecuritySeverity} : a.toEngine = b.toEngine ↔ a = b := by
  cases a <;> cases b <;> simp [SecuritySeverity.toEngine]

end Hypermesh.Quantum
