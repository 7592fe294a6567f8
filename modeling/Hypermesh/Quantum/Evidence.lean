import Hypermesh.Quantum.Audit
/-
The line numbers and evidence of the findings `_audit_file` obtains from the four file checks
(`QUANTUM_CERTIFICATE_SECURITY_AUDIT.py`). Each rule tests the whole file, then reports the first line that
contains a keyword (`next((i for i, line in enumerate(lines, 1) if ...), 0)`) and that line as evidence. The
keyword is the tested text for most rules; the mock-material rule tests for `mock_public_key` or `mock_signature`
and locates `mock_`, and the permissive-validation rule tests for `certificate_validation: 'permissive'` and
locates `permissive`.

Results:
- `lineNumber_le_length`: every line number a file check reports indexes a line of the file, so
  `lines[line_num-1]` never raises;
- `evidence_misses_trigger`: a `mock_data` line before the `mock_signature` line, or a comment naming the
  permissive mode before the setting, is reported as the evidence, and it holds none of the tested text.
-/

namespace Hypermesh.Quantum.Audit

open PyStr

theorem firstLine_le_length (lines : List (List Char)) (p : List Char → Bool) :
    firstLine lines p ≤ lines.length := by
  unfold firstLine
  split
  · rename_i i hi
    exact (List.findIdx?_eq_some_iff_findIdx_eq.1 hi).1
  · exact Nat.zero_le _

/-- the file checks `run_complete_audit` passes to `_audit_file` -/
def fileChecks : List (String → List Char → List (List Char) → List SecurityFinding) :=
  [checkQuantumSecurity, checkCertificateSecurity, checkConsensusSecurity, checkApiSecurity]

/-- **Every reported line exists.** The entropy finding's fixed line 1 needs the file's one line at least, which
`content.split('\n')` always has. -/
theorem lineNumber_le_length {check : String → List Char → List (List Char) → List SecurityFinding}
    (hcheck : check ∈ fileChecks) (filePath : String) (content : List Char) {lines : List (List Char)}
    (hlines : 0 < lines.length) : ∀ g ∈ check filePath content lines, g.lineNumber ≤ lines.length := by
  simp only [fileChecks, List.mem_cons, List.not_mem_nil, or_false] at hcheck
  rcases hcheck with rfl | rfl | rfl | rfl
  · simp only [checkQuantumSecurity, List.forall_mem_append]
    refine ⟨⟨?_, ?_⟩, ?_⟩ <;> split_ifs <;> simp [firstLine_le_length, Nat.one_le_iff_ne_zero.2 hlines.ne']
  · simp only [checkCertificateSecurity, List.forall_mem_append]
    refine ⟨⟨?_, ?_⟩, ?_⟩ <;> split_ifs <;> simp [firstLine_le_length]
  · simp only [checkConsensusSecurity, List.forall_mem_append]
    refine ⟨?_, ?_⟩ <;> split_ifs <;> simp [firstLine_le_length]
  · simp only [checkApiSecurity, List.forall_mem_append]
    refine ⟨?_, ?_⟩ <;> split_ifs <;> simp [firstLine_le_length]

/-- a tree under `/srv/web3` holding one certificate manager -/
def certificateEnv (content : String) : Env where
  pathExists p := p = "/srv/web3/trustchain/src/ca/certificate_manager.rs"
  isFile p := p = "/srv/web3/trustchain/src/ca/certificate_manager.rs"
  readText p := if p = "/srv/web3/trustchain/src/ca/certificate_manager.rs" then some content else none
  rglob _ _ := []

set_option maxRecDepth 4000 in
/-- The mock-material rule fires on `mock_signature` but reports line 1, `let mock_data = 1;`; the
permissive-validation rule fires on the setting but reports the comment on line 1. Neither evidence line holds the
text its rule tested for. -/
theorem evidence_misses_trigger :
    ((auditFile (certificateEnv "let mock_data = 1;\nlet s = mock_signature();\n")
        "trustchain/src/ca/certificate_manager.rs" checkCertificateSecurity (.init "/srv/web3")).findings.map
        fun g => (g.title, g.lineNumber, g.evidence)) =
      [("Mock cryptographic material in certificate generation", 1, "let mock_data = 1;")] ∧
    contains "let mock_data = 1;".toList "mock_public_key" = false ∧
    contains "let mock_data = 1;".toList "mock_signature" = false ∧
    ((auditFile (certificateEnv "// the permissive mode is for tests\ncertificate_validation: 'permissive'\n")
        "trustchain/src/ca/certificate_manager.rs" checkCertificateSecurity (.init "/srv/web3")).findings.map
        fun g => (g.title, g.lineNumber, g.evidence)) =
      [("Permissive certificate validation mode available", 1, "// the permissive mode is for tests")] ∧
    contains "// the permissive mode is for tests".toList "certificate_validation: 'permissive'" = false := by
  refine ⟨?_, ?_, ?_, ?_, ?_⟩ <;> decide

end Hypermesh.Quantum.Audit
