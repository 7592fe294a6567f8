import Hypermesh.Quantum.Report
import Hypermesh.PyPath
import Hypermesh.Regex
/-
`run_complete_audit` of `QuantumCertificateSecurityAuditor` (`QUANTUM_CERTIFICATE_SECURITY_AUDIT.py`): the six audit
phases, `_audit_file` with the four file checks, `_check_falcon_1024_implementation`, and `_scan_for_pattern` with
the eighteen patterns of the secret, debug, test-data and mock checks. The other fifteen `_check_*` methods have
`pass` bodies and are left out.

The auditor reads the file system through `Env`. A file check returns the findings it appends; nothing in it can
raise. `_audit_file` counts the file and its lines and appends its check's findings; the FALCON check appends one
finding per `quantum_security.rs` that calls the simulation; `_scan_for_pattern` appends a finding for each
matching line and increments `vulnerabilities_found` after it. Only the last touches the counter. Its `relative_to`
raises for a path outside the root, which ends that file's loop (`scanPatternLines`).

Result:
- `falcon_findings_uncounted`: on a tree whose only file is a `quantum_security.rs` calling
  `simulate_falcon_validation`, the report lists two findings and `vulnerabilities_found` is 0.
-/

namespace Hypermesh.Quantum.Audit

open PyStr PyPath Regex

/-- what the auditor reads of the file system -/
structure Env where
  /-- `Path.exists()` -/
  pathExists : String → Bool
  /-- `Path.is_file()` -/
  isFile : String → Bool
  /-- `open(path).read()`; `none` when it raises -/
  readText : String → Option String
  /-- `Path(dir).rglob(pattern)`, as `str` paths -/
  rglob : String → String → List String

/-! ## The file checks -/

/-- `next((i for i, line in enumerate(lines, 1) if p(line)), 0)` -/
def firstLine (lines : List (List Char)) (p : List Char → Bool) : Nat :=
  match lines.findIdx? p with
  | some i => i + 1
  | none => 0

/-- `lines[line_num-1] if line_num > 0 else ""` -/
def evidenceAt (lines : List (List Char)) (lineNum : Nat) : String :=
  if lineNum > 0 then ⟨lines.getD (lineNum - 1) []⟩ else ""

/-- `_check_quantum_security` -/
def checkQuantumSecurity (filePath : String) (content : List Char) (lines : List (List Char)) :
    List SecurityFinding :=
  (if contains content "NIST levels 1-5" && contains content "nist_level: u8" then
    let lineNum := firstLine lines (contains · "nist_level: u8")
    [{ category := .quantumCrypto, severity := .medium, title := "Insufficient NIST security level validation",
       description := "NIST security levels should be validated against minimum requirements", filePath,
       lineNumber := lineNum, evidence := evidenceAt lines lineNum,
       impact := "May allow use of insufficient quantum security levels",
       remediation := "Implement minimum NIST level 3 requirement with validation" }]
  else []) ++
  (if contains content "entropy_quality: f64" && firstLine lines (contains · "entropy_quality: 0.95") == 0 then
    [{ category := .quantumCrypto, severity := .high, title := "Insufficient quantum entropy validation",
       description := "Quantum entropy quality not properly validated", filePath, lineNumber := 1,
       evidence := "Missing entropy quality validation",
       impact := "May compromise quantum random number generation security",
       remediation := "Implement continuous entropy quality monitoring with min threshold 0.95" }]
  else []) ++
  (if contains content "simulate_falcon_validation" then
    let lineNum := firstLine lines (contains · "simulate_falcon_validation")
    [{ category := .quantumCrypto, severity := .critical, title := "FALCON-1024 signature simulation in production",
       description := "FALCON-1024 signatures are being simulated rather than computed", filePath,
       lineNumber := lineNum, evidence := evidenceAt lines lineNum,
       impact := "Complete cryptographic security bypass - signatures can be forged",
       remediation := "Implement real FALCON-1024 cryptographic library integration" }]
  else [])

/-- `_check_certificate_security` -/
def checkCertificateSecurity (filePath : String) (content : List Char) (lines : List (List Char)) :
    List SecurityFinding :=
  (if contains content "mock_public_key" || contains content "mock_signature" then
    let lineNum := firstLine lines (contains · "mock_")
    [{ category := .certificateMgmt, severity := .critical,
       title := "Mock cryptographic material in certificate generation",
       description := "Certificates are being generated with mock keys and signatures", filePath,
       lineNumber := lineNum, evidence := evidenceAt lines lineNum,
       impact := "All certificates invalid - complete PKI security failure",
       remediation := "Implement real cryptographic key generation and signing" }]
  else []) ++
  (if contains content "certificate_validation: 'permissive'" then
    let lineNum := firstLine lines (contains · "permissive")
    [{ category := .certificateMgmt, severity := .high, title := "Permissive certificate validation mode available",
       description := "System allows permissive certificate validation for development", filePath,
       lineNumber := lineNum, evidence := evidenceAt lines lineNum,
       impact := "May allow invalid certificates in production",
       remediation := "Remove permissive mode and enforce strict validation only" }]
  else []) ++
  (let lineNum := firstLine lines fun line => contains line "Ok(())" && contains line "store_entry"
   if contains content "Ok(())" && contains content "store_entry" && lineNum > 0 then
    [{ category := .certificateMgmt, severity := .high, title := "Certificate transparency storage not implemented",
       description := "Certificate transparency logs are not being stored", filePath, lineNumber := lineNum,
       evidence := ⟨lines.getD (lineNum - 1) []⟩,
       impact := "No audit trail for certificate issuance - detection of malicious certificates impossible",
       remediation := "Implement encrypted S3 storage for certificate transparency logs" }]
  else [])

/-- `_check_consensus_security` -/
def checkConsensusSecurity (filePath : String) (content : List Char) (lines : List (List Char)) :
    List SecurityFinding :=
  (if contains content "Ok(ConsensusResult::Valid)" then
    let lineNum := firstLine lines (contains · "Ok(ConsensusResult::Valid)")
    [{ category := .consensusProof, severity := .critical, title := "Automatic consensus validation approval",
       description := "All consensus validation requests are automatically approved", filePath,
       lineNumber := lineNum, evidence := evidenceAt lines lineNum,
       impact := "Complete Byzantine fault tolerance bypass - unlimited certificate issuance",
       remediation := "Implement real four-proof validation (PoSpace+PoStake+PoWork+PoTime)" }]
  else []) ++
  (if contains content "validate_certificate_request" && contains content "Placeholder" then
    let lineNum := firstLine lines (contains · "Placeholder")
    [{ category := .consensusProof, severity := .critical, title := "Four-proof consensus validation not implemented",
       description := "Certificate requests not validated against consensus proofs", filePath,
       lineNumber := lineNum, evidence := evidenceAt lines lineNum,
       impact := "No protection against Byzantine attackers - consensus security completely absent",
       remediation := "Implement complete four-proof validation algorithm" }]
  else [])

/-- `_check_api_security` -/
def checkApiSecurity (filePath : String) (content : List Char) (lines : List (List Char)) :
    List SecurityFinding :=
  (if contains filePath.toList ".tsx" && contains content "fetch(" && !contains content "Authorization" then
    let lineNum := firstLine lines (contains · "fetch(")
    [{ category := .apiSecurity, severity := .high, title := "API calls without authentication headers",
       description := "API requests may not include proper authentication", filePath,
       lineNumber := lineNum, evidence := evidenceAt lines lineNum,
       impact := "Unauthorized access to certificate and quantum security APIs",
       remediation := "Implement proper JWT or API key authentication" }]
  else []) ++
  (if contains content "dangerouslySetInnerHTML" then
    let lineNum := firstLine lines (contains · "dangerouslySetInnerHTML")
    [{ category := .apiSecurity, severity := .high, title := "Potential XSS vulnerability",
       description := "Use of dangerouslySetInnerHTML without proper sanitization", filePath,
       lineNumber := lineNum, evidence := evidenceAt lines lineNum,
       impact := "Cross-site scripting attacks on security configuration interface",
       remediation := "Remove dangerouslySetInnerHTML or implement DOMPurify sanitization" }]
  else [])

/-! ## The audit steps -/

/-- `_audit_file(relative_path, check_function)` -/
def auditFile (env : Env) (relativePath : String)
    (check : String → List Char → List (List Char) → List SecurityFinding)
    (a : QuantumCertificateSecurityAuditor) : QuantumCertificateSecurityAuditor :=
  let filePath := join a.projectRoot relativePath
  if !env.pathExists filePath then a else
  match env.readText filePath with
  | none => a
  | some content =>
    let lines := content.toList.splitOn '\n'
    { a with
      stats := { a.stats with filesScanned := a.stats.filesScanned + 1,
                              linesScanned := a.stats.linesScanned + lines.length }
      findings := a.findings ++ check relativePath content.toList lines }

/-- `_check_falcon_1024_implementation()` -/
def checkFalcon1024Implementation (env : Env) (a : QuantumCertificateSecurityAuditor) :
    QuantumCertificateSecurityAuditor :=
  (env.rglob a.projectRoot "**/quantum_security.rs").foldl (fun a filePath =>
    match env.readText filePath with
    | none => a
    | some content =>
      if contains content.toList "simulate_falcon_validation" then
        match relativeTo a.projectRoot filePath with
        | none => a
        | some file =>
          let finding : SecurityFinding :=
            { category := .quantumCrypto, severity := .critical,
              title := "FALCON-1024 signature simulation instead of real implementation",
              description := "FALCON-1024 signatures are simulated rather than computed", filePath := file,
              lineNumber := 1, evidence := "simulate_falcon_validation function usage",
              impact := "Complete digital signature security failure",
              remediation := "Integrate pq-crystals FALCON-1024 library" }
          { a with findings := a.findings ++ [finding] }
      else a) a

/-- the suffixes `_scan_for_pattern` reads -/
def scannedSuffixes : List String := [".rs", ".ts", ".tsx", ".js", ".sol"]

/-- the finding `_scan_for_pattern` appends for line `lineNum` of the file at `file` (relative to the root) -/
def patternFinding (pattern : String × Pattern) (category : SecurityCategory) (severity : SecuritySeverity)
    (description file : String) (lineNum : Nat) (line : List Char) : SecurityFinding :=
  { category, severity, title := description, description := "Pattern '" ++ pattern.1 ++ "' found in code",
    filePath := file, lineNumber := lineNum, evidence := ⟨strip line⟩, impact := "Potential security vulnerability",
    remediation := "Review and fix identified security issue" }

/-- `_scan_for_pattern`'s loop over the numbered lines of the file at `filePath`: a match appends its finding and
counts it; a raise of `relative_to` ends the loop, the findings appended before it kept -/
def scanPatternLines (pattern : String × Pattern) (category : SecurityCategory) (severity : SecuritySeverity)
    (description filePath : String) :
    List (Nat × List Char) → QuantumCertificateSecurityAuditor → QuantumCertificateSecurityAuditor
  | [], a => a
  | (lineNum, line) :: rest, a =>
    if search true pattern.2 line then
      match relativeTo a.projectRoot filePath with
      | none => a
      | some file =>
        scanPatternLines pattern category severity description filePath rest
          { a with findings := a.findings ++ [patternFinding pattern category severity description file lineNum line],
                   stats := { a.stats with vulnerabilitiesFound := a.stats.vulnerabilitiesFound + 1 } }
    else scanPatternLines pattern category severity description filePath rest a

/-- the body of `_scan_for_pattern`'s loop for one path: a file with a scanned suffix is read and its lines
scanned; `open` or `readlines` raising skips it -/
def scanPatternFile (env : Env) (pattern : String × Pattern) (category : SecurityCategory)
    (severity : SecuritySeverity) (description : String) (a : QuantumCertificateSecurityAuditor) (filePath : String) :
    QuantumCertificateSecurityAuditor :=
  if env.isFile filePath && scannedSuffixes.contains ⟨suffix filePath⟩ then
    match env.readText filePath with
    | none => a
    | some content =>
      scanPatternLines pattern category severity description filePath ((readlines content.toList).enumFrom 1) a
  else a

/-- `_scan_for_pattern(pattern, category, severity, description)`, the pattern given with its source text -/
def scanForPattern (env : Env) (pattern : String × Pattern) (category : SecurityCategory)
    (severity : SecuritySeverity) (description : String) (a : QuantumCertificateSecurityAuditor) :
    QuantumCertificateSecurityAuditor :=
  (env.rglob a.projectRoot "*").foldl (scanPatternFile env pattern category severity description) a

/-- `name\s*=\s*['\"][^'\"]+['\"]` -/
def assignedString (name : String) : Pattern :=
  seqs [lit name, .star space, .char '=', .star space, oneOf "'\"", plus (noneOf "'\""), oneOf "'\""]

def secretPatterns : List (String × Pattern) :=
  ["password", "secret", "api_key", "private_key"].map fun name =>
    (name ++ "\\s*=\\s*['\\\"][^'\\\"]+['\\\"]", assignedString name)

def debugPatterns : List (String × Pattern) :=
  [("console\\.log\\(", lit "console.log("), ("println!\\(", lit "println!("), ("debug!\\(", lit "debug!("),
   ("#\\[cfg\\(debug_assertions\\)\\]", lit "#[cfg(debug_assertions)]")]

def testPatterns : List (String × Pattern) :=
  [("test\\.example\\.com", lit "test.example.com"), ("localhost", lit "localhost"), ("test-ca", lit "test-ca"),
   ("development", lit "development")]

def mockPatterns : List (String × Pattern) :=
  [("mock_", lit "mock_"), ("fake_", lit "fake_"), ("dummy_", lit "dummy_"), ("placeholder", lit "placeholder"),
   ("todo!\\(", lit "todo!("), ("unimplemented!\\(", lit "unimplemented!(")]

/-- `for pattern in patterns: await self._scan_for_pattern(pattern, category, severity, description)` -/
def scanAll (env : Env) (patterns : List (String × Pattern)) (category : SecurityCategory)
    (severity : SecuritySeverity) (description : String) (a : QuantumCertificateSecurityAuditor) :
    QuantumCertificateSecurityAuditor :=
  patterns.foldl (fun a p => scanForPattern env p category severity description a) a

/-! ## The audit phases -/

def quantumFiles : List String :=
  ["hypermesh/src/consensus/src/detection/quantum_security.rs", "hypermesh/core/shared/src/crypto.rs",
   "trustchain/src/crypto/certificate.rs", "ui/frontend/components/trustchain/QuantumSecuritySettings.tsx"]

def certFiles : List String :=
  ["trustchain/src/ca/certificate_manager.rs", "trustchain/src/ca/certificate_authority.rs",
   "trustchain/src/ca/certificate_store.rs", "hypermesh/src/security/src/certificates.rs",
   "ui/frontend/components/trustchain/CertificateOverview.tsx"]

def consensusFiles : List String :=
  ["hypermesh/core/consensus/src/consensus_manager.rs", "hypermesh/core/runtime/src/consensus_validation.rs",
   "caesar/caes-token/contracts/hypermesh/ConsensusProofEngine.sol"]

def apiFiles : List String :=
  ["ui/frontend/lib/api/hooks/useCertificates.ts",
   "ui/frontend/components/modules/trustchain/hooks/useQuantumSecurity.ts"]

/-- `for file_path in files: await self._audit_file(file_path, check)` -/
def auditFiles (env : Env) (files : List String)
    (check : String → List Char → List (List Char) → List SecurityFinding)
    (a : QuantumCertificateSecurityAuditor) : QuantumCertificateSecurityAuditor :=
  files.foldl (fun a f => auditFile env f check a) a

/-- `run_complete_audit()` -/
def runCompleteAudit (env : Env) (a : QuantumCertificateSecurityAuditor) : Option SecurityReport :=
  let a := checkFalcon1024Implementation env (auditFiles env quantumFiles checkQuantumSecurity a)
  let a := auditFiles env certFiles checkCertificateSecurity a
  let a := auditFiles env consensusFiles checkConsensusSecurity a
  let a := auditFiles env apiFiles checkApiSecurity a
  let a := scanAll env secretPatterns .configSecurity .critical "Hardcoded secret detected" a
  let a := scanAll env debugPatterns .productionReadiness .medium "Debug code in production" a
  let a := scanAll env testPatterns .productionReadiness .high "Test data in production code" a
  let a := scanAll env mockPatterns .productionReadiness .critical "Mock/placeholder implementation" a
  generateSecurityReport a

/-- a tree under `/srv/web3` whose only file is a `quantum_security.rs` that calls the FALCON simulation -/
def falconEnv : Env where
  pathExists p := p = "/srv/web3/hypermesh/src/consensus/src/detection/quantum_security.rs"
  isFile p := p = "/srv/web3/hypermesh/src/consensus/src/detection/quantum_security.rs"
  readText p :=
    if p = "/srv/web3/hypermesh/src/consensus/src/detection/quantum_security.rs" then
      some "fn verify(sig: &[u8]) -> bool { simulate_falcon_validation(sig) }\n"
    else none
  rglob root pattern :=
    if root = "/srv/web3" ∧ (pattern = "*" ∨ pattern = "**/quantum_security.rs") then
      ["/srv/web3/hypermesh/src/consensus/src/detection/quantum_security.rs"]
    else []

set_option maxRecDepth 10000 in
/-- The file check and the FALCON check each report the simulation; neither increments `vulnerabilities_found`,
and no scan pattern matches, so the report lists two findings and counts none. -/
theorem falcon_findings_uncounted :
    (runCompleteAudit falconEnv (.init "/srv/web3")).map
        (fun r => (r.totalFindings, r.auditStatistics.vulnerabilitiesFound)) = some (2, 0) := by
  decide

end Hypermesh.Quantum.Audit
