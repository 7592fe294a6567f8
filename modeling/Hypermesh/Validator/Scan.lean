import Hypermesh.Validator.Report
import Hypermesh.PyPath
import Hypermesh.Regex
/-
`run_complete_security_audit` of `TrustChainSecurityValidator` (`SECURITY_PRODUCTION_READINESS_VALIDATOR.py`):
the seven pattern checks, each a series of `_scan_for_pattern` calls over the Rust files under `trustchain/src`,
then `check_compilation_security`, then the report.

Every pattern the checks pass is a literal once its escapes are read (`todo!\(` is `todo!(`), searched with
`re.IGNORECASE`; the violation records the pattern's source text as its type. `_scan_for_pattern` reads a file
with `readlines()` inside a `try`; a raise of `open` or `readlines` skips the file, and a raise of `relative_to`
after some violations were appended ends the file's loop with them kept (`scanPatternLines`).
`check_compilation_security` catches only `TimeoutExpired`: any other failure of `subprocess.run` (no `cargo`)
propagates out of the audit, which then gives no report.

Results:
- `scanPatternLines_of_relativeTo`: for a file below the root no raise can happen after the first append, so the
  loop appends exactly one violation per matching line;
- `scanPatternFile_all_or_nothing`: so a file below the root is skipped whole or scanned whole.
-/

namespace Hypermesh.Validator

open PyStr PyPath Regex

/-- the outcome of `subprocess.run(["cargo", "check", "--all-targets"], ..., timeout=120)` -/
inductive CargoOutcome where
  | finished (returncode : Int) (stderr : String)
  /-- `subprocess.TimeoutExpired` -/
  | timeout
  /-- any other exception of `subprocess.run`, such as the `FileNotFoundError` of a missing `cargo` -/
  | failed

/-- what the validator reads of the file system and of `cargo` -/
structure Env where
  /-- the text `open(path, 'r', encoding='utf-8').readlines()` reads; `none` when it raises -/
  readText : String → Option String
  /-- `Path(dir).rglob(pattern)`, as `str` paths -/
  rglob : String → String → List String
  cargoCheck : CargoOutcome

/-- `self.trustchain_src` -/
def trustchainSrc (v : TrustChainSecurityValidator) : String := join (join v.projectRoot "trustchain") "src"

/-! ## `_scan_for_pattern` -/

/-- the violation `_scan_for_pattern` appends for line `lineNum` of the file at `file` (relative to the root) -/
def patternViolation (pattern : String × Pattern) (severity : SecurityLevel) (description file : String)
    (lineNum : Nat) (line : List Char) : SecurityViolation :=
  ⟨file, lineNum, pattern.1, severity, description, ⟨strip line⟩⟩

/-- `_scan_for_pattern`'s loop over the numbered lines of the file at `rustFile`: a match appends its violation; a
raise of `relative_to` ends the loop, the violations appended before it kept -/
def scanPatternLines (pattern : String × Pattern) (severity : SecurityLevel) (description rustFile : String) :
    List (Nat × List Char) → TrustChainSecurityValidator → TrustChainSecurityValidator
  | [], v => v
  | (lineNum, line) :: rest, v =>
    if search true pattern.2 line then
      match relativeTo v.projectRoot rustFile with
      | none => v
      | some file =>
        scanPatternLines pattern severity description rustFile rest
          { v with violations := v.violations ++ [patternViolation pattern severity description file lineNum line] }
    else scanPatternLines pattern severity description rustFile rest v

/-- the body of `_scan_for_pattern`'s loop for one file -/
def scanPatternFile (env : Env) (pattern : String × Pattern) (severity : SecurityLevel) (description : String)
    (v : TrustChainSecurityValidator) (rustFile : String) : TrustChainSecurityValidator :=
  match env.readText rustFile with
  | none => v
  | some content => scanPatternLines pattern severity description rustFile ((readlines content.toList).enumFrom 1) v

/-- `_scan_for_pattern(pattern, severity, description)`, the pattern given with its source text -/
def scanForPattern (env : Env) (pattern : String × Pattern) (severity : SecurityLevel) (description : String)
    (v : TrustChainSecurityValidator) : TrustChainSecurityValidator :=
  (env.rglob (trustchainSrc v) "*.rs").foldl (scanPatternFile env pattern severity description) v

/-- `for pattern in patterns: self._scan_for_pattern(pattern, severity, f"{label}{pattern}")` -/
def scanAll (env : Env) (patterns : List (String × Pattern)) (severity : SecurityLevel) (label : String)
    (v : TrustChainSecurityValidator) : TrustChainSecurityValidator :=
  patterns.foldl (fun v p => scanForPattern env p severity (label ++ p.1) v) v

/-! ## The checks -/

def placeholderPatterns : List (String × Pattern) :=
  [("todo!\\(", lit "todo!("), ("placeholder", lit "placeholder"), ("stub", lit "stub"), ("mock", lit "mock"),
   ("fake", lit "fake"), ("dummy", lit "dummy"), ("// TODO", lit "// TODO"), ("// FIXME", lit "// FIXME")]

def weakCryptoPatterns : List (String × Pattern) :=
  [("MD5", lit "MD5"), ("SHA1", lit "SHA1"), ("DES", lit "DES"), ("RC4", lit "RC4"), ("RSA-1024", lit "RSA-1024")]

def testPatterns : List (String × Pattern) :=
  [("test\\.example\\.com", lit "test.example.com"), ("localhost", lit "localhost"),
   ("127\\.0\\.0\\.1", lit "127.0.0.1"), ("test-ca", lit "test-ca"), ("test-log", lit "test-log")]

/-- `check_placeholder_implementations()` -/
def checkPlaceholderImplementations (env : Env) (v : TrustChainSecurityValidator) : TrustChainSecurityValidator :=
  scanAll env placeholderPatterns .critical "Placeholder implementation detected: " v

/-- `check_cryptographic_security()` -/
def checkCryptographicSecurity (env : Env) (v : TrustChainSecurityValidator) : TrustChainSecurityValidator :=
  let v := scanForPattern env ("Ok\\(vec!\\[0u8; 64\\]\\)", lit "Ok(vec![0u8; 64])") .critical
    "Dummy cryptographic signature detected - complete security bypass" v
  scanAll env weakCryptoPatterns .high "Weak cryptographic algorithm detected: " v

/-- `check_hsm_integration()` -/
def checkHsmIntegration (env : Env) (v : TrustChainSecurityValidator) : TrustChainSecurityValidator :=
  let v := scanForPattern env ("HSM integration not yet implemented", lit "HSM integration not yet implemented")
    .critical "HSM integration missing - production security requirement" v
  scanForPattern env ("CloudHSM client implementation", lit "CloudHSM client implementation") .critical
    "CloudHSM client not implemented" v

/-- `check_consensus_validation()` -/
def checkConsensusValidation (env : Env) (v : TrustChainSecurityValidator) : TrustChainSecurityValidator :=
  let v := scanForPattern env ("Ok\\(ConsensusResult::Valid\\)", lit "Ok(ConsensusResult::Valid)") .critical
    "Automatic consensus approval - security bypass" v
  scanForPattern env ("default_for_testing\\(\\)", lit "default_for_testing()") .high
    "Test consensus proofs in production code" v

/-- `check_transport_security()` -/
def checkTransportSecurity (env : Env) (v : TrustChainSecurityValidator) : TrustChainSecurityValidator :=
  let v := scanForPattern env ("STOQ transport integration for DNS", lit "STOQ transport integration for DNS")
    .critical "STOQ transport not implemented" v
  scanForPattern env ("STOQ DNS server connection", lit "STOQ DNS server connection") .critical
    "STOQ DNS connection not implemented" v

/-- `check_storage_security()` -/
def checkStorageSecurity (env : Env) (v : TrustChainSecurityValidator) : TrustChainSecurityValidator :=
  scanForPattern env ("Placeholder for S3", lit "Placeholder for S3") .critical "S3 storage implementation missing" v

/-- `check_test_data_usage()` -/
def checkTestDataUsage (env : Env) (v : TrustChainSecurityValidator) : TrustChainSecurityValidator :=
  scanAll env testPatterns .medium "Test data in production code: " v

/-- `check_compilation_security()`; `none` is the exception it lets through -/
def checkCompilationSecurity (env : Env) (v : TrustChainSecurityValidator) : Option TrustChainSecurityValidator :=
  match env.cargoCheck with
  | .finished returncode stderr =>
    if returncode ≠ 0 then
      some { v with violations := v.violations ++ [⟨"Cargo.toml", 1, "COMPILATION_FAILURE", .critical,
        "Code does not compile - production deployment impossible", ⟨stderr.toList.take 500⟩⟩] }
    else some v
  | .timeout =>
    some { v with violations := v.violations ++ [⟨"build_system", 1, "BUILD_TIMEOUT", .high,
      "Build process timeout - potential infinite loops or deadlocks", "Compilation timed out after 120 seconds"⟩] }
  | .failed => none

/-- `run_complete_security_audit()`; `none` when it raises -/
def runCompleteSecurityAudit (env : Env) (v : TrustChainSecurityValidator) : Option SecurityReport := do
  let v := checkPlaceholderImplementations env v
  let v := checkCryptographicSecurity env v
  let v := checkHsmIntegration env v
  let v := checkConsensusValidation env v
  let v := checkTransportSecurity env v
  let v := checkStorageSecurity env v
  let v := checkTestDataUsage env v
  let v ← checkCompilationSecurity env v
  generateSecurityReport v

/-! ## One file of a scan -/

/-- the violations `_scan_for_pattern` appends for the matching lines among `lines`, `file` being the path relative
to the root -/
def patternViolations (pattern : String × Pattern) (severity : SecurityLevel) (description file : String)
    (lines : List (Nat × List Char)) : List SecurityViolation :=
  lines.filterMap fun l =>
    if search true pattern.2 l.2 then some (patternViolation pattern severity description file l.1 l.2) else none

/-- **No raise after the first append.** For a file below the root, the loop appends one violation per matching
line, all of them. -/
theorem scanPatternLines_of_relativeTo (pattern : String × Pattern) (severity : SecurityLevel)
    (description rustFile : String) {file : String} :
    ∀ (lines : List (Nat × List Char)) (v : TrustChainSecurityValidator),
      relativeTo v.projectRoot rustFile = some file →
      scanPatternLines pattern severity description rustFile lines v =
        { v with violations := v.violations ++ patternViolations pattern severity description file lines }
  | [], v, _ => by simp [scanPatternLines, patternViolations]
  | (lineNum, line) :: rest, v, h => by
    have ih := @scanPatternLines_of_relativeTo pattern severity description rustFile file rest
    by_cases hm : search true pattern.2 line <;> simp [scanPatternLines, patternViolations, hm, h, ih]

/-- **The pattern scan is all or nothing on a file.** For a file below the root, the loop body either reads
nothing and leaves the violations as they were, or appends one for every matching line. -/
theorem scanPatternFile_all_or_nothing (env : Env) (pattern : String × Pattern) (severity : SecurityLevel)
    (description : String) {v : TrustChainSecurityValidator} {rustFile file : String}
    (hfile : relativeTo v.projectRoot rustFile = some file) :
    (env.readText rustFile = none ∧ scanPatternFile env pattern severity description v rustFile = v) ∨
      ∃ content, env.readText rustFile = some content ∧
        scanPatternFile env pattern severity description v rustFile =
          { v with violations := v.violations ++
            patternViolations pattern severity description file ((readlines content.toList).enumFrom 1) } := by
  unfold scanPatternFile
  cases env.readText rustFile with
  | none => exact .inl ⟨rfl, rfl⟩
  | some content => exact .inr ⟨content, rfl, scanPatternLines_of_relativeTo _ _ _ _ _ _ hfile⟩

end Hypermesh.Validator
