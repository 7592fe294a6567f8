import Hypermesh.Quantum.Audit
import Hypermesh.Server.Values
/-
`QuantumSecurityTester` (`quantum_security_test.py`): the five tests `run_security_tests` awaits in turn,
`generate_test_report` with `_generate_recommendations`, and the exit status of `main`.

The tester reads the file system through `Audit.Env`, as the auditor of `QUANTUM_CERTIFICATE_SECURITY_AUDIT.py` does:
`Path.rglob` lists the files a test reads, and `open(path).read()` may raise, which the test's bare `except` skips.
Each test scans its files for two flags (the Kyber test for one, leaving its loop at the first hit, `kyberScan`) and
stores its result dict in `test_results` under its own name. `generate_test_report` counts the results; its
`security_score` divides by their number, so a tester with no results raises `ZeroDivisionError` (`none`).

Left out: the console output (`_print_test_summary` and the progress lines), the text of `security_score` (a
formatted percentage), and the report file `main` writes.

Result:
- `runSecurityTests_rglob_order`: the report depends on the files `rglob` lists, not on their order or repetitions.
-/

namespace Hypermesh.Quantum.Tester

open PyStr
open Audit (Env)
open Server (PyDict)

/-- the entry of `findings` the FALCON test appends -/
structure TestFinding where
  severity : String
  issue : String
  impact : String
  deriving DecidableEq, Repr

/-- a test's dict in `test_results`: `test_passed`, the test's own flags in order, `security_status`, and the FALCON
test's `findings` -/
structure TestResult where
  testPassed : Bool
  flags : List (String × Bool)
  securityStatus : String
  findings : Option (List TestFinding)
  deriving DecidableEq, Repr

/-- the tester: its root and `test_results` -/
structure QuantumSecurityTester where
  projectRoot : String
  testResults : PyDict TestResult

namespace QuantumSecurityTester

/-- `QuantumSecurityTester(project_root)` -/
def init (projectRoot : String) : QuantumSecurityTester := ⟨projectRoot, []⟩

/-- `self.test_results[test_name] = result` -/
def record (t : QuantumSecurityTester) (testName : String) (result : TestResult) : QuantumSecurityTester :=
  { t with testResults := t.testResults.set testName result }

@[simp] theorem record_projectRoot (t : QuantumSecurityTester) (testName : String) (result : TestResult) :
    (t.record testName result).projectRoot = t.projectRoot := rfl

end QuantumSecurityTester

/-! ## The scans -/

/-- one file of a two-flag test's loop: a file it can read may set either flag; a raise skips it -/
def scanStep (env : Env) (first second : List Char → Bool) (flags : Bool × Bool) (filePath : String) :
    Bool × Bool :=
  match env.readText filePath with
  | some content => (flags.1 || first content.toList, flags.2 || second content.toList)
  | none => flags

def scanFlags (env : Env) (first second : List Char → Bool) (files : List String) : Bool × Bool :=
  files.foldl (scanStep env first second) (false, false)

def kyberCheck (content : List Char) : Bool :=
  contains (lower content) "kyber" && (contains content "encrypt" || contains content "encapsulate")

/-- the Kyber loop: the first file that is a file, reads, and passes the check sets `has_kyber` and ends the loop -/
def kyberScan (env : Env) : List String → Bool
  | [] => false
  | filePath :: files =>
    if env.isFile filePath && (env.readText filePath).any (kyberCheck ·.toList) then true else kyberScan env files

/-! The flags of each test: `(simulation_detected, has_real_falcon)` of `test_falcon_signature_security`, `has_kyber`
of `test_kyber_key_exchange_security`, `(entropy_validation, weak_rng_detected)` of `test_quantum_rng_security`,
`(mock_detected, weak_validation)` of `test_certificate_validation_security` and `(auto_approval, missing_validation)`
of `test_consensus_proof_security`. -/

def falconFlags (env : Env) (projectRoot : String) : Bool × Bool :=
  scanFlags env (contains · "simulate_falcon_validation")
    (fun content => contains content "falcon-rust" || contains content "pqcrypto_falcon")
    (env.rglob projectRoot "**/quantum_security.rs")

def kyberFlag (env : Env) (projectRoot : String) : Bool :=
  kyberScan env (env.rglob projectRoot "**/*kyber*" ++ env.rglob projectRoot "**/*quantum*")

def rngFlags (env : Env) (projectRoot : String) : Bool × Bool :=
  scanFlags env (fun content => contains content "entropy_quality" && contains content "0.95")
    (contains · "rand::random()") (env.rglob projectRoot "**/quantum_security.rs")

def certificateFlags (env : Env) (projectRoot : String) : Bool × Bool :=
  scanFlags env (fun content => contains content "mock_public_key" || contains content "mock_signature")
    (fun content => contains content "permissive" && contains content "validation")
    (env.rglob projectRoot "**/certificate*.rs" ++ env.rglob projectRoot "**/cert*.rs")

def consensusFlags (env : Env) (projectRoot : String) : Bool × Bool :=
  scanFlags env (contains · "Ok(ConsensusResult::Valid)")
    (fun content => contains content "Placeholder" && contains content "validation")
    (env.rglob projectRoot "**/consensus*.rs")

/-! ## The five tests

Each test stores the dict its flags give (`falconResult`, ..., `consensusResult`) under its own name. -/

def falconResult : Bool × Bool → TestResult
  | (simulationDetected, hasRealFalcon) =>
    { testPassed := hasRealFalcon && !simulationDetected,
      flags := [("has_real_implementation", hasRealFalcon), ("simulation_detected", simulationDetected)],
      securityStatus := if simulationDetected then "FAIL" else if hasRealFalcon then "PASS" else "NOT_IMPLEMENTED",
      findings := some (if simulationDetected then
        [⟨"CRITICAL", "FALCON-1024 signature simulation detected", "Complete digital signature security bypass"⟩]
        else []) }

def kyberResult (hasKyber : Bool) : TestResult :=
  { testPassed := hasKyber, flags := [("has_implementation", hasKyber)],
    securityStatus := if hasKyber then "PASS" else "NOT_IMPLEMENTED", findings := none }

def rngResult : Bool × Bool → TestResult
  | (entropyValidation, weakRngDetected) =>
    { testPassed := entropyValidation && !weakRngDetected,
      flags := [("entropy_validation", entropyValidation), ("weak_rng_detected", weakRngDetected)],
      securityStatus := if entropyValidation && !weakRngDetected then "PASS" else "FAIL", findings := none }

def certificateResult : Bool × Bool → TestResult
  | (mockDetected, weakValidation) =>
    { testPassed := !mockDetected && !weakValidation,
      flags := [("mock_certificates_detected", mockDetected), ("weak_validation_detected", weakValidation)],
      securityStatus := if mockDetected || weakValidation then "FAIL" else "PASS", findings := none }

def consensusResult : Bool × Bool → TestResult
  | (autoApproval, missingValidation) =>
    { testPassed := !autoApproval && !missingValidation,
      flags := [("auto_approval_detected", autoApproval), ("missing_validation", missingValidation)],
      securityStatus := if autoApproval || missingValidation then "FAIL" else "PASS", findings := none }

namespace QuantumSecurityTester

variable (env : Env) (t : QuantumSecurityTester)

def testFalconSignatureSecurity : QuantumSecurityTester :=
  t.record "falcon_signature_security" (falconResult (falconFlags env t.projectRoot))

def testKyberKeyExchangeSecurity : QuantumSecurityTester :=
  t.record "kyber_key_exchange_security" (kyberResult (kyberFlag env t.projectRoot))

def testQuantumRngSecurity : QuantumSecurityTester :=
  t.record "quantum_rng_security" (rngResult (rngFlags env t.projectRoot))

def testCertificateValidationSecurity : QuantumSecurityTester :=
  t.record "certificate_validation_security" (certificateResult (certificateFlags env t.projectRoot))

def testConsensusProofSecurity : QuantumSecurityTester :=
  t.record "consensus_proof_security" (consensusResult (consensusFlags env t.projectRoot))

/-- the five tests of `run_security_tests`, in its order -/
def runTests : QuantumSecurityTester :=
  (((t.testFalconSignatureSecurity env).testKyberKeyExchangeSecurity env).testQuantumRngSecurity env
    |>.testCertificateValidationSecurity env).testConsensusProofSecurity env

end QuantumSecurityTester

/-! ## The report -/

/-- the dict `generate_test_report` returns, but the text of `security_score` -/
structure TestReport where
  totalTests : Nat
  passedTests : Nat
  failedTests : Nat
  overallStatus : String
  testResults : PyDict TestResult
  recommendations : List String
  deriving DecidableEq, Repr

/-- the recommendation `_generate_recommendations` makes for a failed test of this name -/
def recommendationFor : String → Option String
  | "falcon_signature_security" => some "Implement real FALCON-1024 cryptographic library integration"
  | "kyber_key_exchange_security" => some "Implement Kyber key encapsulation mechanism"
  | "quantum_rng_security" => some "Implement proper quantum entropy validation"
  | "certificate_validation_security" => some "Replace mock certificates with real cryptographic implementation"
  | "consensus_proof_security" => some "Implement real four-proof consensus validation"
  | _ => none

/-- `_generate_recommendations`: one text per failed test, in the order of `test_results` -/
def generateRecommendations (testResults : PyDict TestResult) : List String :=
  testResults.filterMap fun (testName, result) => if result.testPassed then none else recommendationFor testName

/-- `generate_test_report`; `none` is the `ZeroDivisionError` of `security_score` when no test ran -/
def generateTestReport (t : QuantumSecurityTester) : Option TestReport :=
  let totalTests := t.testResults.length
  let passedTests := t.testResults.countP (·.2.testPassed)
  let failedTests := totalTests - passedTests
  let overallStatus := if failedTests = 0 then "PASS" else "FAIL"
  if totalTests = 0 then none
  else some ⟨totalTests, passedTests, failedTests, overallStatus, t.testResults,
    generateRecommendations t.testResults⟩

/-- `run_security_tests` -/
def runSecurityTests (env : Env) (t : QuantumSecurityTester) : Option TestReport :=
  generateTestReport (t.runTests env)

def projectRoot : String := "/home/persist/repos/projects/web3"

/-- `main`'s exit status: 0 when the overall status is `PASS`, 1 otherwise -/
def mainExitStatus (env : Env) : Option Nat :=
  (runSecurityTests env (.init projectRoot)).map fun report => if report.overallStatus = "PASS" then 0 else 1

/-! ## The scans read membership -/

theorem any_eq_of_mem_iff {α : Type} {l l' : List α} (h : ∀ x, x ∈ l ↔ x ∈ l') (f : α → Bool) :
    l.any f = l'.any f :=
  Bool.eq_iff_iff.2 (by simp only [List.any_eq_true]; exact exists_congr fun x => and_congr_left' (h x))

theorem foldl_scanStep (env : Env) (first second : List Char → Bool) (files : List String) :
    ∀ flags : Bool × Bool, files.foldl (scanStep env first second) flags =
      (flags.1 || files.any fun p => (env.readText p).any (first ·.toList),
        flags.2 || files.any fun p => (env.readText p).any (second ·.toList)) := by
  induction files with
  | nil => simp
  | cons p ps ih =>
    intro flags
    rw [List.foldl_cons, ih, List.any_cons, List.any_cons]
    cases h : env.readText p <;> simp [scanStep, h, Bool.or_assoc]

/-- **a two-flag loop sets a flag exactly when some file it reads sets it** -/
theorem scanFlags_eq (env : Env) (first second : List Char → Bool) (files : List String) :
    scanFlags env first second files =
      (files.any fun p => (env.readText p).any (first ·.toList),
        files.any fun p => (env.readText p).any (second ·.toList)) := by
  simp [scanFlags, foldl_scanStep]

theorem kyberScan_eq (env : Env) (files : List String) :
    kyberScan env files = files.any fun p => env.isFile p && (env.readText p).any (kyberCheck ·.toList) := by
  induction files with
  | nil => rfl
  | cons p ps ih =>
    by_cases h : (env.isFile p && (env.readText p).any (kyberCheck ·.toList)) = true <;> simp [kyberScan, h, ih]

theorem scanFlags_congr (env : Env) (first second : List Char → Bool) {files files' : List String}
    (h : ∀ p, p ∈ files ↔ p ∈ files') :
    scanFlags env first second files = scanFlags env first second files' := by
  rw [scanFlags_eq, scanFlags_eq, any_eq_of_mem_iff h, any_eq_of_mem_iff h]

/-! ## The order of `rglob` -/

section Order

variable {env : Env} {g : String → String → List String}

theorem flags_rglob_order (hg : ∀ root pattern p, p ∈ g root pattern ↔ p ∈ env.rglob root pattern)
    (root : String) :
    falconFlags { env with rglob := g } root = falconFlags env root ∧
      kyberFlag { env with rglob := g } root = kyberFlag env root ∧
      rngFlags { env with rglob := g } root = rngFlags env root ∧
      certificateFlags { env with rglob := g } root = certificateFlags env root ∧
      consensusFlags { env with rglob := g } root = consensusFlags env root := by
  have happ : ∀ a b p, p ∈ g root a ++ g root b ↔ p ∈ env.rglob root a ++ env.rglob root b := fun a b p => by
    simp only [List.mem_append, hg]
  refine ⟨scanFlags_congr _ _ _ (hg _ _), ?_, scanFlags_congr _ _ _ (hg _ _), scanFlags_congr _ _ _ (happ _ _),
    scanFlags_congr _ _ _ (hg _ _)⟩
  simp only [kyberFlag, kyberScan_eq]
  exact any_eq_of_mem_iff (happ _ _) _

/-- **the report does not depend on the order of `rglob`'s listings**, nor on repeated entries in them -/
theorem runSecurityTests_rglob_order (hg : ∀ root pattern p, p ∈ g root pattern ↔ p ∈ env.rglob root pattern)
    (t : QuantumSecurityTester) : runSecurityTests { env with rglob := g } t = runSecurityTests env t := by
  obtain ⟨h1, h2, h3, h4, h5⟩ := flags_rglob_order hg t.projectRoot
  simp only [runSecurityTests, QuantumSecurityTester.runTests, QuantumSecurityTester.testFalconSignatureSecurity,
    QuantumSecurityTester.testKyberKeyExchangeSecurity, QuantumSecurityTester.testQuantumRngSecurity,
    QuantumSecurityTester.testCertificateValidationSecurity, QuantumSecurityTester.testConsensusProofSecurity,
    QuantumSecurityTester.record_projectRoot, h1, h2, h3, h4, h5]

end Order

/-- a tree with a simulated FALCON module and a Kyber file; `rglob` also lists a directory -/
def testerEnv : Env where
  pathExists p := p = "/srv/web3/hypermesh/quantum_security.rs" ∨ p = "/srv/web3/trustchain/kyber.rs" ∨
    p = "/srv/web3/docs/quantum"
  isFile p := p = "/srv/web3/hypermesh/quantum_security.rs" ∨ p = "/srv/web3/trustchain/kyber.rs"
  readText p :=
    if p = "/srv/web3/hypermesh/quantum_security.rs" then some "let ok = simulate_falcon_validation(sig);\n"
    else if p = "/srv/web3/trustchain/kyber.rs" then some "// Kyber: encapsulate the session key\n"
    else none
  rglob _ pattern :=
    if pattern = "**/quantum_security.rs" then ["/srv/web3/hypermesh/quantum_security.rs"]
    else if pattern = "**/*kyber*" then ["/srv/web3/trustchain/kyber.rs"]
    else if pattern = "**/*quantum*" then ["/srv/web3/docs/quantum", "/srv/web3/hypermesh/quantum_security.rs"]
    else []

/-- listing the sample tree's files in reverse order gives the same report -/
theorem reversed_listing_same_report :
    (∀ root pattern p, p ∈ (testerEnv.rglob root pattern).reverse ↔ p ∈ testerEnv.rglob root pattern) ∧
      runSecurityTests { testerEnv with rglob := fun root pattern => (testerEnv.rglob root pattern).reverse }
        (.init "/srv/web3") = runSecurityTests testerEnv (.init "/srv/web3") :=
  ⟨fun _ _ _ => List.mem_reverse, runSecurityTests_rglob_order (fun _ _ _ => List.mem_reverse) _⟩

end Hypermesh.Quantum.Tester
