import Hypermesh.PyPath
/-
`SecurityTestSuite` (`security_test_suite.py`): the eight tests `run_all_tests` runs, `generate_report` and the exit
code.

The suite reads files through `Env` (`Path.exists`, `open(path).read()`, which may raise) and the standard output of
its `grep -r` calls, one per pattern. A test returns its Boolean result and the suite with what it appended to
`test_results`; `none` is an exception, which no test catches and which ends `run_all_tests`. `run_all_tests`
discards the results, and its exit code reads only `test_results['failed']`.

Not modelled: the console output, and the report's `timestamp` and `pass_rate`.

Result:
- `unrecorded_consensus_failure`: on a tree whose consensus module lacks `validate_with_requirements` and which
  passes every other check, `test_consensus_validation` returns `False` and the exit code is 0.
-/

namespace Hypermesh.TestSuite

open PyStr PyPath

/-- what the suite reads: `Path.exists()`, `open(path).read()` (`none` when it raises), the standard output of its
`grep -r` call for a pattern, and whether `open(report_file, 'w')` and `json.dump` can write the report -/
structure Env where
  pathExists : String → Bool
  readText : String → Option String
  grep : String → String
  canWrite : String → Bool

/-- the suite: its root and `test_results` -/
structure SecurityTestSuite where
  projectRoot : String
  passed : List String := []
  failed : List String := []
  vulnerabilities : List String := []
  deriving DecidableEq, Repr

/-- a test: its result and the suite after it, or `none` when it raises -/
abbrev Test := SecurityTestSuite → Option (Bool × SecurityTestSuite)

def SecurityTestSuite.pass (s : SecurityTestSuite) (entry : String) : SecurityTestSuite :=
  { s with passed := s.passed ++ [entry] }

def SecurityTestSuite.fail (s : SecurityTestSuite) (entry : String) : SecurityTestSuite :=
  { s with failed := s.failed ++ [entry] }

/-! ## The tests

Each method `test_*` of the suite is the `Test` of its name. -/

/-- `crypto_tests`: name, file, required imports, required functions -/
def cryptoTests : List (String × String × List String × List String) :=
  [("FALCON Post-Quantum Crypto", "stoq/src/transport/falcon.rs", ["pqcrypto_falcon", "falcon1024", "falcon512"],
    ["generate_keypair", "sign", "verify"]),
   ("Certificate Management", "stoq/src/transport/certificates.rs", ["rustls", "rcgen", "sha2"],
    ["generate_real_private_key", "calculate_fingerprint"]),
   ("TrustChain Consensus", "trustchain/src/consensus/mod.rs", ["sha2", "bincode"],
    ["generate_from_network", "validate"])]

def testCryptographicImplementations (env : Env) : Test := fun s =>
  cryptoTests.foldlM (fun (allPassed, s) (name, file, imports, functions) =>
    let filePath := join s.projectRoot file
    if !env.pathExists filePath then pure (false, s.fail (name ++ ": File not found")) else do
      let content ← env.readText filePath
      if imports.all (contains content.toList) && functions.all (contains content.toList) then
        pure (allPassed, s.pass name)
      else pure (false, s.fail name)) (true, s)

def validators : List String :=
  ["validate_node_id", "validate_certificate_request", "validate_ipv6", "validate_consensus_proof", "sanitize_input"]

def testInputValidation (env : Env) : Test := fun s =>
  let validationFile := join s.projectRoot "trustchain/src/validation.rs"
  if env.pathExists validationFile then do
    let content ← env.readText validationFile
    if validators.all (contains content.toList) then pure (true, s.pass "Input validation")
    else pure (false, s.fail "Input validation incomplete")
  else pure (false, s.fail "Input validation missing")

def testSecurityBypasses (env : Env) : Test := fun s =>
  let violations := ((env.grep "default_for_testing").toList.splitOn '\n').filter fun line =>
    !line.isEmpty && !contains line "#[cfg(test)]"
  if violations.isEmpty then pure (true, s.pass "No security bypasses")
  else pure (false, s.fail (toString violations.length ++ " security bypasses"))

def criticalFiles : List String := ["stoq/src/transport/mod.rs", "trustchain/src/lib.rs", "hypermesh/src/lib.rs"]

def testErrorHandling (env : Env) : Test := fun s =>
  criticalFiles.foldlM (fun (allPassed, s) filePath =>
    let fullPath := join s.projectRoot filePath
    if !env.pathExists fullPath then pure (allPassed, s) else do
      let content ← env.readText fullPath
      if countOf ".unwrap()".toList content.toList ≤ 10 then pure (allPassed, s.pass (filePath ++ " error handling"))
      else pure (false, s.fail (filePath ++ " excessive unwraps"))) (true, s)

/-- `security_features`: feature, pattern -/
def securityFeatures : List (String × String) :=
  [("RSA key generation", "RsaPrivateKey::new"), ("Certificate validation", "validate_certificate"),
   ("Fingerprint calculation", "calculate_fingerprint"), ("Certificate rotation", "check_and_rotate_certificate"),
   ("TrustChain integration", "TrustChainClient")]

def testCertificateSecurity (env : Env) : Test := fun s =>
  let certFile := join s.projectRoot "stoq/src/transport/certificates.rs"
  if !env.pathExists certFile then pure (false, s) else do
    let content ← env.readText certFile
    pure (securityFeatures.foldl (fun (allFound, s) (feature, pattern) =>
      if contains content.toList pattern then (allFound, s.pass ("Certificate: " ++ feature))
      else (false, s.fail ("Certificate: " ++ feature))) (true, s))

def proofTypes : List String := ["StakeProof", "TimeProof", "SpaceProof", "WorkProof"]

def validationMethods : List String := ["validate", "generate_from_network", "validate_with_requirements"]

def testConsensusValidation (env : Env) : Test := fun s =>
  let consensusFile := join s.projectRoot "trustchain/src/consensus/mod.rs"
  if !env.pathExists consensusFile then pure (false, s) else do
    let content ← env.readText consensusFile
    let (allFound, s) := proofTypes.foldl (fun (allFound, s) proof =>
      if contains content.toList proof then (allFound, s.pass ("Consensus: " ++ proof))
      else (false, s.fail ("Consensus: " ++ proof))) (true, s)
    pure (validationMethods.foldl (fun allFound method => allFound && contains content.toList method) allFound, s)

/-- `attack_tests`, each result computed before the loop -/
def attackTests (env : Env) (root : String) : Option (List (String × Bool)) := do
  let validationFile := join root "trustchain/src/validation.rs"
  let pathTraversal ← if env.pathExists validationFile then do
      let content ← env.readText validationFile
      pure (contains content.toList "sanitize_input")
    else pure false
  pure [("SQL Injection", env.grep "format!.*SELECT\\|format!.*INSERT\\|format!.*UPDATE" == ""),
    ("Command Injection", env.grep "Command::new.*format!\\|Command::new.*+" == ""),
    ("Path Traversal", pathTraversal),
    ("XSS Protection", env.grep "X-Content-Type-Options\\|X-Frame-Options" != ""),
    ("CSRF Protection", env.grep "csrf\\|CSRF" != "")]

def testPenetrationResistance (env : Env) : Test := fun s => do
  let tests ← attackTests env s.projectRoot
  pure (tests.foldl (fun (allPassed, s) (name, result) =>
    if result then (allPassed, s.pass ("Security: " ++ name))
    else (false, { s.fail ("Security: " ++ name) with vulnerabilities := s.vulnerabilities ++ [name] }))
    (true, s))

/-- the checks of `test_network_security` -/
def networkTests (env : Env) : List (String × Bool) :=
  [("IPv6 only support", decide (((env.grep "Ipv6Addr").toList.splitOn '\n').length > 10)),
   ("QUIC transport", contains (env.grep "quinn").toList "quinn"),
   ("TLS 1.3 support", contains (env.grep "rustls").toList "rustls"),
   ("Rate limiting", env.grep "rate_limit\\|RateLimit" != "")]

def testNetworkSecurity (env : Env) : Test := fun s =>
  pure ((networkTests env).foldl (fun (allPassed, s) (name, result) =>
    if result then (allPassed, s.pass ("Network: " ++ name)) else (false, s.fail ("Network: " ++ name)))
    (true, s))

/-! ## The run -/

/-- the tests in the order `run_all_tests` runs them -/
def tests (env : Env) : List Test :=
  [testCryptographicImplementations env, testInputValidation env, testSecurityBypasses env,
   testErrorHandling env, testCertificateSecurity env, testConsensusValidation env,
   testPenetrationResistance env, testNetworkSecurity env]

/-- run the tests in order, keeping each result (which `run_all_tests` discards) -/
def runTests (s : SecurityTestSuite) : List Test → Option (List Bool × SecurityTestSuite)
  | [] => pure ([], s)
  | t :: ts => do
    let (r, s) ← t s
    let (rs, s) ← runTests s ts
    pure (r :: rs, s)

/-- `generate_report()`: total tests, passed, failed, vulnerabilities -/
structure Report where
  totalTests : Nat
  passed : Nat
  failed : Nat
  vulnerabilities : List String
  deriving DecidableEq, Repr

def generateReport (s : SecurityTestSuite) : Report :=
  ⟨s.passed.length + s.failed.length, s.passed.length, s.failed.length, s.vulnerabilities⟩

/-- `run_all_tests()`: the exit code, with the tests' discarded results; `none` is an exception -/
def runAllTests (env : Env) (s : SecurityTestSuite) : Option (List Bool × Nat) := do
  let (results, s) ← runTests s (tests env)
  let report := generateReport s
  if !env.canWrite (join s.projectRoot "security_test_report.json") then none
  pure (results, if report.failed == 0 then 0 else 1)

/-- a tree under `/srv/web3` that passes every check but one: its consensus module has no
`validate_with_requirements` -/
def sampleFiles : List (String × String) :=
  [("/srv/web3/stoq/src/transport/falcon.rs",
    "use pqcrypto_falcon::falcon1024;\nuse pqcrypto_falcon::falcon512;\n" ++
      "fn generate_keypair() {}\nfn sign() {}\nfn verify() {}\n"),
   ("/srv/web3/stoq/src/transport/certificates.rs",
    "use rustls;\nuse rcgen;\nuse sha2;\nfn generate_real_private_key() { RsaPrivateKey::new() }\n" ++
    "fn calculate_fingerprint() {}\nfn validate_certificate() {}\nfn check_and_rotate_certificate() {}\n" ++
    "struct TrustChainClient;\n"),
   ("/srv/web3/trustchain/src/consensus/mod.rs",
    "use sha2;\nuse bincode;\nstruct StakeProof;\nstruct TimeProof;\nstruct SpaceProof;\nstruct WorkProof;\n" ++
    "fn generate_from_network() {}\nfn validate() {}\n"),
   ("/srv/web3/trustchain/src/validation.rs",
    "fn validate_node_id() {}\nfn validate_certificate_request() {}\nfn validate_ipv6() {}\n" ++
    "fn validate_consensus_proof() {}\nfn sanitize_input() {}\n"),
   ("/srv/web3/stoq/src/net.rs",
    String.join (List.replicate 10 "let peer: Ipv6Addr = LOCAL;\n") ++
    "headers.insert(\"X-Frame-Options\", DENY);\nlet limit = RateLimit::new();\nverify_csrf(token);\n"),
   ("/srv/web3/stoq/Cargo.toml", "quinn = \"0.10\"\nrustls = \"0.21\"\n")]

/-- the matching lines `grep -r` prints for `sampleFiles`, as `path:line` -/
def sampleGrep (pattern : String) : String :=
  let out := fun (file line : String) (n : Nat) => String.join (List.replicate n (file ++ ":" ++ line ++ "\n"))
  if pattern = "Ipv6Addr" then out "/srv/web3/stoq/src/net.rs" "let peer: Ipv6Addr = LOCAL;" 10
  else if pattern = "X-Content-Type-Options\\|X-Frame-Options" then
    out "/srv/web3/stoq/src/net.rs" "headers.insert(\"X-Frame-Options\", DENY);" 1
  else if pattern = "rate_limit\\|RateLimit" then out "/srv/web3/stoq/src/net.rs" "let limit = RateLimit::new();" 1
  else if pattern = "csrf\\|CSRF" then out "/srv/web3/stoq/src/net.rs" "verify_csrf(token);" 1
  else if pattern = "quinn" then out "/srv/web3/stoq/Cargo.toml" "quinn = \"0.10\"" 1
  else if pattern = "rustls" then out "/srv/web3/stoq/Cargo.toml" "rustls = \"0.21\"" 1
  else ""

def sampleEnv : Env where
  pathExists p := (sampleFiles.lookup p).isSome
  readText p := sampleFiles.lookup p
  grep := sampleGrep
  canWrite _ := true

set_option maxRecDepth 4000 in
/-- `test_consensus_validation` returns `False` for the missing method without appending to `failed`, and every
other test passes, so `run_all_tests` exits with 0. -/
theorem unrecorded_consensus_failure :
    (testConsensusValidation sampleEnv { projectRoot := "/srv/web3" }).map Prod.fst = some false ∧
    runAllTests sampleEnv { projectRoot := "/srv/web3" } =
      some ([true, true, true, true, true, false, true, true], 0) := by
  constructor <;> decide

end Hypermesh.TestSuite
