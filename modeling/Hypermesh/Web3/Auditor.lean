import Hypermesh.Counts
import Hypermesh.PyPath
import Hypermesh.Regex
/-
`SecurityAuditor` (`security_audit.py`, the Web3 ecosystem audit): the ten line rules of `scan_rust_file`,
`scan_project`, `check_dependencies`, `analyze_crypto_implementations` with `deep_scan_crypto`, `generate_report` and
`generate_recommendations`.

The auditor's state is its root, the `violations` dict of four lists and the `stats` dict of counters (`Counts`).
The file system and `cargo outdated` are read through `FsEnv`. Paths are `str(path)` strings (`Hypermesh.PyPath`).

Every operation catches what it raises (`except Exception`, bare `except`), so it returns a state: the one reached
when the exception was raised. The ten rules of `scan_rust_file` are the table `rules`; a rule that fires builds
the violation dict (whose `relative_to` may raise), appends it and increments its counter. The line loop runs in
`Except SecurityAuditor SecurityAuditor`, whose error carries the state at the raise, and `settle` is the
`except` clause that keeps it.

Not modelled: the console output, and the report's `audit_timestamp`.
-/

namespace Hypermesh.Web3.Auditor

open PyStr PyPath Regex

/-- the file system and the tools the auditor reads -/
structure FsEnv where
  /-- `open(path).read()`; `none` when it raises (missing, unreadable or undecodable file) -/
  readText : String → Option String
  /-- `Path(dir).rglob(pattern)`, as `str` paths -/
  rglob : String → String → List String
  isFile : String → Bool
  isDir : String → Bool
  /-- the standard output of `cargo outdated --manifest-path path`; `none` when `subprocess.run` raises -/
  cargoOutdated : String → Option String

/-! ## State -/

/-- a violation dict: `file`, `line`, `type`, `code`, `severity`, `description` -/
structure Violation where
  file : String
  line : Nat
  type : String
  code : String
  severity : String
  description : String
  deriving DecidableEq, Repr

/-- the keys of the `violations` dict -/
inductive Level where
  | critical | high | medium | low
  deriving DecidableEq, Repr

/-- `self.violations`: one list per level -/
structure Violations where
  critical : List Violation := []
  high : List Violation := []
  medium : List Violation := []
  low : List Violation := []
  deriving DecidableEq, Repr

namespace Violations

/-- `self.violations[level].append(v)` -/
def push (vs : Violations) (v : Violation) : Level → Violations
  | .critical => { vs with critical := vs.critical ++ [v] }
  | .high => { vs with high := vs.high ++ [v] }
  | .medium => { vs with medium := vs.medium ++ [v] }
  | .low => { vs with low := vs.low ++ [v] }

/-- the four lists in the dict's order, as `self.violations.values()` gives them -/
def all (vs : Violations) : List Violation := vs.critical ++ vs.high ++ vs.medium ++ vs.low

/-- the number of violations of a type across the four lists -/
def count (vs : Violations) (type : String) : Nat := vs.all.countP (·.type = type)

end Violations

structure SecurityAuditor where
  projectRoot : String
  violations : Violations
  stats : Counts String
  deriving DecidableEq, Repr

/-- the keys of `self.stats`, in order -/
def statKeys : List String :=
  ["total_files", "files_scanned", "total_lines", "mock_implementations", "test_bypasses", "unwrap_calls",
    "placeholder_code", "missing_validation", "hardcoded_secrets", "insecure_random", "sql_injection",
    "command_injection", "path_traversal", "unsafe_deserialization"]

/-- `SecurityAuditor(project_root)` -/
def SecurityAuditor.init (projectRoot : String) : SecurityAuditor := ⟨projectRoot, {}, Counts.ofFn statKeys fun _ => 0⟩

/-- the state an `except` clause leaves: the one reached when the exception was raised -/
def settle : Except SecurityAuditor SecurityAuditor → SecurityAuditor
  | .ok a => a
  | .error a => a

/-! ## The line rules of `scan_rust_file` -/

/-- `(mock|Mock|MOCK).*?(crypto|Crypto|falcon|Falcon|certificate|Certificate)` -/
def mockPattern : Pattern :=
  seqs [words ["mock", "Mock", "MOCK"], .star anyChar,
    words ["crypto", "Crypto", "falcon", "Falcon", "certificate", "Certificate"]]

/-- `(TODO|FIXME|HACK|XXX).*?(security|Security|crypto|auth|Auth)` -/
def placeholderPattern : Pattern :=
  seqs [words ["TODO", "FIXME", "HACK", "XXX"], .star anyChar, words ["security", "Security", "crypto", "auth", "Auth"]]

/-- `(private_key|secret|password|api_key)\s*=\s*["\'][\w]{8,}["\']` -/
def secretPattern : Pattern :=
  seqs [words ["private_key", "secret", "password", "api_key"], .star space, .char '=', .star space, oneOf "\"'",
    atLeast 8 wordChar, oneOf "\"'"]

/-- `Command::new.*format!|Command::new.*\+` -/
def commandPattern : Pattern :=
  alts [seqs [lit "Command::new", .star anyChar, lit "format!"], seqs [lit "Command::new", .star anyChar, .char '+']]

/-- one `if` block of the line loop: its condition, the dict it appends and the counter it increments -/
structure Rule where
  level : Level
  type : String
  severity : String
  description : String
  counter : String
  /-- the condition, on `str(file_path)`, the file's content and the line -/
  test : List Char → List Char → List Char → Bool
  /-- the dict's `code` entry, from the line -/
  code : List Char → String := fun line => ⟨strip line⟩

/-- the ten rules, in the order the loop tries them -/
def rules : List Rule := [
  { level := .critical, type := "MOCK_CRYPTOGRAPHY", severity := "CRITICAL", counter := "mock_implementations",
    description := "Mock cryptographic implementation detected",
    test := fun _ _ line => search true mockPattern line },
  { level := .critical, type := "TEST_BYPASS", severity := "CRITICAL", counter := "test_bypasses",
    description := "Test bypass method in production code",
    test := fun path _ line => contains line "default_for_testing" && !endsWith path "_test.rs" },
  { level := .high, type := "UNWRAP_PANIC", severity := "HIGH", counter := "unwrap_calls",
    description := "Unwrap() can cause panic in production",
    test := fun _ content line =>
      contains line ".unwrap()" && !contains (slice content (find content line)) "#[test]" },
  { level := .critical, type := "PLACEHOLDER_SECURITY", severity := "CRITICAL", counter := "placeholder_code",
    description := "Placeholder security implementation",
    test := fun _ _ line => search true placeholderPattern line },
  { level := .high, type := "MISSING_VALIDATION", severity := "HIGH", counter := "missing_validation",
    description := "Parse without error handling",
    test := fun _ _ line => contains line "parse()" && !contains line "expect" && !contains line "?" },
  { level := .critical, type := "HARDCODED_SECRET", severity := "CRITICAL", counter := "hardcoded_secrets",
    description := "Hardcoded secret or key detected",
    test := fun _ _ line => search true secretPattern line,
    code := fun line => ⟨(strip line).take 50 ++ "...".toList⟩ },
  { level := .high, type := "INSECURE_RANDOM", severity := "HIGH", counter := "insecure_random",
    description := "Non-cryptographic random used for security",
    test := fun _ content line =>
      contains line "rand::random" && ["crypto", "key", "nonce", "salt"].any (contains content) },
  { level := .critical, type := "COMMAND_INJECTION", severity := "CRITICAL", counter := "command_injection",
    description := "Potential command injection vulnerability",
    test := fun _ _ line => search false commandPattern line },
  { level := .high, type := "PATH_TRAVERSAL", severity := "HIGH", counter := "path_traversal",
    description := "Potential path traversal vulnerability",
    test := fun _ _ line => contains line "../" || contains line "..\\" },
  { level := .medium, type := "UNSAFE_DESERIALIZATION", severity := "MEDIUM", counter := "unsafe_deserialization",
    description := "Unsafe deserialization of untrusted data",
    test := fun _ _ line => contains line "bincode::deserialize" && !contains (lower line) "untrusted" }]

/-- one rule on line `lineNum` of the file at `path`: build the dict, append it, increment the counter -/
def applyRule (path content : List Char) (lineNum : Nat) (line : List Char) (a : SecurityAuditor) (r : Rule) :
    Except SecurityAuditor SecurityAuditor :=
  if r.test path content line then
    match relativeTo a.projectRoot ⟨path⟩ with
    | none => .error a
    | some file =>
      let v : Violation := ⟨file, lineNum, r.type, r.code line, r.severity, r.description⟩
      let a := { a with violations := a.violations.push v r.level }
      match a.stats.bump r.counter with
      | none => .error a
      | some stats => .ok { a with stats }
  else .ok a

/-- the loop `for line_num, line in enumerate(lines, 1)` over the ten rules -/
def scanLines (path content : List Char) (a : SecurityAuditor) : Except SecurityAuditor SecurityAuditor :=
  ((content.splitOn '\n').enumFrom 1).foldlM (fun a l => rules.foldlM (applyRule path content l.1 l.2) a) a

/-! ## The operations -/

/-- `scan_rust_file(file_path)` -/
def scanRustFile (env : FsEnv) (path : String) (a : SecurityAuditor) : SecurityAuditor :=
  match env.readText path with
  | none => a
  | some content =>
    let lines := content.toList.splitOn '\n'
    match a.stats.bump "files_scanned" with
    | none => a
    | some stats =>
      match stats.add "total_lines" lines.length with
      | none => { a with stats }
      | some stats => settle (scanLines path.toList content.toList { a with stats })

/-- the files `scan_project` scans: `rglob("*.rs")` without those whose path has `target` or `.security_backup`
or whose name has `test` -/
def rustFiles (env : FsEnv) (root : String) : List String :=
  (env.rglob root "*.rs").filter fun f =>
    !contains f.toList "target" && !contains (name f) "test" && !contains f.toList ".security_backup"

/-- `scan_project()` -/
def scanProject (env : FsEnv) (a : SecurityAuditor) : SecurityAuditor :=
  let a := { a with stats := a.stats.set "total_files" (env.rglob a.projectRoot "*.rs").length }
  (rustFiles env a.projectRoot).foldl (fun a f => scanRustFile env f a) a

/-- `check_dependencies()` -/
def checkDependencies (env : FsEnv) (a : SecurityAuditor) : SecurityAuditor :=
  (env.rglob a.projectRoot "Cargo.toml").foldl (fun a cargoPath =>
    if contains cargoPath.toList "target" then a else
    match env.cargoOutdated cargoPath with
    | none => a
    | some out =>
      if contains (lower out.toList) "outdated" then
        match relativeTo a.projectRoot cargoPath with
        | none => a
        | some file =>
          { a with violations := a.violations.push ⟨file, 0, "OUTDATED_DEPENDENCIES",
              "Multiple outdated dependencies detected", "MEDIUM",
              "Outdated dependencies may contain security vulnerabilities"⟩ .medium }
      else a) a

/-- `deep_scan_crypto(file_path)` -/
def deepScanCrypto (env : FsEnv) (path : String) (a : SecurityAuditor) : SecurityAuditor :=
  match env.readText path with
  | none => a
  | some content =>
    if contains content.toList "pqcrypto" || contains content.toList "ring" || contains content.toList "rustls" then a
    else if contains (lower (name path)) "crypto" || contains (lower (name path)) "falcon" then
      match relativeTo a.projectRoot path with
      | none => a
      | some file =>
        { a with violations := a.violations.push ⟨file, 0, "NO_CRYPTO_LIBRARY",
            "File contains crypto code but no real crypto library imports", "CRITICAL",
            "Cryptographic implementation without proper library"⟩ .critical }
    else a

/-- the paths `analyze_crypto_implementations` looks at -/
def cryptoFiles : List String :=
  ["stoq/src/transport/falcon.rs", "stoq/src/transport/certificates.rs", "trustchain/src/crypto/",
    "hypermesh/src/security/"]

/-- `analyze_crypto_implementations()` -/
def analyzeCryptoImplementations (env : FsEnv) (a : SecurityAuditor) : SecurityAuditor :=
  cryptoFiles.foldl (fun a cryptoPath =>
    let fullPath := join a.projectRoot cryptoPath
    if env.isFile fullPath then deepScanCrypto env fullPath a
    else if env.isDir fullPath then (env.rglob fullPath "*.rs").foldl (fun a f => deepScanCrypto env f a) a
    else a) a

/-- the auditor's public operations -/
inductive Op where
  | scanRustFile (path : String)
  | scanProject
  | checkDependencies
  | analyzeCryptoImplementations

def step (env : FsEnv) (a : SecurityAuditor) : Op → SecurityAuditor
  | .scanRustFile path => scanRustFile env path a
  | .scanProject => scanProject env a
  | .checkDependencies => checkDependencies env a
  | .analyzeCryptoImplementations => analyzeCryptoImplementations env a

def run (env : FsEnv) (a : SecurityAuditor) (ops : List Op) : SecurityAuditor := ops.foldl (step env) a

/-! ## The report -/

/-- the conditional recommendations: a `stats` key, the count it must exceed, the text -/
def recommendationRules : List (String × Nat × String) := [
  ("mock_implementations", 0,
    "CRITICAL: Replace all mock cryptographic implementations with real libraries (pqcrypto-falcon, ring, rustls)"),
  ("test_bypasses", 0, "CRITICAL: Remove all default_for_testing() methods from production code paths"),
  ("unwrap_calls", 100, "HIGH: Replace unwrap() calls with proper error handling using Result<T, E> and ?"),
  ("placeholder_code", 0, "CRITICAL: Complete all TODO/FIXME security implementations before production"),
  ("hardcoded_secrets", 0, "CRITICAL: Move all secrets to environment variables or secure key management"),
  ("missing_validation", 0, "HIGH: Add input validation for all external data sources")]

/-- the recommendations every report ends with -/
def standardRecommendations : List String :=
  ["Implement comprehensive input validation framework", "Add rate limiting to all public endpoints",
    "Enable security headers (HSTS, CSP, X-Frame-Options)", "Implement proper authentication and authorization",
    "Add audit logging for security events", "Configure TLS 1.3 with strong cipher suites",
    "Implement certificate pinning for critical connections", "Add intrusion detection monitoring",
    "Perform regular dependency updates and security scanning", "Implement secure session management"]

/-- `generate_recommendations()`; `none` is a `KeyError` -/
def generateRecommendations (a : SecurityAuditor) : Option (List String) := do
  let recs ← recommendationRules.mapM fun (key, bound, text) =>
    (a.stats.get? key).map fun n => if bound < n then [text] else []
  pure (recs.flatten ++ standardRecommendations)

/-- the keys of the report's `violation_types`, in order -/
def violationTypeKeys : List String :=
  ["mock_implementations", "test_bypasses", "unwrap_calls", "placeholder_code", "missing_validation",
    "hardcoded_secrets", "insecure_random", "command_injection", "path_traversal", "unsafe_deserialization"]

structure Summary where
  totalViolations : Nat
  critical : Nat
  high : Nat
  medium : Nat
  low : Nat
  filesScanned : Nat
  totalLines : Nat
  deriving DecidableEq, Repr

structure Report where
  projectRoot : String
  summary : Summary
  violationTypes : Counts String
  violations : Violations
  recommendations : List String
  deriving DecidableEq, Repr

/-- `generate_report()`; `none` is a `KeyError` -/
def generateReport (a : SecurityAuditor) : Option Report := do
  let filesScanned ← a.stats.get? "files_scanned"
  let totalLines ← a.stats.get? "total_lines"
  let violationTypes ← violationTypeKeys.mapM fun key => (a.stats.get? key).map (key, ·)
  let recommendations ← generateRecommendations a
  let vs := a.violations
  pure ⟨a.projectRoot, ⟨vs.all.length, vs.critical.length, vs.high.length, vs.medium.length, vs.low.length,
    filesScanned, totalLines⟩, violationTypes, vs, recommendations⟩

end Hypermesh.Web3.Auditor
