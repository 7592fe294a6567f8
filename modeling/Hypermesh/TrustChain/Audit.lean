import Mathlib
import Hypermesh.TrustChain.Search
/-
`TrustChainSecurityAuditor` (`trustchain/security_audit.py`): the five category audits, the production-readiness
checks, `generate_report` and `audit_all`.

The auditor reads its environment through `Env`: rg's standard output for a pattern and a search path (read back by
`_search_pattern`, `Hypermesh.TrustChain.Search`), `Path.exists`, `Path.read_text` (`none` when it raises, which
ends `audit_all` with the exception) and `Path.glob("*.rs")`. Paths are strings joined by `/`, as `str(path)`
prints them.

Each category audit builds a local `violations` list (`theaterViolations`, ...) and returns a dict of its counts,
flags and first ten violations (`CategoryResult`). `generate_report` sums the entries `total_violations`, `critical`
and `high` of the six dicts with `dict.get(key, 0)`.

Results:
- `auditAll_counts`: the report's three totals are the sums of those entries;
- `report_misses_records`: on a tree with a test bypass in `consensus/` and a mock response in `api/handlers.rs`, the
  audits create one CRITICAL and one HIGH record that the report's totals and score leave out.
-/

namespace Hypermesh.TrustChain.Audit

open PyStr Search

structure SecurityViolation where
  severity : String
  category : String
  file : String
  line : Int
  pattern : String
  context : String
  remediation : String
  deriving DecidableEq, Repr

/-- what the auditor reads of the file system and of rg -/
structure Env where
  /-- rg's standard output for a pattern searched under a path; `none` when `subprocess.run` raises -/
  rg : String → String → Option String
  /-- `Path.exists()` -/
  pathExists : String → Bool
  /-- `Path.read_text()`; `none` when it raises -/
  readText : String → Option String
  /-- `Path.glob("*.rs")` of a directory: the paths, in listing order -/
  globRs : String → List String

/-- a category's result dict: its integer entries, its Boolean entries, and its `violations` entry -/
structure CategoryResult where
  counts : List (String × Nat)
  flags : List (String × Bool)
  violations : List SecurityViolation
  deriving DecidableEq, Repr

/-- `r.get(key, 0)` of an integer entry -/
def CategoryResult.get (r : CategoryResult) (key : String) : Nat := (r.counts.lookup key).getD 0

/-- `r[key]` of a Boolean entry (every flag read is present) -/
def CategoryResult.flag (r : CategoryResult) (key : String) : Bool := (r.flags.lookup key).getD false

structure TrustChainSecurityAuditor where
  basePath : String
  deriving DecidableEq, Repr

/-- `self.src_path` -/
def TrustChainSecurityAuditor.srcPath (self : TrustChainSecurityAuditor) : String := self.basePath ++ "/src"

/-- the violations of one table of rg patterns: name, pattern, severity, description -/
def patternViolations (env : Env) (path category : String) (remediation : String → String → String)
    (patterns : List (String × String × String × String)) (keep : String × Int × String → Bool) :
    List SecurityViolation :=
  patterns.flatMap fun (name, pattern, severity, description) =>
    ((searchPattern (env.rg pattern path)).filter keep).map fun (file, line, context) =>
      { severity, category, file, line, pattern := name, context, remediation := remediation name description }

/-! ## The category audits -/

def theaterPatterns : List (String × String × String × String) :=
  [("default_for_testing", "default_for_testing\\(\\)", "CRITICAL", "Testing bypass in production code"),
   ("mock_implementations", "\\bmock_|Mock\\b", "HIGH", "Mock implementation instead of real security"),
   ("stub_functions", "\\bstub\\b|TODO.*security|FIXME.*security", "HIGH", "Incomplete security implementation"),
   ("hardcoded_values", "hardcoded|test_key|dummy_", "MEDIUM", "Hardcoded security values")]

def theaterViolations (self : TrustChainSecurityAuditor) (env : Env) : List SecurityViolation :=
  patternViolations env self.srcPath "Security Theater"
    (fun name description => "Remove " ++ name ++ " and implement real security: " ++ description)
    theaterPatterns fun _ => true

def auditSecurityTheater (self : TrustChainSecurityAuditor) (env : Env) : CategoryResult :=
  let violations := theaterViolations self env
  { counts := [("total_violations", violations.length),
      ("critical", violations.countP (·.severity = "CRITICAL")), ("high", violations.countP (·.severity = "HIGH"))]
    flags := []
    violations := violations.take 10 }

def hsmPatterns : List (String × String × String × String) :=
  [("hsm_imports", "use.*hsm|HSM", "CRITICAL", "HSM import found"),
   ("hsm_config", "HSMConfig|CloudHSM", "CRITICAL", "HSM configuration present"),
   ("hsm_operations", "hsm_operations|hsm_client", "HIGH", "HSM operations in code")]

def hsmViolations (self : TrustChainSecurityAuditor) (env : Env) : Option (List SecurityViolation) := do
  let cargoPath := self.basePath ++ "/Cargo.toml"
  let cargo ← if env.pathExists cargoPath then do
      let cargoContent ← env.readText cargoPath
      pure (if contains cargoContent.toList "aws-sdk-cloudhsm" || contains cargoContent.toList "pkcs11" then
        [{ severity := "CRITICAL", category := "HSM Dependency", file := cargoPath, line := 0,
           pattern := "cargo_dependency", context := "HSM dependencies in Cargo.toml",
           remediation := "Remove HSM dependencies from Cargo.toml - software-only requirement" }]
        else [])
    else pure []
  pure (cargo ++ patternViolations env (self.srcPath ++ "/ca") "HSM Dependency"
    (fun _ description => "Remove HSM dependency: " ++ description) hsmPatterns fun _ => true)

def auditHsmDependencies (self : TrustChainSecurityAuditor) (env : Env) : Option CategoryResult := do
  let violations ← hsmViolations self env
  pure { counts := [("total_violations", violations.length)]
         flags := [("requires_removal", decide (violations.length > 0))]
         violations := violations.take 10 }

def dnsPatterns : List (String × String × String × String) :=
  [("localhost_refs", "localhost|127\\.0\\.0\\.1|::1", "HIGH", "Localhost reference in DNS code"),
   ("stub_resolvers", "stub.*resolver|mock.*dns", "HIGH", "Stub DNS resolver"),
   ("hardcoded_ips", "\\d\x7b1,3\x7d\\.\\d\x7b1,3\x7d\\.\\d\x7b1,3\x7d\\.\\d\x7b1,3\x7d", "MEDIUM",
    "Hardcoded IP address")]

/-- the DNS audit's skip test: `"test" in file.lower() or "#[cfg(test)]" in context` -/
def isTestMatch (m : String × Int × String) : Bool :=
  contains (lower m.1.toList) "test" || contains m.2.2.toList "#[cfg(test)]"

def dnsViolations (self : TrustChainSecurityAuditor) (env : Env) : List SecurityViolation :=
  patternViolations env (self.srcPath ++ "/dns") "DNS Infrastructure"
    (fun _ description => "Replace with production DNS: " ++ description) dnsPatterns fun m => !isTestMatch m

def auditDnsInfrastructure (self : TrustChainSecurityAuditor) (env : Env) : CategoryResult :=
  let violations := dnsViolations self env
  { counts := [("total_violations", violations.length)]
    flags := [("production_ready", violations.isEmpty)]
    violations := violations.take 10 }

/-- the per-line test of the consensus audit -/
def consensusLineViolations (file : String) (content : List Char) : List SecurityViolation :=
  ((content.splitOn '\n').enum.filter fun (_, line) =>
      contains line "default_for_testing" && !contains (slice content (find content line)) "#[cfg(test)]").map
    fun (i, line) =>
      { severity := "CRITICAL", category := "Consensus Validation", file, line := i + 1, pattern := "testing_bypass",
        context := String.mk (strip line), remediation := "Remove default_for_testing() from production code" }

/-- the violations and `has_real_validation` of the consensus audit, over `consensus/*.rs` in listing order -/
def consensusScan (env : Env) : List String → Option (List SecurityViolation × Bool)
  | [] => some ([], false)
  | rustFile :: rest => do
    let content ← env.readText rustFile
    let (violations, real) ← consensusScan env rest
    let here := if contains content.toList "default_for_testing" then
      consensusLineViolations rustFile content.toList else []
    pure (here ++ violations,
      real || (contains content.toList "validate_with_requirements" && contains content.toList "generate_from_network"))

def consensusViolations (self : TrustChainSecurityAuditor) (env : Env) : Option (List SecurityViolation × Bool) :=
  let consensusPath := self.srcPath ++ "/consensus"
  if env.pathExists consensusPath then consensusScan env (env.globRs consensusPath) else some ([], false)

def auditConsensusValidation (self : TrustChainSecurityAuditor) (env : Env) : Option CategoryResult := do
  let (violations, hasRealValidation) ← consensusViolations self env
  pure { counts := [("total_violations", violations.length)]
         flags := [("has_real_validation", hasRealValidation)]
         violations := violations.take 10 }

def apiViolations (self : TrustChainSecurityAuditor) (env : Env) : Option (List SecurityViolation) :=
  let apiPath := self.srcPath ++ "/api/handlers.rs"
  if env.pathExists apiPath then do
    let content ← env.readText apiPath
    pure (((content.toList.splitOn '\n').enum.filter fun (_, line) =>
        contains (lower line) "mock" || contains line "Mock").map fun (i, line) =>
      { severity := "HIGH", category := "API Security", file := apiPath, line := i + 1,
        pattern := "mock_response", context := String.mk (strip line),
        remediation := "Replace mock response with real implementation" })
  else some []

def auditApiSecurity (self : TrustChainSecurityAuditor) (env : Env) : Option CategoryResult := do
  let violations ← apiViolations self env
  pure { counts := [("mock_responses", violations.length)]
         flags := [("production_ready", violations.length == 0)]
         violations := violations.take 10 }

/-! ## Production readiness and the report -/

/-- `prod_matches` of `_check_no_testing_bypasses` -/
def testingBypassMatches (self : TrustChainSecurityAuditor) (env : Env) : List (String × Int × String) :=
  (searchPattern (env.rg "default_for_testing" self.srcPath)).filter fun m => !isTestMatch m

def checkNoTestingBypasses (self : TrustChainSecurityAuditor) (env : Env) : Bool :=
  (testingBypassMatches self env).length == 0

def checkNoMocks (self : TrustChainSecurityAuditor) (env : Env) : Bool :=
  decide ((searchPattern (env.rg "\\bmock_|Mock\\b" (self.srcPath ++ "/api"))).length < 5)

def checkRealDns (self : TrustChainSecurityAuditor) (env : Env) : Bool :=
  env.pathExists (self.srcPath ++ "/dns/production_zones.rs")

def checkNoHsm (self : TrustChainSecurityAuditor) (env : Env) : Bool :=
  decide ((searchPattern (env.rg "HSMConfig|CloudHSM" (self.srcPath ++ "/ca"))).length < 10)

def checkConsensus (self : TrustChainSecurityAuditor) (env : Env) : Bool :=
  env.pathExists (self.srcPath ++ "/consensus/validator.rs")

def checkProductionReadiness (self : TrustChainSecurityAuditor) (env : Env) : CategoryResult :=
  let checks := [("no_testing_bypasses", checkNoTestingBypasses self env),
    ("no_mock_implementations", checkNoMocks self env), ("real_dns_infrastructure", checkRealDns self env),
    ("no_hsm_dependencies", checkNoHsm self env), ("consensus_validation", checkConsensus self env)]
  { counts := [], flags := ("production_ready", checks.all (·.2)) :: checks, violations := [] }

/-- the `results` dict of `audit_all`, in its key order -/
structure Results where
  securityTheater : CategoryResult
  hsmDependencies : CategoryResult
  dnsInfrastructure : CategoryResult
  consensusValidation : CategoryResult
  apiSecurity : CategoryResult
  productionReadiness : CategoryResult
  deriving DecidableEq, Repr

def Results.values (r : Results) : List CategoryResult :=
  [r.securityTheater, r.hsmDependencies, r.dnsInfrastructure, r.consensusValidation, r.apiSecurity,
    r.productionReadiness]

structure Report where
  securityScore : Int
  productionReady : Bool
  totalViolations : Nat
  criticalViolations : Nat
  highViolations : Nat
  categories : Results
  deploymentRecommendation : String
  immediateActions : List String
  deriving DecidableEq, Repr

def getRecommendation (score : Int) (ready : Bool) : String :=
  if score ≥ 90 && ready then "✅ APPROVED: System ready for production deployment"
  else if score ≥ 70 then "⚠️ CONDITIONAL: Fix critical issues before production"
  else "❌ BLOCKED: Significant security issues prevent deployment"

def getImmediateActions (results : Results) : List String :=
  (if results.securityTheater.get "critical" > 0 then
    ["Remove all default_for_testing() calls from production code"] else []) ++
  (if results.hsmDependencies.flag "requires_removal" then
    ["Remove HSM dependencies and implement software-only crypto"] else []) ++
  (if !results.dnsInfrastructure.flag "production_ready" then
    ["Replace localhost DNS stubs with production infrastructure"] else []) ++
  (if results.apiSecurity.get "mock_responses" > 10 then
    ["Replace mock API responses with real implementations"] else []) ++
  (if !results.consensusValidation.flag "has_real_validation" then
    ["Implement real consensus validation without bypasses"] else [])

def generateReport (results : Results) : Report :=
  let totalViolations := (results.values.map (·.get "total_violations")).sum
  let criticalCount := (results.values.map (·.get "critical")).sum
  let highCount := (results.values.map (·.get "high")).sum
  let score : Int := max 0 (100 - criticalCount * 10 - highCount * 5)
  let productionReady := results.productionReadiness.flag "production_ready" && decide (score ≥ 70)
  { securityScore := score
    productionReady
    totalViolations
    criticalViolations := criticalCount
    highViolations := highCount
    categories := results
    deploymentRecommendation := getRecommendation score productionReady
    immediateActions := getImmediateActions results }

def auditAll (self : TrustChainSecurityAuditor) (env : Env) : Option Report := do
  let hsm ← auditHsmDependencies self env
  let consensus ← auditConsensusValidation self env
  let api ← auditApiSecurity self env
  pure (generateReport
    { securityTheater := auditSecurityTheater self env, hsmDependencies := hsm,
      dnsInfrastructure := auditDnsInfrastructure self env, consensusValidation := consensus, apiSecurity := api,
      productionReadiness := checkProductionReadiness self env })

/-- every record the five category audits create, before their `[:10]` cut -/
def auditRecords (self : TrustChainSecurityAuditor) (env : Env) : Option (List SecurityViolation) := do
  let hsm ← hsmViolations self env
  let (consensus, _) ← consensusViolations self env
  let api ← apiViolations self env
  pure (theaterViolations self env ++ hsm ++ dnsViolations self env ++ consensus ++ api)

/-- **What the report counts**: its totals are the theater audit's CRITICAL and HIGH records and the records of
the four audits with a `total_violations` entry; the consensus, HSM, DNS and API severities and the API records
are left out. -/
theorem auditAll_counts (self : TrustChainSecurityAuditor) (env : Env) :
    (auditAll self env).map (fun r => (r.totalViolations, r.criticalViolations, r.highViolations)) = (do
      let hsm ← hsmViolations self env
      let (consensus, _) ← consensusViolations self env
      let _ ← apiViolations self env
      pure ((theaterViolations self env).length + hsm.length + (dnsViolations self env).length + consensus.length,
        (theaterViolations self env).countP (·.severity = "CRITICAL"),
        (theaterViolations self env).countP (·.severity = "HIGH"))) := by
  simp only [auditAll, auditHsmDependencies, auditConsensusValidation, auditApiSecurity]
  cases hsmViolations self env with
  | none => rfl
  | some hsm =>
    cases consensusViolations self env with
    | none => rfl
    | some consensus =>
      cases apiViolations self env with
      | none => rfl
      | some api =>
        simp only [Option.pure_def, Option.bind_eq_bind, Option.some_bind, generateReport, CategoryResult.get,
          Results.values, auditSecurityTheater, auditDnsInfrastructure, checkProductionReadiness, List.map_cons,
          List.map_nil, List.lookup, String.reduceBEq, Option.getD_some, Option.getD_none, List.sum_cons,
          List.sum_nil, Option.map_some']
        simp
        omega

/-- a tree under `/srv/trustchain` with a test bypass in `src/consensus/mod.rs` and a mock response in
`src/api/handlers.rs`; rg finds the bypass under `src` and nothing else -/
def bypassEnv : Env where
  rg pattern path :=
    if path = "/srv/trustchain/src" ∧ (pattern = "default_for_testing\\(\\)" ∨ pattern = "default_for_testing") then
      some "/srv/trustchain/src/consensus/mod.rs:1:let proof = ConsensusProof::default_for_testing();\n"
    else some ""
  pathExists p := p ∈ ["/srv/trustchain/src/consensus", "/srv/trustchain/src/consensus/mod.rs",
    "/srv/trustchain/src/api/handlers.rs"]
  readText p :=
    if p = "/srv/trustchain/src/consensus/mod.rs" then some "let proof = ConsensusProof::default_for_testing();\n"
    else if p = "/srv/trustchain/src/api/handlers.rs" then some "Ok(Json(mock))\n"
    else none
  globRs d := if d = "/srv/trustchain/src/consensus" then ["/srv/trustchain/src/consensus/mod.rs"] else []

/-- The audits create three records, two CRITICAL and one HIGH; the report counts two records, one CRITICAL and no
HIGH, and scores 90 where the records give 75. -/
theorem report_misses_records :
    (auditRecords ⟨"/srv/trustchain"⟩ bypassEnv).map
        (fun rs => (rs.length, rs.countP (·.severity = "CRITICAL"), rs.countP (·.severity = "HIGH"))) =
      some (3, 2, 1) ∧
    (auditAll ⟨"/srv/trustchain"⟩ bypassEnv).map
        (fun r => (r.totalViolations, r.criticalViolations, r.highViolations, r.securityScore)) =
      some (2, 1, 0, 90) := by
  constructor <;> decide

end Hypermesh.TrustChain.Audit
