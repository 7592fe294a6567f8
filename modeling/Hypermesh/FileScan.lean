import Hypermesh.Web3.Invariant
import Hypermesh.Quantum.Evidence
import Hypermesh.Validator.Scan
/-
What one file contributes to each auditor's state. Each scanner wraps its work on a file in a catch-all `except`:
`SecurityAuditor.scan_rust_file` (`security_audit.py`), the per-file body of `_scan_for_pattern` in
`QUANTUM_CERTIFICATE_SECURITY_AUDIT.py` and in `SECURITY_PRODUCTION_READINESS_VALIDATOR.py`, and `_audit_file`.
An exception raised after the first update for a file would leave part of its findings behind.

For a file below the audited root none can be: `relative_to` succeeds, every counter a rule increments is a key
of `stats` (which every reachable state keeps, `Web3.Invariant.run_inv`), and every `lines[line_num-1]` the file
checks read is in range (`Quantum.Audit.lineNumber_le_length`). So each scanner either reads nothing of the file
(`open` or decoding raised) and leaves its state as it was, or adds all of the file's findings and statistics.

Results:
- `scanRustFile_all_or_nothing`, `Quantum.Audit.scanPatternFile_all_or_nothing`,
  `Validator.scanPatternFile_all_or_nothing`, `Quantum.Audit.auditFile_all_or_nothing`: the four scanners, each
  with the findings and counts one file adds;
- `per_file_scans_all_or_nothing`: the four together, with the stats keys of every reachable `SecurityAuditor`.
-/

namespace Hypermesh

/-- a loop in `Except` whose every step succeeds, on the states an invariant `P` allows, with the result of a pure
step `g` runs as the pure loop -/
theorem foldlM_eq_ok {α σ ε : Type} {f : σ → α → Except ε σ} {g : σ → α → σ} (P : σ → Prop) :
    ∀ (xs : List α), (∀ b, ∀ x ∈ xs, P b → f b x = .ok (g b x) ∧ P (g b x)) →
      ∀ {b : σ}, P b → xs.foldlM f b = .ok (xs.foldl g b) ∧ P (xs.foldl g b)
  | [], _, _, hb => ⟨rfl, hb⟩
  | x :: xs, hf, b, hb => by
    obtain ⟨hx, hgx⟩ := hf b x (List.mem_cons_self _ _) hb
    simpa [List.foldlM_cons, hx, bind, Except.bind] using
      foldlM_eq_ok P xs (fun c y hy => hf c y (List.mem_cons_of_mem _ hy)) hgx

namespace Web3.Auditor

open PyStr PyPath

/-! ## `scan_rust_file` -/

/-- the violations the rules report for line `l`, each with its rule, in the order the rules are tried -/
def lineViolations (file : String) (path content : List Char) (l : Nat × List Char) : List (Violation × Rule) :=
  (rules.filter fun r => r.test path content l.2).map fun r =>
    (⟨file, l.1, r.type, r.code l.2, r.severity, r.description⟩, r)

/-- the violations the rules report for a file, in the order the loop appends them -/
def fileViolations (file : String) (path content : List Char) : List (Violation × Rule) :=
  ((content.splitOn '\n').enumFrom 1).flatMap (lineViolations file path content)

/-- what `scan_rust_file` leaves when nothing raises: the file and its lines counted, every violation appended to
its level's list and counted by its rule's counter -/
def scanned (a : SecurityAuditor) (file : String) (path content : List Char) : SecurityAuditor :=
  let found := fileViolations file path content
  { a with
    violations := found.foldl (fun vs x => vs.push x.1 x.2.level) a.violations
    stats := a.stats.plus fun k =>
      ((if k = "files_scanned" then 1 else 0) + if k = "total_lines" then (content.splitOn '\n').length else 0) +
        found.countP fun x => x.2.counter = k }

/-- one violation recorded: appended, and its rule's counter raised -/
def record (a : SecurityAuditor) (x : Violation × Rule) : SecurityAuditor :=
  { a with violations := a.violations.push x.1 x.2.level
           stats := a.stats.plus fun k => if k = x.2.counter then 1 else 0 }

theorem foldl_record (xs : List (Violation × Rule)) (a : SecurityAuditor) :
    xs.foldl record a =
      { a with violations := xs.foldl (fun vs x => vs.push x.1 x.2.level) a.violations
               stats := a.stats.plus fun k => xs.countP fun x => x.2.counter = k } := by
  induction xs generalizing a with
  | nil => simp [Counts.plus]
  | cons x xs ih =>
    simp only [List.foldl_cons, ih, record, Counts.plus_plus, List.countP_cons, decide_eq_true_eq]
    congr 3
    funext k
    by_cases hk : k = x.2.counter
    · simp [hk, Nat.add_comm]
    · simp [hk, Ne.symm hk]

/-- the violation rule `r` reports on line `lineNum` -/
def ruleViolation (file : String) (lineNum : Nat) (line : List Char) (r : Rule) : Violation :=
  ⟨file, lineNum, r.type, r.code line, r.severity, r.description⟩

theorem counter_mem_statKeys {r : Rule} (hr : r ∈ rules) : r.counter ∈ statKeys :=
  (by decide : ∀ r ∈ rules, r.counter ∈ statKeys) r hr

/-- a rule on a line of a file below the root, at a state holding the stats keys, raises nothing -/
theorem applyRule_eq_ok {path content : List Char} {file : String} {a : SecurityAuditor}
    (hfile : relativeTo a.projectRoot ⟨path⟩ = some file) (hkeys : a.stats.map Prod.fst = statKeys)
    (lineNum : Nat) (line : List Char) {r : Rule} (hr : r ∈ rules) :
    applyRule path content lineNum line a r =
      .ok (if r.test path content line then record a (ruleViolation file lineNum line r, r) else a) := by
  unfold applyRule
  split_ifs
  · simp only [hfile, Counts.bump, Counts.add_eq_plus (hkeys ▸ counter_mem_statKeys hr)]
    rfl
  · rfl

theorem foldl_ruleIf (file : String) (path content : List Char) (l : Nat × List Char) :
    ∀ (rs : List Rule) (a : SecurityAuditor),
      rs.foldl (fun b r => if r.test path content l.2 then record b (ruleViolation file l.1 l.2 r, r) else b) a =
        ((rs.filter fun r => r.test path content l.2).map fun r => (ruleViolation file l.1 l.2 r, r)).foldl record a
  | [], _ => rfl
  | r :: rs, a => by
    by_cases h : r.test path content l.2 <;> simp [h, foldl_ruleIf file path content l rs]

/-- a loop over the lists a function gives runs as one loop over their concatenation -/
theorem foldl_flatMap {α β γ : Type} (f : α → List β) (g : γ → β → γ) :
    ∀ (ls : List α) (c : γ), (ls.flatMap f).foldl g c = ls.foldl (fun c a => (f a).foldl g c) c
  | [], _ => rfl
  | a :: ls, c => by simp [List.foldl_append, foldl_flatMap f g ls]

/-- the line loop over a file below the root, from a state holding the stats keys, records every violation -/
theorem scanLines_eq_ok {root file : String} {path content : List Char} (hfile : relativeTo root ⟨path⟩ = some file)
    (a : SecurityAuditor) (hroot : a.projectRoot = root) (hkeys : a.stats.map Prod.fst = statKeys) :
    scanLines path content a = .ok ((fileViolations file path content).foldl record a) := by
  let P := fun b : SecurityAuditor => b.projectRoot = root ∧ b.stats.map Prod.fst = statKeys
  have hrec : ∀ b x, P b → P (record b x) := fun b x hb => ⟨hb.1, by simpa [record] using hb.2⟩
  have hline : ∀ (l : Nat × List Char) b, P b →
      rules.foldlM (applyRule path content l.1 l.2) b = .ok ((lineViolations file path content l).foldl record b) ∧
        P ((lineViolations file path content l).foldl record b) := by
    intro l b hb
    have h := foldlM_eq_ok (f := applyRule path content l.1 l.2)
      (g := fun b r => if r.test path content l.2 then record b (ruleViolation file l.1 l.2 r, r) else b) P rules
      (fun c r hr hc => ⟨applyRule_eq_ok (hc.1 ▸ hfile) hc.2 l.1 l.2 hr,
        by dsimp only; split_ifs; exacts [hrec c _ hc, hc]⟩) hb
    rwa [foldl_ruleIf] at h
  obtain ⟨h, -⟩ := foldlM_eq_ok P _ (fun b l _ hb => hline l b hb) (b := a) ⟨hroot, hkeys⟩
  rw [scanLines, h, fileViolations, foldl_flatMap]


/-- **`scan_rust_file` is all or nothing.** For a file below the root, from a state holding the stats keys, it
either reads nothing and leaves the state as it was, or adds all of the file's violations and counts. -/
theorem scanRustFile_all_or_nothing (env : FsEnv) {a : SecurityAuditor} (hkeys : a.stats.map Prod.fst = statKeys)
    {path file : String} (hfile : relativeTo a.projectRoot path = some file) :
    (env.readText path = none ∧ scanRustFile env path a = a) ∨
      ∃ content, env.readText path = some content ∧
        scanRustFile env path a = scanned a file path.toList content.toList := by
  unfold scanRustFile
  cases env.readText path with
  | none => exact .inl ⟨rfl, rfl⟩
  | some content =>
    refine .inr ⟨content, rfl, ?_⟩
    have hfs : "files_scanned" ∈ a.stats.map Prod.fst := hkeys ▸ by decide
    have htl : "total_lines" ∈ (a.stats.plus fun k => if k = "files_scanned" then 1 else 0).map Prod.fst := by
      simpa [hkeys] using by decide
    have hfile' : relativeTo a.projectRoot ⟨path.toList⟩ = some file := hfile
    simp only [Counts.bump, Counts.add_eq_plus hfs, Counts.add_eq_plus htl]
    rw [scanLines_eq_ok hfile' _ ?_ ?_]
    · simp only [settle, foldl_record, scanned, Counts.plus_plus]
    · rfl
    · simpa using hkeys

end Web3.Auditor

namespace Quantum.Audit

open PyStr PyPath Regex

/-! ## `_scan_for_pattern` and `_audit_file` -/

/-- the findings `_scan_for_pattern` appends for the matching lines among `lines`, `file` being the path relative
to the root -/
def patternFindings (pattern : String × Pattern) (category : SecurityCategory) (severity : SecuritySeverity)
    (description file : String) (lines : List (Nat × List Char)) : List SecurityFinding :=
  lines.filterMap fun l =>
    if search true pattern.2 l.2 then some (patternFinding pattern category severity description file l.1 l.2)
    else none

/-- for a path below the root no raise can happen after the first append: the loop appends and counts one finding
per matching line -/
theorem scanPatternLines_of_relativeTo (pattern : String × Pattern) (category : SecurityCategory)
    (severity : SecuritySeverity) (description filePath : String) {file : String} :
    ∀ (lines : List (Nat × List Char)) (a : QuantumCertificateSecurityAuditor),
      relativeTo a.projectRoot filePath = some file →
      scanPatternLines pattern category severity description filePath lines a =
        { a with findings := a.findings ++ patternFindings pattern category severity description file lines,
                 stats := { a.stats with vulnerabilitiesFound := a.stats.vulnerabilitiesFound +
                   (patternFindings pattern category severity description file lines).length } }
  | [], a, _ => by simp [scanPatternLines, patternFindings]
  | (lineNum, line) :: rest, a, h => by
    have ih := @scanPatternLines_of_relativeTo pattern category severity description filePath file rest
    by_cases hm : search true pattern.2 line <;>
      simp [scanPatternLines, patternFindings, hm, h, ih, Nat.add_assoc, Nat.add_comm 1]

/-- **The pattern scan is all or nothing on a file.** For a path below the root, the loop body leaves the state as
it was when the path is not a file with a scanned suffix or cannot be read, and otherwise appends a finding for
every matching line and counts each. -/
theorem scanPatternFile_all_or_nothing (env : Env) (pattern : String × Pattern) (category : SecurityCategory)
    (severity : SecuritySeverity) (description : String) {a : QuantumCertificateSecurityAuditor}
    {filePath file : String} (hfile : relativeTo a.projectRoot filePath = some file) :
    ((env.isFile filePath && scannedSuffixes.contains ⟨suffix filePath⟩) = false ∨ env.readText filePath = none) ∧
        scanPatternFile env pattern category severity description a filePath = a ∨
      ∃ content, (env.isFile filePath && scannedSuffixes.contains ⟨suffix filePath⟩) = true ∧
        env.readText filePath = some content ∧
        scanPatternFile env pattern category severity description a filePath =
          { a with findings := a.findings ++ patternFindings pattern category severity description file
                     ((readlines content.toList).enumFrom 1),
                   stats := { a.stats with vulnerabilitiesFound := a.stats.vulnerabilitiesFound +
                     (patternFindings pattern category severity description file
                       ((readlines content.toList).enumFrom 1)).length } } := by
  unfold scanPatternFile
  split
  · rename_i hscan
    cases env.readText filePath with
    | none => exact .inl ⟨.inr rfl, rfl⟩
    | some content => exact .inr ⟨content, hscan, rfl, scanPatternLines_of_relativeTo _ _ _ _ _ _ _ hfile⟩
  · exact .inl ⟨.inl (Bool.eq_false_iff.2 ‹_›), rfl⟩

/-- **`_audit_file` is all or nothing.** It leaves the state as it was when the file does not exist or cannot be
read, and otherwise counts the file and its lines and appends all its check's findings, whose line numbers index
lines of the file, so no `lines[line_num-1]` raises after the counts are updated. -/
theorem auditFile_all_or_nothing (env : Env) (relativePath : String)
    {check : String → List Char → List (List Char) → List SecurityFinding} (hcheck : check ∈ fileChecks)
    (a : QuantumCertificateSecurityAuditor) :
    (env.pathExists (join a.projectRoot relativePath) = false ∨
        env.readText (join a.projectRoot relativePath) = none) ∧ auditFile env relativePath check a = a ∨
      ∃ content, env.pathExists (join a.projectRoot relativePath) = true ∧
        env.readText (join a.projectRoot relativePath) = some content ∧
        auditFile env relativePath check a =
          { a with stats := { a.stats with filesScanned := a.stats.filesScanned + 1,
                                           linesScanned := a.stats.linesScanned + (content.toList.splitOn '\n').length }
                   findings := a.findings ++ check relativePath content.toList (content.toList.splitOn '\n') } ∧
        ∀ g ∈ check relativePath content.toList (content.toList.splitOn '\n'),
          g.lineNumber ≤ (content.toList.splitOn '\n').length := by
  unfold auditFile
  dsimp only
  split
  · exact .inl ⟨.inl (Bool.not_eq_true' _ ▸ ‹_›), rfl⟩
  · rename_i hexists
    cases env.readText (join a.projectRoot relativePath) with
    | none => exact .inl ⟨.inr rfl, rfl⟩
    | some content =>
      exact .inr ⟨content, by simpa using hexists, rfl, rfl, lineNumber_le_length hcheck _ _
        (List.length_pos.2 (List.splitOnP_ne_nil _ _))⟩

end Quantum.Audit

/-! ## The four scanners -/

open PyStr PyPath Regex

/-- **Every per-file scan is all or nothing.** Every state a `SecurityAuditor` reaches holds the stats keys; from
such a state `scan_rust_file`, and for every state the per-file body of either `_scan_for_pattern` and
`_audit_file`, on a file below the audited root, either leave the findings and statistics as they were, when the
file is not one the scan reads or could not be opened or decoded, or add every finding of the file together with
its statistics. -/
theorem per_file_scans_all_or_nothing :
    (∀ (env : Web3.Auditor.FsEnv) (root : String) (ops : List Web3.Auditor.Op),
      (Web3.Auditor.run env (.init root) ops).stats.map Prod.fst = Web3.Auditor.statKeys) ∧
    (∀ (env : Web3.Auditor.FsEnv) (a : Web3.Auditor.SecurityAuditor) (path file : String),
      a.stats.map Prod.fst = Web3.Auditor.statKeys → relativeTo a.projectRoot path = some file →
      (env.readText path = none ∧ Web3.Auditor.scanRustFile env path a = a) ∨
        ∃ content, env.readText path = some content ∧
          Web3.Auditor.scanRustFile env path a = Web3.Auditor.scanned a file path.toList content.toList) ∧
    (∀ (env : Quantum.Audit.Env) (pattern : String × Pattern) (category : Quantum.SecurityCategory)
      (severity : Quantum.SecuritySeverity) (description : String) (a : Quantum.QuantumCertificateSecurityAuditor)
      (filePath file : String), relativeTo a.projectRoot filePath = some file →
      ((env.isFile filePath && Quantum.Audit.scannedSuffixes.contains ⟨PyPath.suffix filePath⟩) = false ∨
          env.readText filePath = none) ∧
          Quantum.Audit.scanPatternFile env pattern category severity description a filePath = a ∨
        ∃ content, (env.isFile filePath && Quantum.Audit.scannedSuffixes.contains ⟨PyPath.suffix filePath⟩) = true ∧
          env.readText filePath = some content ∧
          Quantum.Audit.scanPatternFile env pattern category severity description a filePath =
            { a with findings := a.findings ++ Quantum.Audit.patternFindings pattern category severity description
                       file ((readlines content.toList).enumFrom 1),
                     stats := { a.stats with vulnerabilitiesFound := a.stats.vulnerabilitiesFound +
                       (Quantum.Audit.patternFindings pattern category severity description file
                         ((readlines content.toList).enumFrom 1)).length } }) ∧
    (∀ (env : Validator.Env) (pattern : String × Pattern) (severity : Validator.SecurityLevel) (description : String)
      (v : Validator.TrustChainSecurityValidator) (rustFile file : String),
      relativeTo v.projectRoot rustFile = some file →
      (env.readText rustFile = none ∧ Validator.scanPatternFile env pattern severity description v rustFile = v) ∨
        ∃ content, env.readText rustFile = some content ∧
          Validator.scanPatternFile env pattern severity description v rustFile =
            { v with
              violations := v.violations ++ Validator.patternViolations pattern severity description file
                ((readlines content.toList).enumFrom 1) }) ∧
    (∀ (env : Quantum.Audit.Env) (relativePath : String)
      (check : String → List Char → List (List Char) → List Quantum.SecurityFinding),
      check ∈ Quantum.Audit.fileChecks →
      ∀ a : Quantum.QuantumCertificateSecurityAuditor,
      (env.pathExists (join a.projectRoot relativePath) = false ∨
          env.readText (join a.projectRoot relativePath) = none) ∧
          Quantum.Audit.auditFile env relativePath check a = a ∨
        ∃ content, env.pathExists (join a.projectRoot relativePath) = true ∧
          env.readText (join a.projectRoot relativePath) = some content ∧
          Quantum.Audit.auditFile env relativePath check a =
            { a with stats := { a.stats with
                       filesScanned := a.stats.filesScanned + 1,
                       linesScanned := a.stats.linesScanned + (content.toList.splitOn '\n').length }
                     findings := a.findings ++ check relativePath content.toList (content.toList.splitOn '\n') } ∧
          ∀ g ∈ check relativePath content.toList (content.toList.splitOn '\n'),
            g.lineNumber ≤ (content.toList.splitOn '\n').length) :=
  ⟨fun env root ops => (Web3.Invariant.run_inv env root ops).keys,
   fun env _ _ _ hkeys hfile => Web3.Auditor.scanRustFile_all_or_nothing env hkeys hfile,
   fun env pattern category severity description _ _ _ hfile =>
     Quantum.Audit.scanPatternFile_all_or_nothing env pattern category severity description hfile,
   fun env pattern severity description _ _ _ hfile =>
     Validator.scanPatternFile_all_or_nothing env pattern severity description hfile,
   fun env relativePath _ hcheck a => Quantum.Audit.auditFile_all_or_nothing env relativePath hcheck a⟩

/-- a tree under `/srv/web3` whose one Rust file calls `unwrap` -/
def libEnv : Web3.Auditor.FsEnv where
  readText p := if p = "/srv/web3/src/lib.rs" then some "let v = x.unwrap();\n" else none
  rglob _ _ := ["/srv/web3/src/lib.rs"]
  isFile p := p = "/srv/web3/src/lib.rs"
  isDir _ := false
  cargoOutdated _ := none

/-- the library file of `libEnv`, scanned by a fresh auditor -/
theorem lib_file_scanned_whole :
    (Web3.Auditor.run libEnv (.init "/srv/web3") []).stats.map Prod.fst = Web3.Auditor.statKeys ∧
      relativeTo (Web3.Auditor.run libEnv (.init "/srv/web3") []).projectRoot "/srv/web3/src/lib.rs" =
        some "src/lib.rs" ∧
      ((libEnv.readText "/srv/web3/src/lib.rs" = none ∧
          Web3.Auditor.scanRustFile libEnv "/srv/web3/src/lib.rs" (Web3.Auditor.run libEnv (.init "/srv/web3") []) =
            Web3.Auditor.run libEnv (.init "/srv/web3") []) ∨
        ∃ content, libEnv.readText "/srv/web3/src/lib.rs" = some content ∧
          Web3.Auditor.scanRustFile libEnv "/srv/web3/src/lib.rs" (Web3.Auditor.run libEnv (.init "/srv/web3") []) =
            Web3.Auditor.scanned (Web3.Auditor.run libEnv (.init "/srv/web3") []) "src/lib.rs"
              "/srv/web3/src/lib.rs".toList content.toList) :=
  ⟨per_file_scans_all_or_nothing.1 libEnv "/srv/web3" [], by decide,
   per_file_scans_all_or_nothing.2.1 libEnv _ _ _ (per_file_scans_all_or_nothing.1 libEnv "/srv/web3" [])
     (by decide)⟩

end Hypermesh
