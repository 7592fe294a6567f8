import Hypermesh.Web3.Auditor
import Hypermesh.TrustChain.Audit
/-
Where the audited tree sits. `SecurityAuditor.scan_project` (`security_audit.py`) filters the `rglob` result with
`'target' not in str(f)` and `'.security_backup' not in str(f)`, and the DNS audit and `_check_no_testing_bypasses`
of `TrustChainSecurityAuditor` (`trustchain/security_audit.py`) skip rg matches with `"test" in file.lower()`. Each
test reads the whole printed path, root included.

A source tree is a list of root-relative files with their contents. `Tree.fsEnv` and `Tree.env` place it at a root:
`rglob`, `open`, `Path.exists` and `Path.glob` read the placed files, and rg prints `path:line:text` for each line,
numbered from 1, of each file below the searched directory that its pattern matches. rg's patterns are read by the
matcher of `Hypermesh.Regex` (`rgPattern`); its `\d` is ASCII where rg's is Unicode.

Result:
- `audits_depend_on_root_location`: one tree, placed at `/srv/web3` and at `/srv/test-targets/web3`. At the first
  root `scan_project` scans both `.rs` files, the DNS audit reports the localhost line and the bypass check counts
  one match; at the second it scans nothing, reports nothing and counts nothing.
-/

namespace Hypermesh.Placement

open PyStr PyPath Regex Web3.Auditor TrustChain.Audit

/-- a source tree: root-relative paths and contents -/
abbrev Tree := List (String × String)

/-- the glob patterns the auditors use: `*suffix` and a plain file name -/
def globMatch (pat path : String) : Bool :=
  match pat.toList with
  | '*' :: suffix => endsWith (name path) ⟨suffix⟩
  | _ => name path == pat.toList

/-- the tree's files at a root, with their `str` paths -/
def Tree.files (t : Tree) (root : String) : List (String × String) := t.map fun f => (join root f.1, f.2)

/-- is `p` strictly below directory `d` -/
def below (d p : String) : Bool := (dirPrefix d).isPrefixOf p.toList

/-- the tree at a root, as `SecurityAuditor` reads it; `cargo outdated` is not installed -/
def Tree.fsEnv (t : Tree) (root : String) : FsEnv where
  readText p := (t.files root).lookup p
  rglob d pat := ((t.files root).map Prod.fst).filter fun p => below d p && globMatch pat p
  isFile p := ((t.files root).map Prod.fst).contains p
  isDir d := ((t.files root).map Prod.fst).any (below d)
  cargoOutdated _ := none

/-- the rg patterns of the DNS audit and of `_check_no_testing_bypasses` -/
def rgPattern (pattern : String) : Option Pattern :=
  if pattern = "localhost|127\\.0\\.0\\.1|::1" then some (words ["localhost", "127.0.0.1", "::1"])
  else if pattern = "stub.*resolver|mock.*dns" then
    some (alts [seqs [lit "stub", .star anyChar, lit "resolver"], seqs [lit "mock", .star anyChar, lit "dns"]])
  else if pattern = "\\d\x7b1,3\x7d\\.\\d\x7b1,3\x7d\\.\\d\x7b1,3\x7d\\.\\d\x7b1,3\x7d" then
    let octet := seqs [digit, opt digit, opt digit]
    some (seqs [octet, .char '.', octet, .char '.', octet, .char '.', octet])
  else if pattern = "default_for_testing" then some (lit "default_for_testing")
  else none

/-- `rg -n --no-heading pattern path` over placed files -/
def rgOutput (files : List (String × String)) (pattern path : String) : String :=
  match rgPattern pattern with
  | none => ""
  | some p =>
    String.join (files.flatMap fun (file, content) =>
      if below path file then
        ((content.toList.splitOn '\n').enumFrom 1).filterMap fun (i, line) =>
          if search false p line then some (file ++ ":" ++ toString i ++ ":" ++ String.mk line ++ "\n") else none
      else [])

/-- the tree at a root, as `TrustChainSecurityAuditor` reads it -/
def Tree.env (t : Tree) (root : String) : Env where
  rg pattern path := some (rgOutput (t.files root) pattern path)
  pathExists p := ((t.files root).map Prod.fst).any fun q => q == p || below p q
  readText p := (t.files root).lookup p
  globRs d := ((t.files root).map Prod.fst).filter fun p => below d p && globMatch "*.rs" p &&
    !((p.toList.drop (dirPrefix d).length).contains '/')

/-- a DNS resolver with a localhost upstream and a consensus module with a test bypass -/
def sampleTree : Tree :=
  [("src/dns/resolver.rs", "let upstream = \"localhost\";\n"),
   ("src/consensus/mod.rs", "let proof = ConsensusProof::default_for_testing();\n")]

/-- The same tree audited at two roots: at `/srv/web3` both `.rs` files are scanned, the DNS audit keeps the
localhost line and the bypass check counts one match; at `/srv/test-targets/web3` nothing is scanned, kept or
counted, because the root's own `target` and `test` trip the exclusion tests. -/
theorem audits_depend_on_root_location :
    (rustFiles (sampleTree.fsEnv "/srv/web3") "/srv/web3").map (relativeTo "/srv/web3") =
      [some "src/dns/resolver.rs", some "src/consensus/mod.rs"] ∧
    (rustFiles (sampleTree.fsEnv "/srv/test-targets/web3") "/srv/test-targets/web3").map
      (relativeTo "/srv/test-targets/web3") = [] ∧
    (dnsViolations ⟨"/srv/web3"⟩ (sampleTree.env "/srv/web3")).map (fun v => (relativeTo "/srv/web3" v.file, v.line)) =
      [(some "src/dns/resolver.rs", 1)] ∧
    (dnsViolations ⟨"/srv/test-targets/web3"⟩ (sampleTree.env "/srv/test-targets/web3")).map
      (fun v => (relativeTo "/srv/test-targets/web3" v.file, v.line)) = [] ∧
    (testingBypassMatches ⟨"/srv/web3"⟩ (sampleTree.env "/srv/web3")).length = 1 ∧
    (testingBypassMatches ⟨"/srv/test-targets/web3"⟩ (sampleTree.env "/srv/test-targets/web3")).length = 0 := by
  refine ⟨?_, ?_, ?_, ?_, ?_, ?_⟩ <;> decide

end Hypermesh.Placement
