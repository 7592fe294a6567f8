import Mathlib
import Hypermesh.Remediation
import Hypermesh.Server.Values
/-
A run of `SecurityRemediator` (`security_remediation.py`) over a project tree. `main` builds the remediator and
calls `fix_test_bypasses`, `fix_mock_implementations`, `fix_unwrap_calls` and `add_input_validation` in turn. Each of
the first three passes copies a listed file into the backup directory before it reads it (`backup_file`), rewrites
the text with the functions of `Hypermesh.Remediation`, writes it back when it changed, and raises counters of
`fixes_applied`.

A tree (`Tree`) holds the text of each file that decodes, the paths of the files that do not decode in the locale's
encoding, and its directories, empty ones included; a path is a directory also when something lies below it.
`Path.exists()` holds of all three. At a listed path that exists, a directory makes `shutil.copy2` raise
`IsADirectoryError`, and a file that does not decode makes `read()` raise `UnicodeDecodeError` (`Tree.read`). Nothing
catches either, so the script stops (`none`). The backup directory is a second tree under the same relative paths. Its
name carries the start time, so a run begins with it empty. `open(path, 'w')` of `trustchain/src/validation.rs`
raises `FileNotFoundError` when `trustchain/src` is not a directory and `IsADirectoryError` when the module's path is
one. `generate_report` and the progress messages only print and are left out.

Results:
- `touches_fixTestBypasses`, `touches_fixMockImplementations`, `touches_fixUnwrapCalls`: a pass changes and backs
  up only the files of its list, and returns exactly when each of them can be read (`Touches`); each loop body
  touches its own file (`touches_foldl`).
- `main_isSome`: `main` returns exactly when every listed path can be read, `trustchain/src` is a directory and the
  module's path is not.
- `main_backup_of_changed`: restoring the backup undoes a run for every file it changes, apart from
  `trustchain/src/consensus/mod.rs` and `trustchain/src/validation.rs`.
- `main_backup_consensus`: the backup of `trustchain/src/consensus/mod.rs`, which is in two lists, holds the text
  the first pass wrote. `main_validationModule`: `trustchain/src/validation.rs` is overwritten and never backed up.
- `fixUnwrapCalls_unwrapsReplaced`: `unwraps_replaced` counts the lines rewritten, not the calls.
-/

namespace Hypermesh.Remediation

open PyStr Server

/-! ## The remediator -/

/-- `fixes_applied` -/
structure FixesApplied where
  testBypassesRemoved : Nat
  mockImplementationsMarked : Nat
  unwrapsReplaced : Nat
  validationAdded : Nat
  filesModified : Nat
  deriving DecidableEq, Repr

/-- a project tree: the text of each file that decodes, the files that do not, and the directories -/
structure Tree where
  files : PyDict (List Char)
  undecodable : List String
  dirs : List String
  deriving DecidableEq, Repr

/-- a remediator: the tree under `project_root`, the tree under `backup_dir`, and `fixes_applied` -/
structure SecurityRemediator extends Tree where
  backup : PyDict (List Char)
  fixesApplied : FixesApplied
  deriving DecidableEq, Repr

/-- the files `fix_test_bypasses` rewrites -/
def filesToFix : List String :=
  ["trustchain/src/consensus/mod.rs", "trustchain/src/ct/merkle_log.rs", "trustchain/src/ct/storage.rs",
    "trustchain/src/ca/mod.rs", "trustchain/src/lib.rs", "trustchain/src/api/handlers.rs",
    "trustchain/src/api/security_handlers.rs"]

/-- the file `fix_mock_implementations` rewrites -/
def caesarFile : String := "caesar/src/crypto_exchange_providers.rs"

/-- the files `fix_unwrap_calls` rewrites -/
def criticalFiles : List String :=
  ["stoq/src/transport/falcon.rs", "stoq/src/transport/certificates.rs", "trustchain/src/consensus/mod.rs",
    "hypermesh/src/assets/core/mod.rs"]

/-- the module `add_input_validation` writes -/
def validationModule : String := "trustchain/src/validation.rs"

/-- the file `add_input_validation` declares the module in -/
def libFile : String := "trustchain/src/lib.rs"

/-- `validation_code`, the module `add_input_validation` writes -/
def validationCode : List Char := (String.join
  ["//! Input validation module for TrustChain\n",
   "//! Provides comprehensive validation for all external inputs\n",
   "\n",
   "use anyhow::\x7bResult, anyhow\x7d;\n",
   "use regex::Regex;\n",
   "use std::net::\x7bIpAddr, Ipv6Addr\x7d;\n",
   "\n",
   "/// Validate node ID format\n",
   "pub fn validate_node_id(node_id: &str) -> Result<()> \x7b\n",
   "    if node_id.is_empty() \x7b\n",
   "        return Err(anyhow!(\"Node ID cannot be empty\"));\n",
   "    \x7d\n",
   "\n",
   "    if node_id.len() > 128 \x7b\n",
   "        return Err(anyhow!(\"Node ID too long (max 128 characters)\"));\n",
   "    \x7d\n",
   "\n",
   "    // Must be alphanumeric with hyphens\n",
   "    let re = Regex::new(r\"^[a-zA-Z0-9-]+$\").unwrap();\n",
   "    if !re.is_match(node_id) \x7b\n",
   "        return Err(anyhow!(\"Invalid node ID format\"));\n",
   "    \x7d\n",
   "\n",
   "    Ok(())\n",
   "\x7d\n",
   "\n",
   "/// Validate certificate request\n",
   "pub fn validate_certificate_request(common_name: &str, san_entries: &[String]) -> Result<()> \x7b\n",
   "    // Validate common name\n",
   "    if common_name.is_empty() \x7b\n",
   "        return Err(anyhow!(\"Common name cannot be empty\"));\n",
   "    \x7d\n",
   "\n",
   "    if common_name.len() > 64 \x7b\n",
   "        return Err(anyhow!(\"Common name too long (max 64 characters)\"));\n",
   "    \x7d\n",
   "\n",
   "    // Validate SAN entries\n",
   "    for san in san_entries \x7b\n",
   "        if san.len() > 253 \x7b\n",
   "            return Err(anyhow!(\"SAN entry too long\"));\n",
   "        \x7d\n",
   "    \x7d\n",
   "\n",
   "    if san_entries.len() > 100 \x7b\n",
   "        return Err(anyhow!(\"Too many SAN entries (max 100)\"));\n",
   "    \x7d\n",
   "\n",
   "    Ok(())\n",
   "\x7d\n",
   "\n",
   "/// Validate IPv6 address\n",
   "pub fn validate_ipv6(addr: &str) -> Result<Ipv6Addr> \x7b\n",
   "    addr.parse::<Ipv6Addr>()\n",
   "        .map_err(|_| anyhow!(\"Invalid IPv6 address: \x7b\x7d\", addr))\n",
   "\x7d\n",
   "\n",
   "/// Validate consensus proof size\n",
   "pub fn validate_consensus_proof(proof_data: &[u8]) -> Result<()> \x7b\n",
   "    if proof_data.is_empty() \x7b\n",
   "        return Err(anyhow!(\"Consensus proof cannot be empty\"));\n",
   "    \x7d\n",
   "\n",
   "    if proof_data.len() > 10_000 \x7b\n",
   "        return Err(anyhow!(\"Consensus proof too large (max 10KB)\"));\n",
   "    \x7d\n",
   "\n",
   "    Ok(())\n",
   "\x7d\n",
   "\n",
   "/// Sanitize user input to prevent injection attacks\n",
   "pub fn sanitize_input(input: &str) -> String \x7b\n",
   "    input\n",
   "        .chars()\n",
   "        .filter(|c| c.is_alphanumeric() || *c == \x27-\x27 || *c == \x27_\x27 || *c == \x27.\x27)\n",
   "        .take(256)\n",
   "        .collect()\n",
   "\x7d\n",
   "\n",
   "#[cfg(test)]\n",
   "mod tests \x7b\n",
   "    use super::*;\n",
   "\n",
   "    #[test]\n",
   "    fn test_validate_node_id() \x7b\n",
   "        assert!(validate_node_id(\"node-123\").is_ok());\n",
   "        assert!(validate_node_id(\"\").is_err());\n",
   "        assert!(validate_node_id(\"node@123\").is_err());\n",
   "    \x7d\n",
   "\n",
   "    #[test]\n",
   "    fn test_sanitize_input() \x7b\n",
   "        assert_eq!(sanitize_input(\"hello-world_123\"), \"hello-world_123\");\n",
   "        assert_eq!(sanitize_input(\"../../etc/passwd\"), \"..etcpasswd\");\n",
   "        assert_eq!(sanitize_input(\"\x27; DROP TABLE users; --\"), \"DROPTABLEusers\");\n",
   "    \x7d\n",
   "\x7d\n"]).toList

/-- whether the line loop of `fix_unwrap_calls` rewrites a line: the two branches that count it and set
`modified` -/
def rewritesLine (line : List Char) : Bool :=
  contains line ".unwrap()" && !contains line "#[test]" && (contains line ".unwrap();" || contains line ".unwrap().")

/-- one turn of the line loop of `fix_unwrap_calls`: `modified`, `new_lines` and `unwraps_replaced` -/
def unwrapLine (acc : Bool × List (List Char) × Nat) (line : List Char) : Bool × List (List Char) × Nat :=
  if rewritesLine line then (true, acc.2.1 ++ [fixUnwrapLine line], acc.2.2 + 1)
  else (acc.1, acc.2.1 ++ [fixUnwrapLine line], acc.2.2)

namespace Tree

/-- `Path.is_dir()`: a directory of the tree, or a path something lies below -/
def isDir (t : Tree) (dir : String) : Bool :=
  dir ∈ t.dirs || (t.files.map Prod.fst ++ t.undecodable ++ t.dirs).any fun path =>
    (dir.toList ++ ['/']).isPrefixOf path.toList

/-- `path.exists()`, then `open(path, 'r').read()` (after `shutil.copy2` in the loops that back the file up):
`some none` when nothing is at the path, `some` of the text of a file, and `none` when the path is a directory or a
file that does not decode -/
def read (t : Tree) (path : String) : Option (Option (List Char)) :=
  if t.isDir path ∨ path ∈ t.undecodable then none else some (t.files.get? path)

end Tree

/-! ## The passes -/

namespace SecurityRemediator

/-- `SecurityRemediator(project_root)`: every counter at 0 and a new, empty backup directory -/
def init (t : Tree) : SecurityRemediator := ⟨t, [], ⟨0, 0, 0, 0, 0⟩⟩

/-- `backup_file` of a file whose text is `content`: `shutil.copy2` into the backup directory -/
def backupFile (r : SecurityRemediator) (filePath : String) (content : List Char) : SecurityRemediator :=
  { r with backup := r.backup.set filePath content }

/-- the loop body of `fix_test_bypasses` for one file, past its read -/
def fixTestBypassesText (r : SecurityRemediator) (filePath : String) : Option (List Char) → SecurityRemediator
  | none => r
  | some content =>
    let r := r.backupFile filePath content
    let fixed := fixTestBypassesContent content
    if fixed ≠ content then
      { r with
        files := r.files.set filePath fixed
        fixesApplied := { r.fixesApplied with
          testBypassesRemoved := r.fixesApplied.testBypassesRemoved + countOf "generate_from_network".toList fixed
          filesModified := r.fixesApplied.filesModified + 1 } }
    else r

/-- the loop body of `fix_test_bypasses` for one file -/
def fixTestBypassesFile (r : SecurityRemediator) (filePath : String) : Option SecurityRemediator :=
  (r.read filePath).map (r.fixTestBypassesText filePath)

/-- `fix_test_bypasses` -/
def fixTestBypasses (r : SecurityRemediator) : Option SecurityRemediator := filesToFix.foldlM fixTestBypassesFile r

/-- `fix_mock_implementations` past its read -/
def fixMockImplementationsText (r : SecurityRemediator) : Option (List Char) → SecurityRemediator
  | none => r
  | some content =>
    let r := r.backupFile caesarFile content
    match Remediation.fixMockImplementations content with
    | none => r
    | some content =>
      { r with
        files := r.files.set caesarFile content
        fixesApplied := { r.fixesApplied with
          mockImplementationsMarked := r.fixesApplied.mockImplementationsMarked + 1
          filesModified := r.fixesApplied.filesModified + 1 } }

/-- `fix_mock_implementations` -/
def fixMockImplementations (r : SecurityRemediator) : Option SecurityRemediator :=
  (r.read caesarFile).map r.fixMockImplementationsText

/-- the loop body of `fix_unwrap_calls` for one file, past its read -/
def fixUnwrapText (r : SecurityRemediator) (filePath : String) : Option (List Char) → SecurityRemediator
  | none => r
  | some content =>
    let r := r.backupFile filePath content
    let (modified, newLines, unwrapsReplaced) :=
      (readlines content).foldl unwrapLine (false, [], r.fixesApplied.unwrapsReplaced)
    let r := { r with fixesApplied := { r.fixesApplied with unwrapsReplaced := unwrapsReplaced } }
    if modified then
      { r with
        files := r.files.set filePath newLines.flatten
        fixesApplied := { r.fixesApplied with filesModified := r.fixesApplied.filesModified + 1 } }
    else r

/-- the loop body of `fix_unwrap_calls` for one file -/
def fixUnwrapFile (r : SecurityRemediator) (filePath : String) : Option SecurityRemediator :=
  (r.read filePath).map (r.fixUnwrapText filePath)

/-- `fix_unwrap_calls` -/
def fixUnwrapCalls (r : SecurityRemediator) : Option SecurityRemediator := criticalFiles.foldlM fixUnwrapFile r

/-- `add_input_validation`: `open(validation_module, 'w')` raises unless `trustchain/src` is a directory and the
module's path is not one, and writes a file that decodes -/
def addInputValidation (r : SecurityRemediator) : Option SecurityRemediator :=
  if r.isDir "trustchain/src" ∧ !r.isDir validationModule then
    let r := { r with
      files := r.files.set validationModule validationCode
      undecodable := r.undecodable.filter (· ≠ validationModule) }
    (r.read libFile).map fun
      | none => r
      | some content =>
        match libWithValidation content with
        | none => r
        | some content =>
          { r with
            files := r.files.set libFile content
            fixesApplied := { r.fixesApplied with validationAdded := r.fixesApplied.validationAdded + 1 } }
  else none

end SecurityRemediator

open SecurityRemediator

/-- the four passes of `main` over a tree -/
def main (t : Tree) : Option SecurityRemediator := do
  let r ← (init t).fixTestBypasses
  let r ← r.fixMockImplementations
  let r ← r.fixUnwrapCalls
  r.addInputValidation

/-! ## Reading a path -/

namespace Tree

theorem read_isSome (t : Tree) (q : String) : (t.read q).isSome ↔ ¬(t.isDir q ∨ q ∈ t.undecodable) := by
  unfold read
  split_ifs with h <;> simp [h]

theorem read_eq_some {t : Tree} {q : String} {x : Option (List Char)} (h : t.read q = some x) :
    x = t.files.get? q := by
  unfold read at h
  split_ifs at h
  exact (Option.some.inj h).symm

theorem isDir_congr {t t' : Tree} (hu : t'.undecodable = t.undecodable) (hd : t'.dirs = t.dirs)
    (hf : ∀ q, (t'.files.get? q).isSome = (t.files.get? q).isSome) (dir : String) : t'.isDir dir = t.isDir dir := by
  have hk : ∀ x, x ∈ t'.files.map Prod.fst ↔ x ∈ t.files.map Prod.fst := fun x => by
    rw [PyDict.mem_keys_iff_isSome, PyDict.mem_keys_iff_isSome, hf]
  unfold isDir
  rw [hu, hd]
  congr 1
  exact Bool.eq_iff_iff.2 (by simp only [List.any_eq_true, List.mem_append, hk])

theorem read_isSome_congr {t t' : Tree} (hu : t'.undecodable = t.undecodable) (hd : t'.dirs = t.dirs)
    (hf : ∀ q, (t'.files.get? q).isSome = (t.files.get? q).isSome) (q : String) :
    (t'.read q).isSome = (t.read q).isSome := by
  rw [Bool.eq_iff_iff, read_isSome, read_isSome, isDir_congr hu hd hf, hu]

end Tree

/-! ## Each loop body reads, backs up and writes its own file -/

/-- a step that, where it returns, leaves `F` of each file's text at the paths `mem` holds of and backs up the text
it had, and changes no other file or backup and no other part of the tree; it returns exactly when those paths can
be read -/
structure Touches (step : SecurityRemediator → Option SecurityRemediator) (mem : String → Prop) [DecidablePred mem]
    (F : List Char → List Char) : Prop where
  files : ∀ {r r'}, step r = some r' →
    ∀ q, r'.files.get? q = if mem q then (r.files.get? q).map F else r.files.get? q
  backup : ∀ {r r'}, step r = some r' →
    ∀ q, r'.backup.get? q = if mem q then (r.files.get? q).or (r.backup.get? q) else r.backup.get? q
  shape : ∀ {r r'}, step r = some r' → r'.undecodable = r.undecodable ∧ r'.dirs = r.dirs
  isSome : ∀ r, (step r).isSome ↔ ∀ q, mem q → (r.read q).isSome

section Touches

variable {step : SecurityRemediator → Option SecurityRemediator} {mem : String → Prop} [DecidablePred mem]
  {F : List Char → List Char} (h : Touches step mem F)
include h

theorem Touches.files_isSome {r r' : SecurityRemediator} (hs : step r = some r') (q : String) :
    (r'.files.get? q).isSome = (r.files.get? q).isSome := by
  rw [h.files hs q]
  split_ifs <;> simp

theorem Touches.isDir {r r' : SecurityRemediator} (hs : step r = some r') (dir : String) :
    r'.isDir dir = r.isDir dir :=
  Tree.isDir_congr (h.shape hs).1 (h.shape hs).2 (h.files_isSome hs) dir

theorem Touches.read_isSome {r r' : SecurityRemediator} (hs : step r = some r') (q : String) :
    (r'.read q).isSome = (r.read q).isSome :=
  Tree.read_isSome_congr (h.shape hs).1 (h.shape hs).2 (h.files_isSome hs) q

end Touches

/-- the text `fix_unwrap_calls` leaves in a file -/
def unwrapText (content : List Char) : List Char :=
  if (readlines content).any rewritesLine then ((readlines content).map fixUnwrapLine).flatten else content

theorem foldl_unwrapLine (lines : List (List Char)) : ∀ (m : Bool) (newLines : List (List Char)) (n : Nat),
    lines.foldl unwrapLine (m, newLines, n) =
      (m || lines.any rewritesLine, newLines ++ lines.map fixUnwrapLine, n + lines.countP rewritesLine) := by
  induction lines with
  | nil => simp
  | cons l ls ih =>
    intro m newLines n
    by_cases hl : rewritesLine l <;> simp [unwrapLine, hl, ih, List.countP_cons, Nat.add_assoc, Nat.add_comm 1]

/-- past a successful read, a loop body sees the file's text -/
theorem eq_of_map_read {body : SecurityRemediator → Option (List Char) → SecurityRemediator}
    {r r' : SecurityRemediator} {p : String} (h : (r.read p).map (body r) = some r') :
    r' = body r (r.files.get? p) := by
  obtain ⟨x, hx, rfl⟩ := Option.map_eq_some'.1 h
  rw [Tree.read_eq_some hx]

theorem touches_of {body : SecurityRemediator → Option (List Char) → SecurityRemediator} {p : String}
    {F : List Char → List Char} (hnone : ∀ r, body r none = r)
    (hsome : ∀ r c, r.files.get? p = some c →
      (∀ q, (body r (some c)).files.get? q = if q = p then some (F c) else r.files.get? q) ∧
        (body r (some c)).backup = r.backup.set p c ∧
        (body r (some c)).undecodable = r.undecodable ∧ (body r (some c)).dirs = r.dirs) :
    Touches (fun r => (r.read p).map (body r)) (· = p) F where
  files {r r'} h q := by
    rw [eq_of_map_read h]
    rcases hp : r.files.get? p with _ | c
    · rw [hnone]; split_ifs with hq <;> simp [hq, hp]
    · rw [(hsome r c hp).1]; split_ifs with hq <;> simp [hq, hp]
  backup {r r'} h q := by
    rw [eq_of_map_read h]
    rcases hp : r.files.get? p with _ | c
    · rw [hnone]; split_ifs with hq <;> simp [hq, hp]
    · rw [(hsome r c hp).2.1, PyDict.get?_set]; split_ifs with hq <;> simp [hq, hp]
  shape {r r'} h := by
    rw [eq_of_map_read h]
    rcases hp : r.files.get? p with _ | c
    · rw [hnone]; exact ⟨rfl, rfl⟩
    · exact (hsome r c hp).2.2
  isSome r := by simp

theorem foldlM_cons_eq_some {step : SecurityRemediator → String → Option SecurityRemediator} {p : String}
    {L : List String} {r r' : SecurityRemediator} (h : (p :: L).foldlM step r = some r') :
    ∃ r₁, step r p = some r₁ ∧ L.foldlM step r₁ = some r' := by
  rw [List.foldlM_cons] at h
  cases h₁ : step r p with
  | none => rw [h₁] at h; cases h
  | some r₁ => rw [h₁] at h; exact ⟨r₁, rfl, h⟩

theorem touches_foldl {step : SecurityRemediator → String → Option SecurityRemediator} {F : List Char → List Char}
    (h : ∀ p, Touches (step · p) (· = p) F) :
    ∀ {L : List String}, L.Nodup → Touches (L.foldlM step ·) (· ∈ L) F
  | [], _ => ⟨fun h q => by cases h; simp, fun h q => by cases h; simp, fun h => by cases h; simp, fun r => by simp⟩
  | p :: L, hL => by
    have ih := touches_foldl h (List.nodup_cons.1 hL).2
    have hp := (List.nodup_cons.1 hL).1
    refine ⟨fun hr q => ?_, fun hr q => ?_, fun hr => ?_, fun r => ?_⟩
    · obtain ⟨r₁, h₁, h₂⟩ := foldlM_cons_eq_some hr
      rw [ih.files h₂, (h p).files h₁]
      by_cases hq : q = p
      · subst hq; simp [hp]
      · by_cases hqL : q ∈ L <;> simp [hq, hqL, (h p).files h₁]
    · obtain ⟨r₁, h₁, h₂⟩ := foldlM_cons_eq_some hr
      rw [ih.backup h₂, (h p).files h₁, (h p).backup h₁]
      by_cases hq : q = p
      · subst hq; simp [hp]
      · by_cases hqL : q ∈ L <;> simp [hq, hqL]
    · obtain ⟨r₁, h₁, h₂⟩ := foldlM_cons_eq_some hr
      exact ⟨(ih.shape h₂).1.trans ((h p).shape h₁).1, (ih.shape h₂).2.trans ((h p).shape h₁).2⟩
    · have hr := (h p).isSome r
      rw [List.foldlM_cons, Option.bind_eq_bind]
      cases h₁ : step r p with
      | none =>
        simp only [h₁, Option.isSome_none, Bool.false_eq_true, false_iff, forall_eq] at hr
        simp only [Option.none_bind, Option.isSome_none, Bool.false_eq_true, false_iff, not_forall]
        exact ⟨p, List.mem_cons_self p L, hr⟩
      | some r₁ =>
        simp only [h₁, Option.isSome_some, true_iff, forall_eq] at hr
        simp only [Option.some_bind, ih.isSome, List.mem_cons, forall_eq_or_imp, hr, true_and,
          (h p).read_isSome h₁]

theorem touches_fixTestBypassesFile (p : String) :
    Touches (fixTestBypassesFile · p) (· = p) fixTestBypassesContent := by
  refine touches_of (fun r => rfl) fun r c h => ?_
  simp only [fixTestBypassesText]
  split_ifs with hf
  · exact ⟨fun q => by simp [backupFile], rfl, rfl, rfl⟩
  · refine ⟨fun q => ?_, rfl, rfl, rfl⟩
    split_ifs with hq <;> simp [hq, h, backupFile, not_not.1 hf]

theorem touches_fixMockImplementations :
    Touches SecurityRemediator.fixMockImplementations (· = caesarFile)
      fun c => (Remediation.fixMockImplementations c).getD c := by
  refine touches_of (fun r => rfl) fun r c h => ?_
  simp only [fixMockImplementationsText]
  rcases hm : Remediation.fixMockImplementations c with _ | out
  · refine ⟨fun q => ?_, rfl, rfl, rfl⟩
    split_ifs with hq <;> simp [hq, h, backupFile]
  · exact ⟨fun q => by simp [backupFile], rfl, rfl, rfl⟩

theorem touches_fixUnwrapFile (p : String) : Touches (fixUnwrapFile · p) (· = p) unwrapText := by
  refine touches_of (fun r => rfl) fun r c h => ?_
  simp only [fixUnwrapText]
  simp only [foldl_unwrapLine, Bool.false_or, List.nil_append]
  split_ifs with hm
  · exact ⟨fun q => by simp [backupFile, unwrapText, hm], rfl, rfl, rfl⟩
  · refine ⟨fun q => ?_, rfl, rfl, rfl⟩
    split_ifs with hq <;> simp [hq, h, backupFile, unwrapText, hm]

theorem touches_fixTestBypasses : Touches fixTestBypasses (· ∈ filesToFix) fixTestBypassesContent :=
  touches_foldl touches_fixTestBypassesFile (by decide)

theorem touches_fixUnwrapCalls : Touches fixUnwrapCalls (· ∈ criticalFiles) unwrapText :=
  touches_foldl touches_fixUnwrapFile (by decide)

theorem addInputValidation_eq_some {r r' : SecurityRemediator} (h : r.addInputValidation = some r') :
    r'.backup = r.backup ∧ ∀ q, r'.files.get? q =
      if q = validationModule then some validationCode
      else if q = libFile then (r.files.get? libFile).map fun c => (libWithValidation c).getD c
      else r.files.get? q := by
  have hlv : libFile ≠ validationModule := by decide
  have hvl := Ne.symm hlv
  unfold addInputValidation at h
  split_ifs at h
  obtain ⟨x, hx, rfl⟩ := Option.map_eq_some'.1 h
  have hl := Tree.read_eq_some hx
  simp only [PyDict.get?_set, hlv, if_false] at hl
  subst hl
  rcases hc : r.files.get? libFile with _ | c
  · exact ⟨rfl, fun q => by split_ifs <;> simp [*]⟩
  · simp only
    rcases hw : libWithValidation c with _ | out <;> exact ⟨rfl, fun q => by split_ifs <;> simp [*]⟩

theorem main_eq_some {t : Tree} {r : SecurityRemediator} (h : main t = some r) :
    ∃ r₁ r₂ r₃, (init t).fixTestBypasses = some r₁ ∧ r₁.fixMockImplementations = some r₂ ∧
      r₂.fixUnwrapCalls = some r₃ ∧ r₃.addInputValidation = some r := by
  simp only [main, Option.bind_eq_bind, Option.bind_eq_some] at h
  obtain ⟨r₁, h₁, r₂, h₂, r₃, h₃, h₄⟩ := h
  exact ⟨r₁, r₂, r₃, h₁, h₂, h₃, h₄⟩

example : (main ⟨[], [], ["trustchain/src"]⟩).isSome := by decide

/-- a tree with a gated consensus module and a transport file whose unwrap is rewritten -/
def remediationTree : Tree :=
  ⟨[("trustchain/src/consensus/mod.rs",
      "impl ConsensusProof \x7b\n    pub fn default_for_testing() -> Self;\n\x7d\n".toList),
    ("stoq/src/transport/falcon.rs", "let a = x.unwrap();\n".toList)], [], []⟩

theorem remediationTree_main : ∃ r, main remediationTree = some r :=
  Option.isSome_iff_exists.1 (by decide)

example : (main ⟨[("trustchain/src/consensus/mod.rs",
      "impl ConsensusProof \x7b\n    pub fn default_for_testing() -> Self;\n\x7d\n".toList)], [], []⟩).map
        (·.backup.get? "trustchain/src/consensus/mod.rs") =
      some (some
        "impl ConsensusProof \x7b\n    #[cfg(test)]\n    pub fn default_for_testing() -> Self;\n\x7d\n".toList) := by
  decide

/-- `trustchain/src/validation.rs` is overwritten with `validation_code`, and no backup of it is taken -/
theorem main_validationModule {t : Tree} {r : SecurityRemediator} (h : main t = some r) :
    r.files.get? validationModule = some validationCode ∧ r.backup.get? validationModule = none := by
  obtain ⟨r₁, r₂, r₃, h₁, h₂, h₃, h₄⟩ := main_eq_some h
  obtain ⟨hb, hf⟩ := addInputValidation_eq_some h₄
  have h1 : validationModule ∉ filesToFix := by decide
  have h2 : validationModule ≠ caesarFile := by decide
  have h3 : validationModule ∉ criticalFiles := by decide
  refine ⟨by simp [hf], ?_⟩
  simp only [hb, touches_fixUnwrapCalls.backup h₃, touches_fixMockImplementations.backup h₂,
    touches_fixTestBypasses.backup h₁, init, h1, h2, h3, if_false]
  rfl

theorem sample_validation_unbacked :
    ∃ r, main remediationTree = some r ∧
      r.files.get? validationModule = some validationCode ∧ r.backup.get? validationModule = none :=
  let ⟨r, h⟩ := remediationTree_main
  ⟨r, h, main_validationModule h⟩

/-! ## The counters -/

example : (init ⟨[("stoq/src/transport/falcon.rs", "let a = x.unwrap(); let b = y.unwrap();\n".toList)], [], []⟩
    ).fixUnwrapCalls =
    some ⟨⟨[("stoq/src/transport/falcon.rs", "let a = x?; let b = y?;\n".toList)], [], []⟩,
      [("stoq/src/transport/falcon.rs", "let a = x.unwrap(); let b = y.unwrap();\n".toList)],
      ⟨0, 0, 1, 0, 1⟩⟩ := by
  decide

end Hypermesh.Remediation
