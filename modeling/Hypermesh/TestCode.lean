import Hypermesh.Placement
/-
Where the auditors take a line to be test code. The `UNWRAP_PANIC` rule of `SecurityAuditor.scan_rust_file`
(`security_audit.py`) and the line loop of `TrustChainSecurityAuditor.audit_consensus_validation`
(`trustchain/security_audit.py`) skip a line when their test marker (`#[test]`, `#[cfg(test)]`) occurs in
`content[:content.find(line)]`. That is the text before the first occurrence of the line's text anywhere in the
file, which is the text before the line itself only when the line's text does not occur earlier.

`textBefore content k` is the text before line `k` (from 1) of `content.split('\n')`: the lines before it, each
with its newline.

Results:
- `find_line_within_textBefore`: for every line, `content[:content.find(line)]` is a prefix of the text before it, so a
  line with no marker before it is always reported (`marker_absent_of_textBefore`).
- `repeated_line_reported_after_marker`: a file that repeats a line before and after its marker has the later
  copy reported too, by both auditors.
-/

namespace Hypermesh.TestCode

open PyStr Placement

/-- the text before line `k` (from 1) of `content.split('\n')` -/
def textBefore (content : List Char) (k : Nat) : List Char :=
  ((content.splitOn '\n').take (k - 1)).flatMap (· ++ ['\n'])

/-- line `i` (from 0) of a text joined by `x` starts right after the lines before it and their separators -/
theorem take_flatMap_append_prefix_intercalate {x : Char} :
    ∀ {ls : List (List Char)} {i : Nat} (hi : i < ls.length),
      (ls.take i).flatMap (· ++ [x]) ++ ls[i] <+: [x].intercalate ls
  | l :: ls, 0, _ => by
    cases ls with
    | nil => simp [List.intercalate]
    | cons l' ls => simp [List.intercalate, List.intersperse_cons_cons]
  | l :: ls, i + 1, hi => by
    cases ls with
    | nil => simp at hi
    | cons l' ls =>
      have ih := @take_flatMap_append_prefix_intercalate x (l' :: ls) i (by simpa using hi)
      simpa [List.intercalate, List.intersperse_cons_cons] using ih

/-- **The text the auditors read for a line ends at or before the line.** -/
theorem find_line_within_textBefore (content : List Char) {i : Nat} (hi : i < (content.splitOn '\n').length) :
    slice content (find content (content.splitOn '\n')[i]) <+: textBefore content (i + 1) := by
  have hpre : textBefore content (i + 1) ++ (content.splitOn '\n')[i] <+: content := by
    simpa [textBefore, List.intercalate_splitOn] using take_flatMap_append_prefix_intercalate (x := '\n') hi
  obtain ⟨j, hj, hle⟩ := indexOf?_le hpre
  have htake : content.take (textBefore content (i + 1)).length = textBefore content (i + 1) :=
    (List.prefix_iff_eq_take.1 ((List.prefix_append _ _).trans hpre)).symm
  simp only [find, hj, PyStr.slice, Nat.cast_nonneg, if_true, Int.toNat_natCast]
  exact htake ▸ List.take_prefix_take_left content hle

/-- a marker absent from the text before a line is absent from what the auditors read for it -/
theorem marker_absent_of_textBefore (content : List Char) {i : Nat} (hi : i < (content.splitOn '\n').length)
    (marker : String) (h : contains (textBefore content (i + 1)) marker = false) :
    contains (slice content (find content (content.splitOn '\n')[i])) marker = false := by
  simp only [contains, decide_eq_false_iff_not] at h ⊢
  exact fun hm => h (hm.trans (find_line_within_textBefore content hi).isInfix)

/-- a library line and a consensus line, each written before and after its test marker -/
def markerTree : Tree :=
  [("src/lib.rs", "let v = x.unwrap();\n#[test]\nlet v = x.unwrap();\n"),
   ("src/consensus/mod.rs",
    "let p = ProofSet::default_for_testing();\n#[cfg(test)]\nlet p = ProofSet::default_for_testing();\n")]

/-- Line 3 of each file follows its marker, and both auditors report it, as they report line 1. -/
theorem repeated_line_reported_after_marker :
    contains (textBefore "let v = x.unwrap();\n#[test]\nlet v = x.unwrap();\n".toList 3) "#[test]" = true ∧
      ((Web3.Auditor.scanRustFile (markerTree.fsEnv "/srv/web3") "/srv/web3/src/lib.rs"
        (.init "/srv/web3")).violations.high.map fun v => (v.type, v.line)) =
        [("UNWRAP_PANIC", 1), ("UNWRAP_PANIC", 3)] ∧
      contains (textBefore
        "let p = ProofSet::default_for_testing();\n#[cfg(test)]\nlet p = ProofSet::default_for_testing();\n".toList 3)
        "#[cfg(test)]" = true ∧
      ((TrustChain.Audit.consensusViolations ⟨"/srv/web3"⟩ (markerTree.env "/srv/web3")).map fun r =>
        r.1.map fun v => (v.pattern, v.line)) = some [("testing_bypass", 1), ("testing_bypass", 3)] := by
  refine ⟨?_, ?_, ?_, ?_⟩ <;> decide

end Hypermesh.TestCode
