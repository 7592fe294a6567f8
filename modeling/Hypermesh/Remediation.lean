import Hypermesh.PyStr
/-
The source rewrites of `SecurityRemediator` (`security_remediation.py`), as functions of a file's text.

- `fix_test_bypasses` replaces every `ConsensusProof::default_for_testing()` by the `generate_from_network` call,
  then puts `#[cfg(test)]` before every `pub fn default_for_testing()` that starts a line (`gateFrom`).
- `fix_mock_implementations` cuts the text from the `/// Mock Crypto Exchange Provider` comment to just past the
  first `\n}\n` after the `impl CryptoExchangeProvider for MockCryptoExchangeProvider` header, and appends it
  wrapped in a test module (`testModule`).
- `fix_unwrap_calls` rewrites each line on its own (`fixUnwrapLine`).
- `add_input_validation` declares `pub mod validation;` in `trustchain/src/lib.rs` after the line of its first
  `pub mod ` (`libWithValidation`).

Results:
- `fixMockImplementations_eq_some`, `moved_block_length`: every text the mock fix writes is `c[:s] + c[e:]` and
  the wrapped `c[s:e]`, for positions with `e ≤ len(c)`; when `s ≤ e` the block is moved whole, so the text grows
  by the wrapper alone. `fixMockImplementations_moves`: this is the case when the comment comes before the impl
  header.
- `impl_before_comment_duplicates_text`: an impl block written before the comment gives `e < s`; the text between
  them is then written twice and no positions `s ≤ e` give the output.
- `remediation_not_idempotent`: a second run of the bypass fix gates an already gated function again, and a
  second run of the unwrap rewrite rewrites a chained `.unwrap()` the first run left.
  `fixUnwrapLine_fixUnwrapLine`: the chained branch is the only one; a line rewritten at `.unwrap();` keeps no
  `.unwrap()` (`not_infix_replaceFrom`), and every other line is left alone twice.
-/

namespace Hypermesh.Remediation

open PyStr

/-! ## `fix_test_bypasses` -/

/-- the function header the second `re.sub` gates -/
def defaultForTesting : List Char := "pub fn default_for_testing()".toList

/-- `re.sub(r'(\n\s*)pub fn default_for_testing\(\)', r'\1#[cfg(test)]\1pub fn default_for_testing()', s)`, the
first `skip` characters being the rest of the last match. At a `\n`, `\s*` takes the longest run of spaces: a
shorter run is followed by a space, never by the `p` of `pub`. -/
def gateFrom : Nat → List Char → List Char
  | _, [] => []
  | skip + 1, _ :: s => gateFrom skip s
  | 0, c :: s =>
    if c = '\n' ∧ defaultForTesting.isPrefixOf (s.dropWhile isSpace) then
      let group := c :: s.takeWhile isSpace
      group ++ "#[cfg(test)]".toList ++ group ++ defaultForTesting ++
        gateFrom ((s.takeWhile isSpace).length + defaultForTesting.length) s
    else c :: gateFrom 0 s

/-- the text `fix_test_bypasses` writes for a file's text, its two `re.sub` calls (the first pattern is a literal) -/
def fixTestBypassesContent (content : List Char) : List Char :=
  gateFrom 0 (replace content "ConsensusProof::default_for_testing()"
    "ConsensusProof::generate_from_network(&node_id).await?")

/-! ## `fix_mock_implementations` -/

/-- the test module `fix_mock_implementations` appends around the moved block -/
def testModule (mockImpl : List Char) : List Char :=
  "\n\n#[cfg(test)]\nmod test_providers \x7b\n    use super::*;\n\n".toList ++ mockImpl ++ "\n\x7d".toList

/-- the text `fix_mock_implementations` writes to `caesar/src/crypto_exchange_providers.rs`, or `none` when it
writes nothing -/
def fixMockImplementations (content : List Char) : Option (List Char) :=
  if contains content "pub struct MockCryptoExchangeProvider" then
    let mockStart := find content "/// Mock Crypto Exchange Provider".toList
    if mockStart > 0 then
      let implEnd := findFrom content "\n\x7d\n".toList
        (find content "impl CryptoExchangeProvider for MockCryptoExchangeProvider".toList)
      if implEnd > 0 then
        let implEnd := implEnd + 3
        let mockImpl := sliceRange content mockStart implEnd
        some (slice content mockStart ++ sliceFrom content implEnd ++ testModule mockImpl)
      else none
    else none
  else none

/-! ## `fix_unwrap_calls` -/

/-- the rewrite `fix_unwrap_calls` makes of one line -/
def fixUnwrapLine (line : List Char) : List Char :=
  if contains line ".unwrap()" && !contains line "#[test]" then
    if contains line ".unwrap();" then replace line ".unwrap()" "?"
    else if contains line ".unwrap()." then replace line ".unwrap()." "?."
    else line
  else line

/-! ## `add_input_validation` -/

/-- the text `add_input_validation` writes to `trustchain/src/lib.rs`, or `none` when it writes nothing -/
def libWithValidation (content : List Char) : Option (List Char) :=
  if !contains content "pub mod validation;" then
    let modulesSection := find content "pub mod ".toList
    if modulesSection > 0 then
      let insertPos := findFrom content "\n".toList modulesSection
      some (slice content insertPos ++ "\npub mod validation;".toList ++ sliceFrom content insertPos)
    else none
  else none

/-! ## Where the mock block goes -/

/-- a found index is a natural number with the text after it -/
theorem find_pos {s sub : List Char} (h : find s sub > 0) : ∃ i : Nat, find s sub = i ∧ sub <+: s.drop i := by
  unfold find at h ⊢
  split at h
  · rename_i i hi
    exact ⟨i, rfl, prefix_drop_of_indexOf? hi⟩
  · omega

theorem findFrom_pos {s sub : List Char} {start : Int} (h : findFrom s sub start > 0) :
    ∃ j : Nat, findFrom s sub start = j ∧ sliceIndex s start ≤ j ∧ sub <+: s.drop j := by
  obtain ⟨j, hj⟩ : ∃ j : Nat, findFrom s sub start = j := ⟨(findFrom s sub start).toNat, by omega⟩
  exact ⟨j, hj, findFrom_eq_natCast hj⟩

/-- **What the mock fix writes.** Every text it writes is the text before the comment, the text after the impl
block's end, and the wrapped text between them. -/
theorem fixMockImplementations_eq_some {content out : List Char} (h : fixMockImplementations content = some out) :
    ∃ s e : Nat, 0 < s ∧ 3 < e ∧ e ≤ content.length ∧
      (s : Int) = find content "/// Mock Crypto Exchange Provider".toList ∧
      (e : Int) = findFrom content "\n\x7d\n".toList
        (find content "impl CryptoExchangeProvider for MockCryptoExchangeProvider".toList) + 3 ∧
      out = content.take s ++ content.drop e ++ testModule (sliceRange content s e) := by
  unfold fixMockImplementations at h
  dsimp only at h
  split_ifs at h with _ hs he
  obtain ⟨s, hs', -⟩ := find_pos hs
  obtain ⟨j, hj, -, hjs⟩ := findFrom_pos he
  refine ⟨s, j + 3, by omega, by omega, add_length_le_of_prefix_drop hjs (by decide), hs'.symm,
    by rw [hj]; push_cast; rfl, ?_⟩
  rw [← Option.some_inj, ← h, hs', hj, show (j : Int) + 3 = ((j + 3 : Nat) : Int) by push_cast; rfl,
    slice_natCast, sliceFrom_natCast]

/-- when the block's start is at or before its end, the output holds every character of the text once, and the
wrapper -/
theorem moved_block_length (content : List Char) {s e : Nat} (hse : s ≤ e) (he : e ≤ content.length) :
    (content.take s ++ content.drop e ++ testModule (sliceRange content s e)).length =
      content.length + (testModule []).length := by
  simp only [sliceRange_natCast content s e he, testModule, List.length_append, List.length_take,
    List.length_drop, List.append_nil]
  omega

/-- **The block is moved when the comment comes first.** If the comment is found at or before the impl header,
the text written is `c[:s] + c[e:]` and the wrapped `c[s:e]` with `s ≤ e ≤ len(c)`, and
`c = c[:s] + c[s:e] + c[e:]`. -/
theorem fixMockImplementations_moves {content out : List Char} (h : fixMockImplementations content = some out)
    (horder : find content "/// Mock Crypto Exchange Provider".toList ≤
      find content "impl CryptoExchangeProvider for MockCryptoExchangeProvider".toList) :
    ∃ s e : Nat, s ≤ e ∧ e ≤ content.length ∧
      out = content.take s ++ content.drop e ++ testModule (sliceRange content s e) ∧
      content = content.take s ++ sliceRange content s e ++ content.drop e := by
  obtain ⟨s, e, hs0, he3, he, hs, he', rfl⟩ := fixMockImplementations_eq_some h
  obtain ⟨h, hh, hhs⟩ :=
    @find_pos content "impl CryptoExchangeProvider for MockCryptoExchangeProvider".toList (by omega)
  obtain ⟨j, hj, hjh, -⟩ := @findFrom_pos content "\n\x7d\n".toList
    (find content "impl CryptoExchangeProvider for MockCryptoExchangeProvider".toList) (by omega)
  have hlen : h ≤ content.length := Nat.le_of_add_right_le (add_length_le_of_prefix_drop hhs (by decide))
  rw [hh, sliceIndex_natCast, min_eq_left hlen] at hjh
  have hse : s ≤ e := by omega
  refine ⟨s, e, hse, he, rfl, ?_⟩
  have hdrop : content.drop e = (content.drop s).drop (e - s) := by rw [List.drop_drop, Nat.add_sub_cancel' hse]
  rw [sliceRange_natCast content s e he, hdrop, List.append_assoc, List.take_append_drop, List.take_append_drop]

/-- a providers file whose impl block comes before the mock's comment -/
def implBeforeComment : List Char :=
  ("impl CryptoExchangeProvider for MockCryptoExchangeProvider \x7b\n\x7d\nconst N: u8 = 1;\n" ++
    "/// Mock Crypto Exchange Provider\npub struct MockCryptoExchangeProvider;\n").toList

set_option maxRecDepth 4000 in
/-- The impl block ends at 63, before the comment at 80: `c[80:63]` is empty, and `const N: u8 = 1;` (from 63 to
80) is written twice. No positions `s ≤ e` give that output, which is longer than the text and the wrapper. -/
theorem impl_before_comment_duplicates_text :
    fixMockImplementations implBeforeComment =
        some (implBeforeComment.take 80 ++ implBeforeComment.drop 63 ++ testModule []) ∧
      ∀ s e : Nat, s ≤ e → e ≤ implBeforeComment.length →
        fixMockImplementations implBeforeComment ≠
          some (implBeforeComment.take s ++ implBeforeComment.drop e ++
            testModule (sliceRange implBeforeComment s e)) := by
  have h : fixMockImplementations implBeforeComment =
      some (implBeforeComment.take 80 ++ implBeforeComment.drop 63 ++ testModule []) := by decide
  refine ⟨h, fun s e hse he heq => ?_⟩
  have hlen := congrArg (Option.map List.length) (h.symm.trans heq)
  have hc : implBeforeComment.length = 153 := by decide
  simp only [Option.map_some', moved_block_length _ hse he, List.length_append, List.length_take,
    List.length_drop, Option.some_inj, hc] at hlen
  omega

/-! ## A second run -/

set_option maxRecDepth 4000 in
/-- Run again on its own output, the bypass fix puts a second `#[cfg(test)]` before the gated function, and the
unwrap rewrite turns the `.unwrap()` it left in a chain into `?`. -/
theorem remediation_not_idempotent :
    fixTestBypassesContent "impl ConsensusProof \x7b\n    pub fn default_for_testing() -> Self;\n\x7d\n".toList =
        "impl ConsensusProof \x7b\n    #[cfg(test)]\n    pub fn default_for_testing() -> Self;\n\x7d\n".toList ∧
      fixTestBypassesContent
          "impl ConsensusProof \x7b\n    #[cfg(test)]\n    pub fn default_for_testing() -> Self;\n\x7d\n".toList =
        ("impl ConsensusProof \x7b\n    #[cfg(test)]\n    #[cfg(test)]\n    pub fn default_for_testing() -> Self;" ++
          "\n\x7d\n").toList ∧
      fixUnwrapLine "    let n = rx.recv().unwrap().unwrap().len();\n".toList =
        "    let n = rx.recv()?.unwrap().len();\n".toList ∧
      fixUnwrapLine "    let n = rx.recv()?.unwrap().len();\n".toList = "    let n = rx.recv()??.len();\n".toList := by
  refine ⟨?_, ?_, ?_, ?_⟩ <;> decide

/-- **The unwrap rewrite is idempotent outside its chained branch.** A line it rewrites at `.unwrap();` keeps no
`.unwrap()`, and a line it leaves alone is left alone again. -/
theorem fixUnwrapLine_fixUnwrapLine (line : List Char)
    (h : contains line ".unwrap();" = true ∨ contains line ".unwrap()." = false) :
    fixUnwrapLine (fixUnwrapLine line) = fixUnwrapLine line := by
  unfold fixUnwrapLine
  by_cases hu : (contains line ".unwrap()" && !contains line "#[test]") = true
  · by_cases hs : contains line ".unwrap();" = true
    · have hno : contains (replace line ".unwrap()" "?") ".unwrap()" = false :=
        decide_eq_false (not_infix_replaceFrom (by decide) (by decide) (by decide) line)
      simp [hu, hs, hno]
    · simp [hu, hs, h.resolve_left hs]
  · simp [hu]

/-- a line rewritten at `.unwrap();` is a fixed point of the rewrite -/
theorem unwrap_statement_fixed :
    contains "let a = x.unwrap();\n".toList ".unwrap();" = true ∧
      fixUnwrapLine (fixUnwrapLine "let a = x.unwrap();\n".toList) = fixUnwrapLine "let a = x.unwrap();\n".toList :=
  ⟨by decide, fixUnwrapLine_fixUnwrapLine _ (Or.inl (by decide))⟩

end Hypermesh.Remediation
