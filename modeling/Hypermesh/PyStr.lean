import Mathlib.Data.List.DropRight
import Mathlib.Data.List.Infix
/-
The parts of Python's `str` the audit scripts and the remediator rely on, on strings as lists of characters: `in`,
`endswith()`, `count()`, `lower()`, `find()` with and without a start, slicing, `replace()`, `strip()`, `split(sep)`,
`split(sep, maxsplit)`, `readlines()` and `int()`.

`s.split(sep)` with a one-character separator is `List.splitOn`. `int(s)` is CPython's reading of a decimal
literal: surrounding whitespace, one optional sign, digit groups joined by single underscores. CPython also reads
non-ASCII decimal digits (Unicode category Nd); the model reads ASCII digits only. Likewise `lower()` lowers ASCII
letters only, where CPython also lowers the other cased letters: the Kelvin sign U+212A to `k`, U+0130 to `i`
followed by a combining dot.

Results: `strip_of_head`, `splitMax_append_sep` and `toInt?_digits`, which read back a line made of a field, a
separator and a rest; `replaceFrom_eq`, `s.replace(old, new)` as "replace the first occurrence and go on after it",
and from it `not_infix_replaceFrom`: when `new` shares no character with `old`, no `old` is left.
-/

namespace Hypermesh.PyStr

/-- `sub in s` -/
def contains (s : List Char) (sub : String) : Bool := decide (sub.toList <:+: s)

/-- `s.endswith(suffix)` -/
def endsWith (s : List Char) (suffix : String) : Bool := decide (suffix.toList <:+ s)

/-- the non-overlapping occurrences of `sub` in `s` from the left, the first `skip` characters being the rest
of the last occurrence -/
def countFrom (sub : List Char) : Nat → List Char → Nat
  | _, [] => 0
  | skip + 1, _ :: s => countFrom sub skip s
  | 0, c :: s => if sub ≠ [] ∧ sub.isPrefixOf (c :: s) then countFrom sub (sub.length - 1) s + 1 else countFrom sub 0 s

/-- `s.count(sub)` for a nonempty `sub` -/
def countOf (sub : List Char) (s : List Char) : Nat := countFrom sub 0 s

/-- `s.lower()` -/
def lower (s : List Char) : List Char := s.map Char.toLower

def indexOf? (s sub : List Char) : Option Nat :=
  if sub.isPrefixOf s then some 0 else
    match s with
    | [] => none
    | _ :: t => (indexOf? t sub).map (· + 1)

/-- `s.find(sub)`: the first index of `sub`, or `-1` -/
def find (s sub : List Char) : Int := match indexOf? s sub with
  | some i => i
  | none => -1

/-- `s[:k]`; a negative `k` counts from the end -/
def slice (s : List Char) (k : Int) : List Char :=
  if 0 ≤ k then s.take k.toNat else s.take (s.length - k.natAbs)

/-- a slice index of `s`: a negative one counts from the end, and it is clamped to `0 .. len(s)` -/
def sliceIndex (s : List Char) (k : Int) : Nat := if 0 ≤ k then min k.toNat s.length else s.length - k.natAbs

/-- `s[k:]` -/
def sliceFrom (s : List Char) (k : Int) : List Char := s.drop (sliceIndex s k)

/-- `s[a:b]` -/
def sliceRange (s : List Char) (a b : Int) : List Char :=
  (s.drop (sliceIndex s a)).take (sliceIndex s b - sliceIndex s a)

/-- `s.find(sub, start)` for a nonempty `sub`: the first index at or after `start` where `sub` occurs, or `-1` -/
def findFrom (s sub : List Char) (start : Int) : Int :=
  match indexOf? (s.drop (sliceIndex s start)) sub with
  | some i => ((sliceIndex s start + i : Nat) : Int)
  | none => -1

/-- the non-overlapping occurrences of `old` in `s` from the left, each replaced by `new`, the first `skip`
characters being the rest of the last occurrence -/
def replaceFrom (old new : List Char) : Nat → List Char → List Char
  | _, [] => []
  | skip + 1, _ :: s => replaceFrom old new skip s
  | 0, c :: s =>
    if old.isPrefixOf (c :: s) then new ++ replaceFrom old new (old.length - 1) s else c :: replaceFrom old new 0 s

/-- `s.replace(old, new)` for a nonempty `old` -/
def replace (s : List Char) (old new : String) : List Char := replaceFrom old.toList new.toList 0 s

/-- `str.isspace` of one character -/
def isSpace (c : Char) : Bool :=
  let n := c.toNat
  (9 ≤ n && n ≤ 13) || (28 ≤ n && n ≤ 32) || n == 0x85 || n == 0xa0 || n == 0x1680 ||
    (0x2000 ≤ n && n ≤ 0x200a) || n == 0x2028 || n == 0x2029 || n == 0x202f || n == 0x205f || n == 0x3000

/-- `s.strip()` -/
def strip (s : List Char) : List Char := (s.dropWhile isSpace).rdropWhile isSpace

/-- `s.split(sep, maxsplit)`: at most `maxsplit` cuts, from the left -/
def splitMax (sep : Char) : Nat → List Char → List (List Char)
  | 0, s => [s]
  | _ + 1, [] => [[]]
  | n + 1, c :: s => if c = sep then [] :: splitMax sep n s else (splitMax sep (n + 1) s).modifyHead (c :: ·)

/-- `f.readlines()` of a file whose text is `s`: its lines, each with its `\n` but the last -/
def readlines (s : List Char) : List (List Char) :=
  let parts := s.splitOn '\n'
  parts.dropLast.map (· ++ ['\n']) ++ match parts.getLast? with
    | some [] | none => []
    | some last => [last]

/-- an ASCII decimal digit -/
def isDigit (c : Char) : Bool := 48 ≤ c.toNat && c.toNat ≤ 57

def digitsValue (ds : List Char) : Nat := ds.foldl (fun n d => 10 * n + (d.toNat - 48)) 0

/-- the unsigned part of an `int()` literal: nonempty digit groups joined by single underscores -/
def toNat? (s : List Char) : Option Nat :=
  if (s.splitOn '_').all fun g => !g.isEmpty && g.all isDigit then some (digitsValue (s.filter (· ≠ '_')))
  else none

/-- `int(s)`; `none` is the `ValueError` -/
def toInt? (s : List Char) : Option Int :=
  match strip s with
  | '-' :: t => (toNat? t).map fun n => -(n : Int)
  | '+' :: t => (toNat? t).map Int.ofNat
  | t => (toNat? t).map Int.ofNat

theorem isSpace_of_isDigit {c : Char} (h : isDigit c = true) : isSpace c = false := by
  unfold isDigit at h; unfold isSpace
  simp at h ⊢
  omega

theorem rdropWhile_append_cons {p : Char → Bool} {x : Char} (l m : List Char) (h : p x = false) :
    (l ++ x :: m).rdropWhile p = l ++ x :: m.rdropWhile p := by
  induction m using List.reverseRecOn with
  | nil => simpa using List.rdropWhile_concat_neg p l x (by simp [h])
  | append_singleton m y ih =>
    rw [show l ++ x :: (m ++ [y]) = (l ++ x :: m) ++ [y] by simp, List.rdropWhile_concat, List.rdropWhile_concat]
    cases p y <;> simp [ih]

/-- stripping a string that starts with a non-space and has a non-space before `rest` strips `rest` only -/
theorem strip_of_head {c x : Char} (l rest : List Char) (hc : isSpace c = false) (hx : isSpace x = false) :
    strip (c :: (l ++ x :: rest)) = c :: (l ++ x :: rest.rdropWhile isSpace) := by
  rw [strip, List.dropWhile_cons_of_neg (by simp [hc]), ← List.cons_append, rdropWhile_append_cons _ _ hx,
    List.cons_append]

theorem splitMax_append_sep {sep : Char} (n : Nat) {a : List Char} (rest : List Char) (h : sep ∉ a) :
    splitMax sep (n + 1) (a ++ sep :: rest) = a :: splitMax sep n rest := by
  induction a with
  | nil => simp [splitMax]
  | cons c a ih =>
    have hc : c ≠ sep := fun e => h (e ▸ List.mem_cons_self _ _)
    simp [splitMax, hc, ih fun e => h (List.mem_cons_of_mem _ e)]

theorem toNat?_digits {ds : List Char} (h : ds ≠ []) (hd : ∀ c ∈ ds, isDigit c = true) :
    toNat? ds = some (digitsValue ds) := by
  have hu : ∀ c ∈ ds, ¬(c == '_') = true := fun c hc e => by
    have := hd c hc; rw [beq_iff_eq.1 e] at this; exact absurd this (by decide)
  have hf : ds.filter (fun c => !decide (c = '_')) = ds := List.filter_eq_self.2 fun c hc => by
    simpa using fun e => hu c hc (by simp [e])
  simp [toNat?, List.splitOn, List.splitOnP_eq_single _ _ hu, h, List.all_eq_true.2 hd, hf]

/-- **`int()` of a decimal numeral** is its value. -/
theorem toInt?_digits {ds : List Char} (h : ds ≠ []) (hd : ∀ c ∈ ds, isDigit c = true) :
    toInt? ds = some (digitsValue ds) := by
  obtain ⟨c, l, rfl⟩ := List.exists_cons_of_ne_nil h
  have hc := hd c (List.mem_cons_self _ _)
  have hs : strip (c :: l) = c :: l := by
    rw [strip, List.dropWhile_cons_of_neg (by simp [isSpace_of_isDigit hc]), List.rdropWhile_eq_self_iff]
    intro hl; simp [isSpace_of_isDigit (hd _ (List.getLast_mem hl))]
  rw [toInt?, hs]
  split
  · rename_i t ht; injection ht with h1; subst h1; exact absurd hc (by decide)
  · rename_i t ht; injection ht with h1; subst h1; exact absurd hc (by decide)
  · simp [toNat?_digits h hd]

/-! ## Slices at found positions -/

@[simp] theorem sliceIndex_natCast (s : List Char) (n : Nat) : sliceIndex s n = min n s.length := by
  simp [sliceIndex, Int.ofNat_nonneg]

@[simp] theorem slice_natCast (s : List Char) (n : Nat) : slice s n = s.take n := by
  simp [slice, Int.ofNat_nonneg]

@[simp] theorem sliceFrom_natCast (s : List Char) (n : Nat) : sliceFrom s n = s.drop n := by
  rcases le_total n s.length with h | h <;> simp [sliceFrom, h, List.drop_eq_nil_of_le]

theorem sliceRange_natCast (s : List Char) (a b : Nat) (hb : b ≤ s.length) :
    sliceRange s a b = (s.drop a).take (b - a) := by
  rcases le_total a s.length with h | h <;> simp [sliceRange, h, hb, List.drop_eq_nil_of_le]

theorem indexOf?_le :
    ∀ {s pre sub : List Char}, pre ++ sub <+: s → ∃ i, indexOf? s sub = some i ∧ i ≤ pre.length
  | s, [], sub, h => ⟨0, by rw [indexOf?.eq_def, if_pos (List.isPrefixOf_iff_prefix.2 (by simpa using h))], le_rfl⟩
  | s, c :: pre, sub, h => by
    obtain ⟨t, rfl⟩ : ∃ t, s = c :: t := by
      obtain ⟨r, hr⟩ := h
      exact ⟨pre ++ sub ++ r, by simp [← hr]⟩
    rw [indexOf?.eq_def]
    split_ifs
    · exact ⟨0, rfl, Nat.zero_le _⟩
    · obtain ⟨i, hi, hle⟩ := @indexOf?_le t pre sub (List.prefix_cons_inj c |>.1 h)
      exact ⟨i + 1, by simp [hi], by simpa using hle⟩

theorem prefix_drop_of_indexOf? : ∀ {s sub : List Char} {i : Nat}, indexOf? s sub = some i → sub <+: s.drop i
  | s, sub, i, h => by
    rw [indexOf?.eq_def] at h
    split_ifs at h with hp
    · cases h; exact List.isPrefixOf_iff_prefix.1 hp
    · match s, h with
      | _ :: t, h =>
        obtain ⟨j, hj, rfl⟩ := Option.map_eq_some'.1 h
        exact prefix_drop_of_indexOf? (s := t) hj

theorem add_length_le_of_prefix_drop {s sub : List Char} {i : Nat} (h : sub <+: s.drop i) (hne : sub ≠ []) :
    i + sub.length ≤ s.length := by
  have hl := h.length_le
  have hpos := List.length_pos.2 hne
  rw [List.length_drop] at hl
  omega

theorem findFrom_eq_natCast {s sub : List Char} {start : Int} {j : Nat} (h : findFrom s sub start = j) :
    sliceIndex s start ≤ j ∧ sub <+: s.drop j := by
  unfold findFrom at h
  split at h
  · rename_i i hi
    obtain rfl : sliceIndex s start + i = j := by exact_mod_cast h
    exact ⟨Nat.le_add_right _ _, by simpa [List.drop_drop, Nat.add_comm] using prefix_drop_of_indexOf? hi⟩
  · omega

/-! ## Replacing -/

theorem replaceFrom_skip (old new : List Char) : ∀ (k : Nat) (s : List Char),
    replaceFrom old new k s = replaceFrom old new 0 (s.drop k)
  | 0, _ => rfl
  | _ + 1, [] => by simp [replaceFrom]
  | k + 1, _ :: s => by rw [replaceFrom, replaceFrom_skip old new k s]; rfl

/-- `s.replace(old, new)` replaces the first occurrence of `old` and goes on after it -/
theorem replaceFrom_eq {old : List Char} (hold : old ≠ []) (new : List Char) : ∀ s : List Char,
    replaceFrom old new 0 s = match indexOf? s old with
      | none => s
      | some j => s.take j ++ new ++ replaceFrom old new 0 (s.drop (j + old.length))
  | [] => by
    obtain ⟨c, o, rfl⟩ := List.exists_cons_of_ne_nil hold
    simp [replaceFrom, indexOf?]
  | c :: s => by
    rw [indexOf?.eq_def]
    by_cases hp : old.isPrefixOf (c :: s)
    · obtain ⟨x, o, rfl⟩ := List.exists_cons_of_ne_nil hold
      simp [replaceFrom, hp, replaceFrom_skip]
    · rw [replaceFrom, if_neg hp, if_neg hp, replaceFrom_eq hold new s]
      rcases h : indexOf? s old with _ | j <;> simp [h, Nat.add_right_comm]

theorem infix_append_cons_of_not_mem {sub a b : List Char} {x : Char} (hx : x ∉ sub)
    (h : sub <:+: a ++ x :: b) : sub <:+: a ∨ sub <:+: b := by
  obtain ⟨p, t, h⟩ := h
  rw [List.append_assoc, List.append_eq_append_iff] at h
  rcases h with ⟨a', rfl, h⟩ | ⟨c, rfl, h⟩
  · rw [List.append_eq_append_iff] at h
    rcases h with ⟨d, rfl, -⟩ | ⟨_ | ⟨y, d⟩, rfl, h⟩
    · exact .inl ⟨p, d, by simp⟩
    · exact .inl ⟨p, [], by simp⟩
    · cases h; simp at hx
  · rcases c with _ | ⟨y, c⟩
    · rcases sub with _ | ⟨y, sub⟩
      · exact .inl (List.nil_infix)
      · cases h; simp at hx
    · cases h; exact .inr ⟨c, t, by simp⟩

theorem infix_append_append_of_disjoint {sub b : List Char} :
    ∀ {a n : List Char}, n ≠ [] → (∀ c ∈ n, c ∉ sub) → sub <:+: a ++ n ++ b → sub <:+: a ∨ sub <:+: b
  | a, x :: n, _, hn, h => by
    rcases infix_append_cons_of_not_mem (hn x (List.mem_cons_self _ _)) (by simpa using h) with h | h
    · exact .inl h
    · rcases n with _ | ⟨y, n⟩
      · exact .inr h
      · rcases infix_append_append_of_disjoint (a := []) (List.cons_ne_nil y n)
          (fun c hc => hn c (List.mem_cons_of_mem x hc)) (by simpa using h) with h | h
        · exact .inl ((List.eq_nil_of_infix_nil h) ▸ List.nil_infix)
        · exact .inr h

/-- **`s.replace(old, new)` leaves no occurrence of `old`** when `new` shares no character with it. -/
theorem not_infix_replaceFrom {old new : List Char} (hold : old ≠ []) (hnew : new ≠ [])
    (hdisj : ∀ c ∈ new, c ∉ old) (s : List Char) : ¬ old <:+: replaceFrom old new 0 s := by
  induction' hs : s.length using Nat.strong_induction_on with n ih generalizing s
  rw [replaceFrom_eq hold]
  rcases hj : indexOf? s old with _ | j
  · rintro ⟨p, t, rfl⟩
    obtain ⟨i, hi, -⟩ := indexOf?_le (s := p ++ old ++ t) (List.prefix_append _ _)
    rw [List.append_assoc] at hi
    simp [hi] at hj
  · intro h
    rcases infix_append_append_of_disjoint hnew hdisj h with ⟨p, t, hp⟩ | h
    · have hpre : p ++ old <+: s := ⟨t ++ s.drop j, by rw [← List.append_assoc, hp, List.take_append_drop]⟩
      obtain ⟨i, hi, hle⟩ := indexOf?_le hpre
      have hlen := congrArg List.length hp
      simp only [List.length_append, List.length_take] at hlen
      have := List.length_pos.2 hold
      rw [hj, Option.some_inj] at hi
      omega
    · have hlt : (s.drop (j + old.length)).length < n := by
        have := List.length_pos.2 hold
        have := (prefix_drop_of_indexOf? hj).length_le
        simp only [List.length_drop] at this ⊢
        omega
      exact ih _ hlt _ rfl h

end Hypermesh.PyStr
