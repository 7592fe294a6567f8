import Hypermesh.PyStr
/-
`TrustChainSecurityAuditor._search_pattern` (`trustchain/security_audit.py`): run `rg -n --no-heading pattern path`
and read its standard output back as (file, line, text) triples.

rg is an external collaborator: its standard output is the input here (`none` when `subprocess.run` raises). The
loop body of the source is `parseLine`; `collect` is the loop under the source's error handling. The `try` wraps the
whole loop, so an `int()` that raises ends it, and the bare `except` returns the matches appended so far.

Results:
- `collect_eq`: the result is the triples of the lines before the first line whose number field `int()` rejects,
  lines with fewer than two colons passed over;
- `parseLine_render`: a well-formed record `path:line:text` parses to its triple;
- `searchPattern_wellFormed`: an output made only of well-formed records gives all their triples, in order, the last
  text without its trailing whitespace;
- `colon_in_path_drops_later_records`: a record whose path holds a colon ends the loop, and a well-formed record
  printed after it is lost.
-/

namespace Hypermesh.TrustChain.Search

open PyStr

/-- what the loop body does with one line of the output -/
inductive Outcome where
  /-- no colon, or fewer than three fields: the line is passed over -/
  | skip
  /-- `int(parts[1])` raises `ValueError` -/
  | raise
  /-- `matches.append((parts[0], int(parts[1]), parts[2]))` -/
  | found (path : List Char) (line : Int) (text : List Char)
  deriving DecidableEq, Repr

/-- the loop body of `_search_pattern` -/
def parseLine (line : List Char) : Outcome :=
  if ':' ∈ line then
    match splitMax ':' 2 line with
    | p0 :: p1 :: p2 :: _ =>
      match toInt? p1 with
      | some n => .found p0 n p2
      | none => .raise
    | _ => .skip
  else .skip

/-- the loop over the output's lines; a `ValueError` ends it with the matches appended so far -/
def collect : List (List Char) → List (String × Int × String) → List (String × Int × String)
  | [], acc => acc
  | line :: rest, acc =>
    match parseLine line with
    | .skip => collect rest acc
    | .raise => acc
    | .found p n t => collect rest (acc ++ [(String.mk p, n, String.mk t)])

/-- `_search_pattern` given rg's standard output (`none` when `subprocess.run` raised) -/
def searchPattern (stdout : Option String) : List (String × Int × String) :=
  match stdout with
  | none => []
  | some out => if out = "" then [] else collect ((strip out.toList).splitOn '\n') []

/-! ## The loop -/

def Outcome.isRaise : Outcome → Bool
  | .raise => true
  | _ => false

def Outcome.triple? : Outcome → Option (String × Int × String)
  | .found p n t => some (String.mk p, n, String.mk t)
  | _ => none

/-- **What the loop returns**: the triples of the lines before the first `ValueError`. -/
theorem collect_eq (lines : List (List Char)) (acc : List (String × Int × String)) :
    collect lines acc =
      acc ++ (lines.takeWhile fun l => !(parseLine l).isRaise).filterMap fun l => (parseLine l).triple? := by
  induction lines generalizing acc with
  | nil => simp [collect]
  | cons l ls ih =>
    cases h : parseLine l <;> simp [collect, h, ih, Outcome.isRaise, Outcome.triple?, List.takeWhile_cons]

/-! ## Well-formed records -/

/-- a record as rg prints it: `path:line:text` -/
structure Record where
  path : List Char
  line : List Char
  text : List Char
  deriving DecidableEq, Repr

def Record.render (r : Record) : List Char := r.path ++ ':' :: (r.line ++ ':' :: r.text)

def Record.triple (r : Record) : String × Int × String := (String.mk r.path, digitsValue r.line, String.mk r.text)

/-- a path without colons, newlines or leading whitespace, a decimal line number, a text without newlines -/
structure Record.WellFormed (r : Record) : Prop where
  path_ne : r.path ≠ []
  colon_path : ':' ∉ r.path
  newline_path : '\n' ∉ r.path
  lead : ∀ c ∈ r.path.head?, isSpace c = false
  line_ne : r.line ≠ []
  digits : ∀ c ∈ r.line, isDigit c = true
  newline_text : '\n' ∉ r.text

theorem Record.WellFormed.not_mem_line {r : Record} (h : r.WellFormed) {c : Char} (hc : isDigit c = false) :
    c ∉ r.line := fun hm => by simp [h.digits c hm] at hc

theorem parseLine_render {r : Record} (h : r.WellFormed) :
    parseLine r.render = .found r.path (digitsValue r.line) r.text := by
  have hcolon : ':' ∉ r.line := h.not_mem_line (by decide)
  simp [parseLine, Record.render, splitMax_append_sep _ _ h.colon_path, splitMax_append_sep _ _ hcolon,
    splitMax, toInt?_digits h.line_ne h.digits]

theorem collect_render (recs : List Record) (h : ∀ r ∈ recs, r.WellFormed) (acc : List (String × Int × String)) :
    collect (recs.map Record.render) acc = acc ++ recs.map Record.triple := by
  induction recs generalizing acc with
  | nil => simp [collect]
  | cons r rs ih =>
    simp only [List.map_cons, collect, parseLine_render (h r (List.mem_cons_self _ _)),
      ih (fun r' hr' => h r' (List.mem_cons_of_mem _ hr')), List.append_assoc]
    rfl

/-! ## Whole outputs -/

/-- what rg prints for a list of records: each on a line of its own -/
def Record.output (recs : List Record) : List Char := (recs.map fun r => r.render ++ ['\n']).flatten

theorem Record.WellFormed.newline_render {r : Record} (h : r.WellFormed) : ∀ c ∈ r.render, ¬(c == '\n') = true := by
  intro c hc e
  rw [beq_iff_eq.1 e] at hc
  simp only [Record.render, List.mem_append, List.mem_cons] at hc
  rcases hc with hc | hc | hc | hc | hc
  · exact h.newline_path hc
  · cases hc
  · exact h.not_mem_line (by decide) hc
  · cases hc
  · exact h.newline_text hc

theorem Record.WellFormed.stripText {r : Record} (h : r.WellFormed) :
    ({ r with text := r.text.rdropWhile isSpace } : Record).WellFormed :=
  { h with newline_text := fun hm => h.newline_text ((List.rdropWhile_prefix _ _).subset hm) }

theorem splitOn_output (recs : List Record) (last : Record) (h : ∀ r ∈ recs ++ [last], r.WellFormed) :
    (Record.output recs ++ last.render).splitOn '\n' = (recs ++ [last]).map Record.render := by
  induction recs with
  | nil =>
    exact List.splitOnP_eq_single _ _ (h last (by simp)).newline_render
  | cons r rs ih =>
    simp only [Record.output, List.map_cons, List.flatten_cons, List.append_assoc, List.singleton_append,
      List.cons_append] at ih ⊢
    rw [List.splitOn, List.splitOnP_first _ _ (h r (by simp)).newline_render _ (by simp), List.nil_append,
      ← List.splitOn,
      ih fun r' hr' => h r' (by simp_all)]

theorem dropWhile_output (recs : List Record) (h : ∀ r ∈ recs, r.WellFormed) :
    (Record.output recs).dropWhile isSpace = Record.output recs := by
  cases recs with
  | nil => rfl
  | cons r rs =>
    obtain ⟨c, l, hl⟩ := List.exists_cons_of_ne_nil (h r (by simp)).path_ne
    have hc : isSpace c = false := (h r (by simp)).lead c (by simp [hl])
    simp [Record.output, Record.render, hl, hc]

theorem strip_output (recs : List Record) (last : Record) (h : ∀ r ∈ recs ++ [last], r.WellFormed) :
    strip (Record.output (recs ++ [last])) =
      Record.output recs ++ ({ last with text := last.text.rdropWhile isSpace } : Record).render := by
  have hX : Record.output (recs ++ [last]) =
      (Record.output recs ++ last.path ++ ':' :: last.line) ++ ':' :: (last.text ++ ['\n']) := by
    simp [Record.output, Record.render]
  rw [strip, dropWhile_output _ h, hX, rdropWhile_append_cons _ _ (by decide),
    List.rdropWhile_concat_pos _ _ _ (by decide)]
  simp [Record.render]

/-- **An output of well-formed records** gives every record's triple, in order; `strip()` takes the trailing
whitespace of the last text. -/
theorem searchPattern_wellFormed (recs : List Record) (last : Record) (h : ∀ r ∈ recs ++ [last], r.WellFormed) :
    searchPattern (some (String.mk (Record.output (recs ++ [last])))) =
      (recs ++ [{ last with text := last.text.rdropWhile isSpace }]).map Record.triple := by
  have hne : String.mk (Record.output (recs ++ [last])) ≠ "" := fun e => by
    simpa [Record.output] using congrArg String.data e
  have h' : ∀ r ∈ recs ++ [{ last with text := last.text.rdropWhile isSpace }], r.WellFormed := by
    simp only [List.mem_append, List.mem_singleton]
    rintro r (hr | rfl)
    · exact h r (by simp [hr])
    · exact (h last (by simp)).stripText
  simp only [searchPattern, hne, if_false]
  rw [show (String.mk (Record.output (recs ++ [last]))).toList = Record.output (recs ++ [last]) from rfl,
    strip_output recs last h, splitOn_output _ _ h', collect_render _ h', List.nil_append]

/-- A well-formed record is found alone, and lost after a record whose file name holds a colon: `int('b.rs')`
raises and the bare `except` ends the loop. -/
theorem colon_in_path_drops_later_records :
    searchPattern (some "/srv/trustchain/src/dns/ok.rs:5:localhost\n") =
      [("/srv/trustchain/src/dns/ok.rs", 5, "localhost")] ∧
    searchPattern (some "/srv/trustchain/src/dns/a:b.rs:3:let x = 1;\n/srv/trustchain/src/dns/ok.rs:5:localhost\n") =
      [] := by
  constructor <;> decide

end Hypermesh.TrustChain.Search
