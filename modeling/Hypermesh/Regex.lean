import Hypermesh.PyStr
/-
`re.search(pattern, line[, re.IGNORECASE])` for the patterns the audit scripts write: literals, character classes
(`.`, `\s`, `\w`, `[...]`, `[^...]`), concatenation, alternation, `*`, `*?`, `+` and `{n,}`.

Only whether a match exists is read (`if re.search(...)`), so a pattern is its language: lazy and greedy
repetition coincide, and `search` asks whether some substring is in the language. `matchPrefix` walks the
Brzozowski derivatives of the pattern along the text and reports whether some prefix is accepted.

Under `re.IGNORECASE` a literal character matches its other ASCII case only, where CPython folds every cased letter:
it also matches `k` to the Kelvin sign U+212A and `s` to the long s U+017F. The classes used here hold no letters
but the both-case `\w`, so they ignore the flag. `\s` is `str.isspace`; `\w` is ASCII letters, digits and `_`,
where CPython also admits the other Unicode letters and digits.
-/

namespace Hypermesh.Regex

inductive Pattern where
  | empty
  | eps
  | char (c : Char)
  | cls (p : Char → Bool)
  | seq (a b : Pattern)
  | alt (a b : Pattern)
  | star (a : Pattern)

namespace Pattern

def mkSeq : Pattern → Pattern → Pattern
  | .empty, _ => .empty
  | _, .empty => .empty
  | .eps, r => r
  | r, .eps => r
  | a, b => .seq a b

def mkAlt : Pattern → Pattern → Pattern
  | .empty, r => r
  | r, .empty => r
  | a, b => .alt a b

def nullable : Pattern → Bool
  | .empty => false
  | .eps => true
  | .char _ => false
  | .cls _ => false
  | .seq a b => nullable a && nullable b
  | .alt a b => nullable a || nullable b
  | .star _ => true

/-- does text character `c` match pattern character `l` -/
def charMatch (icase : Bool) (c l : Char) : Bool := if icase then c.toLower == l.toLower else c == l

/-- the patterns that accept `w` exactly when `r` accepts `c :: w` -/
def deriv (icase : Bool) (c : Char) : Pattern → Pattern
  | .empty => .empty
  | .eps => .empty
  | .char l => if charMatch icase c l then .eps else .empty
  | .cls p => if p c then .eps else .empty
  | .seq a b =>
    if nullable a then mkAlt (mkSeq (deriv icase c a) b) (deriv icase c b) else mkSeq (deriv icase c a) b
  | .alt a b => mkAlt (deriv icase c a) (deriv icase c b)
  | .star a => mkSeq (deriv icase c a) (.star a)

/-- does some prefix of the text match -/
def matchPrefix (icase : Bool) : Pattern → List Char → Bool
  | r, [] => nullable r
  | r, c :: s => nullable r || match deriv icase c r with
    | .empty => false
    | r' => matchPrefix icase r' s

end Pattern

/-- `re.search(pattern, s)`, with `re.IGNORECASE` when `icase` -/
def search (icase : Bool) (r : Pattern) (s : List Char) : Bool := s.tails.any (Pattern.matchPrefix icase r)

/-! ## Pattern syntax -/

/-- a literal string -/
def lit (w : String) : Pattern := w.toList.foldr (fun c r => .seq (.char c) r) .eps

def seqs (rs : List Pattern) : Pattern := rs.foldr .seq .eps

/-- `a|b|...` -/
def alts : List Pattern → Pattern
  | [] => .empty
  | [r] => r
  | r :: rs => .alt r (alts rs)

/-- `(w1|w2|...)` of literals -/
def words (ws : List String) : Pattern := alts (ws.map lit)

/-- `.` -/
def anyChar : Pattern := .cls (· != '\n')

/-- `\s` -/
def space : Pattern := .cls PyStr.isSpace

/-- `\w` -/
def wordChar : Pattern := .cls fun c => c.isAlphanum || c == '_'

/-- `[cs]` -/
def oneOf (cs : String) : Pattern := .cls (· ∈ cs.toList)

/-- `[^cs]` -/
def noneOf (cs : String) : Pattern := .cls (· ∉ cs.toList)

/-- `\d` -/
def digit : Pattern := .cls PyStr.isDigit

/-- `r?` -/
def opt (r : Pattern) : Pattern := .alt r .eps

/-- `r+` -/
def plus (r : Pattern) : Pattern := .seq r (.star r)

/-- `r{n,}` -/
def atLeast (n : Nat) (r : Pattern) : Pattern := seqs (List.replicate n r ++ [.star r])

end Hypermesh.Regex
