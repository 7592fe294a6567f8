import Mathlib
/-
Python's numbers as the servers compute with them: `int`, unbounded, and `float`, an IEEE 754 double.

A finite double is its exact value `m * 2^e`. `PyFloat.round` gives the double nearest a dyadic number, ties to even,
with 53 significant bits, subnormals below `2^-1022` and an infinity from `2^1024` on. `a + b` of two numbers
(`PyNum.add`) is exact for two ints; an int beside a float is first converted by `PyLong_AsDouble`, which raises
`OverflowError` when the int rounds to `2^1024` or past it (`PyFloat.ofInt`, `none`). Comparisons between ints and
floats are exact, as CPython's `float_richcompare` makes them, and false when a NaN takes part. The sign of zero is
left out: no modelled code tells `-0.0` from `0.0`.
-/

namespace Hypermesh

/-- a Python `float` -/
inductive PyFloat where
  | finite (m e : Int)
  | inf (neg : Bool)
  | nan
  deriving DecidableEq, Repr

namespace PyFloat

/-- the number of binary digits of `a`, `0` for `0` -/
def bitLength (a : Nat) : Nat := go a a
where
  go : Nat → Nat → Nat
    | 0, _ => 0
    | fuel + 1, a => if a = 0 then 0 else go fuel (a / 2) + 1

/-- `a / 2^s` rounded to the nearest integer, ties to even -/
def shiftRound (a s : Nat) : Nat :=
  if s = 0 then a
  else if bitLength a + 1 ≤ s then 0
  else
    let q := a / 2 ^ s
    let r := a % 2 ^ s
    if 2 ^ (s - 1) < r ∨ (r = 2 ^ (s - 1) ∧ q % 2 = 1) then q + 1 else q

/-- the double nearest `m * 2^e`: its last significant bit has the exponent `q`, 53 bits below the top one and no
lower than the subnormals' `-1074` -/
def round (m e : Int) : PyFloat :=
  if m = 0 then .finite 0 0
  else
    let a := m.natAbs
    let q := max (e + bitLength a - 53) (-1074)
    let r := if q ≤ e then a * 2 ^ (e - q).toNat else shiftRound a (q - e).toNat
    if 1025 ≤ (bitLength r : Int) + q then .inf (m < 0) else .finite (if m < 0 then -(r : Int) else r) q

/-- `float(n)`, as `PyLong_AsDouble` converts an int; `none` is its `OverflowError` -/
def ofInt (n : Int) : Option PyFloat :=
  match round n 0 with
  | .finite m e => some (.finite m e)
  | _ => none

def neg : PyFloat → PyFloat
  | .finite m e => .finite (-m) e
  | .inf b => .inf (!b)
  | .nan => .nan

/-- `x + y` of two doubles -/
def add : PyFloat → PyFloat → PyFloat
  | .finite m e, .finite m' e' =>
    let f := min e e'
    round (m * 2 ^ (e - f).toNat + m' * 2 ^ (e' - f).toNat) f
  | .nan, _ => .nan
  | _, .nan => .nan
  | .inf b, .inf b' => if b = b' then .inf b else .nan
  | .inf b, .finite _ _ => .inf b
  | .finite _ _, .inf b => .inf b

/-- `x < y` between exact values; an int `n` is `finite n 0` here -/
def lt : PyFloat → PyFloat → Bool
  | .finite m e, .finite m' e' =>
    let f := min e e'
    decide (m * 2 ^ (e - f).toNat < m' * 2 ^ (e' - f).toNat)
  | .nan, _ => false
  | _, .nan => false
  | .inf b, .inf b' => b && !b'
  | .inf b, .finite _ _ => b
  | .finite _ _, .inf b => !b

def isNan : PyFloat → Bool
  | .nan => true
  | _ => false

end PyFloat

/-- a Python number: an `int` (a `bool` counts as one) or a `float` -/
inductive PyNum where
  | int (n : Int)
  | float (x : PyFloat)
  deriving DecidableEq, Repr

namespace PyNum

/-- the exact value, an int `n` as `n * 2^0` -/
def exact : PyNum → PyFloat
  | .int n => .finite n 0
  | .float x => x

/-- `a + b`; `none` is the `OverflowError` of converting an int operand beside a float -/
def add : PyNum → PyNum → Option PyNum
  | .int n, .int n' => some (.int (n + n'))
  | .int n, .float x => (PyFloat.ofInt n).map fun y => .float (y.add x)
  | .float x, .int n => (PyFloat.ofInt n).map fun y => .float (x.add y)
  | .float x, .float y => some (.float (x.add y))

def neg : PyNum → PyNum
  | .int n => .int (-n)
  | .float x => .float x.neg

/-- `a < b` -/
def lt (a b : PyNum) : Bool := a.exact.lt b.exact

/-- `a <= b`: false when a NaN takes part -/
def le (a b : PyNum) : Bool := !a.exact.isNan && !b.exact.isNan && !b.exact.lt a.exact

end PyNum

end Hypermesh
