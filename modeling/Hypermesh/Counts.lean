import Mathlib
/-
Python `dict`s of counters, as the audit scripts keep them: `{key: 0 for key in keys}` and then
`counts[key] += n` (`QUANTUM_CERTIFICATE_SECURITY_AUDIT.py` and `SECURITY_PRODUCTION_READINESS_VALIDATOR.py`,
`generate_security_report`; the `stats` dict of `security_audit.py`).

A dict is its list of entries in insertion order. `get?` is `counts[key]` and `add` is `counts[key] += n`; both
fail (`none`, the `KeyError`) on a key the dict does not hold. `set` is `counts[key] = n`, which never fails.

Results:
- `get?_ofFn`, `add_ofFn`: on a table built from a key list, reading and adding at one of its keys succeed;
- `foldlM_bump_ofFn`: a tally loop `for x in xs: counts[key x] += 1` never raises when every key it bumps is a key
  of the table, and ends with each key's count of occurrences added;
- `merge_ofFn`, `total_ofFn_countP`: tables of counts add pointwise, and a tally over distinct keys totals the
  number of items tallied.
-/

namespace Hypermesh

/-- a dict of counters, entries in insertion order -/
abbrev Counts (κ : Type) := List (κ × Nat)

namespace Counts

variable {κ α : Type} [DecidableEq κ]

/-- `counts[key]`; `none` is the `KeyError` -/
def get? : Counts κ → κ → Option Nat
  | [], _ => none
  | (k, n) :: c, key => if k = key then some n else get? c key

/-- `counts[key] += n`; `none` is the `KeyError` of a key the dict does not hold -/
def add (c : Counts κ) (key : κ) (n : Nat) : Option (Counts κ) :=
  if key ∈ c.map Prod.fst then some (c.map fun e => if e.1 = key then (e.1, e.2 + n) else e) else none

/-- `counts[key] += 1` -/
def bump (c : Counts κ) (key : κ) : Option (Counts κ) := c.add key 1

/-- `counts[key] = n`: overwrite in place, or append a new key -/
def set (c : Counts κ) (key : κ) (n : Nat) : Counts κ :=
  if key ∈ c.map Prod.fst then c.map (fun e => if e.1 = key then (e.1, n) else e) else c ++ [(key, n)]

/-- the pointwise sum of two tables with the same keys -/
def merge (c d : Counts κ) : Counts κ := List.zipWith (fun a b => (a.1, a.2 + b.2)) c d

/-- the sum of a table's counts -/
def total (c : Counts κ) : Nat := (c.map Prod.snd).sum

/-- the table holding `g k` at each of `keys`, in their order (`{k: 0 for k in keys}` is `ofFn keys 0`) -/
def ofFn (keys : List κ) (g : κ → Nat) : Counts κ := keys.map fun k => (k, g k)

/-- each key's count raised by `inc key` -/
def plus (c : Counts κ) (inc : κ → Nat) : Counts κ := c.map fun e => (e.1, e.2 + inc e.1)

omit [DecidableEq κ] in
@[simp] theorem keys_ofFn (keys : List κ) (g : κ → Nat) : (ofFn keys g).map Prod.fst = keys := by
  simp [ofFn, Function.comp_def]

theorem get?_ofFn {keys : List κ} {key : κ} (g : κ → Nat) (h : key ∈ keys) :
    (ofFn keys g).get? key = some (g key) := by
  induction keys with
  | nil => cases h
  | cons k ks ih =>
    by_cases hk : k = key
    · subst hk; simp [ofFn, get?]
    · simp only [ofFn, List.map_cons, get?, hk, if_false]
      exact ih ((List.mem_cons.1 h).resolve_left (Ne.symm hk))

theorem add_ofFn {keys : List κ} {key : κ} (g : κ → Nat) (n : Nat) (h : key ∈ keys) :
    (ofFn keys g).add key n = some (ofFn keys fun k => g k + if k = key then n else 0) := by
  rw [add, keys_ofFn, if_pos h]
  simp only [ofFn, List.map_map, Option.some.injEq]
  refine List.map_congr_left fun k _ => ?_
  by_cases hk : k = key <;> simp [hk]

/-- **A tally never raises** when each key it bumps is a key of the table, and it adds each key's count. -/
theorem foldlM_bump_ofFn (keys : List κ) (key : α → κ) (xs : List α) (g : κ → Nat)
    (h : ∀ x ∈ xs, key x ∈ keys) :
    xs.foldlM (fun c x => c.bump (key x)) (ofFn keys g) =
      some (ofFn keys fun k => g k + xs.countP fun x => key x = k) := by
  induction xs generalizing g with
  | nil => simp [ofFn]
  | cons x xs ih =>
    have hb : (ofFn keys g).bump (key x) = some (ofFn keys fun k => g k + if k = key x then 1 else 0) :=
      add_ofFn g 1 (h x (List.mem_cons_self _ _))
    rw [List.foldlM_cons, hb]
    refine (ih _ fun y hy => h y (List.mem_cons_of_mem _ hy)).trans ?_
    congr 2
    funext k
    by_cases hk : key x = k
    · subst hk; simp; omega
    · simp [hk, Ne.symm hk]

/-! ## Reading back updates of any table -/

theorem get?_update (c : Counts κ) (key k : κ) (f : Nat → Nat) :
    get? (c.map fun e => if e.1 = key then (e.1, f e.2) else e) k = if k = key then (c.get? k).map f else c.get? k := by
  induction c with
  | nil => simp [get?]
  | cons e c ih =>
    obtain ⟨k₀, n₀⟩ := e
    by_cases h₁ : k₀ = key
    · rw [List.map_cons, if_pos h₁]
      by_cases h₂ : k₀ = k
      · subst h₁ h₂; simp [get?]
      · simp [get?, h₂, ih, h₁ ▸ Ne.symm h₂]
    · rw [List.map_cons, if_neg h₁]
      by_cases h₂ : k₀ = k
      · subst h₂; simp [get?, h₁, Ne.symm h₁]
      · simp [get?, h₂, ih]

omit [DecidableEq κ] in
@[simp] theorem keys_plus (c : Counts κ) (inc : κ → Nat) : (c.plus inc).map Prod.fst = c.map Prod.fst := by
  simp [plus, Function.comp_def]

omit [DecidableEq κ] in
@[simp] theorem plus_plus (c : Counts κ) (f g : κ → Nat) : (c.plus f).plus g = c.plus fun k => f k + g k := by
  simp [plus, Nat.add_assoc]

/-- `counts[key] += n` at a key of the table raises that key's count alone -/
theorem add_eq_plus {c : Counts κ} {key : κ} (h : key ∈ c.map Prod.fst) (n : Nat) :
    c.add key n = some (c.plus fun k => if k = key then n else 0) := by
  rw [add, if_pos h, plus]
  congr 1
  refine List.map_congr_left fun e _ => ?_
  by_cases he : e.1 = key <;> simp [he]

theorem mem_keys_of_get? {c : Counts κ} {key : κ} {n : Nat} (h : c.get? key = some n) : key ∈ c.map Prod.fst := by
  induction c with
  | nil => cases h
  | cons e c ih =>
    by_cases he : e.1 = key
    · exact he ▸ List.mem_cons_self _ _
    · simp only [get?, he, if_false] at h
      exact List.mem_cons_of_mem _ (ih h)

theorem get?_add {c c' : Counts κ} {key : κ} {n : Nat} (h : c.add key n = some c') (k : κ) :
    c'.get? k = if k = key then (c.get? k).map (· + n) else c.get? k := by
  unfold add at h
  split_ifs at h
  cases h
  exact get?_update c key k (· + n)

theorem keys_add {c c' : Counts κ} {key : κ} {n : Nat} (h : c.add key n = some c') :
    c'.map Prod.fst = c.map Prod.fst := by
  unfold add at h
  split_ifs at h
  cases h
  simp only [List.map_map]
  exact List.map_congr_left fun e _ => by by_cases he : e.1 = key <;> simp [he]

/-- `counts[key] += n` succeeds on a key that reads -/
theorem add_eq_some {c : Counts κ} {key : κ} {m : Nat} (h : c.get? key = some m) (n : Nat) :
    ∃ c', c.add key n = some c' := ⟨_, if_pos (mem_keys_of_get? h)⟩

theorem exists_get?_of_mem {c : Counts κ} {key : κ} (h : key ∈ c.map Prod.fst) : ∃ n, c.get? key = some n := by
  induction c with
  | nil => cases h
  | cons e c ih =>
    by_cases he : e.1 = key
    · exact ⟨e.2, by simp [get?, he]⟩
    · simp only [get?, he, if_false]
      exact ih ((List.mem_cons.1 h).resolve_left (Ne.symm he))

theorem keys_set_of_mem {c : Counts κ} {key : κ} (h : key ∈ c.map Prod.fst) (n : Nat) :
    (c.set key n).map Prod.fst = c.map Prod.fst := by
  rw [set, if_pos h, List.map_map]
  exact List.map_congr_left fun e _ => by by_cases he : e.1 = key <;> simp [he]

theorem get?_set_of_ne (c : Counts κ) {key k : κ} (h : k ≠ key) (n : Nat) : (c.set key n).get? k = c.get? k := by
  unfold set
  split_ifs with hk
  · rw [get?_update c key k (fun _ => n), if_neg h]
  · induction c with
    | nil => simp [get?, Ne.symm h]
    | cons e c ih =>
      simp only [List.map_cons, List.mem_cons, not_or] at hk
      simp only [List.cons_append, get?]
      split_ifs
      · rfl
      · exact ih hk.2

omit [DecidableEq κ] in
/-- tables listing the same keys add pointwise -/
theorem merge_map {β : Type} (keys : List β) (key : β → κ) (g h : β → Nat) :
    merge (keys.map fun b => (key b, g b)) (keys.map fun b => (key b, h b)) =
      keys.map fun b => (key b, g b + h b) := by
  induction keys <;> simp_all [merge]

omit [DecidableEq κ] in
theorem merge_ofFn (keys : List κ) (g h : κ → Nat) :
    merge (ofFn keys g) (ofFn keys h) = ofFn keys fun k => g k + h k :=
  merge_map keys id g h

theorem sum_indicator (keys : List κ) (a : κ) : (keys.map fun k => if a = k then 1 else 0).sum = keys.count a := by
  induction keys with
  | nil => rfl
  | cons k ks ih =>
    by_cases h : a = k
    · subst h; simp [List.count_cons, ih]; omega
    · simp [List.count_cons, ih, h, Ne.symm h]

/-- **A tally over distinct keys counts every item once.** -/
theorem total_ofFn_countP {keys : List κ} (hk : keys.Nodup) (key : α → κ) (xs : List α)
    (h : ∀ x ∈ xs, key x ∈ keys) : total (ofFn keys fun k => xs.countP fun x => key x = k) = xs.length := by
  induction xs with
  | nil => simp [total, ofFn, Function.comp_def]
  | cons x xs ih =>
    have ih' := ih fun y hy => h y (List.mem_cons_of_mem _ hy)
    simp only [total, ofFn, List.map_map, Function.comp_def, List.countP_cons, decide_eq_true_eq] at ih' ⊢
    rw [List.sum_map_add, ih', sum_indicator, List.count_eq_one_of_mem hk (h x (List.mem_cons_self _ _)),
      List.length_cons]

end Counts

end Hypermesh
