import Mathlib.Data.List.Basic
import Hypermesh.PyFloat
/-
The Python values the HyperMesh server (`hypermesh_simple_server.py`) keeps and receives: the server's `dict`s keyed
by id (`PyDict`), and JSON values (`PyVal`), as `update_asset` may store any of them in an asset field.

A `PyDict` is its list of entries in insertion order; `set` overwrites a key in place or appends it, `erase` is
`del d[key]`. `get?_set` says what a write reads back.

A JSON value (`PyVal`) is read as Python's `json` reads it, floats included (`PyFloat`). `num?` is a value as an
operand of `+`, `-`, `<` and `>` (a `bool` is the `int` 0 or 1); the operators raise `TypeError` on the other values.
`getItem` and `setItem` are `v[key]` and `v[key] = x` for a string key: a `dict` answers them as a `PyDict`, a missing
key is a `KeyError`, and any other value raises `TypeError`.

The handlers update a dataclass instance field by field, `setattr` guarded by `hasattr` (`PyObject.updates`), and
answer with `asdict` of it. An instance keeps the values of the attributes the model follows, and which of the other
fields `asdict` needs it holds: `hasattr` also admits `__dict__`, which replaces them all, and `__class__` and
`__weakref__`, which raise.
-/

namespace Hypermesh.Server

/-- a `dict` keyed by id, entries in insertion order -/
abbrev PyDict (α : Type) := List (String × α)

namespace PyDict

variable {α : Type}

/-- `d.get(key)` -/
def get? : PyDict α → String → Option α
  | [], _ => none
  | (k, v) :: d, key => if k = key then some v else get? d key

/-- `d[key] = v` -/
def set (d : PyDict α) (key : String) (v : α) : PyDict α :=
  if key ∈ d.map Prod.fst then d.map fun e => if e.1 = key then (key, v) else e else d ++ [(key, v)]

/-- `del d[key]` -/
def erase (d : PyDict α) (key : String) : PyDict α := d.filter fun e => e.1 ≠ key

theorem get?_append (d d' : PyDict α) (key : String) : get? (d ++ d') key = (get? d key).or (get? d' key) := by
  induction d with
  | nil => rfl
  | cons e d ih =>
    by_cases he : e.1 = key
    · simp [get?, he]
    · simp [get?, he, ih]

/-- replacing the entries of `key` changes what `key` reads and nothing else -/
theorem get?_map_replace (d : PyDict α) (key k : String) (v : α) :
    get? (d.map fun e => if e.1 = key then (key, v) else e) k =
      if k = key then (get? d k).map fun _ => v else get? d k := by
  induction d with
  | nil => simp [get?]
  | cons e d ih =>
    by_cases h₁ : e.1 = key
    · rw [List.map_cons, if_pos h₁]
      by_cases h₂ : k = key
      · simp [get?, h₁, h₂]
      · simp [get?, ih, h₁, h₂, Ne.symm h₂]
    · rw [List.map_cons, if_neg h₁]
      by_cases h₂ : e.1 = k
      · have hk : k ≠ key := h₂ ▸ h₁
        simp [get?, h₂, hk]
      · simp [get?, h₂, ih]

theorem exists_get?_of_mem {d : PyDict α} {key : String} (h : key ∈ d.map Prod.fst) : ∃ v, get? d key = some v := by
  induction d with
  | nil => cases h
  | cons e d ih =>
    by_cases he : e.1 = key
    · simp [get?, he]
    · simp only [List.map_cons, List.mem_cons, Ne.symm he, false_or] at h
      simpa [get?, he] using ih h

theorem mem_keys_of_get? {d : PyDict α} {key : String} {v : α} (h : get? d key = some v) :
    key ∈ d.map Prod.fst := by
  induction d with
  | nil => cases h
  | cons e d ih =>
    by_cases he : e.1 = key
    · simp [he]
    · simp only [get?, he, if_false] at h
      exact List.mem_cons_of_mem _ (ih h)

theorem mem_keys_iff_isSome {d : PyDict α} {key : String} : key ∈ d.map Prod.fst ↔ (get? d key).isSome := by
  refine ⟨fun h => ?_, fun h => ?_⟩
  · obtain ⟨v, hv⟩ := exists_get?_of_mem h
    simp [hv]
  · obtain ⟨v, hv⟩ := Option.isSome_iff_exists.1 h
    exact mem_keys_of_get? hv

/-- `d[key] = v` reads back `v` at `key` and changes nothing else -/
@[simp] theorem get?_set (d : PyDict α) (key k : String) (v : α) :
    get? (d.set key v) k = if k = key then some v else get? d k := by
  unfold set
  split_ifs with hkey hk hk
  · obtain ⟨v', hv'⟩ := exists_get?_of_mem hkey
    rw [get?_map_replace, if_pos hk, hk, hv']
    rfl
  · rw [get?_map_replace, if_neg hk]
  · subst hk
    have hnone : get? d k = none := by
      cases hd : get? d k with
      | none => rfl
      | some v' => exact absurd (mem_keys_of_get? hd) hkey
    simp [get?_append, hnone, get?]
  · simp [get?_append, get?, Ne.symm hk]

theorem mem_of_get? {d : PyDict α} {key : String} {v : α} (h : get? d key = some v) : (key, v) ∈ d := by
  induction d with
  | nil => cases h
  | cons e d ih =>
    by_cases he : e.1 = key
    · simp only [get?, he, if_true, Option.some.injEq] at h
      subst h he
      exact List.mem_cons_self _ _
    · simp only [get?, he, if_false] at h
      exact List.mem_cons_of_mem _ (ih h)

/-- every entry of `d[key] = v` is the new one or an entry of `d` -/
theorem mem_set {d : PyDict α} {key : String} {v : α} {e : String × α} (h : e ∈ d.set key v) :
    e = (key, v) ∨ e ∈ d := by
  unfold set at h
  split_ifs at h
  · obtain ⟨e', he', rfl⟩ := List.mem_map.1 h
    by_cases hk : e'.1 = key
    · simp [hk]
    · simp [hk, he']
  · rcases List.mem_append.1 h with h | h
    · exact Or.inr h
    · exact Or.inl (List.mem_singleton.1 h)

theorem mem_keys_set {d : PyDict α} {key k : String} (v : α) :
    k ∈ (d.set key v).map Prod.fst ↔ k = key ∨ k ∈ d.map Prod.fst := by
  unfold set
  split_ifs with hkey
  · simp only [List.map_map]
    constructor
    · intro hk
      obtain ⟨e, he, rfl⟩ := List.mem_map.1 hk
      by_cases h : e.1 = key
      · left; simp [h]
      · right; simpa [h] using List.mem_map_of_mem Prod.fst he
    · rintro (rfl | hk)
      · obtain ⟨e, he, h⟩ := List.mem_map.1 hkey
        exact List.mem_map.2 ⟨e, he, by simp [h]⟩
      · obtain ⟨e, he, rfl⟩ := List.mem_map.1 hk
        exact List.mem_map.2 ⟨e, he, by by_cases h : e.1 = key <;> simp [h]⟩
  · simp [or_comm]

/-- a second `d[key] = v` overwrites the first -/
@[simp] theorem set_set (d : PyDict α) (key : String) (a b : α) : (d.set key a).set key b = d.set key b := by
  have hmem : key ∈ (d.set key a).map Prod.fst := (mem_keys_set a).2 (Or.inl rfl)
  rw [set, if_pos hmem]
  unfold set
  split_ifs with hk
  · rw [List.map_map]
    refine List.map_congr_left fun e _ => ?_
    by_cases he : e.1 = key <;> simp [he]
  · rw [List.map_append, List.map_singleton, if_pos rfl]
    have hd : d.map (fun e => if e.1 = key then (key, b) else e) = d :=
      (List.map_congr_left fun e he => if_neg fun (h : e.1 = key) => hk (h ▸ List.mem_map_of_mem Prod.fst he)).trans
        (List.map_id d)
    rw [hd]

theorem mem_keys_erase {d : PyDict α} {key k : String} :
    k ∈ (d.erase key).map Prod.fst ↔ k ≠ key ∧ k ∈ d.map Prod.fst := by
  simp only [erase, List.mem_map, List.mem_filter, decide_eq_true_eq]
  constructor
  · rintro ⟨e, ⟨he, hne⟩, rfl⟩
    exact ⟨hne, e, he, rfl⟩
  · rintro ⟨hne, e, he, rfl⟩
    exact ⟨e, ⟨he, hne⟩, rfl⟩

/-- `d[key] = v` for a key already there keeps the keys and their order -/
theorem keys_set_of_mem {d : PyDict α} {key : String} (h : key ∈ d.map Prod.fst) (v : α) :
    (d.set key v).map Prod.fst = d.map Prod.fst := by
  rw [set, if_pos h, List.map_map]
  refine List.map_congr_left fun e _ => ?_
  by_cases he : e.1 = key <;> simp [he]

theorem erase_cons (e : String × α) (d : PyDict α) (key : String) :
    erase (e :: d) key = if e.1 = key then erase d key else e :: erase d key := by
  by_cases he : e.1 = key <;> simp [erase, List.filter_cons, he]

/-- `del d[key]` reads `None` at `key` and changes nothing else -/
@[simp] theorem get?_erase (d : PyDict α) (key k : String) :
    get? (d.erase key) k = if k = key then none else get? d k := by
  induction d with
  | nil => simp [erase, get?]
  | cons e d ih =>
    rw [erase_cons]
    by_cases he : e.1 = key
    · by_cases hk : k = key
      · subst hk; simp [he, ih]
      · simp [get?, he, ih, hk, Ne.symm hk]
    · by_cases hk : e.1 = k
      · subst hk; simp [get?, he, Ne.symm he]
      · simp [get?, he, hk, ih]

end PyDict


/-- a JSON value -/
inductive PyVal where
  | none
  | bool (b : Bool)
  | int (n : Int)
  | float (x : PyFloat)
  | str (s : String)
  | list (xs : List PyVal)
  | dict (entries : List (String × PyVal))

/-- the exceptions the handlers can raise: `HTTPException(status, detail)`, and the `KeyError`, `TypeError`,
`AttributeError` and `OverflowError` the general handler answers with 500 -/
inductive Failure where
  | http (status : Nat) (detail : String)
  | keyError (key : String)
  | typeError
  | attributeError (name : String)
  | overflowError
  deriving DecidableEq, Repr

/-- the status code the server answers a failure with -/
def Failure.status : Failure → Nat
  | .http status _ => status
  | _ => 500

namespace PyVal

/-- `v == s` for a string `s` -/
def isStr (v : PyVal) (s : String) : Bool :=
  match v with
  | .str t => t == s
  | _ => false

def ofNum : PyNum → PyVal
  | .int n => .int n
  | .float x => .float x

/-- `v` as a number operand -/
def num? : PyVal → Except Failure PyNum
  | .bool b => .ok (.int (if b then 1 else 0))
  | .int n => .ok (.int n)
  | .float x => .ok (.float x)
  | _ => .error .typeError

/-- `v[key]` -/
def getItem (v : PyVal) (key : String) : Except Failure PyVal :=
  match v with
  | .dict es => match PyDict.get? es key with
    | some x => .ok x
    | Option.none => .error (.keyError key)
  | _ => .error .typeError

/-- `v[key] = x` -/
def setItem (v : PyVal) (key : String) (x : PyVal) : Except Failure PyVal :=
  match v with
  | .dict es => .ok (.dict (PyDict.set es key x))
  | _ => .error .typeError

/-- `v[key] += n` -/
def addItem (v : PyVal) (key : String) (n : PyNum) : Except Failure PyVal := do
  let x ← (v.getItem key >>= num?)
  match x.add n with
  | some y => v.setItem key (.ofNum y)
  | Option.none => throw .overflowError

end PyVal

/-! ## Dataclass instances -/

/-- a `@dataclass` the handlers update: the attributes the model follows, those of them the class itself holds,
and its fields without a default -/
structure PyClass where
  followed : List String
  classAttrs : List String
  required : List String
  deriving DecidableEq, Repr

/-- an instance: the followed attributes its `__dict__` holds, and the fields without a default, not followed, that
it holds -/
structure PyObject where
  cls : PyClass
  attrs : PyDict PyVal
  others : List String

namespace PyObject

/-- a new instance of `C` with every field set, the followed ones to `attrs` -/
def new (C : PyClass) (attrs : PyDict PyVal) : PyObject := ⟨C, attrs, C.required.filter (· ∉ C.followed)⟩

/-- the instance of `C` whose `__dict__` is `d` -/
def ofDict (C : PyClass) (d : PyDict PyVal) : PyObject :=
  ⟨C, d.filter (·.1 ∈ C.followed), (d.map Prod.fst).filter fun f => f ∈ C.required ∧ f ∉ C.followed⟩

/-- `o.name`, for an attribute the class holds no default for -/
def getattr (o : PyObject) (name : String) : Except Failure PyVal :=
  match o.attrs.get? name with
  | some v => .ok v
  | none => .error (.attributeError name)

/-- `o.name = v`, for a followed attribute -/
def setAttr (o : PyObject) (name : String) (v : PyVal) : PyObject := { o with attrs := o.attrs.set name v }

/-- `if hasattr(o, name): setattr(o, name, v)`. `hasattr` holds for every attribute of the instance or of its class.
Setting `__dict__` replaces the instance's attributes, and raises `TypeError` for a value that is not a dict;
`__class__` raises `TypeError` for a value that is not a class, and `__weakref__` is read-only. Any other attribute
the model does not follow changes nothing it follows: one without a default is set only when the instance holds it
already. -/
def update (o : PyObject) (name : String) (v : PyVal) : Except Failure PyObject :=
  if name = "__dict__" then
    match v with
    | .dict d => .ok (ofDict o.cls d)
    | _ => .error .typeError
  else if name = "__class__" then .error .typeError
  else if name = "__weakref__" then .error (.attributeError name)
  else if name ∈ o.cls.followed ∧ (name ∈ o.attrs.map Prod.fst ∨ name ∈ o.cls.classAttrs) then
    .ok (o.setAttr name v)
  else .ok o

/-- `for field, value in updates.items(): if hasattr(o, field): setattr(o, field, value)`: the instance as the
loop leaves it, and what stopped it -/
def updates (o : PyObject) : List (String × PyVal) → PyObject × Option Failure
  | [] => (o, none)
  | (name, v) :: us =>
    match o.update name v with
    | .ok o' => updates o' us
    | .error e => (o, some e)

/-- an update of another name than `a` and `__dict__` leaves the attribute `a` as it was -/
theorem update_get? {o o' : PyObject} {name a : String} {v : PyVal} (h : o.update name v = .ok o')
    (ha : name ≠ a) (hd : name ≠ "__dict__") : o'.attrs.get? a = o.attrs.get? a := by
  unfold update at h
  simp only [hd, if_false] at h
  split_ifs at h <;> cases h
  · simp [setAttr, Ne.symm ha]
  · rfl

/-- a `setattr` loop that sets neither `a` nor `__dict__` leaves the attribute `a` as it was -/
theorem updates_get? (o : PyObject) {us : List (String × PyVal)} {a : String}
    (hu : ∀ u ∈ us, u.1 ≠ a ∧ u.1 ≠ "__dict__") : (o.updates us).1.attrs.get? a = o.attrs.get? a := by
  induction us generalizing o with
  | nil => rfl
  | cons u us ih =>
    obtain ⟨name, v⟩ := u
    have hn := hu _ (List.mem_cons_self _ _)
    unfold updates
    split
    · next o' h' => rw [ih o' fun u hu' => hu u (List.mem_cons_of_mem _ hu'), update_get? h' hn.1 hn.2]
    · rfl

/-- whether `asdict(o)` raises. `fields(o)` reads `__dataclass_fields__` from the instance before its class: a dict
held there must be empty, its values having no `_field_type`, and anything else has no `values`. Without it,
`asdict` reads every field, and one without a default must be held by the instance. The dict it returns is only
echoed back, and is left out. -/
def asdict (o : PyObject) : Except Failure Unit :=
  match o.attrs.get? "__dataclass_fields__" with
  | some (.dict []) => .ok ()
  | some (.dict _) => .error (.attributeError "_field_type")
  | some _ => .error (.attributeError "values")
  | none =>
    match o.cls.required.find? fun f => f ∉ o.attrs.map Prod.fst ∧ f ∉ o.others with
    | some f => .error (.attributeError f)
    | none => .ok ()

end PyObject

/-! ## What the general handler answers -/

/-- an exception no `HTTPException` handler answers: the general handler answers it with 500 -/
def Failure.unhandled : Failure → Bool
  | .http _ _ => false
  | _ => true

theorem Failure.status_of_unhandled {e : Failure} (h : e.unhandled) : e.status = 500 := by
  cases e <;> first | rfl | cases h

/-- every exception `x` raises is one the general handler answers -/
def Crash {α : Type} (x : Except Failure α) : Prop := ∀ e, x = .error e → e.unhandled

namespace Crash

variable {α β : Type}

theorem pure (a : α) : Crash (Pure.pure a : Except Failure α) := fun _ h => nomatch h

theorem not_http {x : Except Failure α} (h : Crash x) (st : Nat) (d : String) : x ≠ .error (.http st d) :=
  fun hx => nomatch h _ hx

theorem bind {x : Except Failure α} {f : α → Except Failure β} (hx : Crash x) (hf : ∀ a, Crash (f a)) :
    Crash (x >>= f) := by
  intro e h
  cases hx' : x with
  | error e' => rw [hx'] at h; cases h; exact hx _ hx'
  | ok a => rw [hx'] at h; exact hf a e h

theorem map {x : Except Failure α} (hx : Crash x) (f : α → β) : Crash (f <$> x) :=
  bind hx fun a => pure (f a)

theorem mapM {f : α → Except Failure β} (hf : ∀ a, Crash (f a)) : ∀ l : List α, Crash (l.mapM f)
  | [] => pure []
  | a :: l => by
    rw [List.mapM_cons]
    exact bind (hf a) fun _ => bind (mapM hf l) fun _ => pure _

theorem filterM {f : α → Except Failure Bool} (hf : ∀ a, Crash (f a)) (l : List α) : Crash (l.filterM f) := by
  suffices h : ∀ l acc, Crash (List.filterAuxM f l acc) from bind (h l []) fun _ => pure _
  intro l
  induction l with
  | nil => exact fun _ => pure _
  | cons a l ih => exact fun acc => bind (hf a) fun b => ih _

theorem filterMapM {f : α → Except Failure (Option β)} (hf : ∀ a, Crash (f a)) (l : List α) :
    Crash (l.filterMapM f) := by
  suffices h : ∀ l acc, Crash (List.filterMapM.loop f l acc) from h l []
  intro l
  induction l with
  | nil => exact fun _ => pure _
  | cons a l ih => exact fun acc => bind (hf a) fun b => by cases b <;> exact ih _

theorem getItem (v : PyVal) (key : String) : Crash (v.getItem key) := by
  intro e h
  unfold PyVal.getItem at h
  split at h
  · split at h <;> cases h; rfl
  · cases h; rfl

theorem setItem (v : PyVal) (key : String) (x : PyVal) : Crash (v.setItem key x) := by
  intro e h
  unfold PyVal.setItem at h
  split at h <;> cases h; rfl

theorem num? (v : PyVal) : Crash v.num? := by
  intro e h
  cases v <;> cases h <;> rfl

theorem addItem (v : PyVal) (key : String) (n : PyNum) : Crash (v.addItem key n) := by
  refine bind (bind (getItem v key) num?) fun x => ?_
  split
  · exact setItem v key _
  · intro e h; cases h; rfl

theorem getattr (o : PyObject) (name : String) : Crash (o.getattr name) := by
  intro e h
  unfold PyObject.getattr at h
  split at h <;> cases h; rfl

theorem asdict (o : PyObject) : Crash o.asdict := by
  intro e h
  unfold PyObject.asdict at h
  repeat' split at h
  all_goals cases h <;> rfl

theorem update (o : PyObject) (name : String) (v : PyVal) : Crash (o.update name v) := by
  intro e h
  unfold PyObject.update at h
  repeat' split at h
  all_goals cases h <;> rfl

end Crash

/-- the exception that stops a `setattr` loop is one the general handler answers -/
theorem PyObject.updates_unhandled {o : PyObject} {us : List (String × PyVal)} {e : Failure}
    (h : (o.updates us).2 = some e) : e.unhandled := by
  induction us generalizing o with
  | nil => cases h
  | cons u us ih =>
    unfold PyObject.updates at h
    split at h
    · exact ih h
    · cases h; exact Crash.update _ _ _ _ ‹_›

end Hypermesh.Server
