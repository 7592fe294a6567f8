import Hypermesh.Web3.Auditor
/-
The counters of `SecurityAuditor` (`security_audit.py`) agree with its violation lists.

`Inv` is the invariant: `stats` keeps its fourteen keys, and for each rule of `scan_rust_file` the rule's counter
reads the number of violations of the rule's type. A rule appends and then increments, with nothing between them
that can raise (`applyRule_inv`); an exception keeps the state reached when it was raised (`settle_foldlM`); the
other updates append only types no counter tracks (`OUTDATED_DEPENDENCIES`, `NO_CRYPTO_LIBRARY`) or write only
`files_scanned`, `total_lines` and `total_files`.

Results:
- `step_inv`, `run_inv`: every operation keeps the invariant, so every run from `SecurityAuditor.init` ends in it;
- `generateReport_of_inv`: in a state of the invariant the report is built, its `violation_types` are the counts
  of the types in its violation lists, and each conditional recommendation appears exactly when its type's count
  passes the recommendation's bound;
- `counters_match_violations`: both, for every sequence of operations from a fresh auditor.
-/

namespace Hypermesh.Web3.Invariant

open PyPath Auditor

/-- the type each rule appends and the counter it increments -/
def countedTypes : List (String × String) := rules.map fun r => (r.type, r.counter)

example : countedTypes = [("MOCK_CRYPTOGRAPHY", "mock_implementations"), ("TEST_BYPASS", "test_bypasses"),
    ("UNWRAP_PANIC", "unwrap_calls"), ("PLACEHOLDER_SECURITY", "placeholder_code"),
    ("MISSING_VALIDATION", "missing_validation"), ("HARDCODED_SECRET", "hardcoded_secrets"),
    ("INSECURE_RANDOM", "insecure_random"), ("COMMAND_INJECTION", "command_injection"),
    ("PATH_TRAVERSAL", "path_traversal"), ("UNSAFE_DESERIALIZATION", "unsafe_deserialization")] := rfl

/-- the counters are the stats' own keys, each counter's value the number of violations of its type -/
structure Inv (a : SecurityAuditor) : Prop where
  keys : a.stats.map Prod.fst = statKeys
  counters : ∀ p ∈ countedTypes, a.stats.get? p.2 = some (a.violations.count p.1)

/-! ## The rule table -/

theorem eq_of_type_eq {p q : String × String} (hp : p ∈ countedTypes) (hq : q ∈ countedTypes) (h : p.1 = q.1) :
    p = q :=
  List.inj_on_of_nodup_map (by decide : (countedTypes.map Prod.fst).Nodup) hp hq h

theorem eq_of_counter_eq {p q : String × String} (hp : p ∈ countedTypes) (hq : q ∈ countedTypes)
    (h : p.2 = q.2) : p = q :=
  List.inj_on_of_nodup_map (by decide : (countedTypes.map Prod.snd).Nodup) hp hq h

theorem count_push (vs : Violations) (v : Violation) (l : Level) (t : String) :
    (vs.push v l).count t = vs.count t + if v.type = t then 1 else 0 := by
  cases l <;> simp [Violations.push, Violations.count, Violations.all, List.countP_append, List.countP_cons] <;> omega

/-! ## One update -/

section Update

variable {a : SecurityAuditor} (h : Inv a)
include h

theorem inv_push {v : Violation} (hv : v.type ∉ countedTypes.map Prod.fst) (l : Level) :
    Inv { a with violations := a.violations.push v l } where
  keys := h.keys
  counters p hp := by
    have hne : v.type ≠ p.1 := fun he => hv (he ▸ List.mem_map_of_mem Prod.fst hp)
    rw [count_push, if_neg hne, Nat.add_zero]
    exact h.counters p hp

theorem inv_add {key : String} {n : Nat} {s : Counts String} (hk : key ∉ countedTypes.map Prod.snd)
    (hs : a.stats.add key n = some s) : Inv { a with stats := s } where
  keys := (Counts.keys_add hs).trans h.keys
  counters p hp := by
    have hne : p.2 ≠ key := fun he => hk (he ▸ List.mem_map_of_mem Prod.snd hp)
    rw [Counts.get?_add hs, if_neg hne]
    exact h.counters p hp

theorem inv_set {key : String} (hkey : key ∈ statKeys) (hk : key ∉ countedTypes.map Prod.snd) (n : Nat) :
    Inv { a with stats := a.stats.set key n } where
  keys := (Counts.keys_set_of_mem (h.keys ▸ hkey) n).trans h.keys
  counters p hp := by
    have hne : p.2 ≠ key := fun he => hk (he ▸ List.mem_map_of_mem Prod.snd hp)
    rw [Counts.get?_set_of_ne _ hne]
    exact h.counters p hp

/-- a rule's append and increment, made together, keep the counts -/
theorem inv_record {t k : String} (hp : (t, k) ∈ countedTypes) {s : Counts String} (hs : a.stats.add k 1 = some s)
    {v : Violation} (hv : v.type = t) (l : Level) :
    Inv { a with violations := a.violations.push v l, stats := s } where
  keys := (Counts.keys_add hs).trans h.keys
  counters q hq := by
    rw [Counts.get?_add hs, count_push]
    by_cases hk : q.2 = k
    · obtain rfl := eq_of_counter_eq hq hp hk
      simp [h.counters _ hp, hv]
    · have ht : v.type ≠ q.1 := fun he => hk (congrArg Prod.snd (eq_of_type_eq hq hp (hv ▸ he).symm))
      rw [if_neg hk, if_neg ht, Nat.add_zero]
      exact h.counters q hq

theorem applyRule_inv (path content : List Char) (n : Nat) (line : List Char) {r : Rule} (hr : r ∈ rules) :
    Inv (settle (applyRule path content n line a r)) := by
  unfold applyRule
  split_ifs
  · cases relativeTo a.projectRoot ⟨path⟩ with
    | none => exact h
    | some file =>
      have hp : (r.type, r.counter) ∈ countedTypes := List.mem_map_of_mem _ hr
      obtain ⟨s, hs⟩ := Counts.add_eq_some (h.counters _ hp) 1
      simp only [Counts.bump, hs, settle]
      exact inv_record h hp hs rfl r.level
  · exact h

end Update

/-! ## Whole operations -/

/-- a loop in which each step keeps `P` on the state it returns or raises with keeps `P` on the state the `except`
clause sees -/
theorem settle_foldlM {α : Type} {P : SecurityAuditor → Prop}
    {f : SecurityAuditor → α → Except SecurityAuditor SecurityAuditor}
    {xs : List α} (hf : ∀ a, ∀ x ∈ xs, P a → P (settle (f a x))) (a : SecurityAuditor) (ha : P a) :
    P (settle (xs.foldlM f a)) := by
  induction xs generalizing a with
  | nil => exact ha
  | cons x xs ih =>
    have hx := hf a x (List.mem_cons_self _ _) ha
    rw [List.foldlM_cons]
    cases hfx : f a x with
    | error e => rw [hfx] at hx; exact hx
    | ok b => rw [hfx] at hx; exact ih (fun c y hy => hf c y (List.mem_cons_of_mem _ hy)) b hx

theorem inv_foldl {α : Type} {f : SecurityAuditor → α → SecurityAuditor} (hf : ∀ a x, Inv a → Inv (f a x)) :
    ∀ (xs : List α) (a : SecurityAuditor), Inv a → Inv (xs.foldl f a)
  | [], _, h => h
  | x :: xs, a, h => inv_foldl hf xs _ (hf a x h)

section Operations

variable (env : FsEnv) {a : SecurityAuditor} (h : Inv a)
include h

theorem scanLines_inv (path content : List Char) : Inv (settle (scanLines path content a)) := by
  refine settle_foldlM (P := Inv) (fun b l _ hb => ?_) a h
  exact settle_foldlM (P := Inv) (fun _ _ hr hc => applyRule_inv hc path content l.1 l.2 hr) b hb

theorem scanRustFile_inv (path : String) : Inv (scanRustFile env path a) := by
  unfold scanRustFile
  dsimp only
  split
  · exact h
  · split
    · exact h
    · rename_i hs
      have h₁ := inv_add h (by decide) hs
      split
      · exact h₁
      · rename_i hs₂
        exact scanLines_inv (inv_add h₁ (by decide) hs₂) _ _

theorem scanProject_inv : Inv (scanProject env a) :=
  inv_foldl (fun _ f hb => scanRustFile_inv env hb f) _ _ (inv_set h (by decide) (by decide) _)

theorem checkDependencies_inv : Inv (checkDependencies env a) := by
  refine inv_foldl (fun b cargoPath hb => ?_) _ _ h
  dsimp only
  split_ifs
  · exact hb
  · split
    · exact hb
    · split_ifs
      · split
        · exact hb
        · exact inv_push hb (by decide : "OUTDATED_DEPENDENCIES" ∉ countedTypes.map Prod.fst) _
      · exact hb

theorem deepScanCrypto_inv (path : String) : Inv (deepScanCrypto env path a) := by
  unfold deepScanCrypto
  split
  · exact h
  · split_ifs
    · exact h
    · split
      · exact h
      · exact inv_push h (by decide : "NO_CRYPTO_LIBRARY" ∉ countedTypes.map Prod.fst) _
    · exact h

theorem analyzeCryptoImplementations_inv : Inv (analyzeCryptoImplementations env a) := by
  refine inv_foldl (fun b cryptoPath hb => ?_) _ _ h
  dsimp only
  split_ifs
  · exact deepScanCrypto_inv env hb _
  · exact inv_foldl (fun _ f hc => deepScanCrypto_inv env hc f) _ _ hb
  · exact hb

theorem step_inv (o : Op) : Inv (step env a o) := by
  cases o with
  | scanRustFile path => exact scanRustFile_inv env h path
  | scanProject => exact scanProject_inv env h
  | checkDependencies => exact checkDependencies_inv env h
  | analyzeCryptoImplementations => exact analyzeCryptoImplementations_inv env h

end Operations

theorem inv_init (root : String) : Inv (SecurityAuditor.init root) where
  keys := Counts.keys_ofFn _ _
  counters p hp := by
    rw [SecurityAuditor.init, Counts.get?_ofFn _ ((by decide : ∀ q ∈ countedTypes, q.2 ∈ statKeys) p hp)]
    rfl

theorem run_inv (env : FsEnv) (root : String) (ops : List Op) : Inv (run env (SecurityAuditor.init root) ops) :=
  inv_foldl (fun _ o hb => step_inv env hb o) ops _ (inv_init root)

/-! ## The report -/

theorem mapM_eq_some {α β γ : Type} {f : β → Option γ} {g : α → γ} {h : α → β} :
    ∀ {l : List α}, (∀ x ∈ l, f (h x) = some (g x)) → (l.map h).mapM f = some (l.map g)
  | [], _ => rfl
  | x :: l, hl => by
    rw [List.map_cons, List.mapM_cons, hl x (List.mem_cons_self _ _),
      mapM_eq_some fun y hy => hl y (List.mem_cons_of_mem _ hy)]
    rfl

/-- a conditional recommendation is listed exactly when its count passes its bound -/
theorem mem_recommendations (n : String → Nat) {q : String × Nat × String} (hq : q ∈ recommendationRules) :
    q.2.2 ∈ (recommendationRules.map fun q => if q.2.1 < n q.1 then [q.2.2] else []).flatten ++
        standardRecommendations ↔ q.2.1 < n q.1 := by
  have htext := List.inj_on_of_nodup_map (by decide : (recommendationRules.map fun q => q.2.2).Nodup)
  have hstd : ∀ q ∈ recommendationRules, q.2.2 ∉ standardRecommendations := by decide
  simp only [List.mem_append, List.mem_flatten, List.mem_map]
  constructor
  · rintro (⟨_, ⟨q', hq', rfl⟩, hmem⟩ | hs)
    · split_ifs at hmem with hlt
      · obtain rfl := htext hq hq' (List.mem_singleton.1 hmem)
        exact hlt
      · cases hmem
    · exact absurd hs (hstd q hq)
  · exact fun hlt => Or.inl ⟨_, ⟨q, hq, rfl⟩, by simp [hlt]⟩

/-- **The report of a state of the invariant.** It is built; its `violation_types` are the counts of the types in
its violation lists; and each conditional recommendation is listed exactly when its type's count passes the bound. -/
theorem generateReport_of_inv {a : SecurityAuditor} (h : Inv a) :
    ∃ report, generateReport a = some report ∧ report.violations = a.violations ∧
      report.violationTypes = countedTypes.map (fun p => (p.2, a.violations.count p.1)) ∧
      ∀ p ∈ countedTypes, ∀ q ∈ recommendationRules, q.1 = p.2 →
        (q.2.2 ∈ report.recommendations ↔ q.2.1 < a.violations.count p.1) := by
  have hget : ∀ key ∈ statKeys, a.stats.get? key = some ((a.stats.get? key).getD 0) := fun key hk => by
    obtain ⟨m, hm⟩ := Counts.exists_get?_of_mem (h.keys ▸ hk)
    simp [hm]
  have htypes : violationTypeKeys.mapM (fun key => (a.stats.get? key).map (key, ·)) =
      some (countedTypes.map fun p => (p.2, a.violations.count p.1)) := by
    rw [show violationTypeKeys = countedTypes.map Prod.snd from rfl]
    exact mapM_eq_some fun p hp => by simp [h.counters p hp]
  have hrecs : generateRecommendations a = some ((recommendationRules.map fun q =>
      if q.2.1 < (a.stats.get? q.1).getD 0 then [q.2.2] else []).flatten ++ standardRecommendations) := by
    have hm := mapM_eq_some (h := id) (g := fun q : String × Nat × String =>
      if q.2.1 < (a.stats.get? q.1).getD 0 then [q.2.2] else [])
      (f := fun q => (a.stats.get? q.1).map fun m => if q.2.1 < m then [q.2.2] else [])
      fun q hq => by dsimp only; rw [id, hget q.1 ((by decide : ∀ q ∈ recommendationRules, q.1 ∈ statKeys) q hq)]; rfl
    rw [List.map_id] at hm
    simp only [generateRecommendations, hm]
    rfl
  obtain ⟨filesScanned, hfs⟩ := Counts.exists_get?_of_mem (h.keys ▸ (by decide : "files_scanned" ∈ statKeys))
  obtain ⟨totalLines, htl⟩ := Counts.exists_get?_of_mem (h.keys ▸ (by decide : "total_lines" ∈ statKeys))
  simp only [generateReport, hfs, htl, htypes, hrecs]
  refine ⟨_, rfl, rfl, rfl, fun p hp q hq hqp => ?_⟩
  rw [mem_recommendations (fun k => (a.stats.get? k).getD 0) hq]
  simp only [hqp, h.counters p hp, Option.getD_some]

/-- **The counters agree with the violations.** After any sequence of operations from a fresh auditor, each of
the ten counters holds the number of violations of its type across the four lists, and so does the report's
`violation_types`; each conditional recommendation is listed exactly when its type's count passes the bound. -/
theorem counters_match_violations (root : String) (env : FsEnv) (ops : List Op) :
    (∀ p ∈ countedTypes, (run env (SecurityAuditor.init root) ops).stats.get? p.2 =
        some ((run env (SecurityAuditor.init root) ops).violations.count p.1)) ∧
    ∃ report, generateReport (run env (SecurityAuditor.init root) ops) = some report ∧
      report.violationTypes = countedTypes.map (fun p => (p.2, report.violations.count p.1)) ∧
      ∀ p ∈ countedTypes, ∀ q ∈ recommendationRules, q.1 = p.2 →
        (q.2.2 ∈ report.recommendations ↔ q.2.1 < report.violations.count p.1) := by
  have h := run_inv env root ops
  obtain ⟨report, hr, hv, htypes, hrecs⟩ := generateReport_of_inv h
  refine ⟨h.counters, report, hr, ?_⟩
  rw [hv]
  exact ⟨htypes, hrecs⟩

end Hypermesh.Web3.Invariant
