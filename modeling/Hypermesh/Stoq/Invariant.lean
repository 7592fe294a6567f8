import Mathlib.Data.List.Nodup
import Hypermesh.Stoq.State
/-
What every interleaving of the STOQ server's coroutines keeps.

`route_cases` says once what a route does to the state, and `step_inv` that each event keeps `Inv`; the results read
`Inv` in every reachable loop.

Results:
- `connecting_while_suspended`: a connection is `connecting` only while the `create_connection` that made it waits at
  its `await`.
- `system_health_no_failed`: every connection is `connecting`, `connected` or `disconnected`, so `get_system_health`
  counts no failed connection.
- `generateMetrics_keeps_last`: a pass of the metrics loop leaves the last 1000 of the old metrics followed by one
  metric for each connection, whatever its status. Trimming after each append is trimming once at the end, and the
  bound is on the whole buffer: one connection's metrics can be pushed out by the others'.
- `transport_update_never_errors`: the settings keep their six keys, so `update_transport_settings` always replies
  `applied` with no error.
-/

namespace Hypermesh.Stoq

open Server (PyDict PyVal hex8)

/-! ## The metrics buffer -/

/-- `l[-n:]` of `l[-n:] + r` is `l[-n:]` of `l + r` -/
theorem drop_append_drop {α : Type} (n : Nat) (l r : List α) :
    (l.drop (l.length - n) ++ r).drop ((l.drop (l.length - n) ++ r).length - n) =
      (l ++ r).drop ((l ++ r).length - n) := by
  simp only [List.length_append, List.length_drop, List.drop_append_eq_append_drop, List.drop_drop]
  congr 2 <;> omega

/-- appending and trimming when longer than 1000 keeps the last 1000 -/
theorem appendMetric_eq (metrics : List String) (c : String) :
    appendMetric metrics c = (metrics ++ [c]).drop ((metrics ++ [c]).length - 1000) := by
  simp only [appendMetric]
  split
  · rfl
  · rw [Nat.sub_eq_zero_of_le (by omega), List.drop_zero]

theorem foldl_appendMetric (ids metrics : List String) :
    ids.foldl appendMetric (metrics.drop (metrics.length - 1000)) =
      (metrics ++ ids).drop ((metrics ++ ids).length - 1000) := by
  induction ids generalizing metrics with
  | nil => simp
  | cons c ids ih =>
    rw [List.foldl_cons, appendMetric_eq, drop_append_drop, ih, List.append_assoc, List.singleton_append]

/-- **a pass of the metrics loop**: the last 1000 of the old buffer followed by a metric for each connection -/
theorem generateMetrics_keeps_last (l : Loop) (h : l.state.performanceMetrics.length ≤ 1000) :
    (generateMetrics l).state.performanceMetrics =
      (l.state.performanceMetrics ++ l.state.connections.map Prod.fst).drop
        ((l.state.performanceMetrics ++ l.state.connections.map Prod.fst).length - 1000) := by
  have hd : l.state.performanceMetrics.drop (l.state.performanceMetrics.length - 1000) = l.state.performanceMetrics :=
    by rw [Nat.sub_eq_zero_of_le h, List.drop_zero]
  simp only [generateMetrics]
  rw [← foldl_appendMetric, hd]

theorem length_foldl_appendMetric (ids metrics : List String) (h : metrics.length ≤ 1000) :
    (ids.foldl appendMetric metrics).length ≤ 1000 := by
  have := foldl_appendMetric ids metrics
  rw [Nat.sub_eq_zero_of_le h, List.drop_zero] at this
  rw [this, List.length_drop]
  omega

/-! ## The transport settings -/

/-- a setting the body names is one of the six `STOQState` starts with -/
theorem mem_items_keys (t : TransportSettings) {x : String × PyVal} (hx : x ∈ t.items) :
    x.1 ∈ defaultTransportSettings.map Prod.fst := by
  simp only [TransportSettings.items, List.mem_filterMap, Option.map_eq_some'] at hx
  obtain ⟨e, he, v, -, rfl⟩ := hx
  simp only [List.mem_cons, List.mem_singleton, List.not_mem_nil, or_false] at he
  rcases he with rfl | rfl | rfl | rfl | rfl | rfl <;> simp [defaultTransportSettings]

theorem applySetting_of_ne_none (acc : List String × PyDict PyVal) (field : String) {value : PyVal}
    (hv : value ≠ .none) : applySetting acc (field, value) =
      if field ∈ acc.2.map Prod.fst then (acc.1, acc.2.set field value)
      else (acc.1 ++ ["Unknown setting: " ++ field], acc.2) := by
  cases value <;> first | exact absurd rfl hv | rfl

theorem applySetting_keys (acc : List String × PyDict PyVal) (x : String × PyVal) :
    (applySetting acc x).2.map Prod.fst = acc.2.map Prod.fst ∧
      (x.1 ∈ acc.2.map Prod.fst → (applySetting acc x).1 = acc.1) := by
  rcases x with ⟨field, value⟩
  by_cases hv : value = .none
  · subst hv; exact ⟨rfl, fun _ => rfl⟩
  · rw [applySetting_of_ne_none acc field hv]
    split_ifs with hf
    · exact ⟨PyDict.keys_set_of_mem hf _, fun _ => rfl⟩
    · exact ⟨rfl, fun h => absurd h hf⟩

/-- over known settings, the loop keeps the keys and adds no error -/
theorem foldl_applySetting (items : List (String × PyVal)) (acc : List String × PyDict PyVal)
    (h : ∀ x ∈ items, x.1 ∈ acc.2.map Prod.fst) :
    (items.foldl applySetting acc).2.map Prod.fst = acc.2.map Prod.fst ∧
      (items.foldl applySetting acc).1 = acc.1 := by
  induction items generalizing acc with
  | nil => exact ⟨rfl, rfl⟩
  | cons x items ih =>
    obtain ⟨hk, he⟩ := applySetting_keys acc x
    have := ih (applySetting acc x) fun y hy => hk ▸ h y (List.mem_cons_of_mem _ hy)
    rw [List.foldl_cons, this.1, this.2, hk, he (h x (List.mem_cons_self _ _))]
    exact ⟨rfl, rfl⟩

/-! ## What a route does to the state -/

theorem route_cases (r : Req) (s : State) :
    (route r s).2 = s ∨
    (∃ k c, r = .closeConnection k ∧ s.connections.get? k = some c ∧
      (route r s).2 = { s with connections := s.connections.set k { c with status := "disconnected" } }) ∨
    (∃ type duration uuid, r = .runBenchmark type duration uuid ∧ (route r s).2 =
      { s with runningBenchmarks :=
        s.runningBenchmarks.set ("bench-" ++ hex8 uuid) ⟨"bench-" ++ hex8 uuid, type, "running", duration⟩ }) ∨
    (∃ t, r = .updateTransportSettings t ∧
      (route r s).2 = { s with transportSettings := (t.items.foldl applySetting ([], s.transportSettings)).2 }) := by
  cases r
  case closeConnection k =>
    rcases hc : s.connections.get? k with _ | c
    · exact .inl (by simp only [route, closeConnection, hc])
    · exact .inr (.inl ⟨k, c, rfl, hc, by simp only [route, closeConnection, hc]⟩)
  case runBenchmark type duration uuid => exact .inr (.inr (.inl ⟨type, duration, uuid, rfl, rfl⟩))
  case updateTransportSettings t => exact .inr (.inr (.inr ⟨t, rfl, rfl⟩))
  case getConnection k => exact .inl (by simp only [route, getConnection]; split <;> rfl)
  case getOptimizations k => exact .inl (by simp only [route, getOptimizations]; split <;> rfl)
  case applyOptimization k => exact .inl (by simp only [route, applyOptimization]; split <;> rfl)
  case runDiagnostics k => exact .inl (by simp only [route, runDiagnostics]; split <;> rfl)
  case getBenchmarkResult t => exact .inl (by simp only [route, getBenchmarkResult]; split <;> rfl)
  all_goals exact .inl rfl

/-! ## The invariant -/

/-- what every reachable loop keeps -/
structure Inv (l : Loop) : Prop where
  status : ∀ e ∈ l.state.connections,
    e.2.status = "connecting" ∨ e.2.status = "connected" ∨ e.2.status = "disconnected"
  objects : ∀ k c, l.state.connections.get? k = some c → c.obj < l.objects
  creatingObjects : ∀ p ∈ l.creating, p.1 < l.objects
  creatingNodup : (l.creating.map Prod.fst).Nodup
  connecting : ∀ k c, l.state.connections.get? k = some c → c.status = "connecting" → (c.obj, k) ∈ l.creating
  metrics : l.state.performanceMetrics.length ≤ 1000
  settings : l.state.transportSettings.map Prod.fst = defaultTransportSettings.map Prod.fst

theorem init_inv : Inv Loop.init where
  status := by decide
  objects k c h := by
    have := PyDict.mem_of_get? h
    simp only [Loop.init, State.init, List.mem_cons, Prod.mk.injEq, List.mem_singleton, List.not_mem_nil,
      or_false] at this
    rcases this with ⟨-, rfl⟩ | ⟨-, rfl⟩ <;> decide
  creatingObjects := by simp [Loop.init]
  creatingNodup := List.nodup_nil
  connecting k c h hs := by
    have := PyDict.mem_of_get? h
    simp only [Loop.init, State.init, List.mem_cons, Prod.mk.injEq, List.mem_singleton, List.not_mem_nil,
      or_false] at this
    rcases this with ⟨-, rfl⟩ | ⟨-, rfl⟩ <;> exact absurd hs (by decide)
  metrics := by decide
  settings := rfl

section Step

variable {l : Loop}

/-- a request keeps the invariant -/
theorem request_inv (h : Inv l) (r : Req) :
    Inv { l with state := (route r l.state).2, benchmarking := l.benchmarking ++ r.backgroundTasks } := by
  rcases route_cases r l.state with h' | ⟨k, c, rfl, hc, h'⟩ | ⟨type, d, uuid, rfl, h'⟩ | ⟨t, rfl, h'⟩ <;>
    rw [h']
  · exact ⟨h.status, h.objects, h.creatingObjects, h.creatingNodup, h.connecting, h.metrics, h.settings⟩
  · refine ⟨fun e he => ?_, fun k' c' hk' => ?_, h.creatingObjects, h.creatingNodup, fun k' c' hk' hst => ?_,
      h.metrics, h.settings⟩
    · rcases PyDict.mem_set he with rfl | he
      · exact .inr (.inr rfl)
      · exact h.status e he
    · simp only [PyDict.get?_set] at hk'
      split_ifs at hk' with hkk
      · cases hk'; exact h.objects k c hc
      · exact h.objects k' c' hk'
    · simp only [PyDict.get?_set] at hk'
      split_ifs at hk' with hkk
      · cases hk'; exact absurd hst (show "disconnected" ≠ "connecting" by decide)
      · exact h.connecting k' c' hk' hst
  · exact ⟨h.status, h.objects, h.creatingObjects, h.creatingNodup, h.connecting, h.metrics, h.settings⟩
  · refine ⟨h.status, h.objects, h.creatingObjects, h.creatingNodup, h.connecting, h.metrics, ?_⟩
    exact (foldl_applySetting t.items ([], l.state.transportSettings)
      fun x hx => h.settings ▸ mem_items_keys t hx).1.trans h.settings

/-- `create_connection` up to its `await` keeps the invariant -/
theorem beginCreateConnection_inv (h : Inv l) (uuid : String) : Inv (beginCreateConnection uuid l) where
  status e he := by
    rcases PyDict.mem_set he with rfl | he
    · exact .inl rfl
    · exact h.status e he
  objects k c hk := by
    simp only [beginCreateConnection, PyDict.get?_set] at hk
    split_ifs at hk
    · cases hk; exact Nat.lt_succ_self _
    · exact Nat.lt_succ_of_lt (h.objects k c hk)
  creatingObjects p hp := by
    rcases List.mem_append.1 hp with hp | hp
    · exact Nat.lt_succ_of_lt (h.creatingObjects p hp)
    · rw [List.mem_singleton.1 hp]; exact Nat.lt_succ_self _
  creatingNodup := by
    simp only [beginCreateConnection, List.map_append, List.map_cons, List.map_nil]
    refine h.creatingNodup.append (List.nodup_singleton _) fun a ha hb => ?_
    obtain ⟨p, hp, rfl⟩ := List.mem_map.1 ha
    exact absurd (List.mem_singleton.1 hb) (Nat.ne_of_lt (h.creatingObjects p hp))
  connecting k c hk hs := by
    simp only [beginCreateConnection, PyDict.get?_set] at hk
    split_ifs at hk with hkk
    · cases hk; exact List.mem_append_right _ (List.mem_singleton.2 (by rw [hkk]))
    · exact List.mem_append_left _ (h.connecting k c hk hs)
  metrics := h.metrics
  settings := h.settings

/-- what a resumed `create_connection` does: it finds its own suspended call, marks its object connected if that
object is still the dictionary's entry, and replies with it -/
theorem resumeCreateConnection_cases {obj : Nat} {r : Reply} {l' : Loop}
    (hr : resumeCreateConnection obj l = some (r, l')) :
    ∃ k conns, (obj, k) ∈ l.creating ∧ r = .ok (.connection ⟨k, "connected", obj⟩) ∧
      l' = { l with state := { l.state with connections := conns }, creating := l.creating.filter (·.1 ≠ obj) } ∧
      ((∃ c, l.state.connections.get? k = some c ∧ c.obj = obj ∧
          conns = l.state.connections.set k { c with status := "connected" }) ∨
        ((∀ c, l.state.connections.get? k = some c → c.obj ≠ obj) ∧ conns = l.state.connections)) := by
  unfold resumeCreateConnection at hr
  split at hr
  · cases hr
  · next p k hfind =>
    have hp : p = obj := by simpa using List.find?_some hfind
    subst hp
    simp only [Option.some.injEq, Prod.mk.injEq] at hr
    obtain ⟨rfl, rfl⟩ := hr
    refine ⟨k, _, List.mem_of_find?_eq_some hfind, rfl, rfl, ?_⟩
    rcases hc : l.state.connections.get? k with _ | c
    · exact .inr ⟨(fun c h => by cases h), rfl⟩
    · by_cases hobj : c.obj = p
      · exact .inl ⟨c, rfl, hobj, if_pos hobj⟩
      · exact .inr ⟨(fun c' h => by cases h; exact hobj), if_neg hobj⟩

theorem Inv.key_eq (h : Inv l) {a : Nat} {k k' : String} (h₁ : (a, k) ∈ l.creating)
    (h₂ : (a, k') ∈ l.creating) : k = k' :=
  congrArg Prod.snd (List.inj_on_of_nodup_map h.creatingNodup h₁ h₂ rfl)

/-- a resumed `create_connection` keeps the invariant -/
theorem resumeCreateConnection_inv (h : Inv l) {obj : Nat} {r : Reply} {l' : Loop}
    (hr : resumeCreateConnection obj l = some (r, l')) : Inv l' := by
  obtain ⟨k, conns, hk, -, rfl, hconns⟩ := resumeCreateConnection_cases hr
  have hsurvive : ∀ k' c', l.state.connections.get? k' = some c' → c'.status = "connecting" → c'.obj = obj →
      k' = k := fun k' c' hc hs ho => h.key_eq (ho ▸ h.connecting k' c' hc hs) hk
  refine ⟨fun e he => ?_, fun k' c' hc => ?_, fun p hp => h.creatingObjects p (List.mem_filter.1 hp).1,
    h.creatingNodup.sublist ((List.filter_sublist _).map _), fun k' c' hc hs => ?_, h.metrics, h.settings⟩
  · rcases hconns with ⟨c, -, -, rfl⟩ | ⟨-, rfl⟩
    · rcases PyDict.mem_set he with rfl | he
      · exact .inr (.inl rfl)
      · exact h.status e he
    · exact h.status e he
  · rcases hconns with ⟨c, hc₀, -, rfl⟩ | ⟨-, rfl⟩
    · simp only [PyDict.get?_set] at hc
      split_ifs at hc with hkk
      · cases hc; exact h.objects k c hc₀
      · exact h.objects k' c' hc
    · exact h.objects k' c' hc
  · refine List.mem_filter.2 ⟨?_, decide_eq_true fun ho => ?_⟩
    · rcases hconns with ⟨c, -, -, rfl⟩ | ⟨-, rfl⟩
      · simp only [PyDict.get?_set] at hc
        split_ifs at hc with hkk
        · cases hc; exact absurd hs (show "connected" ≠ "connecting" by decide)
        · exact h.connecting k' c' hc hs
      · exact h.connecting k' c' hc hs
    · rcases hconns with ⟨c, -, -, rfl⟩ | ⟨hne, rfl⟩
      · simp only [PyDict.get?_set] at hc
        split_ifs at hc with hkk
        · cases hc; exact absurd hs (show "connected" ≠ "connecting" by decide)
        · exact hkk (hsurvive k' c' hc hs ho)
      · exact hne c' (hsurvive k' c' hc hs ho ▸ hc) ho

theorem finishBenchmark_inv (h : Inv l) (testId : String) (duration : Int) :
    Inv (finishBenchmark testId duration l) :=
  ⟨h.status, h.objects, h.creatingObjects, h.creatingNodup, h.connecting, h.metrics, h.settings⟩

theorem generateMetrics_inv (h : Inv l) : Inv (generateMetrics l) :=
  { h with metrics := length_foldl_appendMetric _ _ h.metrics }

/-- **each event keeps the invariant** -/
theorem step_inv (h : Inv l) {e : Event} {o : Option Reply} {l' : Loop} (hs : step l e = some (o, l')) : Inv l' := by
  cases e with
  | request r =>
    simp only [step, Option.some.injEq, Prod.mk.injEq] at hs
    obtain ⟨-, rfl⟩ := hs
    exact request_inv h r
  | createConnection uuid =>
    simp only [step, Option.some.injEq, Prod.mk.injEq] at hs
    obtain ⟨-, rfl⟩ := hs
    exact beginCreateConnection_inv h uuid
  | resumeCreateConnection obj =>
    simp only [step, Option.map_eq_some'] at hs
    obtain ⟨⟨r, l''⟩, hr, he⟩ := hs
    cases he
    exact resumeCreateConnection_inv h hr
  | finishBenchmark testId duration =>
    simp only [step] at hs
    split at hs
    · simp only [Option.some.injEq, Prod.mk.injEq] at hs
      obtain ⟨-, rfl⟩ := hs
      exact finishBenchmark_inv h testId duration
    · cases hs
  | generateMetrics =>
    simp only [step, Option.some.injEq, Prod.mk.injEq] at hs
    obtain ⟨-, rfl⟩ := hs
    exact generateMetrics_inv h

end Step

theorem run_inv {l l' : Loop} (h : Inv l) {es : List Event} {rs : List (Option Reply)}
    (hr : run l es = some (rs, l')) : Inv l' := by
  induction es generalizing l rs with
  | nil => cases hr; exact h
  | cons e es ih =>
    simp only [run] at hr
    split at hr
    · cases hr
    · obtain ⟨⟨rs', l''⟩, hr', he⟩ := Option.map_eq_some'.1 hr
      cases he
      exact ih (step_inv h ‹_›) hr'

theorem Inv.of_reachable {l : Loop} (h : Reachable l) : Inv l :=
  let ⟨_, _, hr⟩ := h
  run_inv init_inv hr

/-! ## What every reachable loop answers -/

/-- **`connecting` only while suspended**: a connection is `connecting` only while the `create_connection` that made
it waits at its `await` -/
theorem connecting_while_suspended {l : Loop} (h : Reachable l) {k : String} {c : QUICConnection}
    (hc : l.state.connections.get? k = some c) (hs : c.status = "connecting") : (c.obj, k) ∈ l.creating :=
  (Inv.of_reachable h).connecting k c hc hs

/-- a connection whose creation is suspended is `connecting` -/
theorem connecting_after_begin :
    Reachable (beginCreateConnection "abcdefgh" Loop.init) ∧
    (beginCreateConnection "abcdefgh" Loop.init).state.connections.get? "conn-abcdefgh" =
      some ⟨"conn-abcdefgh", "connecting", 2⟩ ∧ "connecting" = "connecting" ∧
    (2, "conn-abcdefgh") ∈ (beginCreateConnection "abcdefgh" Loop.init).creating :=
  have hr : Reachable (beginCreateConnection "abcdefgh" Loop.init) := ⟨[.createConnection "abcdefgh"], [none], rfl⟩
  ⟨hr, rfl, rfl, connecting_while_suspended (c := ⟨"conn-abcdefgh", "connecting", 2⟩) hr rfl rfl⟩

/-- **no failed connection**: no route sets a connection's status to `error`, so `get_system_health` reports none -/
theorem system_health_no_failed {l : Loop} (h : Reachable l) :
    (route .getSystemHealth l.state).1 = .ok (.systemHealth l.state.connections.length
      (l.state.connections.countP (·.2.status = "connected")) 0) := by
  have hno : l.state.connections.countP (·.2.status = "error") = 0 :=
    List.countP_eq_zero.2 fun e he hp => by
      rcases (Inv.of_reachable h).status e he with hs | hs | hs <;> rw [hs] at hp <;> exact absurd hp (by decide)
  simp only [route, getSystemHealth, hno]

theorem system_health_after_begin :
    Reachable (beginCreateConnection "abcdefgh" Loop.init) ∧
    (route .getSystemHealth (beginCreateConnection "abcdefgh" Loop.init).state).1 = .ok (.systemHealth 3 2 0) :=
  have hr : Reachable (beginCreateConnection "abcdefgh" Loop.init) := ⟨[.createConnection "abcdefgh"], [none], rfl⟩
  ⟨hr, system_health_no_failed hr⟩

/-- **the transport settings**: the six keys stay, so every update is applied with no error -/
theorem transport_update_never_errors {l : Loop} (h : Reachable l) (t : TransportSettings) :
    (route (.updateTransportSettings t) l.state).1 = .ok (.transportUpdate true []) := by
  have hk := (Inv.of_reachable h).settings
  obtain ⟨-, he⟩ := foldl_applySetting t.items ([], l.state.transportSettings)
    fun x hx => hk ▸ mem_items_keys t hx
  simp only [route, updateTransportSettings]
  generalize t.items.foldl applySetting ([], l.state.transportSettings) = acc at he
  obtain ⟨errors, ts⟩ := acc
  cases he
  rfl

theorem transport_update_at_start :
    Reachable Loop.init ∧
    (route (.updateTransportSettings ⟨some (.int 500), none, none, none, some .none, some (.str "reno")⟩)
      Loop.init.state).1 = .ok (.transportUpdate true []) :=
  have hr : Reachable Loop.init := ⟨[], [], rfl⟩
  ⟨hr, transport_update_never_errors hr _⟩

/-- a loop whose buffer holds 999 metrics -/
def nearFull : Loop := { Loop.init with state := { Loop.init.state with
  performanceMetrics := List.replicate 999 "conn-001" } }

/-- with 999 metrics and the two sample connections, the oldest metric is pushed out -/
theorem metrics_trimmed_near_full :
    nearFull.state.performanceMetrics.length ≤ 1000 ∧
    (generateMetrics nearFull).state.performanceMetrics =
      (nearFull.state.performanceMetrics ++ nearFull.state.connections.map Prod.fst).drop
        ((nearFull.state.performanceMetrics ++ nearFull.state.connections.map Prod.fst).length - 1000) :=
  have h : nearFull.state.performanceMetrics.length ≤ 1000 := by
    show (List.replicate 999 "conn-001").length ≤ 1000
    rw [List.length_replicate]
    decide
  ⟨h, generateMetrics_keeps_last nearFull h⟩

end Hypermesh.Stoq
