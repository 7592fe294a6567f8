import Hypermesh.Stoq.Invariant
/-
Closing a connection against `create_connection`'s `await`.

`create_connection` stores its connection as `connecting`, yields, and on resuming sets that object's status to
`connected`. A close that lands in between is answered with success and then undone.

Results:
- `close_lost_during_creation`: from every reachable loop, the schedule create (up to its `await`), close, resume
  answers the close with success and the creation with a connected connection, and leaves the connection `connected`.
- `closed_stays_closed`: a disconnected connection whose object no suspended creation holds stays disconnected
  through any later events, unless one of them creates a connection under its id: the lost close above is the only
  way a close is undone.
-/

namespace Hypermesh.Stoq

open Server (PyDict PyVal hex8)

theorem find?_fresh {l : Loop} (h : Inv l) (k : String) :
    (l.creating ++ [(l.objects, k)]).find? (·.1 = l.objects) = some (l.objects, k) := by
  rw [List.find?_append, List.find?_eq_none.2 fun p hp => by simpa using Nat.ne_of_lt (h.creatingObjects p hp)]
  simp

/-- **a lost close**: a close between the two halves of `create_connection` succeeds and is undone -/
theorem close_lost_during_creation {l : Loop} (h : Reachable l) (uuid : String) :
    ∃ l', run l [.createConnection uuid, .request (.closeConnection ("conn-" ++ hex8 uuid)),
        .resumeCreateConnection l.objects] =
      some ([none, some (.ok (.message "Connection closed successfully")),
        some (.ok (.connection ⟨"conn-" ++ hex8 uuid, "connected", l.objects⟩))], l') ∧
      l'.state.connections.get? ("conn-" ++ hex8 uuid) = some ⟨"conn-" ++ hex8 uuid, "connected", l.objects⟩ := by
  have hfind := find?_fresh (Inv.of_reachable h) ("conn-" ++ hex8 uuid)
  simp only [run, step, beginCreateConnection, route, closeConnection, PyDict.get?_set, if_true,
    resumeCreateConnection, hfind, Req.backgroundTasks, List.append_nil, Option.map_some']
  exact ⟨_, rfl, by simp⟩

/-- the lost close from the server's start -/
theorem close_lost_at_start :
    Reachable Loop.init ∧
    ∃ l', run Loop.init [.createConnection "abcdefgh", .request (.closeConnection ("conn-" ++ hex8 "abcdefgh")),
        .resumeCreateConnection Loop.init.objects] =
      some ([none, some (.ok (.message "Connection closed successfully")),
        some (.ok (.connection ⟨"conn-" ++ hex8 "abcdefgh", "connected", Loop.init.objects⟩))], l') ∧
      l'.state.connections.get? ("conn-" ++ hex8 "abcdefgh") =
        some ⟨"conn-" ++ hex8 "abcdefgh", "connected", Loop.init.objects⟩ :=
  ⟨⟨[], [], rfl⟩, close_lost_during_creation ⟨[], [], rfl⟩ "abcdefgh"⟩

/-! ## A close that sticks -/

/-- the id an event draws for a new connection -/
def Event.newConnectionId? : Event → Option String
  | .createConnection uuid => some ("conn-" ++ hex8 uuid)
  | _ => none

/-- the connection under `k` is disconnected and no suspended creation holds its object -/
def Closed (l : Loop) (k : String) : Prop :=
  ∃ c, l.state.connections.get? k = some c ∧ c.status = "disconnected" ∧ c.obj < l.objects ∧
    ∀ p ∈ l.creating, p.1 ≠ c.obj

section Closed

variable {l : Loop} {k : String}

theorem request_closed (h : Closed l k) (r : Req) :
    Closed { l with state := (route r l.state).2, benchmarking := l.benchmarking ++ r.backgroundTasks } k := by
  obtain ⟨c, hc, hs, ho, hf⟩ := h
  rcases route_cases r l.state with h' | ⟨k', c', rfl, hc', h'⟩ | ⟨_, _, _, rfl, h'⟩ | ⟨t, rfl, h'⟩ <;>
    rw [h']
  · exact ⟨c, hc, hs, ho, hf⟩
  · by_cases hk : k = k'
    · subst hk
      rw [hc, Option.some.injEq] at hc'
      subst hc'
      exact ⟨{ c with status := "disconnected" }, by simp, rfl, ho, hf⟩
    · exact ⟨c, by simp [hk, hc], hs, ho, hf⟩
  · exact ⟨c, hc, hs, ho, hf⟩
  · exact ⟨c, hc, hs, ho, hf⟩

theorem beginCreateConnection_closed (h : Closed l k) (uuid : String) (hk : "conn-" ++ hex8 uuid ≠ k) :
    Closed (beginCreateConnection uuid l) k := by
  obtain ⟨c, hc, hs, ho, hf⟩ := h
  refine ⟨c, by simp [beginCreateConnection, Ne.symm hk, hc], hs, Nat.lt_succ_of_lt ho, fun p hp => ?_⟩
  rcases List.mem_append.1 hp with hp | hp
  · exact hf p hp
  · rw [List.mem_singleton.1 hp]; exact Nat.ne_of_gt ho

theorem resumeCreateConnection_closed (h : Closed l k) {obj : Nat} {r : Reply} {l' : Loop}
    (hr : resumeCreateConnection obj l = some (r, l')) : Closed l' k := by
  obtain ⟨c, hc, hs, ho, hf⟩ := h
  obtain ⟨k', conns, hk', -, rfl, hconns⟩ := resumeCreateConnection_cases hr
  have hfree : ∀ p ∈ l.creating.filter (·.1 ≠ obj), p.1 ≠ c.obj := fun p hp => hf p (List.mem_filter.1 hp).1
  rcases hconns with ⟨c', hc', hobj, rfl⟩ | ⟨-, rfl⟩
  · by_cases hk : k = k'
    · subst hk
      rw [hc, Option.some.injEq] at hc'
      subst hc'
      exact absurd hobj (Ne.symm (hf _ hk'))
    · exact ⟨c, by simp [hk, hc], hs, ho, hfree⟩
  · exact ⟨c, hc, hs, ho, hfree⟩

theorem step_closed (h : Closed l k) {e : Event} {o : Option Reply} {l' : Loop} (hs : step l e = some (o, l'))
    (hn : e.newConnectionId? ≠ some k) : Closed l' k := by
  cases e with
  | request r =>
    simp only [step, Option.some.injEq, Prod.mk.injEq] at hs
    obtain ⟨-, rfl⟩ := hs
    exact request_closed h r
  | createConnection uuid =>
    simp only [step, Option.some.injEq, Prod.mk.injEq] at hs
    obtain ⟨-, rfl⟩ := hs
    exact beginCreateConnection_closed h uuid fun e => hn (congrArg some e)
  | resumeCreateConnection obj =>
    simp only [step, Option.map_eq_some'] at hs
    obtain ⟨⟨r, l''⟩, hr, he⟩ := hs
    cases he
    exact resumeCreateConnection_closed h hr
  | finishBenchmark testId duration =>
    simp only [step] at hs
    split at hs
    · simp only [Option.some.injEq, Prod.mk.injEq] at hs
      obtain ⟨-, rfl⟩ := hs
      exact h
    · cases hs
  | generateMetrics =>
    simp only [step, Option.some.injEq, Prod.mk.injEq] at hs
    obtain ⟨-, rfl⟩ := hs
    exact h

theorem run_closed (h : Closed l k) {es : List Event} {rs : List (Option Reply)} {l' : Loop}
    (hr : run l es = some (rs, l')) (hn : ∀ e ∈ es, e.newConnectionId? ≠ some k) : Closed l' k := by
  induction es generalizing l rs with
  | nil => cases hr; exact h
  | cons e es ih =>
    simp only [run] at hr
    split at hr
    · cases hr
    · obtain ⟨⟨rs', l''⟩, hr', he⟩ := Option.map_eq_some'.1 hr
      cases he
      exact ih (step_closed h ‹_› (hn e (List.mem_cons_self _ _))) hr' fun e he => hn e (List.mem_cons_of_mem _ he)

end Closed

/-- **a close sticks**: a disconnected connection whose object no suspended creation holds stays disconnected through
any later events that create no connection under its id -/
theorem closed_stays_closed {l : Loop} (h : Reachable l) {k : String} {c : QUICConnection}
    (hc : l.state.connections.get? k = some c) (hs : c.status = "disconnected")
    (hfree : ∀ p ∈ l.creating, p.1 ≠ c.obj) {es : List Event} {rs : List (Option Reply)} {l' : Loop}
    (hr : run l es = some (rs, l')) (hn : ∀ e ∈ es, e.newConnectionId? ≠ some k) :
    ∃ c', l'.state.connections.get? k = some c' ∧ c'.status = "disconnected" :=
  let ⟨c', hc', hs', _⟩ := run_closed ⟨c, hc, hs, (Inv.of_reachable h).objects k c hc, hfree⟩ hr hn
  ⟨c', hc', hs'⟩

/-- a sample connection, once closed, stays closed through a creation, a metrics pass and the creation's resumption -/
theorem closed_sample_sticks :
    Reachable { Loop.init with state := (route (.closeConnection "conn-001") Loop.init.state).2 } ∧
    (route (.closeConnection "conn-001") Loop.init.state).2.connections.get? "conn-001" =
      some ⟨"conn-001", "disconnected", 0⟩ ∧ "disconnected" = "disconnected" ∧
    (∀ p ∈ Loop.init.creating, p.1 ≠ 0) ∧
    (∃ rs l', run { Loop.init with state := (route (.closeConnection "conn-001") Loop.init.state).2 }
      [.createConnection "bbbbbbbb", .generateMetrics, .resumeCreateConnection 2] = some (rs, l') ∧
      (∀ e ∈ [Event.createConnection "bbbbbbbb", .generateMetrics, .resumeCreateConnection 2],
        e.newConnectionId? ≠ some "conn-001") ∧
      ∃ c', l'.state.connections.get? "conn-001" = some c' ∧ c'.status = "disconnected") :=
  have hr : Reachable { Loop.init with state := (route (.closeConnection "conn-001") Loop.init.state).2 } :=
    ⟨[.request (.closeConnection "conn-001")], _, rfl⟩
  have hn : ∀ e ∈ [Event.createConnection "bbbbbbbb", .generateMetrics, .resumeCreateConnection 2],
      e.newConnectionId? ≠ some "conn-001" := by decide
  ⟨hr, rfl, rfl, by simp [Loop.init], _, _, rfl, hn,
    @closed_stays_closed _ hr "conn-001" ⟨"conn-001", "disconnected", 0⟩ rfl rfl (by simp [Loop.init])
      [.createConnection "bbbbbbbb", .generateMetrics, .resumeCreateConnection 2] _ _ rfl hn⟩

end Hypermesh.Stoq
