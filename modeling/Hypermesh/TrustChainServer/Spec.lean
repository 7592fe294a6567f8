import Hypermesh.TrustChainServer.State
/-
What each route of the TrustChain server does to the state, and what its counters count over any run.

Every route that writes the store has one `_cases` lemma listing each of its outcomes, reply and state together; a
route that only reads has a `_state` lemma (only the counters move). The errors, the counters and the store
invariants are read off these lemmas and never unfold a route again. `execute_rotation` is proved about through
`rotateCertificate` at any validity, as its fixed 90 days would make Lean evaluate the `datetime` bounds.

Results:
- `route_raise`: the only `HTTPException`s a route raises are 401 and 404; its other exceptions are answered 500.
- `exec_stats`: over any sequence of requests from any state, `requests_successful` grows by one for each reply
  other than 500 and once more for each request to a route that calls `update_stats`; `requests_failed` by one for
  each 401 or 404 a route raised and by two for each 500; `ca_requests`, `ct_requests` and `dns_requests` by the
  requests to the routes of each service. A 404 from a route is counted both a success and a failure, a 404 or 405
  from the router a success only, a 500 twice a failure.
-/

namespace Hypermesh.TrustChainServer

open Server (PyDict PyVal PyObject Failure Crash hex8 addSeconds)

/-! ## Fields -/

@[simp] theorem Stats.update_requestsTotal (st : Stats) (b : Bool) (t : String) :
    (st.update b t).requestsTotal = st.requestsTotal + 1 := rfl

@[simp] theorem Stats.update_requestsSuccessful (st : Stats) (b : Bool) (t : String) :
    (st.update b t).requestsSuccessful = st.requestsSuccessful + if b then 1 else 0 := by
  cases b <;> rfl

@[simp] theorem Stats.update_requestsFailed (st : Stats) (b : Bool) (t : String) :
    (st.update b t).requestsFailed = st.requestsFailed + if b then 0 else 1 := by
  cases b <;> rfl

@[simp] theorem Stats.update_caRequests (st : Stats) (b : Bool) (t : String) :
    (st.update b t).caRequests = st.caRequests + if t = "ca" then 1 else 0 := by
  show (if t = "ca" then st.caRequests + 1 else st.caRequests) = _
  split <;> rfl

@[simp] theorem Stats.update_ctRequests (st : Stats) (b : Bool) (t : String) :
    (st.update b t).ctRequests = st.ctRequests + if t = "ct" then 1 else 0 := by
  show (if t = "ct" then st.ctRequests + 1 else st.ctRequests) = _
  split <;> rfl

@[simp] theorem Stats.update_dnsRequests (st : Stats) (b : Bool) (t : String) :
    (st.update b t).dnsRequests = st.dnsRequests + if t = "dns" then 1 else 0 := by
  show (if t = "dns" then st.dnsRequests + 1 else st.dnsRequests) = _
  split <;> rfl

section Fields

variable (s : State) (b : Bool) (t k : String)

@[simp] theorem State.updateStats_stats : (s.updateStats b t).stats = s.stats.update b t := rfl
@[simp] theorem State.updateStats_certificates : (s.updateStats b t).certificates = s.certificates := rfl
@[simp] theorem State.updateStats_dnsRecords : (s.updateStats b t).dnsRecords = s.dnsRecords := rfl
@[simp] theorem State.updateStats_rotationPolicies : (s.updateStats b t).rotationPolicies = s.rotationPolicies := rfl

@[simp] theorem State.setCertificate_stats (c : Certificate) : (s.setCertificate k c).stats = s.stats := rfl
@[simp] theorem State.setDnsRecord_stats (r : PyObject) : (s.setDnsRecord k r).stats = s.stats := rfl
@[simp] theorem State.setRotationPolicy_stats (p : PyObject) : (s.setRotationPolicy k p).stats = s.stats := rfl

end Fields

/-! ## The routes, one outcome at a time -/

theorem addDays_cases (now : Nat) (days : Int) :
    (∃ t, addDays now days = .ok t) ∨ addDays now days = .error .overflowError := by
  unfold addDays addSeconds; split <;> simp

/-- a comprehension that returns has evaluated its condition, without raising, on every element -/
theorem filterAuxM_ok {α ε : Type} {f : α → Except ε Bool} :
    ∀ (l acc : List α) {rs : List α}, List.filterAuxM f l acc = .ok rs → ∀ x ∈ l, ∃ b, f x = .ok b
  | [], _, _, _, x, hx => nomatch hx
  | y :: l, acc, rs, h, x, hx => by
    rcases hy : f y with e | b
    · rw [List.filterAuxM, hy] at h
      cases h
    · rw [List.filterAuxM, hy] at h
      rcases List.mem_cons.1 hx with rfl | hx
      · exact ⟨b, hy⟩
      · exact filterAuxM_ok l _ h x hx

theorem filterM_ok {α ε : Type} {f : α → Except ε Bool} {l rs : List α} (h : l.filterM f = .ok rs) :
    ∀ x ∈ l, ∃ b, f x = .ok b := by
  rw [List.filterM] at h
  rcases ha : List.filterAuxM f l [] with e | as
  · rw [ha] at h
    cases h
  · exact filterAuxM_ok l [] ha

/-- a comprehension with a filter that returns has evaluated the filter, without raising, on every element -/
theorem filterMapM_loop_ok {α β : Type} {f : α → Except Failure (Option β)} :
    ∀ (l : List α) (acc : List β) {rs : List β}, List.filterMapM.loop f l acc = .ok rs → ∀ x ∈ l, ∃ b, f x = .ok b
  | [], _, _, _, x, hx => nomatch hx
  | y :: l, acc, rs, h, x, hx => by
    rcases hy : f y with e | b
    · rw [List.filterMapM.loop, hy] at h
      cases h
    · rw [List.filterMapM.loop, hy] at h
      rcases List.mem_cons.1 hx with rfl | hx
      · exact ⟨b, hy⟩
      · cases b <;> exact filterMapM_loop_ok l _ h x hx

theorem filterMapM_ok {α β : Type} {f : α → Except Failure (Option β)} {l : List α} {rs : List β}
    (h : l.filterMapM f = .ok rs) : ∀ x ∈ l, ∃ b, f x = .ok b :=
  filterMapM_loop_ok l [] h

theorem domainMatches_crash (d : String) (r : PyObject) : Crash (domainMatches d r) :=
  Crash.bind (Crash.getattr r _) fun v => by
    intro e h
    split at h <;> cases h
    rfl

theorem asdicts_crash (records : List PyObject) : Crash (asdicts records) :=
  Crash.map (Crash.mapM Crash.asdict records) _

theorem getCertificate_state (k : String) (s : State) : (getCertificate k s).2 = s.updateStats true "ca" := by
  simp only [getCertificate]; split <;> rfl

theorem validateCertificate_state (k : String) (s : State) :
    (validateCertificate k s).2 = s.updateStats true "ct" := by
  simp only [validateCertificate]; split <;> rfl

theorem getDnsRecords_state (d : Option String) (s : State) : (getDnsRecords d s).2 = s.updateStats true "dns" := by
  simp only [getDnsRecords]; repeat' split
  all_goals rfl

theorem createCertificate_cases (subject : String) (days : Int) (uuid : String) (now : Nat) (s : State) :
    createCertificate subject days uuid now s = (.error .overflowError, s.updateStats true "ca") ∨
    ∃ t, createCertificate subject days uuid now s = (.ok (.message ("cert-" ++ hex8 uuid)),
      (s.updateStats true "ca").setCertificate ("cert-" ++ hex8 uuid)
        ⟨"cert-" ++ hex8 uuid, subject, rootSubject, now, t, "active", "leaf"⟩) := by
  rcases addDays_cases now days with ⟨t, h⟩ | h
  · exact .inr ⟨t, by simp only [createCertificate, h]⟩
  · exact .inl (by simp only [createCertificate, h])

theorem revokeCertificate_cases (k : String) (s : State) :
    revokeCertificate k s = (.error (.http 404 "Certificate not found"), s.updateStats true "ca") ∨
    ∃ c, s.certificates.get? k = some c ∧ revokeCertificate k s =
      (.ok (.message "Certificate revoked successfully"), (s.updateStats true "ca").setCertificate k
        { c with status := "revoked" }) := by
  rcases h : s.certificates.get? k with _ | c
  · exact .inl (by simp only [revokeCertificate, State.updateStats_certificates, h])
  · exact .inr ⟨c, rfl, by simp only [revokeCertificate, State.updateStats_certificates, h]⟩

theorem rotateCertificate_cases (days : Int) (q : PyDict String) (uuid : String) (now : Nat) (s : State) :
    rotateCertificate days q uuid now s = (.error (.http 404 "Certificate not found"), s.updateStats true "ca") ∨
    rotateCertificate days q uuid now s = (.error .overflowError, s.updateStats true "ca") ∨
    ∃ c t, s.certificates.get? ((q.get? "certificate_id").getD "") = some c ∧ rotateCertificate days q uuid now s =
      (.ok (.entries [(q.get? "certificate_id").getD "", "cert-" ++ hex8 uuid]),
        ((s.updateStats true "ca").setCertificate ((q.get? "certificate_id").getD "") { c with status := "expired" }
          ).setCertificate ("cert-" ++ hex8 uuid)
            ⟨"cert-" ++ hex8 uuid, c.subject, c.issuer, now, t, "active", c.trustLevel⟩) := by
  rcases h : s.certificates.get? ((q.get? "certificate_id").getD "") with _ | c
  · exact .inl (by simp only [rotateCertificate, State.updateStats_certificates, h])
  · rcases addDays_cases now days with ⟨t, ht⟩ | ht
    · exact .inr (.inr ⟨c, t, rfl, by simp only [rotateCertificate, State.updateStats_certificates, h, ht]⟩)
    · exact .inr (.inl (by simp only [rotateCertificate, State.updateStats_certificates, h, ht]))

/-- an update route ends with the entry as the `setattr` loop left it, raising only what the general handler
answers -/
theorem updated_cases (store : State → String → PyObject → State) (k : String) (o : PyObject)
    (u : List (String × PyVal)) (s : State) :
    Crash (updated store k o u s).1 ∧ (updated store k o u s).2 = store s k (o.updates (u.filter (·.1 ≠ "id"))).1 := by
  simp only [updated]
  split
  · exact ⟨fun e h => by cases h; exact PyObject.updates_unhandled ‹_›, rfl⟩
  · exact ⟨Crash.map (Crash.asdict _) _, rfl⟩

theorem updateDnsRecord_cases (k : String) (u : List (String × PyVal)) (s : State) :
    updateDnsRecord k u s = (.error (.http 404 "DNS record not found"), s.updateStats true "dns") ∨
    ∃ r, s.dnsRecords.get? k = some r ∧ Crash (updateDnsRecord k u s).1 ∧
      (updateDnsRecord k u s).2 = (s.updateStats true "dns").setDnsRecord k (r.updates (u.filter (·.1 ≠ "id"))).1 := by
  rcases h : s.dnsRecords.get? k with _ | r
  · exact .inl (by simp only [updateDnsRecord, State.updateStats_dnsRecords, h])
  · simp only [updateDnsRecord, State.updateStats_dnsRecords, h]
    exact .inr ⟨r, rfl, updated_cases _ _ _ _ _⟩

theorem deleteDnsRecord_cases (k : String) (s : State) :
    deleteDnsRecord k s = (.error (.http 404 "DNS record not found"), s.updateStats true "dns") ∨
    deleteDnsRecord k s = (.ok (.message "DNS record deleted successfully"),
      { s.updateStats true "dns" with dnsRecords := s.dnsRecords.erase k }) := by
  by_cases h : k ∈ s.dnsRecords.map Prod.fst
  · exact .inr (by simp only [deleteDnsRecord, State.updateStats_dnsRecords, h, not_true_eq_false, if_false])
  · exact .inl (by simp only [deleteDnsRecord, State.updateStats_dnsRecords, h, not_false_eq_true, if_true])

theorem createRotationPolicy_cases (days : Int) (uuid : String) (now : Nat) (s : State) :
    createRotationPolicy days uuid now s = (.error .overflowError, s.updateStats true "ca") ∨
    createRotationPolicy days uuid now s = (.ok (.object (PyObject.new rotationPolicyClass [])),
      (s.updateStats true "ca").setRotationPolicy ("policy-" ++ hex8 uuid) (PyObject.new rotationPolicyClass [])) := by
  rcases addDays_cases now days with ⟨t, h⟩ | h
  · exact .inr (by simp only [createRotationPolicy, h])
  · exact .inl (by simp only [createRotationPolicy, h])

theorem updateRotationPolicy_cases (k : String) (u : List (String × PyVal)) (s : State) :
    updateRotationPolicy k u s = (.error (.http 404 "Rotation policy not found"), s.updateStats true "ca") ∨
    ∃ p, s.rotationPolicies.get? k = some p ∧ Crash (updateRotationPolicy k u s).1 ∧
      (updateRotationPolicy k u s).2 =
        (s.updateStats true "ca").setRotationPolicy k (p.updates (u.filter (·.1 ≠ "id"))).1 := by
  rcases h : s.rotationPolicies.get? k with _ | p
  · exact .inl (by simp only [updateRotationPolicy, State.updateStats_rotationPolicies, h])
  · simp only [updateRotationPolicy, State.updateStats_rotationPolicies, h]
    exact .inr ⟨p, rfl, updated_cases _ _ _ _ _⟩

theorem getDnsRecords_crash (d : Option String) (s : State) : Crash (getDnsRecords d s).1 := by
  simp only [getDnsRecords]
  repeat' split
  all_goals first
    | exact asdicts_crash _
    | exact Crash.bind (Crash.filterM (domainMatches_crash _) _) asdicts_crash

theorem resolveMatch_crash (domain recordType : String) (r : PyObject) : Crash (resolveMatch domain recordType r) := by
  refine Crash.bind (domainMatches_crash _ r) fun b => ?_
  split
  · exact Crash.bind (Crash.getattr r _) fun v => by
      split
      · exact Crash.map (Crash.asdict r) _
      · exact Crash.pure _
  · exact Crash.pure _

theorem resolveDomain_crash (q : PyDict String) (s : State) : Crash (resolveDomain q s).1 :=
  Crash.map (Crash.filterMapM (resolveMatch_crash _ _) _) _

/-- `resolve_domain` changes nothing but the counters, whether it returns or raises -/
theorem resolveDomain_state (q : PyDict String) (s : State) : (resolveDomain q s).2 = s.updateStats true "dns" := rfl

/-! ## Requests -/

/-- the service type a route passes to `update_stats`; `none` for the routes that do not call it -/
def Req.serviceType : Req → Option String
  | .health | .getStats | .systemStatus | .authenticateCertificate _ => none
  | .validateCertificate _ => some "ct"
  | .getDnsRecords _ | .createDnsRecord .. | .updateDnsRecord .. | .deleteDnsRecord _ | .resolveDomain _ => some "dns"
  | _ => some "ca"

def Request.serviceType : Request → Option String
  | .call r => r.serviceType
  | _ => none

/-- whether a request reaches its route -/
def Request.routed : Request → Bool
  | .call _ => true
  | _ => false

/-- whether a request reaches a route that calls `update_stats` -/
def Request.counted (q : Request) : Bool := q.serviceType.isSome

/-- a route's counters: `update_stats` with its service type, or none -/
theorem route_stats (r : Req) (s : State) :
    (route r s).2.stats = r.serviceType.elim s.stats (s.stats.update true) := by
  cases r
  case getCertificate k => exact congrArg State.stats (getCertificate_state k s)
  case validateCertificate k => exact congrArg State.stats (validateCertificate_state k s)
  case getDnsRecords d => exact congrArg State.stats (getDnsRecords_state d s)
  case createCertificate a b c d =>
    rcases createCertificate_cases a b c d s with h | ⟨t, h⟩ <;> rw [route, h] <;> rfl
  case revokeCertificate k => rcases revokeCertificate_cases k s with h | ⟨c, -, h⟩ <;> rw [route, h] <;> rfl
  case updateDnsRecord k u => rcases updateDnsRecord_cases k u s with h | ⟨c, -, -, h⟩ <;> rw [route, h] <;> rfl
  case deleteDnsRecord k => rcases deleteDnsRecord_cases k s with h | h <;> rw [route, h] <;> rfl
  case createRotationPolicy a b c =>
    rcases createRotationPolicy_cases a b c s with h | h <;> rw [route, h] <;> rfl
  case updateRotationPolicy k u =>
    rcases updateRotationPolicy_cases k u s with h | ⟨c, -, -, h⟩ <;> rw [route, h] <;> rfl
  case executeRotation q u n =>
    rcases rotateCertificate_cases 90 q u n s with h | h | ⟨c, t, -, h⟩ <;> rw [route, executeRotation, h] <;> rfl
  case authenticateCertificate q => simp only [route, authenticateCertificate]; split <;> rfl
  all_goals rfl

/-- **the errors a route raises**: its `HTTPException`s are 401 and 404 -/
theorem route_raise {r : Req} {s : State} {st : Nat} {d : String} (h : (route r s).1 = .error (.http st d)) :
    st = 401 ∨ st = 404 := by
  cases r
  case getCertificate k => simp only [route, getCertificate] at h; split at h <;> cases h; exact .inr rfl
  case validateCertificate k => simp only [route, validateCertificate] at h; split at h <;> cases h; exact .inr rfl
  case getDnsRecords dom => exact absurd h ((getDnsRecords_crash dom s).not_http st d)
  case resolveDomain q => exact absurd h ((resolveDomain_crash q s).not_http st d)
  case getRotationPolicies => exact absurd h ((asdicts_crash _).not_http st d)
  case createCertificate a b c n =>
    rcases createCertificate_cases a b c n s with h' | ⟨t, h'⟩ <;> rw [route, h'] at h <;> cases h
  case revokeCertificate k =>
    rcases revokeCertificate_cases k s with h' | ⟨c, -, h'⟩ <;> rw [route, h'] at h <;> cases h; exact .inr rfl
  case updateDnsRecord k u =>
    rcases updateDnsRecord_cases k u s with h' | ⟨c, -, hc, -⟩
    · rw [route, h'] at h; cases h; exact .inr rfl
    · exact absurd h (hc.not_http st d)
  case deleteDnsRecord k =>
    rcases deleteDnsRecord_cases k s with h' | h' <;> rw [route, h'] at h <;> cases h; exact .inr rfl
  case createRotationPolicy a b c =>
    rcases createRotationPolicy_cases a b c s with h' | h' <;> rw [route, h'] at h <;> cases h
  case updateRotationPolicy k u =>
    rcases updateRotationPolicy_cases k u s with h' | ⟨c, -, hc, -⟩
    · rw [route, h'] at h; cases h; exact .inr rfl
    · exact absurd h (hc.not_http st d)
  case executeRotation q u n =>
    rcases rotateCertificate_cases 90 q u n s with h' | h' | ⟨c, t, -, h'⟩ <;>
      rw [route, executeRotation, h'] at h <;> cases h
    exact .inr rfl
  case authenticateCertificate q =>
    simp only [route, authenticateCertificate] at h; split at h <;> cases h; exact .inl rfl
  all_goals cases h

/-- the middleware's counting of one reply, given that its `HTTPException`s are 401 or 404 -/
theorem trackRequests_stats (p : Except Failure Body × State)
    (hp : ∀ st d, p.1 = .error (.http st d) → st = 401 ∨ st = 404) :
    (trackRequests p).2.stats.requestsSuccessful =
        p.2.stats.requestsSuccessful + (if (trackRequests p).1 ≠ 500 then 1 else 0) ∧
    (trackRequests p).2.stats.requestsFailed = p.2.stats.requestsFailed +
        (if (trackRequests p).1 = 401 ∨ (trackRequests p).1 = 404 then 1 else 0) +
        2 * (if (trackRequests p).1 = 500 then 1 else 0) ∧
    (trackRequests p).2.stats.caRequests = p.2.stats.caRequests ∧
    (trackRequests p).2.stats.ctRequests = p.2.stats.ctRequests ∧
    (trackRequests p).2.stats.dnsRequests = p.2.stats.dnsRequests := by
  rcases p with ⟨(e | b), s⟩
  · cases e with
    | http st d => rcases hp st d rfl with rfl | rfl <;> simp [trackRequests]
    | _ => simp [trackRequests]
  · simp [trackRequests]

section Counters

variable (o : Option String) (st : Stats)

@[simp] theorem Stats.elim_requestsSuccessful :
    (o.elim st (st.update true)).requestsSuccessful = st.requestsSuccessful + if o.isSome then 1 else 0 := by
  cases o <;> simp

@[simp] theorem Stats.elim_requestsFailed : (o.elim st (st.update true)).requestsFailed = st.requestsFailed := by
  cases o <;> simp

@[simp] theorem Stats.elim_caRequests :
    (o.elim st (st.update true)).caRequests = st.caRequests + if o = some "ca" then 1 else 0 := by
  cases o <;> simp

@[simp] theorem Stats.elim_ctRequests :
    (o.elim st (st.update true)).ctRequests = st.ctRequests + if o = some "ct" then 1 else 0 := by
  cases o <;> simp

@[simp] theorem Stats.elim_dnsRequests :
    (o.elim st (st.update true)).dnsRequests = st.dnsRequests + if o = some "dns" then 1 else 0 := by
  cases o <;> simp

end Counters

@[simp] theorem exec_nil (s : State) : exec s [] = ([], s) := rfl

@[simp] theorem exec_cons (s : State) (q : Request) (qs : List Request) :
    exec s (q :: qs) = ((serve s q).1 :: (exec (serve s q).2 qs).1, (exec (serve s q).2 qs).2) := rfl

/-- one request's counting: the route's `update_stats`, then the middleware's -/
theorem serve_stats (s : State) (q : Request) :
    (serve s q).2.stats.requestsSuccessful = s.stats.requestsSuccessful +
        (if (serve s q).1 ≠ 500 then 1 else 0) + (if q.counted then 1 else 0) ∧
    (serve s q).2.stats.requestsFailed = s.stats.requestsFailed +
        (if q.routed ∧ ((serve s q).1 = 401 ∨ (serve s q).1 = 404) then 1 else 0) +
        2 * (if (serve s q).1 = 500 then 1 else 0) ∧
    (serve s q).2.stats.caRequests = s.stats.caRequests + (if q.serviceType = some "ca" then 1 else 0) ∧
    (serve s q).2.stats.ctRequests = s.stats.ctRequests + (if q.serviceType = some "ct" then 1 else 0) ∧
    (serve s q).2.stats.dnsRequests = s.stats.dnsRequests + (if q.serviceType = some "dns" then 1 else 0) := by
  cases q with
  | call r =>
    obtain ⟨h1, h2, h3, h4, h5⟩ := trackRequests_stats (route r s) fun _ _ h => route_raise h
    simp only [serve, h1, h2, h3, h4, h5, route_stats, Stats.elim_requestsSuccessful, Stats.elim_requestsFailed,
      Stats.elim_caRequests, Stats.elim_ctRequests, Stats.elim_dnsRequests, Request.counted, Request.serviceType,
      Request.routed, true_and, and_true]
    omega
  | unrouted u => cases u <;> simp [serve, Unrouted.status, Request.counted, Request.serviceType, Request.routed]
  | preflight allowed =>
    cases allowed <;> simp [serve, Request.counted, Request.serviceType, Request.routed]
  | malformed => simp [serve, Request.counted, Request.serviceType, Request.routed]

/-- **the counters over any run**: `requests_successful` counts every reply but a 500 and every request to a route
that calls `update_stats`; `requests_failed` counts each 401 and 404 a route raised once and each 500 twice -/
theorem exec_stats (s : State) (reqs : List Request) :
    (exec s reqs).2.stats.requestsSuccessful =
        s.stats.requestsSuccessful + (exec s reqs).1.countP (· ≠ 500) + reqs.countP Request.counted ∧
    (exec s reqs).2.stats.requestsFailed = s.stats.requestsFailed +
        (reqs.zip (exec s reqs).1).countP (fun p => p.1.routed ∧ (p.2 = 401 ∨ p.2 = 404)) +
        2 * (exec s reqs).1.countP (· = 500) ∧
    (exec s reqs).2.stats.caRequests = s.stats.caRequests + reqs.countP (·.serviceType = some "ca") ∧
    (exec s reqs).2.stats.ctRequests = s.stats.ctRequests + reqs.countP (·.serviceType = some "ct") ∧
    (exec s reqs).2.stats.dnsRequests = s.stats.dnsRequests + reqs.countP (·.serviceType = some "dns") := by
  induction reqs generalizing s with
  | nil => simp
  | cons q qs ih =>
    obtain ⟨h1, h2, h3, h4, h5⟩ := serve_stats s q
    obtain ⟨i1, i2, i3, i4, i5⟩ := ih (serve s q).2
    simp only [exec_cons, List.zip_cons_cons, List.countP_cons, decide_eq_true_eq]
    omega

end Hypermesh.TrustChainServer
