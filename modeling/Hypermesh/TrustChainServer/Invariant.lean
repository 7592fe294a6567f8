import Hypermesh.TrustChainServer.Spec
/-
What every run of the TrustChain server keeps.

Results:
- `reachable_inv`: in every state the server reaches, each certificate is stored under its own id, issued by the
  root CA's subject, of trust level `root` or `leaf` and of status `active`, `revoked` or `expired`; the root CA's
  entry is there with level `root`.
- `trust_hierarchy_root`: in every reachable state `get_trust_hierarchy` names a root CA and lists no intermediates.
- `inactive_stays_invalid`: a certificate that is revoked or expired validates as invalid after any later requests,
  unless one of them draws its id for a new certificate: no route makes a certificate active again.
- `nonstring_domain_breaks_resolve`: once a DNS record has no domain that is a string, which `update_dns_record`
  allows, every `resolve_domain` and every filtered `get_dns_records` answers 500, after any requests that neither
  delete that record, nor update its domain or its `__dict__`, nor create a record under its id.
-/

namespace Hypermesh.TrustChainServer

open Server (PyDict PyVal PyObject Failure Crash hex8)

/-- the ids the routes draw for new certificates are never the root CA's -/
theorem certId_ne_root (x : String) : "cert-" ++ x ≠ "trustchain-root-ca" := fun h => by
  cases congrArg String.data h

/-! ## The store invariant -/

/-- a certificate entry as the routes write it -/
structure CertOk (e : String × Certificate) : Prop where
  id : e.2.id = e.1
  issuer : e.2.issuer = rootSubject
  trustLevel : e.2.trustLevel = "root" ∨ e.2.trustLevel = "leaf"
  status : e.2.status = "active" ∨ e.2.status = "revoked" ∨ e.2.status = "expired"

/-- what every reachable state keeps -/
structure Inv (s : State) : Prop where
  certificates : ∀ e ∈ s.certificates, CertOk e
  root : ∃ c, s.certificates.get? "trustchain-root-ca" = some c ∧ c.trustLevel = "root"

namespace Inv

variable {s : State} {k : String}

/-- the invariant reads the certificates only -/
theorem of_certificates (h : Inv s) {s' : State} (hc : s'.certificates = s.certificates) : Inv s' :=
  ⟨hc ▸ h.certificates, hc ▸ h.root⟩

theorem updateStats (h : Inv s) (b : Bool) (t : String) : Inv (s.updateStats b t) := h.of_certificates rfl

theorem root_level (h : Inv s) {c : Certificate} (hc : s.certificates.get? k = some c)
    (hk : k = "trustchain-root-ca") : c.trustLevel = "root" := by
  obtain ⟨c₀, h₀, hl⟩ := h.root
  subst hk
  rw [hc, Option.some.injEq] at h₀
  exact h₀ ▸ hl

theorem setCertificate (h : Inv s) {c : Certificate} (hc : CertOk (k, c))
    (hr : k = "trustchain-root-ca" → c.trustLevel = "root") : Inv (s.setCertificate k c) where
  certificates e he := (PyDict.mem_set he).elim (fun h' => h' ▸ hc) (h.certificates e)
  root := by
    obtain ⟨c₀, h₀, hl⟩ := h.root
    by_cases hk : k = "trustchain-root-ca"
    · exact ⟨c, by simp [State.setCertificate, hk], hr hk⟩
    · exact ⟨c₀, by simp [State.setCertificate, Ne.symm hk, h₀], hl⟩

end Inv

theorem init_inv (now : Nat) : Inv (State.init now) where
  certificates e he := by
    simp only [State.init, List.mem_singleton] at he
    subst he
    exact ⟨rfl, rfl, .inl rfl, .inl rfl⟩
  root := ⟨_, rfl, rfl⟩

/-- each route keeps the invariant -/
theorem route_inv {s : State} (h : Inv s) (r : Req) : Inv (route r s).2 := by
  cases r
  case getCertificate k => rw [route, getCertificate_state]; exact h.updateStats _ _
  case validateCertificate k => rw [route, validateCertificate_state]; exact h.updateStats _ _
  case getDnsRecords d => rw [route, getDnsRecords_state]; exact h.updateStats _ _
  case resolveDomain q => rw [route, resolveDomain_state]; exact h.updateStats _ _
  case createCertificate subject days uuid now =>
    rcases createCertificate_cases subject days uuid now s with h' | ⟨t, h'⟩ <;> rw [route, h']
    · exact h.updateStats _ _
    · exact (h.updateStats _ _).setCertificate ⟨rfl, rfl, .inr rfl, .inl rfl⟩
        fun hk => absurd hk (certId_ne_root _)
  case revokeCertificate k =>
    rcases revokeCertificate_cases k s with h' | ⟨c, hc, h'⟩ <;> rw [route, h']
    · exact h.updateStats _ _
    · have hok := h.certificates _ (PyDict.mem_of_get? hc)
      exact (h.updateStats _ _).setCertificate (c := { c with status := "revoked" })
        ⟨hok.id, hok.issuer, hok.trustLevel, .inr (.inl rfl)⟩ (h.root_level (c := c) hc)
  case executeRotation q uuid now =>
    rcases rotateCertificate_cases 90 q uuid now s with h' | h' | ⟨c, t, hc, h'⟩ <;>
      rw [route, executeRotation, h']
    · exact h.updateStats _ _
    · exact h.updateStats _ _
    · have hok := h.certificates _ (PyDict.mem_of_get? hc)
      exact ((h.updateStats _ _).setCertificate (c := { c with status := "expired" })
        ⟨hok.id, hok.issuer, hok.trustLevel, .inr (.inr rfl)⟩ (h.root_level (c := c) hc)).setCertificate
          (c := ⟨_, c.subject, c.issuer, now, t, "active", c.trustLevel⟩)
          ⟨rfl, hok.issuer, hok.trustLevel, .inl rfl⟩
          fun hk => absurd hk (certId_ne_root _)
  case updateDnsRecord k u =>
    rcases updateDnsRecord_cases k u s with h' | ⟨r, -, -, h'⟩ <;> rw [route, h']
    · exact h.updateStats _ _
    · exact h.of_certificates rfl
  case deleteDnsRecord k =>
    rcases deleteDnsRecord_cases k s with h' | h' <;> rw [route, h'] <;> exact h.of_certificates rfl
  case createRotationPolicy days uuid now =>
    rcases createRotationPolicy_cases days uuid now s with h' | h' <;> rw [route, h'] <;> exact h.of_certificates rfl
  case updateRotationPolicy k u =>
    rcases updateRotationPolicy_cases k u s with h' | ⟨p, -, -, h'⟩ <;> rw [route, h']
    · exact h.updateStats _ _
    · exact h.of_certificates rfl
  case authenticateCertificate q => simp only [route, authenticateCertificate]; split <;> exact h
  all_goals exact h.of_certificates rfl

theorem trackRequests_inv {p : Except Failure Body × State} (h : Inv p.2) : Inv (trackRequests p).2 := by
  rcases p with ⟨(e | _), s⟩
  · cases e <;> exact h.of_certificates rfl
  · exact h.of_certificates rfl

theorem serve_inv {s : State} (h : Inv s) : ∀ q, Inv (serve s q).2
  | .call r => trackRequests_inv (route_inv h r)
  | .malformed | .unrouted _ | .preflight _ => h.updateStats _ _

theorem exec_inv {s : State} (h : Inv s) (reqs : List Request) : Inv (exec s reqs).2 := by
  induction reqs generalizing s with
  | nil => exact h
  | cons q qs ih => exact ih (serve_inv h q)

/-- **the store invariant of every reachable state** -/
theorem reachable_inv {s : State} (h : Reachable s) : Inv s := by
  obtain ⟨now, reqs, rfl⟩ := h
  exact exec_inv (init_inv now) reqs

/-- the state after rotating the root CA is reachable, and keeps the invariant -/
theorem rotated_root_inv :
    Reachable (exec (State.init 0)
      [.call (.executeRotation [("certificate_id", "trustchain-root-ca")] "aaaaaaaa" 0)]).2 ∧
    Inv (exec (State.init 0) [.call (.executeRotation [("certificate_id", "trustchain-root-ca")] "aaaaaaaa" 0)]).2 :=
  ⟨⟨0, _, rfl⟩, reachable_inv ⟨0, _, rfl⟩⟩

/-- **`get_trust_hierarchy` in every reachable state**: a root CA, and no intermediates -/
theorem trust_hierarchy_root {s : State} (h : Reachable s) :
    ∃ rootCa leaves, (getTrustHierarchy s).1 = .ok (.hierarchy (some rootCa) [] leaves) := by
  obtain ⟨now, reqs, rfl⟩ := h
  have hi := exec_inv (init_inv now) reqs
  generalize (exec (State.init now) reqs).2 = s at hi
  obtain ⟨c, hc, hl⟩ := hi.root
  have hroot : c ∈ (s.certificates.map Prod.snd).filter (·.trustLevel = "root") :=
    List.mem_filter.2 ⟨List.mem_map_of_mem _ (PyDict.mem_of_get? hc), by simpa using hl⟩
  obtain ⟨last, hlast⟩ := Option.isSome_iff_exists.1 (List.getLast?_isSome.2 (List.ne_nil_of_mem hroot))
  have hint : (s.certificates.map Prod.snd).filter (·.trustLevel = "intermediate") = [] := by
    refine List.filter_eq_nil_iff.2 fun c hc => ?_
    obtain ⟨e, he, rfl⟩ := List.mem_map.1 hc
    rcases (hi.certificates e he).trustLevel with hl | hl <;> simp [hl]
  exact ⟨last.id, _, by simp only [getTrustHierarchy, State.updateStats_certificates, hlast, hint]; rfl⟩

/-- after the root CA is rotated, the hierarchy still names one root and no intermediates -/
theorem rotated_root_hierarchy :
    Reachable (exec (State.init 0)
      [.call (.executeRotation [("certificate_id", "trustchain-root-ca")] "aaaaaaaa" 0)]).2 ∧
    ∃ rootCa leaves, (getTrustHierarchy (exec (State.init 0)
      [.call (.executeRotation [("certificate_id", "trustchain-root-ca")] "aaaaaaaa" 0)]).2).1 =
        .ok (.hierarchy (some rootCa) [] leaves) :=
  ⟨⟨0, _, rfl⟩, trust_hierarchy_root ⟨0, _, rfl⟩⟩

/-! ## Revocation is never undone -/

/-- the id a request draws for a new certificate -/
def Req.newCertificateId? : Req → Option String
  | .createCertificate _ _ uuid _ | .executeRotation _ uuid _ => some ("cert-" ++ hex8 uuid)
  | _ => none

def Request.newCertificateId? : Request → Option String
  | .call r => r.newCertificateId?
  | _ => none

/-- the certificate under `k` is there and not active -/
def Inactive (s : State) (k : String) : Prop := ∃ c, s.certificates.get? k = some c ∧ c.status ≠ "active"

section Inactive

variable {s : State} {k : String}

theorem Inactive.updateStats (h : Inactive s k) (b : Bool) (t : String) : Inactive (s.updateStats b t) k := h

theorem Inactive.setCertificate (h : Inactive s k) {j : String} {c : Certificate}
    (hc : j = k → c.status ≠ "active") : Inactive (s.setCertificate j c) k := by
  by_cases hj : k = j
  · exact ⟨c, by simp [State.setCertificate, hj], hc hj.symm⟩
  · obtain ⟨c₀, h₀, hs⟩ := h
    exact ⟨c₀, by simp [State.setCertificate, hj, h₀], hs⟩

theorem route_inactive (h : Inactive s k) (r : Req) (hn : r.newCertificateId? ≠ some k) :
    Inactive (route r s).2 k := by
  cases r
  case getCertificate j => rw [route, getCertificate_state]; exact h.updateStats _ _
  case validateCertificate j => rw [route, validateCertificate_state]; exact h.updateStats _ _
  case getDnsRecords d => rw [route, getDnsRecords_state]; exact h.updateStats _ _
  case resolveDomain q => rw [route, resolveDomain_state]; exact h.updateStats _ _
  case createCertificate subject days uuid now =>
    rcases createCertificate_cases subject days uuid now s with h' | ⟨t, h'⟩ <;> rw [route, h']
    · exact h.updateStats _ _
    · exact (h.updateStats _ _).setCertificate fun hj => absurd (congrArg some hj) hn
  case revokeCertificate j =>
    rcases revokeCertificate_cases j s with h' | ⟨c, -, h'⟩ <;> rw [route, h']
    · exact h.updateStats _ _
    · exact (h.updateStats _ _).setCertificate fun _ => show "revoked" ≠ "active" by decide
  case executeRotation q uuid now =>
    rcases rotateCertificate_cases 90 q uuid now s with h' | h' | ⟨c, t, -, h'⟩ <;>
      rw [route, executeRotation, h']
    · exact h.updateStats _ _
    · exact h.updateStats _ _
    · exact ((h.updateStats _ _).setCertificate fun _ => show "expired" ≠ "active" by decide).setCertificate
        fun hj => absurd (congrArg some hj) hn
  case updateDnsRecord j u =>
    rcases updateDnsRecord_cases j u s with h' | ⟨r, -, -, h'⟩ <;> rw [route, h'] <;> exact h
  case deleteDnsRecord j => rcases deleteDnsRecord_cases j s with h' | h' <;> rw [route, h'] <;> exact h
  case createRotationPolicy days uuid now =>
    rcases createRotationPolicy_cases days uuid now s with h' | h' <;> rw [route, h'] <;> exact h
  case updateRotationPolicy j u =>
    rcases updateRotationPolicy_cases j u s with h' | ⟨p, -, -, h'⟩ <;> rw [route, h'] <;> exact h
  case authenticateCertificate q => simp only [route, authenticateCertificate]; split <;> exact h
  all_goals exact h

theorem exec_inactive (h : Inactive s k) (reqs : List Request) (hn : ∀ q ∈ reqs, q.newCertificateId? ≠ some k) :
    Inactive (exec s reqs).2 k := by
  induction reqs generalizing s with
  | nil => exact h
  | cons q qs ih =>
    refine ih ?_ fun q' hq' => hn q' (List.mem_cons_of_mem _ hq')
    cases q with
    | malformed | unrouted _ | preflight _ => exact h.updateStats _ _
    | call r =>
      have hr := route_inactive h r (hn _ (List.mem_cons_self _ _))
      simp only [serve]
      generalize route r s = p at hr
      rcases p with ⟨(e | _), s'⟩
      · cases e <;> exact (hr.updateStats _ _).updateStats _ _
      · exact hr.updateStats _ _

end Inactive

/-- **revocation is never undone**: a revoked or expired certificate validates as invalid after any later
requests, unless one of them draws its id for a new certificate -/
theorem inactive_stays_invalid (s : State) (reqs : List Request) (k : String)
    (hk : ∃ c, s.certificates.get? k = some c ∧ c.status ≠ "active")
    (hn : ∀ q ∈ reqs, q.newCertificateId? ≠ some k) :
    (route (.validateCertificate k) (exec s reqs).2).1 = .ok (.valid false) := by
  obtain ⟨c, hc, hs⟩ := exec_inactive hk reqs hn
  simp [route, validateCertificate, hc, hs]

/-- revoking the root CA and then rotating it: the old root stays invalid -/
theorem revoked_root_invalid_after_rotation :
    (∃ c, (exec (State.init 0) [.call (.revokeCertificate "trustchain-root-ca")]).2.certificates.get?
      "trustchain-root-ca" = some c ∧ c.status ≠ "active") ∧
    (∀ q ∈ [Request.call (.executeRotation [("certificate_id", "trustchain-root-ca")] "aaaaaaaa" 0)],
      q.newCertificateId? ≠ some "trustchain-root-ca") ∧
    (route (.validateCertificate "trustchain-root-ca") (exec (exec (State.init 0)
      [.call (.revokeCertificate "trustchain-root-ca")]).2
      [.call (.executeRotation [("certificate_id", "trustchain-root-ca")] "aaaaaaaa" 0)]).2).1 = .ok (.valid false) :=
  have hk : ∃ c, (exec (State.init 0) [.call (.revokeCertificate "trustchain-root-ca")]).2.certificates.get?
      "trustchain-root-ca" = some c ∧ c.status ≠ "active" := ⟨_, rfl, by decide⟩
  have hn : ∀ q ∈ [Request.call (.executeRotation [("certificate_id", "trustchain-root-ca")] "aaaaaaaa" 0)],
      q.newCertificateId? ≠ some "trustchain-root-ca" := by decide
  ⟨hk, hn, inactive_stays_invalid _ _ _ hk hn⟩

/-! ## A domain that is not a string -/

/-- whether a request may rewrite the domain of the DNS record under `k`: a creation that draws `k`, an update of
`k` that sets `domain` or `__dict__`, or its deletion -/
def Req.writesDomain (k : String) : Req → Bool
  | .createDnsRecord _ _ uuid => "dns-" ++ hex8 uuid == k
  | .updateDnsRecord j u => j == k && u.any fun x => x.1 == "domain" || x.1 == "__dict__"
  | .deleteDnsRecord j => j == k
  | _ => false

def Request.writesDomain (k : String) : Request → Bool
  | .call r => r.writesDomain k
  | _ => false

/-- the DNS record under `k` is there and has no domain that is a string -/
def BadDomain (s : State) (k : String) : Prop :=
  ∃ r, s.dnsRecords.get? k = some r ∧ ∀ d, r.attrs.get? "domain" ≠ some (.str d)

section BadDomain

variable {s : State} {k : String}

theorem BadDomain.updateStats (h : BadDomain s k) (b : Bool) (t : String) : BadDomain (s.updateStats b t) k := h

theorem BadDomain.setDnsRecord (h : BadDomain s k) {j : String} {r : PyObject}
    (hr : j = k → ∀ d, r.attrs.get? "domain" ≠ some (.str d)) : BadDomain (s.setDnsRecord j r) k := by
  by_cases hj : k = j
  · exact ⟨r, by simp [State.setDnsRecord, hj], hr hj.symm⟩
  · obtain ⟨r₀, h₀, hd⟩ := h
    exact ⟨r₀, by simp [State.setDnsRecord, hj, h₀], hd⟩

theorem route_badDomain (h : BadDomain s k) (r : Req) (hw : r.writesDomain k = false) :
    BadDomain (route r s).2 k := by
  cases r
  case getCertificate j => rw [route, getCertificate_state]; exact h.updateStats _ _
  case validateCertificate j => rw [route, validateCertificate_state]; exact h.updateStats _ _
  case getDnsRecords d => rw [route, getDnsRecords_state]; exact h.updateStats _ _
  case createCertificate subject days uuid now =>
    rcases createCertificate_cases subject days uuid now s with h' | ⟨t, h'⟩ <;> rw [route, h'] <;> exact h
  case revokeCertificate j => rcases revokeCertificate_cases j s with h' | ⟨c, -, h'⟩ <;> rw [route, h'] <;> exact h
  case executeRotation q uuid now =>
    rcases rotateCertificate_cases 90 q uuid now s with h' | h' | ⟨c, t, -, h'⟩ <;>
      rw [route, executeRotation, h'] <;> exact h
  case createDnsRecord d t uuid =>
    exact (h.updateStats _ _).setDnsRecord fun hj => absurd (beq_iff_eq.2 hj) (by simpa [Req.writesDomain] using hw)
  case updateDnsRecord j u =>
    rcases updateDnsRecord_cases j u s with h' | ⟨r, hr, -, h'⟩ <;> rw [route, h']
    · exact h.updateStats _ _
    · refine (h.updateStats _ _).setDnsRecord fun hj => ?_
      subst hj
      obtain ⟨r₀, h₀, hd⟩ := h
      rw [hr, Option.some.injEq] at h₀
      subst h₀
      have hw' : ∀ a b, (a, b) ∈ u → a ≠ "domain" ∧ a ≠ "__dict__" := by simpa [Req.writesDomain] using hw
      have hu : ∀ x ∈ u.filter (·.1 ≠ "id"), x.1 ≠ "domain" ∧ x.1 ≠ "__dict__" :=
        fun x hx => hw' x.1 x.2 (List.mem_filter.1 hx).1
      rw [PyObject.updates_get? _ hu]
      exact hd
  case deleteDnsRecord j =>
    rcases deleteDnsRecord_cases j s with h' | h' <;> rw [route, h']
    · exact h.updateStats _ _
    · obtain ⟨r₀, h₀, hd⟩ := h
      have hj : k ≠ j := fun e => by simp [Req.writesDomain, e] at hw
      exact ⟨r₀, by simp [hj, h₀], hd⟩
  case createRotationPolicy days uuid now =>
    rcases createRotationPolicy_cases days uuid now s with h' | h' <;> rw [route, h'] <;> exact h
  case updateRotationPolicy j u =>
    rcases updateRotationPolicy_cases j u s with h' | ⟨p, -, -, h'⟩ <;> rw [route, h'] <;> exact h
  case authenticateCertificate q => simp only [route, authenticateCertificate]; split <;> exact h
  all_goals exact h

theorem exec_badDomain (h : BadDomain s k) (reqs : List Request) (hw : ∀ q ∈ reqs, q.writesDomain k = false) :
    BadDomain (exec s reqs).2 k := by
  induction reqs generalizing s with
  | nil => exact h
  | cons q qs ih =>
    refine ih ?_ fun q' hq' => hw q' (List.mem_cons_of_mem _ hq')
    cases q with
    | malformed | unrouted _ | preflight _ => exact h.updateStats _ _
    | call r =>
      have hr := route_badDomain h r (hw _ (List.mem_cons_self _ _))
      simp only [serve]
      generalize route r s = p at hr
      rcases p with ⟨(e | _), s'⟩
      · cases e <;> exact (hr.updateStats _ _).updateStats _ _
      · exact hr.updateStats _ _

theorem domainMatches_bad {r : PyObject} (hr : ∀ d, r.attrs.get? "domain" ≠ some (.str d)) (domain : String) :
    ∃ e, domainMatches domain r = .error e := by
  unfold domainMatches PyObject.getattr
  split
  · next v hv =>
    cases v
    case str d => exact absurd hv (hr d)
    all_goals exact ⟨_, rfl⟩
  · exact ⟨_, rfl⟩

/-- with a record that has no string domain, `resolve_domain` raises -/
theorem resolveDomain_bad (h : BadDomain s k) (q : PyDict String) : ∃ e, (resolveDomain q s).1 = .error e := by
  obtain ⟨r, hr, hd⟩ := h
  simp only [resolveDomain, State.updateStats_dnsRecords]
  cases hf : (s.dnsRecords.map Prod.snd).filterMapM
      (resolveMatch ((q.get? "domain").getD "") ((q.get? "type").getD "A")) with
  | error e => exact ⟨e, rfl⟩
  | ok rs =>
    obtain ⟨b, hb⟩ := filterMapM_ok hf r (List.mem_map_of_mem _ (PyDict.mem_of_get? hr))
    obtain ⟨e, he⟩ := domainMatches_bad hd ((q.get? "domain").getD "")
    simp only [resolveMatch, he] at hb
    cases hb

/-- with a record that has no string domain, `get_dns_records` with a filter raises -/
theorem getDnsRecords_bad (h : BadDomain s k) {d : String} (hd : d ≠ "") :
    ∃ e, (getDnsRecords (some d) s).1 = .error e := by
  obtain ⟨r, hr, hbad⟩ := h
  simp only [getDnsRecords, State.updateStats_dnsRecords, hd, ne_eq, not_false_eq_true, if_true]
  cases hf : (s.dnsRecords.map Prod.snd).filterM (domainMatches d) with
  | error e => exact ⟨e, rfl⟩
  | ok rs =>
    obtain ⟨b, hb⟩ := filterM_ok hf r (List.mem_map_of_mem _ (PyDict.mem_of_get? hr))
    obtain ⟨e, he⟩ := domainMatches_bad hbad d
    rw [he] at hb
    cases hb

/-- a route raising what the general handler answers is answered 500 -/
theorem serve_crash {s : State} {r : Req} (hc : Crash (route r s).1) {e : Failure} (h : (route r s).1 = .error e) :
    (serve s (.call r)).1 = 500 := by
  have hu := hc e h
  simp only [serve]
  generalize route r s = p at h
  obtain ⟨x, s'⟩ := p
  subst h
  cases e <;> first | rfl | cases hu

end BadDomain

/-- **a domain that is not a string breaks resolution**: after any requests that neither delete the record, nor
update its domain or its `__dict__`, nor create a record under its id, every `resolve_domain` and every filtered
`get_dns_records` answers 500 -/
theorem nonstring_domain_breaks_resolve (s : State) (reqs : List Request) (k : String)
    (hk : ∃ r, s.dnsRecords.get? k = some r ∧ ∀ d, r.attrs.get? "domain" ≠ some (.str d))
    (hw : ∀ q ∈ reqs, q.writesDomain k = false) (q : PyDict String) (d : String) (hd : d ≠ "") :
    (serve (exec s reqs).2 (.call (.resolveDomain q))).1 = 500 ∧
    (serve (exec s reqs).2 (.call (.getDnsRecords (some d)))).1 = 500 := by
  have h := exec_badDomain hk reqs hw
  obtain ⟨e, he⟩ := resolveDomain_bad h q
  obtain ⟨e', he'⟩ := getDnsRecords_bad h hd
  exact ⟨serve_crash (resolveDomain_crash _ _) he, serve_crash (getDnsRecords_crash _ _) he'⟩

/-- `dns-stoq`'s domain set to a number, then a record created and another deleted: resolution still fails -/
theorem number_domain_breaks_resolve :
    (∃ r, (exec (State.init 0) [.call (.updateDnsRecord "dns-stoq" [("domain", .int 5)])]).2.dnsRecords.get?
      "dns-stoq" = some r ∧ ∀ d, r.attrs.get? "domain" ≠ some (.str d)) ∧
    (∀ q ∈ [Request.call (.createDnsRecord "api.hypermesh.network" "A" "bbbbbbbb"),
      .call (.deleteDnsRecord "dns-hypermesh")], q.writesDomain "dns-stoq" = false) ∧ "hypermesh" ≠ "" ∧
    (serve (exec (exec (State.init 0) [.call (.updateDnsRecord "dns-stoq" [("domain", .int 5)])]).2
      [.call (.createDnsRecord "api.hypermesh.network" "A" "bbbbbbbb"), .call (.deleteDnsRecord "dns-hypermesh")]).2
      (.call (.resolveDomain [("domain", "hypermesh")]))).1 = 500 ∧
    (serve (exec (exec (State.init 0) [.call (.updateDnsRecord "dns-stoq" [("domain", .int 5)])]).2
      [.call (.createDnsRecord "api.hypermesh.network" "A" "bbbbbbbb"), .call (.deleteDnsRecord "dns-hypermesh")]).2
      (.call (.getDnsRecords (some "hypermesh")))).1 = 500 :=
  have hk : ∃ r, (exec (State.init 0) [.call (.updateDnsRecord "dns-stoq" [("domain", .int 5)])]).2.dnsRecords.get?
      "dns-stoq" = some r ∧ ∀ d, r.attrs.get? "domain" ≠ some (.str d) := ⟨_, rfl, fun _ h => by cases h⟩
  have hw : ∀ q ∈ [Request.call (.createDnsRecord "api.hypermesh.network" "A" "bbbbbbbb"),
      .call (.deleteDnsRecord "dns-hypermesh")], q.writesDomain "dns-stoq" = false := by decide
  ⟨hk, hw, by decide, nonstring_domain_breaks_resolve _ _ _ hk hw _ _ (by decide)⟩

end Hypermesh.TrustChainServer
