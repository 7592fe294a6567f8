import Hypermesh.PyStr
import Hypermesh.Server.State
/-
The TrustChain certificate authority server (`trustchain_simple_server.py`): `TrustChainState` with its
certificates, DNS records, rotation policies and request statistics, and every route, served through the
application's middleware stack.

A route is a function from the state to its reply or the exception it raises, with the state it leaves either way:
the routes call `update_stats` first, and a route that raises after it keeps the update. `serve` puts a route inside
the stack FastAPI builds: `track_requests` (an `http` middleware) around the exception middleware around the router.
The exception middleware answers an `HTTPException` with `http_exception_handler`, a body that fails its request
model with FastAPI's validation handler (422), and a request no route matches with FastAPI's handler for the router's
own `HTTPException` (404, 405, or a redirect to the path with or without its trailing slash); a CORS preflight is
answered by `CORSMiddleware` before it (200, or 400 for an origin not allowed). Any other exception passes back
through `track_requests`, which counts it and raises it again, to `general_exception_handler` in the outermost error
middleware (500).

Identifiers come from `uuid.uuid4().hex` and times from `datetime.utcnow()`, in seconds since 0001-01-01; both are
inputs of the request. The model keeps what the routes read and what the results speak of: a certificate's id,
subject, issuer, validity, status and trust level. DNS records and rotation policies are `PyObject`s: an update sets
their fields with `setattr`, its `__dict__` included, and every reply goes through `asdict`; a record's domain and
type are followed. Serial numbers, fingerprints, keys, the other DNS and policy fields, timestamps,
`average_response_time_ms` (a float) and the counters no route changes are only echoed, and are left out, as are
reply bodies beyond the ids, verdicts and lists the results use.
-/

namespace Hypermesh.TrustChainServer

open Server (PyDict PyVal PyClass PyObject Failure hex8 addSeconds)

/-! ## The state -/

structure Certificate where
  id : String
  subject : String
  issuer : String
  validFrom : Int
  validTo : Int
  /-- `'active' | 'expired' | 'revoked' | 'pending'` -/
  status : String
  /-- `'root' | 'intermediate' | 'leaf'` -/
  trustLevel : String
  deriving DecidableEq, Repr

/-- the `DNSRecord` dataclass; `priority`, `weight`, `port`, `last_updated` and `status` have defaults -/
def dnsRecordClass : PyClass where
  followed := ["domain", "record_type", "__dataclass_fields__"]
  classAttrs := ["__dataclass_fields__"]
  required := ["id", "domain", "record_type", "value", "ttl"]

/-- the `RotationPolicy` dataclass; `last_rotation` and `next_rotation` have defaults -/
def rotationPolicyClass : PyClass where
  followed := ["__dataclass_fields__"]
  classAttrs := ["__dataclass_fields__"]
  required := ["id", "certificate_id", "rotation_type", "interval_days", "warning_days", "grace_period_days", "enabled"]

/-- a new `DNSRecord` -/
def newDnsRecord (domain recordType : String) : PyObject :=
  .new dnsRecordClass [("domain", .str domain), ("record_type", .str recordType)]

/-- the counters of `stats` that `update_stats` raises -/
structure Stats where
  requestsTotal : Nat
  requestsSuccessful : Nat
  requestsFailed : Nat
  caRequests : Nat
  ctRequests : Nat
  dnsRequests : Nat
  deriving DecidableEq, Repr

structure State where
  certificates : PyDict Certificate
  dnsRecords : PyDict PyObject
  rotationPolicies : PyDict PyObject
  stats : Stats

/-- the subject, and issuer, of the root CA -/
def rootSubject : String := "CN=TrustChain Root CA, O=HyperMesh, C=US"

/-- `TrustChainState()` at time `now`: the root CA (`_initialize_root_ca`), the three sample DNS records
(`_initialize_sample_dns_records`), no policies, every counter at 0 -/
def State.init (now : Nat) : State where
  certificates := [("trustchain-root-ca", ⟨"trustchain-root-ca", rootSubject, rootSubject,
    (now : Int) - 365 * 86400, (now : Int) + 365 * 2 * 86400, "active", "root"⟩)]
  dnsRecords :=
    [("dns-hypermesh", newDnsRecord "hypermesh.network" "AAAA"),
     ("dns-trustchain", newDnsRecord "trust.hypermesh.network" "AAAA"),
     ("dns-stoq", newDnsRecord "stoq.hypermesh.network" "AAAA")]
  rotationPolicies := []
  stats := ⟨0, 0, 0, 0, 0, 0⟩

/-- `update_stats(success, service_type)` -/
def Stats.update (st : Stats) (success : Bool) (serviceType : String) : Stats where
  requestsTotal := st.requestsTotal + 1
  requestsSuccessful := if success then st.requestsSuccessful + 1 else st.requestsSuccessful
  requestsFailed := if success then st.requestsFailed else st.requestsFailed + 1
  caRequests := if serviceType = "ca" then st.caRequests + 1 else st.caRequests
  ctRequests := if serviceType = "ct" then st.ctRequests + 1 else st.ctRequests
  dnsRequests := if serviceType = "dns" then st.dnsRequests + 1 else st.dnsRequests

def State.updateStats (s : State) (success : Bool) (serviceType : String) : State :=
  { s with stats := s.stats.update success serviceType }

def State.setCertificate (s : State) (certificateId : String) (c : Certificate) : State :=
  { s with certificates := s.certificates.set certificateId c }

def State.setDnsRecord (s : State) (recordId : String) (r : PyObject) : State :=
  { s with dnsRecords := s.dnsRecords.set recordId r }

def State.setRotationPolicy (s : State) (policyId : String) (p : PyObject) : State :=
  { s with rotationPolicies := s.rotationPolicies.set policyId p }

/-! ## The routes -/

/-- what a route returns, reduced to what the results read -/
inductive Body where
  /-- a message, or a created or echoed entry by its id -/
  | message (text : String)
  /-- `validate_certificate`'s `"valid"` -/
  | valid (ok : Bool)
  /-- a list of certificates, DNS records or policies, by id -/
  | entries (ids : List String)
  /-- DNS records or rotation policies -/
  | objects (os : List PyObject)
  /-- a created or updated DNS record or rotation policy -/
  | object (o : PyObject)
  /-- `get_trust_hierarchy`: `root_ca`, `intermediates` and `leaves`, by id -/
  | hierarchy (rootCa : Option String) (intermediates leaves : List String)
  | stats (st : Stats)

/-- a route: its reply or the exception it raises, and the state it leaves -/
abbrev Route := State → Except Failure Body × State

/-- `now + timedelta(days=days)` -/
def addDays (now : Nat) (days : Int) : Except Failure Int := addSeconds now (days * 86400)

def getCertificates : Route := fun s =>
  let s := s.updateStats true "ca"
  (.ok (.entries (s.certificates.map fun e => e.2.id)), s)

def getCertificate (certificateId : String) : Route := fun s =>
  let s := s.updateStats true "ca"
  match s.certificates.get? certificateId with
  | none => (.error (.http 404 "Certificate not found"), s)
  | some c => (.ok (.message c.id), s)

def createCertificate (subject : String) (validityDays : Int) (uuid : String) (now : Nat) : Route := fun s =>
  let s := s.updateStats true "ca"
  let certId := "cert-" ++ hex8 uuid
  match addDays now validityDays with
  | .error e => (.error e, s)
  | .ok validTo =>
    (.ok (.message certId), s.setCertificate certId ⟨certId, subject, rootSubject, now, validTo, "active", "leaf"⟩)

def revokeCertificate (certificateId : String) : Route := fun s =>
  let s := s.updateStats true "ca"
  match s.certificates.get? certificateId with
  | none => (.error (.http 404 "Certificate not found"), s)
  | some c =>
    (.ok (.message "Certificate revoked successfully"), s.setCertificate certificateId { c with status := "revoked" })

def validateCertificate (certificateId : String) : Route := fun s =>
  let s := s.updateStats true "ct"
  match s.certificates.get? certificateId with
  | none => (.error (.http 404 "Certificate not found"), s)
  | some c => (.ok (.valid (c.status = "active")), s)

/-- `get_trust_hierarchy`: its loop puts each certificate in one list by trust level, `root_ca` being the last root -/
def getTrustHierarchy : Route := fun s =>
  let s := s.updateStats true "ca"
  let certs := s.certificates.map Prod.snd
  (.ok (.hierarchy ((certs.filter (·.trustLevel = "root")).getLast?.map (·.id))
    ((certs.filter (·.trustLevel = "intermediate")).map (·.id))
    ((certs.filter fun c => c.trustLevel ≠ "root" ∧ c.trustLevel ≠ "intermediate").map (·.id))), s)

/-- `domain.lower() in record.domain.lower()`: a domain that is not a string has no `lower` -/
def domainMatches (domain : String) (r : PyObject) : Except Failure Bool := do
  match ← r.getattr "domain" with
  | .str d => pure (decide (PyStr.lower domain.toList <:+: PyStr.lower d.toList))
  | _ => throw (.attributeError "lower")

/-- `[asdict(record) for record in records]` -/
def asdicts (records : List PyObject) : Except Failure Body :=
  (fun _ => .objects records) <$> records.mapM PyObject.asdict

def getDnsRecords (domain : Option String) : Route := fun s =>
  let s := s.updateStats true "dns"
  let records := s.dnsRecords.map Prod.snd
  match domain with
  | some d => if d ≠ "" then ((records.filterM (domainMatches d)) >>= asdicts, s) else (asdicts records, s)
  | none => (asdicts records, s)

def createDnsRecord (domain recordType : String) (uuid : String) : Route := fun s =>
  let s := s.updateStats true "dns"
  let recordId := "dns-" ++ hex8 uuid
  let record := newDnsRecord domain recordType
  (.ok (.object record), s.setDnsRecord recordId record)

/-- an update route's end: the entry as the `setattr` loop left it, stored under its id, and the exception that
stopped the loop or `asdict(entry)`'s; `last_updated`, set in between, has a default -/
def updated (store : State → String → PyObject → State) (k : String) (o : PyObject) (updates : List (String × PyVal)) :
    Route := fun s =>
  let (o, raised) := o.updates (updates.filter (·.1 ≠ "id"))
  match raised with
  | some e => (.error e, store s k o)
  | none => ((fun _ => .object o) <$> o.asdict, store s k o)

def updateDnsRecord (recordId : String) (updates : List (String × PyVal)) : Route := fun s =>
  let s := s.updateStats true "dns"
  match s.dnsRecords.get? recordId with
  | none => (.error (.http 404 "DNS record not found"), s)
  | some r => updated State.setDnsRecord recordId r updates s

def deleteDnsRecord (recordId : String) : Route := fun s =>
  let s := s.updateStats true "dns"
  if recordId ∉ s.dnsRecords.map Prod.fst then (.error (.http 404 "DNS record not found"), s)
  else (.ok (.message "DNS record deleted successfully"), { s with dnsRecords := s.dnsRecords.erase recordId })

/-- `asdict(record)` for a record whose domain holds `domain` and whose type is `recordType`, `None` for another -/
def resolveMatch (domain recordType : String) (r : PyObject) : Except Failure (Option PyObject) := do
  if ← domainMatches domain r then
    if (← r.getattr "record_type").isStr recordType then (fun _ => some r) <$> r.asdict else pure none
  else pure none

/-- `resolve_domain`: `asdict` of each matching record, in turn -/
def resolveDomain (request : PyDict String) : Route := fun s =>
  let s := s.updateStats true "dns"
  let domain := (request.get? "domain").getD ""
  let recordType := (request.get? "type").getD "A"
  ((fun rs => .objects rs) <$> (s.dnsRecords.map Prod.snd).filterMapM (resolveMatch domain recordType), s)

def getRotationPolicies : Route := fun s =>
  let s := s.updateStats true "ca"
  (asdicts (s.rotationPolicies.map Prod.snd), s)

/-- `create_rotation_policy`: `next_rotation` is computed whether or not the policy is enabled -/
def createRotationPolicy (intervalDays : Int) (uuid : String) (now : Nat) : Route := fun s =>
  let s := s.updateStats true "ca"
  let policyId := "policy-" ++ hex8 uuid
  let policy := PyObject.new rotationPolicyClass []
  match addDays now intervalDays with
  | .error e => (.error e, s)
  | .ok _ => (.ok (.object policy), s.setRotationPolicy policyId policy)

def updateRotationPolicy (policyId : String) (updates : List (String × PyVal)) : Route := fun s =>
  let s := s.updateStats true "ca"
  match s.rotationPolicies.get? policyId with
  | none => (.error (.http 404 "Rotation policy not found"), s)
  | some p => updated State.setRotationPolicy policyId p updates s

/-- `execute_rotation` with the new certificate valid for `days` days: a new active certificate with the old one's
subject, issuer and trust level; the old one is marked expired, whatever its status -/
def rotateCertificate (days : Int) (request : PyDict String) (uuid : String) (now : Nat) : Route := fun s =>
  let s := s.updateStats true "ca"
  let certificateId := (request.get? "certificate_id").getD ""
  match s.certificates.get? certificateId with
  | none => (.error (.http 404 "Certificate not found"), s)
  | some old =>
    let newCertId := "cert-" ++ hex8 uuid
    match addDays now days with
    | .error e => (.error e, s)
    | .ok validTo =>
      let s := s.setCertificate certificateId { old with status := "expired" }
      (.ok (.entries [certificateId, newCertId]),
        s.setCertificate newCertId ⟨newCertId, old.subject, old.issuer, now, validTo, "active", old.trustLevel⟩)

/-- `execute_rotation`: the new certificate is valid for `timedelta(days=90)` -/
def executeRotation : PyDict String → String → Nat → Route := rotateCertificate 90

def getRotationHistory : Route := fun s => (.ok (.message "rotation history"), s.updateStats true "ca")

def authenticateCertificate (request : PyDict String) : Route := fun s =>
  let certificate := (request.get? "certificate").getD ""
  if certificate = "" ∨ PyStr.contains certificate.toList "BEGIN CERTIFICATE" = false then
    (.error (.http 401 "Invalid certificate format"), s)
  else (.ok (.message "valid"), s)

/-! ## Requests -/

/-- a request to one of the routes, with the identifiers and times it draws -/
inductive Req where
  | health
  | getStats
  | systemStatus
  | getCertificates
  | getCertificate (certificateId : String)
  | createCertificate (subject : String) (validityDays : Int) (uuid : String) (now : Nat)
  | revokeCertificate (certificateId : String)
  | validateCertificate (certificateId : String)
  | getTrustHierarchy
  | getDnsRecords (domain : Option String)
  | createDnsRecord (domain recordType : String) (uuid : String)
  | updateDnsRecord (recordId : String) (updates : List (String × PyVal))
  | deleteDnsRecord (recordId : String)
  | resolveDomain (request : PyDict String)
  | getRotationPolicies
  | createRotationPolicy (intervalDays : Int) (uuid : String) (now : Nat)
  | updateRotationPolicy (policyId : String) (updates : List (String × PyVal))
  | executeRotation (request : PyDict String) (uuid : String) (now : Nat)
  | getRotationHistory
  | authenticateCertificate (request : PyDict String)

def route : Req → Route
  | .health => fun s => (.ok (.message "healthy"), s)
  | .getStats => fun s => (.ok (.stats s.stats), s)
  | .systemStatus => fun s => (.ok (.message "operational"), s)
  | .getCertificates => getCertificates
  | .getCertificate c => getCertificate c
  | .createCertificate subject days uuid now => createCertificate subject days uuid now
  | .revokeCertificate c => revokeCertificate c
  | .validateCertificate c => validateCertificate c
  | .getTrustHierarchy => getTrustHierarchy
  | .getDnsRecords d => getDnsRecords d
  | .createDnsRecord d t uuid => createDnsRecord d t uuid
  | .updateDnsRecord r u => updateDnsRecord r u
  | .deleteDnsRecord r => deleteDnsRecord r
  | .resolveDomain q => resolveDomain q
  | .getRotationPolicies => getRotationPolicies
  | .createRotationPolicy days uuid now => createRotationPolicy days uuid now
  | .updateRotationPolicy p u => updateRotationPolicy p u
  | .executeRotation q uuid now => executeRotation q uuid now
  | .getRotationHistory => getRotationHistory
  | .authenticateCertificate q => authenticateCertificate q

/-- what the router answers a request no route matches with -/
inductive Unrouted where
  /-- no route has its path -/
  | notFound
  /-- a route has its path, none its method -/
  | methodNotAllowed
  /-- a route has its path with the trailing slash added or removed -/
  | redirect

def Unrouted.status : Unrouted → Nat
  | .notFound => 404
  | .methodNotAllowed => 405
  | .redirect => 307

/-- what reaches the application: a request its route's request model accepts, a malformed one, one no route
matches, or a CORS preflight, from an origin allowed or not -/
inductive Request where
  | call (r : Req)
  | malformed
  | unrouted (u : Unrouted)
  | preflight (allowed : Bool)

/-- `track_requests` around the exception middleware: a reply counts a success; an `HTTPException` is first counted
a failure by `http_exception_handler`; any other exception is counted a failure by `track_requests` and again by
`general_exception_handler` -/
def trackRequests : Except Failure Body × State → Nat × State
  | (.ok _, s) => (200, s.updateStats true "general")
  | (.error (.http status _), s) => (status, (s.updateStats false "general").updateStats true "general")
  | (.error _, s) => (500, (s.updateStats false "general").updateStats false "general")

/-- a request through the middleware stack: the status code and the state after it -/
def serve (s : State) : Request → Nat × State
  | .call r => trackRequests (route r s)
  | .malformed => (422, s.updateStats true "general")
  | .unrouted u => (u.status, s.updateStats true "general")
  | .preflight allowed => (if allowed then 200 else 400, s.updateStats true "general")

/-- a sequence of requests from `s`: the status codes and the final state -/
def exec (s : State) : List Request → List Nat × State
  | [] => ([], s)
  | r :: rs => let (c, s') := serve s r; let (cs, s'') := exec s' rs; (c :: cs, s'')

/-- a state the server reaches from its start -/
def Reachable (s : State) : Prop := ∃ now reqs, (exec (State.init now) reqs).2 = s

end Hypermesh.TrustChainServer
