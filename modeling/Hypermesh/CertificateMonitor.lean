import Hypermesh.Server.Values
/-
The certificate monitor Lambda (`infrastructure/terraform/modules/certificates/certificate_monitor.py`): `handler`,
which reads a certificate from ACM, sends its metrics to CloudWatch, and publishes an SNS alert for each problem it
finds, or an error alert when the run raises.

The handler reads its world through `Aws`: whether the three clients can be built, `os.environ`, the certificate
`describe_certificate` returns (or the error it raises), whether `put_metric_data` succeeds, and whether the `n`-th
`publish` call succeeds. `(not_after - now).days` is an input of the certificate; a certificate with no `NotAfter`
(one ACM has not issued yet) raises `KeyError` there. The body of `try` (`monitor`) threads a `Trace`, and its error
keeps what the `except` clause reads: `'sns_topic_arn' in locals()`, and the messages published so far.

Left out: the console output, the metric values and message bodies (their texts, times and the certificate ARN), the
text of `str(e)` (the body names the exception's cause), and the two helpers the handler never calls.

`monitor_ok` and `handler_error` say what a run that returns and one that raises have published.
-/

namespace Hypermesh.CertificateMonitor

open Server (PyDict)

/-- what `describe_certificate` returns of a certificate -/
structure Certificate where
  domainName : String
  status : String
  daysUntilExpiry : Option Int

/-- what the handler reads of AWS and its environment -/
structure Aws where
  clientsOk : Bool
  environ : PyDict String
  describeCertificate : Except String Certificate
  putMetricOk : Bool
  publishOk : Nat → Bool

inductive Cause where
  | client
  | keyError (key : String)
  | describe (error : String)
  | metric
  | publish
  deriving DecidableEq, Repr

/-- what the `except` clause reads: `sns_topic_arn` once assigned, the published subjects, the publish calls made -/
structure Trace where
  snsTopicArn : Option (Option String)
  published : List String
  calls : Nat

structure Alert where
  severity : String
  deriving DecidableEq, Repr

inductive MonitorBody where
  | success (domain certificateStatus : String) (daysUntilExpiry : Int) (alertsSent : Nat)
  | error (cause : Cause)
  deriving DecidableEq, Repr

/-- `alerts`: the expiry warning within 30 days (critical within 7), then the status alert -/
def alerts (daysUntilExpiry : Int) (status : String) : List Alert :=
  (if daysUntilExpiry ≤ 30 then [⟨if daysUntilExpiry > 7 then "WARNING" else "CRITICAL"⟩] else []) ++
  (if status ≠ "ISSUED" then [⟨"CRITICAL"⟩] else [])

def alertSubject (alert : Alert) : String := "TrustChain Certificate Alert - " ++ alert.severity

def errorSubject : String := "TrustChain Certificate Monitoring Error"

/-- a non-empty string is true -/
def truthy : Option String → Bool
  | some arn => arn ≠ ""
  | none => false

def Trace.init : Trace := ⟨none, [], 0⟩

/-- `sns.publish(...)`, the run's next call -/
def publish (aws : Aws) (subject : String) (t : Trace) : Except (Cause × Trace) Trace :=
  if aws.publishOk t.calls then .ok { t with calls := t.calls + 1, published := t.published ++ [subject] }
  else .error (.publish, { t with calls := t.calls + 1 })

/-- `for alert in alerts: sns.publish(...)` -/
def publishAlerts (aws : Aws) : List Alert → Trace → Except (Cause × Trace) Trace
  | [], t => .ok t
  | alert :: rest, t => (publish aws (alertSubject alert) t).bind (publishAlerts aws rest)

/-- the body of `try`: the reply's body and the trace, or the exception and the trace the `except` clause reads -/
def monitor (aws : Aws) : Except (Cause × Trace) (MonitorBody × Trace) :=
  if !aws.clientsOk then .error (.client, .init) else
  match aws.environ.get? "CERTIFICATE_ARN" with
  | none => .error (.keyError "CERTIFICATE_ARN", .init)
  | some _ =>
  match aws.environ.get? "ENVIRONMENT" with
  | none => .error (.keyError "ENVIRONMENT", .init)
  | some _ =>
  let snsTopicArn := aws.environ.get? "SNS_TOPIC_ARN"
  let t : Trace := ⟨some snsTopicArn, [], 0⟩
  match aws.describeCertificate with
  | .error e => .error (.describe e, t)
  | .ok certificate =>
  match certificate.daysUntilExpiry with
  | none => .error (.keyError "NotAfter", t)
  | some daysUntilExpiry =>
  if !aws.putMetricOk then .error (.metric, t) else
  let found := alerts daysUntilExpiry certificate.status
  let body := MonitorBody.success certificate.domainName certificate.status daysUntilExpiry found.length
  if found ≠ [] ∧ truthy snsTopicArn then (publishAlerts aws found t).map (body, ·) else .ok (body, t)

/-- `handler`: the status code, the body, and the subjects published -/
def handler (aws : Aws) : Nat × MonitorBody × List String :=
  match monitor aws with
  | .ok (body, t) => (200, body, t.published)
  | .error (cause, t) =>
    if (t.snsTopicArn.map truthy).getD false then
      match publish aws errorSubject t with
      | .ok t' => (500, .error cause, t'.published)
      | .error (_, t') => (500, .error cause, t'.published)
    else (500, .error cause, t.published)

/-! ## The alerts -/

theorem publishAlerts_ok {aws : Aws} : ∀ {as : List Alert} {t t' : Trace}, publishAlerts aws as t = .ok t' →
    t'.published = t.published ++ as.map alertSubject
  | [], t, t', h => by cases h; simp
  | a :: as, t, t', h => by
    simp only [publishAlerts, publish] at h
    split at h
    · rw [publishAlerts_ok h]; simp
    · cases h

/-- what a run of the `try` block that returns has read and published -/
theorem monitor_ok {aws : Aws} {body : MonitorBody} {t : Trace} (h : monitor aws = .ok (body, t)) :
    ∃ c d, aws.describeCertificate = .ok c ∧ c.daysUntilExpiry = some d ∧
      body = .success c.domainName c.status d (alerts d c.status).length ∧
      t.published = if truthy (aws.environ.get? "SNS_TOPIC_ARN") then (alerts d c.status).map alertSubject else [] := by
  unfold monitor at h
  repeat' split at h
  all_goals try cases h
  refine ⟨_, _, ‹_›, ‹_›, ?_⟩
  dsimp only at h
  split_ifs at h with hf
  · rcases hp : publishAlerts aws _ _ with _ | t'
    · rw [hp] at h; cases h
    · rw [hp] at h
      cases h
      exact ⟨rfl, by rw [publishAlerts_ok hp, if_pos hf.2]; rfl⟩
  · cases h
    refine ⟨rfl, ?_⟩
    split_ifs with ht
    · simp [show alerts _ _ = [] from by_contra fun hne => hf ⟨hne, ht⟩]
    · rfl

/-- an issued certificate ten days from expiry, with no SNS topic configured -/
def sampleAws : Aws where
  clientsOk := true
  environ := [("CERTIFICATE_ARN", "arn:aws:acm:us-west-2:1:certificate/trust"), ("ENVIRONMENT", "prod")]
  describeCertificate := .ok ⟨"trust.hypermesh.online", "ISSUED", some 10⟩
  putMetricOk := true
  publishOk _ := true

example : handler sampleAws = (200, .success "trust.hypermesh.online" "ISSUED" 10 1, []) := by decide

/-! ## The errors -/

/-- the reply to an exception: 500, and what was published, with the error alert if `sns_topic_arn` is set -/
theorem handler_error {aws : Aws} {cause : Cause} {t : Trace} (hm : monitor aws = .error (cause, t)) :
    (handler aws).1 = 500 ∧ ∀ m ∈ (handler aws).2.2, m ∈ t.published ∨ m = errorSubject := by
  unfold handler
  rw [hm]
  dsimp only
  split
  · unfold publish
    cases aws.publishOk t.calls <;> simp
    exact fun m h => .inl h
  · exact ⟨rfl, fun m h => .inl h⟩

end Hypermesh.CertificateMonitor
