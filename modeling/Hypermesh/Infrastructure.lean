import Mathlib
import Hypermesh.PyStr
/-
`InfrastructureValidator` (`validate-production-infrastructure.py`): the six `validate_*` methods that check a
TrustChain deployment through boto3, and `run_full_validation`, which runs them, writes the report and exits.

Each method starts from `{'status': 'FAIL', 'issues': []}` and runs a `try` block that appends an issue for each
check that fails, may `return` right after appending one, and sets `PASS` at its end when no issue was appended; its
`except Exception` appends the text of what was raised. A method is its `try` block in `Check`, which keeps the
issues appended before a `return` or a raise, and `Check.result` is the dict the method returns.

AWS is read through `Aws`: each call gives its response or raises, a `ClientError` with its error code or another
exception, with the text `str(e)`. `validate_monitoring_configuration` calls `self.cloudwatch.describe_log_groups`,
which the CloudWatch client does not have (log groups belong to the `logs` client): botocore raises
`AttributeError`, and `list_metrics` after it is never called.

Left out: the `details` of each result and the report's markdown beyond its overall status, the logging, the region
(an argument of the clients) and the paging of the list calls (a response is its first page). Security group names
are taken to hold no quote or backslash, as AWS names do, so that `repr` quotes them plainly.

Results:
- `Check.status_eq_pass_iff`: a method's status is `PASS` exactly when it appended no issue.
- `validateMonitoringConfiguration_fail`: the monitoring check ends in its `except` clause, whatever AWS answers.
- `validation_always_exits_one`: the script exits with status 1 for every AWS account and every environment.
-/

namespace Hypermesh.Infrastructure

open PyStr

/-! ## Checks -/

/-- an exception of a boto3 call: a `ClientError` with its error code, or another exception; `text` is `str(e)` -/
structure AwsError where
  code : Option String
  text : String
  deriving DecidableEq, Repr

abbrev Call (α : Type) := Except AwsError α

/-- how a `try` block stops early: `return` right after appending `issue`, or a raise with the text `str(e)` -/
inductive Exit where
  | returned (issue : String)
  | raised (text : String)
  deriving DecidableEq, Repr

/-- the `try` block of a `validate_*` method: the issues it appends stay when it stops early -/
abbrev Check := ExceptT Exit (StateM (List String))

def issue (text : String) : Check Unit := modify (· ++ [text])

def stop {α : Type} (text : String) : Check α := throw (.returned text)

/-- a boto3 call whose exceptions go to the method's `except Exception` -/
def call {α : Type} : Call α → Check α
  | .ok a => pure a
  | .error e => throw (.raised e.text)

/-- a boto3 call inside `try: ... except ClientError as e:`: a `ClientError` is handed to the clause with its code
and text, and any other exception goes on to the method's `except Exception` -/
def catchClient {α : Type} : Call α → Check (Except (String × String) α)
  | .ok a => pure (.ok a)
  | .error ⟨some code, text⟩ => pure (.error (code, text))
  | .error ⟨none, text⟩ => throw (.raised text)

structure Result where
  component : String
  status : String
  issues : List String
  deriving DecidableEq, Repr

/-- the dict a `validate_*` method returns: `PASS` when its block ran to the end with no issue, and otherwise
`FAIL`, with the text of a raise appended after `errorLabel` (`f"<name> validation error: {str(e)}"`) -/
def Check.result (component errorLabel : String) (body : Check Unit) : Result :=
  match body.run.run [] with
  | (.ok (), issues) => ⟨component, if issues = [] then "PASS" else "FAIL", issues⟩
  | (.error (.returned i), issues) => ⟨component, "FAIL", issues ++ [i]⟩
  | (.error (.raised text), issues) => ⟨component, "FAIL", issues ++ [errorLabel ++ text]⟩

/-- **a method passes exactly when it appended no issue** -/
theorem Check.status_eq_pass_iff (component errorLabel : String) (body : Check Unit) :
    (Check.result component errorLabel body).status = "PASS" ↔
      (Check.result component errorLabel body).issues = [] := by
  unfold Check.result
  split
  · split_ifs with h <;> simp [h]
  all_goals simp

theorem Check.result_of_raised {component errorLabel text : String} {body : Check Unit}
    (h : ∃ issues, body.run.run [] = (.error (.raised text), issues)) :
    (Check.result component errorLabel body).status = "FAIL" ∧
      (Check.result component errorLabel body).issues.getLast? = some (errorLabel ++ text) := by
  obtain ⟨issues, h⟩ := h
  unfold Check.result
  simp [h]

theorem Check.run_bind {α β : Type} (x : Check α) (f : α → Check β) (issues : List String) :
    (x >>= f).run.run issues = match x.run.run issues with
      | (.ok a, issues') => (f a).run.run issues'
      | (.error e, issues') => (.error e, issues') := by
  simp only [ExceptT.run_bind, StateT.run_bind]
  rcases x.run.run issues with ⟨_ | a, issues'⟩ <;> rfl

/-- `x` runs to its end from every list of issues: it neither returns early nor raises -/
def Silent {α : Type} (x : Check α) : Prop := ∀ issues, ∃ a issues', x.run.run issues = (.ok a, issues')

theorem silent_pure {α : Type} (a : α) : Silent (pure a : Check α) := fun issues => ⟨a, issues, rfl⟩

theorem silent_issue (text : String) : Silent (issue text) := fun _ => ⟨(), _, rfl⟩

theorem Silent.bind {α β : Type} {x : Check α} {f : α → Check β} (hx : Silent x) (hf : ∀ a, Silent (f a)) :
    Silent (x >>= f) := by
  intro issues
  obtain ⟨a, issues', h⟩ := hx issues
  rw [Check.run_bind, h]
  exact hf a issues'

theorem silent_forIn {α β : Type} (l : List α) (b : β) {f : α → β → Check (ForInStep β)}
    (hf : ∀ a b, Silent (f a b)) : Silent (forIn l b f) := by
  induction l generalizing b with
  | nil => exact silent_pure b
  | cons a l ih =>
    rw [List.forIn_cons]
    refine (hf a b).bind fun r => ?_
    cases r with
    | done b => exact silent_pure b
    | yield b => exact ih b

theorem Silent.bind_raise {α β : Type} {x : Check α} (hx : Silent x) (text : String) (issues : List String) :
    ∃ issues', (x >>= fun _ => (throw (.raised text) : Check β)).run.run issues =
      (.error (.raised text), issues') := by
  obtain ⟨a, issues', h⟩ := hx issues
  rw [Check.run_bind, h]
  exact ⟨issues', rfl⟩

/-! ## The six checks -/

structure Vpc where
  vpcId : String
  ipv6CidrBlocks : List String  -- the `Ipv6CidrBlock` of each entry of `Ipv6CidrBlockAssociationSet`

structure Subnet where
  tags : List (String × String)

structure Hsm where
  state : String
  availabilityZone : Option String

structure Cluster where
  tags : List (String × String)
  state : String
  hsms : List Hsm
  certificates : Bool  -- `Certificates` is there and not empty

structure PublicAccessBlock where
  blockPublicAcls : Bool
  ignorePublicAcls : Bool
  blockPublicPolicy : Bool
  restrictPublicBuckets : Bool

structure LoadBalancer where
  name : String
  arn : String
  ipAddressType : String
  securityGroups : List String

structure Listener where
  protocol : String
  certificates : Bool  -- `Certificates` is there and not empty

structure Rule where  -- an entry of a security group's `IpPermissions`
  fromPort : Option Int
  cidrIps : List (Option String)  -- the `CidrIp` of each entry of `IpRanges`

structure SecurityGroup where
  groupName : String
  ipPermissions : List Rule

/-- what the validator's clients answer, each call by the arguments the methods pass it -/
structure Aws where
  describeVpcs : String → Call (List Vpc)  -- the VPCs tagged with a `Name`, `available`
  describeSubnets : String → Call (List Subnet)
  describeInternetGateways : String → Call Nat  -- the number of internet gateways attached to a VPC
  describeFlowLogs : String → Call Nat  -- the number of flow logs of a VPC
  describeClusters : Call (List Cluster)
  getBucketLocation : String → Call Unit
  getBucketEncryption : String → Call Nat  -- the number of `Rules` of a bucket's encryption configuration
  getBucketVersioning : String → Call (Option String)  -- a bucket's versioning `Status`
  getBucketLifecycleConfiguration : String → Call Unit
  getPublicAccessBlock : String → Call PublicAccessBlock
  describeLoadBalancers : Call (List LoadBalancer)
  describeListeners : String → Call (List Listener)
  describeTargetGroups : String → Call (List String)  -- the ARNs of a load balancer's target groups
  describeTargetHealth : String → Call (List String)  -- the `TargetHealth` state of each target of a group
  getWebAclForResource : String → Call Unit
  describeAlarms : Call (List String)  -- the names of the CloudWatch alarms
  listKeys : Call (List String)
  describeKey : String → Call String  -- a key's `Description`, `''` when it has none
  getKeyRotationStatus : String → Call Bool
  describeParameters : String → Call Unit  -- the SSM parameters whose name begins with a prefix
  describeSecurityGroups : String → Call (List SecurityGroup)  -- the security groups whose name matches a pattern

variable (aws : Aws) (environment : String)

/-- `validate_vpc_configuration` -/
def validateVpcConfiguration : Result :=
  Check.result "VPC" "VPC validation error: " do
    let vpcs ← call (aws.describeVpcs ("trustchain-vpc-" ++ environment))
    let some vpc := vpcs.head? | stop "TrustChain VPC not found"
    if (vpc.ipv6CidrBlocks.head?.getD "") = "" then issue "IPv6 CIDR block not assigned"
    let subnets ← call (aws.describeSubnets vpc.vpcId)
    if (subnets.filter (·.tags.contains ("Type", "public"))).length < 2 then
      issue "Insufficient public subnets for HA"
    if (subnets.filter (·.tags.contains ("Type", "private"))).length < 2 then
      issue "Insufficient private subnets for HA"
    if (← call (aws.describeInternetGateways vpc.vpcId)) = 0 then issue "Internet Gateway not attached"
    if (← call (aws.describeFlowLogs vpc.vpcId)) = 0 then issue "VPC Flow Logs not configured"

/-- `validate_cloudhsm_configuration`: the zones counted are those of every HSM of the cluster, active or not -/
def validateCloudhsmConfiguration : Result :=
  Check.result "CloudHSM" "CloudHSM validation error: " do
    let clusters ← call aws.describeClusters
    let some cluster := clusters.find? (·.tags.any fun tag =>
        tag.1 = "Name" && contains tag.2.toList ("trustchain-hsm-cluster-" ++ environment))
      | stop "TrustChain HSM cluster not found"
    if cluster.state ≠ "ACTIVE" then issue ("HSM cluster not active (state: " ++ cluster.state ++ ")")
    if (cluster.hsms.filter (·.state = "ACTIVE")).length < 2 then issue "Insufficient active HSM instances for HA"
    if !cluster.certificates then issue "HSM cluster certificates not available"
    if (cluster.hsms.map (·.availabilityZone.getD "")).dedup.length < 2 then
      issue "HSM instances not distributed across multiple AZs"

/-- `validate_certificate_transparency_storage` -/
def validateCertificateTransparencyStorage : Result :=
  Check.result "Certificate Transparency Storage" "CT storage validation error: " do
    let bucket := "trustchain-ct-logs-" ++ environment
    match ← catchClient (aws.getBucketLocation bucket) with
    | .ok () => pure ()
    | .error (code, text) =>
      if code = "NoSuchBucket" then stop "Certificate Transparency S3 bucket not found" else throw (.raised text)
    match ← catchClient (aws.getBucketEncryption bucket) with
    | .ok rules => if rules = 0 then throw (.raised "list index out of range")
    | .error (code, text) =>
      issue (if code = "ServerSideEncryptionConfigurationNotFoundError" then "S3 bucket encryption not configured"
        else "Error checking bucket encryption: " ++ text)
    match ← catchClient (aws.getBucketVersioning bucket) with
    | .ok status => if status ≠ some "Enabled" then issue "S3 bucket versioning not enabled"
    | .error (_, text) => issue ("Error checking bucket versioning: " ++ text)
    match ← catchClient (aws.getBucketLifecycleConfiguration bucket) with
    | .ok () => pure ()
    | .error (code, text) =>
      issue (if code = "NoSuchLifecycleConfiguration" then "S3 bucket lifecycle policy not configured"
        else "Error checking lifecycle policy: " ++ text)
    match ← catchClient (aws.getPublicAccessBlock bucket) with
    | .ok c =>
      if !(c.blockPublicAcls && c.ignorePublicAcls && c.blockPublicPolicy && c.restrictPublicBuckets) then
        issue "S3 bucket public access not properly blocked"
    | .error (_, text) => issue ("Error checking public access block: " ++ text)

/-- `validate_load_balancer_configuration` -/
def validateLoadBalancerConfiguration : Result :=
  Check.result "Load Balancer" "Load balancer validation error: " do
    let loadBalancers ← call aws.describeLoadBalancers
    let some alb := loadBalancers.find? (contains ·.name.toList ("trustchain-alb-" ++ environment))
      | stop "TrustChain ALB not found"
    if alb.ipAddressType ≠ "dualstack" then issue "Load balancer not configured for IPv6 support"
    if alb.securityGroups = [] then issue "No security groups assigned to load balancer"
    match (← call (aws.describeListeners alb.arn)).find? (·.protocol = "HTTPS") with
    | none => issue "No HTTPS listener configured"
    | some listener => if !listener.certificates then issue "No SSL certificate configured on HTTPS listener"
    let targetGroups ← call (aws.describeTargetGroups alb.arn)
    let healthyTargets ← targetGroups.foldlM (fun n tg => do
      pure (n + (← call (aws.describeTargetHealth tg)).countP (· = "healthy"))) 0
    if healthyTargets = 0 then issue "No healthy targets in load balancer target groups"
    match ← catchClient (aws.getWebAclForResource alb.arn) with
    | .ok () => pure ()
    | .error (code, text) =>
      issue (if code = "WAFNonexistentItemException" then "WAF not associated with load balancer"
        else "Error checking WAF association: " ++ text)

def essentialAlarms : List String := ["hsm-cluster", "high-cpu", "high-cert-ops"]

/-- `validate_monitoring_configuration` -/
def validateMonitoringConfiguration : Result :=
  Check.result "Monitoring" "Monitoring validation error: " do
    let alarms ← call aws.describeAlarms
    let trustchainAlarms := alarms.filter fun name =>
      contains name.toList "trustchain" && contains name.toList environment
    for alarmType in essentialAlarms do
      if !trustchainAlarms.any (contains ·.toList alarmType) then issue ("Missing " ++ alarmType ++ " alarm")
    -- `self.cloudwatch.describe_log_groups(...)`
    throw (.raised "'CloudWatch' object has no attribute 'describe_log_groups'")

/-- `repr` of a list of strings that hold no quote or backslash -/
def reprNames (names : List String) : String := "[" ++ ", ".intercalate (names.map fun n => "'" ++ n ++ "'") ++ "]"

/-- `validate_security_configuration`: a key whose description or rotation status cannot be read is skipped by
`except: continue`; a rule is permissive when one of its IPv4 ranges is `0.0.0.0/0` and its `FromPort` is not 443 -/
def validateSecurityConfiguration : Result :=
  Check.result "Security" "Security validation error: " do
    let keys ← call aws.listKeys
    let trustchainKeys := keys.filter fun k =>
      match aws.describeKey k with
      | .ok description => contains (lower description.toList) "trustchain"
      | .error _ => false
    let rotationEnabled := trustchainKeys.countP fun k =>
      match aws.getKeyRotationStatus k with
      | .ok enabled => enabled
      | .error _ => false
    if rotationEnabled < trustchainKeys.length then issue "Not all KMS keys have rotation enabled"
    match aws.describeParameters ("/trustchain/" ++ environment ++ "/") with
    | .ok () => pure ()
    | .error e => issue ("Error checking SSM parameters: " ++ e.text)
    let groups ← call (aws.describeSecurityGroups ("trustchain-*-" ++ environment))
    let permissiveGroups := groups.flatMap fun sg =>
      (sg.ipPermissions.filter fun rule => rule.cidrIps.contains (some "0.0.0.0/0") && rule.fromPort != some 443).map
        fun _ => sg.groupName
    if permissiveGroups ≠ [] then
      issue ("Security groups with overly permissive rules: " ++ reprNames permissiveGroups)

/-! ## The run -/

/-- the results `run_full_validation` collects, in its order; each method catches its own exceptions, so the
loop's `except` never runs -/
def validations : List Result :=
  [validateVpcConfiguration aws environment, validateCloudhsmConfiguration aws environment,
   validateCertificateTransparencyStorage aws environment, validateLoadBalancerConfiguration aws environment,
   validateMonitoringConfiguration aws environment, validateSecurityConfiguration aws environment]

/-- the `Overall Status` of `generate_validation_report` -/
def overallStatus (results : List Result) : String :=
  if results.countP (·.status = "FAIL") = 0 then "PASS" else "FAIL"

/-- `run_full_validation` as its exit status: 1 when writing the report raises (nothing catches it) or when a
component did not pass (`sys.exit(1)`), and 0 when it returns -/
def runFullValidation (canWrite : Bool) : Nat :=
  if !canWrite then 1
  else if (validations aws environment).countP (·.status = "PASS") = (validations aws environment).length then 0
  else 1

/-- what `parse_args` makes of the command line; `--region` only selects the endpoint of the clients, `aws` -/
inductive Args where
  | parsed (environment : String)
  | help
  | usageError

/-- the exit status of `main`: `parse_args` exits 0 after `--help` and 2 on a usage error, and `__init__` exits 1
when a client cannot be built -/
def mainExitStatus : Args → (clientsOk canWrite : Bool) → Nat
  | .help, _, _ => 0
  | .usageError, _, _ => 2
  | .parsed environment, clientsOk, canWrite => if clientsOk then runFullValidation aws environment canWrite else 1

/-- **the monitoring check never passes**: it ends in its `except` clause, with the text of the `describe_alarms`
error or of the missing `describe_log_groups` -/
theorem validateMonitoringConfiguration_fail :
    (validateMonitoringConfiguration aws environment).status = "FAIL" ∧
      (validateMonitoringConfiguration aws environment).issues.getLast? = some ("Monitoring validation error: " ++
        match aws.describeAlarms with
        | .ok _ => "'CloudWatch' object has no attribute 'describe_log_groups'"
        | .error e => e.text) := by
  unfold validateMonitoringConfiguration
  apply Check.result_of_raised
  cases aws.describeAlarms with
  | error e => exact ⟨[], rfl⟩
  | ok alarms =>
    rw [call, pure_bind]
    refine Silent.bind_raise (silent_forIn _ _ fun alarmType _ => ?_) _ _
    split
    · exact (silent_issue _).bind fun _ => silent_pure _
    · exact (silent_pure _).bind fun _ => silent_pure _

theorem validations_not_all_pass :
    (validations aws environment).countP (·.status = "PASS") < (validations aws environment).length := by
  refine lt_of_le_of_ne (List.countP_le_length _) fun hall => ?_
  have hmon := List.countP_eq_length.mp hall (validateMonitoringConfiguration aws environment) (by simp [validations])
  simp [(validateMonitoringConfiguration_fail aws environment).1] at hmon

theorem overallStatus_validations : overallStatus (validations aws environment) = "FAIL" := by
  have hfail : 0 < (validations aws environment).countP (·.status = "FAIL") :=
    List.countP_pos_iff.mpr ⟨validateMonitoringConfiguration aws environment, by simp [validations],
      by simp [(validateMonitoringConfiguration_fail aws environment).1]⟩
  simp [overallStatus, hfail.ne']

/-- **the script exits with status 1 whatever AWS answers and whichever environment it is given** -/
theorem validation_always_exits_one (environment : String) (clientsOk canWrite : Bool) :
    mainExitStatus aws (.parsed environment) clientsOk canWrite = 1 := by
  simp [mainExitStatus, runFullValidation, (validations_not_all_pass aws environment).ne]

end Hypermesh.Infrastructure
