import Hypermesh.Server.Values
/-
The asset service of the HyperMesh server (`hypermesh_simple_server.py`): `HyperMeshState`, and the handlers that
read or write its assets, allocations, VM executions and catalog applications.

A handler runs in `EStateM Failure State`: a raise keeps every change made before it, as the server's global state
does, and the reply is the failure's status code (`Failure.status`). Identifiers come from `uuid.uuid4().hex`, and
times from `datetime.utcnow()` in seconds since 0001-01-01; both are inputs of the request (`Req`).

An asset is a `PyObject` of the `Asset` dataclass (`VMAsset` for `create_vm_asset`), following the attributes the
handlers read: `type`, `status` and the `allocation` table. `update_asset` may set any of them to any JSON value, or
replace the asset's whole `__dict__`; the other fields (name, location, proxy address, ...) are only echoed back. The
allocations' times, proofs and proxy addresses, the consensus proofs of an execution, `system_stats`, and the reply
bodies, reduced to the new id or the message, are left out. Every endpoint not listed in `Req` (health, consensus,
Byzantine reports, proxies, nodes, asset and catalog listing) writes none of the modelled state and is the request
`other`.
-/

namespace Hypermesh.Server

/-- the `AssetType` enum -/
inductive AssetType where
  | cpu | gpu | memory | storage | network | service | container | vm | application
  deriving DecidableEq, Repr

def AssetType.value : AssetType → String
  | .cpu => "cpu"
  | .gpu => "gpu"
  | .memory => "memory"
  | .storage => "storage"
  | .network => "network"
  | .service => "service"
  | .container => "container"
  | .vm => "vm"
  | .application => "application"

/-- the `Asset` dataclass: `proxy_address`, `created_at` and `updated_at` have defaults -/
def assetClass : PyClass where
  followed := ["type", "status", "allocation", "__dataclass_fields__"]
  classAttrs := ["__dataclass_fields__"]
  required := ["id", "type", "name", "description", "owner", "status", "privacy_level", "location", "specifications",
    "allocation"]

/-- `VMAsset(Asset)`: `vm_config` has a default factory, which leaves the class without a default for it -/
def vmAssetClass : PyClass := { assetClass with required := assetClass.required ++ ["vm_config"] }

/-- a new asset of class `C`, available -/
def newAsset (C : PyClass) (type : String) (allocation : PyVal) : PyObject :=
  .new C [("type", .str type), ("status", .str "available"), ("allocation", allocation)]

structure Allocation where
  assetId : String
  amount : PyNum
  unit : PyVal
  status : String

structure CatalogApplication where
  status : String
  assetId : Option String

structure State where
  assets : PyDict PyObject
  allocations : PyDict Allocation
  /-- each execution's status -/
  vmExecutions : PyDict String
  catalogApplications : PyDict CatalogApplication

/-- `{"total_capacity": total, "allocated_capacity": allocated, "available_capacity": total - allocated,
"unit": unit}` -/
def capacityTable (total allocated : Int) (unit : String) : PyVal :=
  .dict [("total_capacity", .int total), ("allocated_capacity", .int allocated),
    ("available_capacity", .int (total - allocated)), ("unit", .str unit)]

/-- `HyperMeshState()`: the three sample assets, the sample allocation and the two catalog applications -/
def State.init : State where
  assets :=
    [("asset-cpu-001", newAsset assetClass "cpu" (capacityTable 100 25 "percentage")),
     ("asset-gpu-001", .new assetClass [("type", .str "gpu"), ("status", .str "allocated"),
       ("allocation", capacityTable 8 6 "units")]),
     ("asset-memory-001", newAsset assetClass "memory" (capacityTable 1000 350 "GB"))]
  allocations := [("alloc-001", ⟨"asset-cpu-001", .int 25, .str "percentage", "active"⟩)]
  vmExecutions := []
  catalogApplications := [("catalog-julia-001", ⟨"Available", none⟩), ("catalog-python-001", ⟨"Available", none⟩)]

abbrev Handler := EStateM Failure State String

/-- raise what an expression raises -/
def lift {α : Type} : Except Failure α → EStateM Failure State α
  | .ok a => pure a
  | .error e => throw e

/-- the state a handler leaves, whether it returned or raised -/
def stateOf {α : Type} : EStateM.Result Failure State α → State
  | .ok _ s => s
  | .error _ s => s

/-! ## What a handler ends in

`Ends x s Q E` is the weakest precondition of `x` for the postconditions `Q` on a return and `E` on a raise. Its
simp lemmas below turn a handler's `do` block, run from a given state, into one statement over the branches the
handler takes, with the state each branch ends in written out. -/

section Ends

variable {α β : Type}

/-- `x`, run from `s`, returns `a` in a state where `Q a` holds, or raises `e` in a state where `E e` holds -/
def Ends (x : EStateM Failure State α) (s : State) (Q : α → State → Prop) (E : Failure → State → Prop) : Prop :=
  match x s with
  | .ok a s' => Q a s'
  | .error e s' => E e s'

variable {s : State} {Q : β → State → Prop} {E : Failure → State → Prop}

@[simp] theorem ends_pure (b : β) : Ends (pure b) s Q E ↔ Q b s := Iff.rfl

@[simp] theorem ends_bind (x : EStateM Failure State α) (f : α → EStateM Failure State β) :
    Ends (x >>= f) s Q E ↔ Ends x s (fun a s' => Ends (f a) s' Q E) E := by
  show Ends (EStateM.bind x f) s Q E ↔ _
  simp only [Ends, EStateM.bind]
  cases x s <;> rfl

@[simp] theorem ends_get {Q : State → State → Prop} : Ends get s Q E ↔ Q s s := Iff.rfl

@[simp] theorem ends_set (s' : State) {Q : PUnit → State → Prop} : Ends (set s') s Q E ↔ Q ⟨⟩ s' := Iff.rfl

@[simp] theorem ends_modify (f : State → State) {Q : PUnit → State → Prop} :
    Ends (modify f) s Q E ↔ Q ⟨⟩ (f s) := Iff.rfl

@[simp] theorem ends_throw (e : Failure) : Ends (throw e) s Q E ↔ E e s := Iff.rfl

@[simp] theorem ends_lift (e : Except Failure β) :
    Ends (lift e) s Q E ↔ match e with
      | .ok b => Q b s
      | .error err => E err s := by
  cases e <;> rfl

@[simp] theorem ends_ite (c : Prop) [Decidable c] (x y : EStateM Failure State β) :
    Ends (if c then x else y) s Q E ↔ if c then Ends x s Q E else Ends y s Q E := by
  split <;> rfl

/-- what holds of every state a handler may end in holds of the state it leaves -/
theorem stateOf_of_ends {P : State → Prop} {x : EStateM Failure State β} (h : Ends x s (fun _ => P) (fun _ => P)) :
    P (stateOf (x.run s)) := by
  unfold Ends at h
  show P (stateOf (x s))
  cases hx : x s <;> rw [hx] at h <;> exact h

end Ends

/-- `uuid.uuid4().hex[:8]` -/
def hex8 (uuid : String) : String := ⟨uuid.toList.take 8⟩

/-- `now + timedelta(seconds=d)`, which overflows past `timedelta`'s 999999999 days or `datetime`'s years 1 to 9999 -/
def addSeconds (now : Nat) (d : Int) : Except Failure Int :=
  if -999999999 * 86400 ≤ d ∧ d < 1000000000 * 86400 ∧ 0 ≤ now + d ∧ now + d < 3652059 * 86400 then .ok (now + d)
  else .error .overflowError

def State.setAsset (s : State) (assetId : String) (a : PyObject) : State := { s with assets := s.assets.set assetId a }

@[simp] theorem State.setAsset_setAsset (s : State) (assetId : String) (a b : PyObject) :
    (s.setAsset assetId a).setAsset assetId b = s.setAsset assetId b := by
  simp only [State.setAsset, PyDict.set_set]

def State.setAllocation (s : State) (allocationId : String) (a : Allocation) : State :=
  { s with allocations := s.allocations.set allocationId a }

@[simp] theorem State.setAllocation_assets (s : State) (allocationId : String) (a : Allocation) :
    (s.setAllocation allocationId a).assets = s.assets := rfl

/-! ## The handlers -/

/-- `create_asset` -/
def createAsset (type : AssetType) (uuid : String) : Handler := do
  let assetId := "asset-" ++ type.value ++ "-" ++ hex8 uuid
  modify fun s => s.setAsset assetId (newAsset assetClass type.value (capacityTable 100 0 "percentage"))
  pure assetId

/-- `update_asset`: `updated_at`, which it sets last, has a default -/
def updateAsset (assetId : String) (updates : List (String × PyVal)) : Handler := do
  let s ← get
  let some asset := s.assets.get? assetId | throw (.http 404 "Asset not found")
  let (asset, raised) := asset.updates (updates.filter (·.1 ∉ ["id", "created_at"]))
  set (s.setAsset assetId asset)
  if let some e := raised then throw e
  lift asset.asdict
  pure assetId

/-- `delete_asset` -/
def deleteAsset (assetId : String) : Handler := do
  let s ← get
  if assetId ∉ s.assets.map Prod.fst then throw (.http 404 "Asset not found")
  if s.allocations.any fun e => e.2.assetId == assetId && e.2.status == "active" then
    throw (.http 400 "Cannot delete asset with active allocations")
  set { s with assets := s.assets.erase assetId }
  pure "Asset deleted successfully"

/-- `request_allocation` -/
def requestAllocation (assetId : String) (amount : PyNum) (duration : Int) (uuid : String) (now : Nat) : Handler := do
  let s ← get
  let some asset := s.assets.get? assetId | throw (.http 404 "Asset not found")
  if !(← lift (asset.getattr "status")).isStr "available" then throw (.http 400 "Asset not available for allocation")
  let availableCapacity ← lift (asset.getattr "allocation" >>= (·.getItem "available_capacity") >>= PyVal.num?)
  if availableCapacity.lt amount then throw (.http 400 "Insufficient asset capacity")
  let allocationId := "alloc-" ++ hex8 uuid
  let _ ← lift (addSeconds now duration)
  let unit ← lift (asset.getattr "allocation" >>= (·.getItem "unit"))
  let allocated ← lift (asset.getattr "allocation" >>= (·.addItem "allocated_capacity" amount))
  let asset := asset.setAttr "allocation" allocated
  modify fun s => s.setAsset assetId asset
  -- `x -= y` is `x + (-y)`, for ints and for doubles alike
  let available ← lift (allocated.addItem "available_capacity" amount.neg)
  let asset := asset.setAttr "allocation" available
  modify fun s => s.setAsset assetId asset
  if (← lift (available.getItem "available_capacity" >>= PyVal.num?)).le (.int 0) then
    modify fun s => s.setAsset assetId (asset.setAttr "status" (.str "allocated"))
  modify fun s => s.setAllocation allocationId ⟨assetId, amount, unit, "active"⟩
  pure allocationId

/-- `release_allocation` -/
def releaseAllocation (allocationId : String) : Handler := do
  let s ← get
  let some allocation := s.allocations.get? allocationId | throw (.http 404 "Allocation not found")
  if allocation.status ≠ "active" then throw (.http 400 "Allocation is not active")
  set (s.setAllocation allocationId { allocation with status := "completed" })
  let some asset := (← get).assets.get? allocation.assetId | throw (.keyError allocation.assetId)
  let allocated ← lift (asset.getattr "allocation" >>= (·.addItem "allocated_capacity" allocation.amount.neg))
  let asset := asset.setAttr "allocation" allocated
  modify fun s => s.setAsset allocation.assetId asset
  let available ← lift (allocated.addItem "available_capacity" allocation.amount)
  let asset := asset.setAttr "allocation" available
  modify fun s => s.setAsset allocation.assetId asset
  if (← lift (asset.getattr "status")).isStr "allocated" then
    if (PyNum.int 0).lt (← lift (available.getItem "available_capacity" >>= PyVal.num?)) then
      modify fun s => s.setAsset allocation.assetId (asset.setAttr "status" (.str "available"))
  pure "Allocation released successfully"

/-- `create_vm_asset` -/
def createVmAsset (uuid : String) : Handler := do
  let vmAssetId := "vm-" ++ hex8 uuid
  modify fun s => s.setAsset vmAssetId (newAsset vmAssetClass "vm" (capacityTable 1 0 "instances"))
  pure vmAssetId

/-- `execute_vm_asset` -/
def executeVmAsset (vmAssetId : String) (allocationDuration : Int) (uuidExecution uuidAllocation : String)
    (now : Nat) : Handler := do
  let s ← get
  let some vmAsset := s.assets.get? vmAssetId | throw (.http 404 "VM asset not found")
  if !(← lift (vmAsset.getattr "type")).isStr "vm" then throw (.http 400 "Asset is not a VM asset")
  let executionId := "exec-" ++ hex8 uuidExecution
  let allocationId := "alloc-exec-" ++ hex8 uuidAllocation
  let _ ← lift (addSeconds now allocationDuration)
  modify fun s => s.setAllocation allocationId ⟨vmAssetId, .int 1, .str "instances", "active"⟩
  modify fun s => { s with vmExecutions := s.vmExecutions.set executionId "starting" }
  pure executionId

/-- `get_vm_execution`; `completes` is the draw `random.random() > 0.7` -/
def getVmExecution (executionId : String) (completes : Bool) : Handler := do
  let s ← get
  let some status := s.vmExecutions.get? executionId | throw (.http 404 "Execution not found")
  if status = "starting" then set { s with vmExecutions := s.vmExecutions.set executionId "running" }
  else if status = "running" ∧ completes then set { s with vmExecutions := s.vmExecutions.set executionId "completed" }
  pure executionId

/-- `cancel_vm_execution` -/
def cancelVmExecution (executionId : String) : Handler := do
  let s ← get
  let some status := s.vmExecutions.get? executionId | throw (.http 404 "Execution not found")
  if status ∈ ["completed", "failed", "cancelled"] then pure ("Execution already " ++ status) else
  set { s with vmExecutions := s.vmExecutions.set executionId "cancelled" }
  pure "cancelled"

/-- `install_catalog_application`, `catalogId` being `config.get("catalog_id", "")` -/
def installCatalogApplication (catalogId : PyVal) (uuid : String) : Handler := do
  let s ← get
  let found ← match catalogId with
    | .list _ | .dict _ => throw .typeError
    | .str id => pure (decide (id ∈ s.catalogApplications.map Prod.fst))
    | _ => pure false
  if !found then throw (.http 404 "Catalog application not found")
  let _ ← createVmAsset uuid
  -- `Asset(**vm_asset_response)`: `Asset` has no field `vm_config`
  throw .typeError

/-! ## Requests -/

inductive Req where
  | createAsset (type : AssetType) (uuid : String)
  | updateAsset (assetId : String) (updates : List (String × PyVal))
  | deleteAsset (assetId : String)
  | requestAllocation (assetId : String) (amount : PyNum) (duration : Int) (uuid : String) (now : Nat)
  | releaseAllocation (allocationId : String)
  | createVmAsset (uuid : String)
  | executeVmAsset (vmAssetId : String) (allocationDuration : Int) (uuidExecution uuidAllocation : String) (now : Nat)
  | getVmExecution (executionId : String) (completes : Bool)
  | cancelVmExecution (executionId : String)
  | installCatalogApplication (catalogId : PyVal) (uuid : String)
  | other

def handle : Req → Handler
  | .createAsset type uuid => createAsset type uuid
  | .updateAsset assetId updates => updateAsset assetId updates
  | .deleteAsset assetId => deleteAsset assetId
  | .requestAllocation assetId amount duration uuid now => requestAllocation assetId amount duration uuid now
  | .releaseAllocation allocationId => releaseAllocation allocationId
  | .createVmAsset uuid => createVmAsset uuid
  | .executeVmAsset vmAssetId d uuidExecution uuidAllocation now =>
    executeVmAsset vmAssetId d uuidExecution uuidAllocation now
  | .getVmExecution executionId completes => getVmExecution executionId completes
  | .cancelVmExecution executionId => cancelVmExecution executionId
  | .installCatalogApplication catalogId uuid => installCatalogApplication catalogId uuid
  | .other => pure ""

/-- the state after a request, whether it succeeded or raised -/
def step (s : State) (r : Req) : State := stateOf ((handle r).run s)

/-- the status code of the reply -/
def replyStatus (s : State) (r : Req) : Nat :=
  match (handle r).run s with
  | .ok _ _ => 200
  | .error e _ => e.status

def run (s : State) (reqs : List Req) : State := reqs.foldl step s

/-- the reply is `n` when every return is answered `n` and every raise is a failure whose status is `n` -/
theorem replyStatus_eq_iff (s : State) (r : Req) (n : Nat) :
    replyStatus s r = n ↔ Ends (handle r) s (fun _ _ => 200 = n) (fun e _ => e.status = n) := by
  unfold replyStatus Ends EStateM.run
  cases handle r s <;> rfl

/-- a request that raises only what the general handler answers is answered 200 or 500 -/
theorem replyStatus_of_ends {s : State} {r : Req}
    (h : Ends (handle r) s (fun _ _ => True) (fun e _ => e.unhandled)) :
    replyStatus s r = 200 ∨ replyStatus s r = 500 := by
  unfold Ends at h
  unfold replyStatus EStateM.run
  revert h
  cases handle r s with
  | ok _ _ => exact fun _ => .inl rfl
  | error _ _ => exact fun h => .inr (Failure.status_of_unhandled h)

end Hypermesh.Server
