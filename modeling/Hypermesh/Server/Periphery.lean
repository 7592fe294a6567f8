import Hypermesh.Server.State
/-
The consensus, Byzantine-report and remote-proxy endpoints of the HyperMesh server (`hypermesh_simple_server.py`),
and the whole server they form with the asset service.

These endpoints keep their own records in `HyperMeshState` (`consensus_history`, `byzantine_detections`,
`remote_proxies`) and read the asset service's state only to check that an asset exists; no asset handler reads or
writes their records. The server is then the asset service's `State` beside the `Records`, and a request is an asset
request (`Req`, run by `step`) or a record request (`RecordReq`, run by `recordStep`).

A consensus record keeps its block and asset; its four proofs and combined proof are random or clocked and are left
out, as is `system_stats["last_consensus"]`. A Byzantine detection keeps its node, behaviour, severity and status; its
evidence and time are left out. A proxy is a `PyObject` of the `RemoteProxy` dataclass following `target_asset_id`
and `trust`, the fields a route reads; `update_remote_proxy` may set either to any JSON value, or replace the
proxy's whole `__dict__`. Its address, NAT mapping, performance and status are only echoed, and its trust's
`last_validation` time is read by no route. The trust level a new proxy draws, and whether a remote operation
succeeds, are inputs of the request. `node_health` is written only
by `HyperMeshState()`, with two nodes.

Result:
- `run_records_grow`: over every run of the whole server no request removes a consensus record, a Byzantine detection
  or a proxy.
-/

namespace Hypermesh.Server

/-- a `FourProofConsensus`: its block and asset -/
structure ConsensusRecord where
  blockId : String
  assetId : String
  deriving DecidableEq, Repr

/-- a `ByzantineDetection` -/
structure ByzantineDetection where
  nodeId : String
  behaviour : String
  severity : String
  status : String
  deriving DecidableEq, Repr

/-- the `RemoteProxy` dataclass, whose fields have no defaults -/
def remoteProxyClass : PyClass where
  followed := ["target_asset_id", "trust", "__dataclass_fields__"]
  classAttrs := ["__dataclass_fields__"]
  required := ["id", "address", "type", "target_asset_id", "nat_mapping", "trust", "performance", "status"]

/-- the records of the consensus, Byzantine and proxy endpoints -/
structure Records where
  consensusHistory : List ConsensusRecord
  byzantineDetections : List ByzantineDetection
  remoteProxies : PyDict PyObject

/-- the records of `HyperMeshState()`: none -/
def Records.init : Records := ⟨[], [], []⟩

/-- what a record route answers -/
inductive RecordBody where
  | consensus (record : ConsensusRecord)
  | history (records : List ConsensusRecord)
  | proof (accepted : Bool) (reason : Option String)
  | detections (detections : List ByzantineDetection)
  | detection (detection : ByzantineDetection)
  | proxies (proxies : List PyObject)
  | proxy (proxyId : String) (proxy : PyObject)
  | trust (level validators : PyVal)
  | operation (success : Bool)
  | systemStatus (totalAssets activeAllocations byzantineDetections networkNodes proxyConnections : Nat)

/-- a record route: its reply or what it raised, and the records it leaves -/
abbrev RecordRoute := Records → Except Failure RecordBody × Records

/-- `l[k:]` for a list: a negative `k` counts from the end, and `k` is clamped to `0 .. len(l)` -/
def dropFrom {α : Type} (l : List α) (k : Int) : List α :=
  l.drop (if 0 ≤ k then min k.toNat l.length else l.length - k.natAbs)

/-- the number of nodes `_initialize_sample_nodes` stores, which no route changes -/
def networkNodes : Nat := 2

/-! ## The routes -/

section Routes

variable (s : State)

/-- `validate_consensus` -/
def validateConsensus (request : PyDict String) : RecordRoute := fun r =>
  let assetId := (request.get? "asset_id").getD ""
  let blockId := (request.get? "block_id").getD ""
  if assetId ∉ s.assets.map Prod.fst then (.error (.http 404 "Asset not found"), r)
  else (.ok (.consensus ⟨blockId, assetId⟩),
    { r with consensusHistory := r.consensusHistory ++ [⟨blockId, assetId⟩] })

/-- `get_consensus_history` -/
def getConsensusHistory (assetId : String) (limit : Int) : RecordRoute := fun r =>
  if assetId ∉ s.assets.map Prod.fst then (.error (.http 404 "Asset not found"), r)
  else (.ok (.history (dropFrom (r.consensusHistory.filter (·.assetId = assetId)) (-limit))), r)

/-- `submit_proof`: a proof is accepted when its signature is not empty -/
def submitProof (assetId signature : String) : RecordRoute := fun r =>
  if assetId ∉ s.assets.map Prod.fst then (.error (.http 404 "Asset not found"), r)
  else if signature = "" then (.ok (.proof false (some "Missing signature")), r)
  else (.ok (.proof true none), r)

/-- `get_byzantine_detections` -/
def getByzantineDetections (nodeId : Option String) : RecordRoute := fun r =>
  match nodeId with
  | some n => if n ≠ "" then (.ok (.detections (r.byzantineDetections.filter (·.nodeId = n))), r)
    else (.ok (.detections r.byzantineDetections), r)
  | none => (.ok (.detections r.byzantineDetections), r)

/-- `report_byzantine_behavior` -/
def reportByzantineBehavior (nodeId behavior : String) : RecordRoute := fun r =>
  (.ok (.detection ⟨nodeId, behavior, "medium", "detected"⟩),
    { r with byzantineDetections := r.byzantineDetections ++ [⟨nodeId, behavior, "medium", "detected"⟩] })

/-- `get_remote_proxies`: the filter reads each proxy's `target_asset_id`, and each proxy kept goes through
`asdict` -/
def getRemoteProxies (assetId : Option String) : RecordRoute := fun r =>
  let proxies := r.remoteProxies.map Prod.snd
  let kept : Except Failure (List PyObject) :=
    match assetId with
    | some a =>
      if a ≠ "" then proxies.filterM fun p => return (← p.getattr "target_asset_id").isStr a else pure proxies
    | none => pure proxies
  (do
    let kept ← kept
    let _ ← kept.mapM PyObject.asdict
    pure (.proxies kept), r)

/-- `create_remote_proxy`, with the trust level it draws -/
def createRemoteProxy (assetId uuid : String) (level : Int) : RecordRoute := fun r =>
  if assetId ∉ s.assets.map Prod.fst then (.error (.http 404 "Asset not found"), r)
  else
    let proxyId := "proxy-" ++ hex8 uuid
    let proxy := PyObject.new remoteProxyClass [("target_asset_id", .str assetId),
      ("trust", .dict [("level", .int level),
        ("validated_by", .list [.str "validator-1", .str "validator-2", .str "validator-3"])])]
    (.ok (.proxy proxyId proxy), { r with remoteProxies := r.remoteProxies.set proxyId proxy })

end Routes

/-- `update_remote_proxy`: every field but `id` may be set -/
def updateRemoteProxy (proxyId : String) (updates : List (String × PyVal)) : RecordRoute := fun r =>
  match r.remoteProxies.get? proxyId with
  | none => (.error (.http 404 "Proxy not found"), r)
  | some p =>
    let (p, raised) := p.updates (updates.filter (·.1 ≠ "id"))
    let r := { r with remoteProxies := r.remoteProxies.set proxyId p }
    match raised with
    | some e => (.error e, r)
    | none => ((fun _ => .proxy proxyId p) <$> p.asdict, r)

/-- `validate_proxy_trust`: `trust["level"]` and `trust["validated_by"]` -/
def validateProxyTrust (proxyId : String) : RecordRoute := fun r =>
  match r.remoteProxies.get? proxyId with
  | none => (.error (.http 404 "Proxy not found"), r)
  | some p =>
    (do
      let level ← p.getattr "trust" >>= (·.getItem "level")
      let validators ← p.getattr "trust" >>= (·.getItem "validated_by")
      pure (.trust level validators), r)

/-- `execute_remote_operation`: `proxy_id not in state.remote_proxies` raises `TypeError` for a list or a dict -/
def executeRemoteOperation (operation : PyDict PyVal) (success : Bool) : RecordRoute := fun r =>
  match (operation.get? "proxy_id").getD (.str "") with
  | .str proxyId => if proxyId ∈ r.remoteProxies.map Prod.fst then (.ok (.operation success), r)
    else (.error (.http 404 "Proxy not found"), r)
  | .list _ => (.error .typeError, r)
  | .dict _ => (.error .typeError, r)
  | _ => (.error (.http 404 "Proxy not found"), r)

/-- `get_system_status` -/
def getSystemStatus (s : State) : RecordRoute := fun r =>
  (.ok (.systemStatus s.assets.length (s.allocations.countP (·.2.status = "active")) r.byzantineDetections.length
    networkNodes r.remoteProxies.length), r)

/-! ## The whole server -/

/-- a request to a record route -/
inductive RecordReq where
  | validateConsensus (request : PyDict String)
  | getConsensusHistory (assetId : String) (limit : Int)
  | submitProof (assetId signature : String)
  | getByzantineDetections (nodeId : Option String)
  | reportByzantineBehavior (nodeId behavior : String)
  | getRemoteProxies (assetId : Option String)
  | createRemoteProxy (assetId uuid : String) (level : Int)
  | updateRemoteProxy (proxyId : String) (updates : List (String × PyVal))
  | validateProxyTrust (proxyId : String)
  | executeRemoteOperation (operation : PyDict PyVal) (success : Bool)
  | getSystemStatus

/-- the route a record request reaches, over the asset service's state -/
def recordRoute (s : State) : RecordReq → RecordRoute
  | .validateConsensus request => validateConsensus s request
  | .getConsensusHistory assetId limit => getConsensusHistory s assetId limit
  | .submitProof assetId signature => submitProof s assetId signature
  | .getByzantineDetections nodeId => getByzantineDetections nodeId
  | .reportByzantineBehavior nodeId behavior => reportByzantineBehavior nodeId behavior
  | .getRemoteProxies assetId => getRemoteProxies assetId
  | .createRemoteProxy assetId uuid level => createRemoteProxy s assetId uuid level
  | .updateRemoteProxy proxyId updates => updateRemoteProxy proxyId updates
  | .validateProxyTrust proxyId => validateProxyTrust proxyId
  | .executeRemoteOperation operation success => executeRemoteOperation operation success
  | .getSystemStatus => getSystemStatus s

/-- the records after a record request, whether it returned or raised -/
def recordStep (s : State) (r : Records) (q : RecordReq) : Records := (recordRoute s q r).2

/-- `HyperMeshState`: the asset service's state and the records -/
structure HyperMeshState where
  core : State
  records : Records

/-- `HyperMeshState()` -/
def HyperMeshState.init : HyperMeshState := ⟨State.init, Records.init⟩

/-- a request to the server -/
inductive AnyReq where
  | asset (q : Req)
  | record (q : RecordReq)

/-- the server after a request -/
def HyperMeshState.step (h : HyperMeshState) : AnyReq → HyperMeshState
  | .asset q => { h with core := Server.step h.core q }
  | .record q => { h with records := recordStep h.core h.records q }

def HyperMeshState.run (h : HyperMeshState) (reqs : List AnyReq) : HyperMeshState := reqs.foldl HyperMeshState.step h

/-! ## The records only grow -/

/-- `r'` keeps every consensus record, detection and proxy of `r` -/
structure Records.Grows (r r' : Records) : Prop where
  history : r.consensusHistory <+: r'.consensusHistory
  detections : r.byzantineDetections <+: r'.byzantineDetections
  proxies : ∀ k ∈ r.remoteProxies.map Prod.fst, k ∈ r'.remoteProxies.map Prod.fst

namespace Records.Grows

theorem refl (r : Records) : r.Grows r := ⟨List.prefix_refl _, List.prefix_refl _, fun _ h => h⟩

theorem trans {r r' r'' : Records} (h : r.Grows r') (h' : r'.Grows r'') : r.Grows r'' :=
  ⟨h.history.trans h'.history, h.detections.trans h'.detections, fun k hk => h'.proxies k (h.proxies k hk)⟩

theorem setProxy (r : Records) (proxyId : String) (p : PyObject) :
    r.Grows { r with remoteProxies := r.remoteProxies.set proxyId p } :=
  ⟨List.prefix_refl _, List.prefix_refl _, fun _ hk => (PyDict.mem_keys_set p).2 (.inr hk)⟩

end Records.Grows

theorem recordStep_grows (s : State) (r : Records) (q : RecordReq) : r.Grows (recordStep s r q) := by
  cases q with
  | validateConsensus request =>
    simp only [recordStep, recordRoute, validateConsensus]
    split_ifs
    · exact ⟨List.prefix_append _ _, List.prefix_refl _, fun _ h => h⟩
    · exact .refl r
  | getConsensusHistory => simp only [recordStep, recordRoute, getConsensusHistory]; split_ifs <;> exact .refl r
  | submitProof => simp only [recordStep, recordRoute, submitProof]; split_ifs <;> exact .refl r
  | getByzantineDetections nodeId =>
    simp only [recordStep, recordRoute, getByzantineDetections]; split <;> (try split_ifs) <;> exact .refl r
  | reportByzantineBehavior => exact ⟨List.prefix_refl _, List.prefix_append _ _, fun _ h => h⟩
  | getRemoteProxies => exact .refl r
  | createRemoteProxy =>
    simp only [recordStep, recordRoute, createRemoteProxy]; split_ifs
    · exact .setProxy r _ _
    · exact .refl r
  | updateRemoteProxy proxyId updates =>
    simp only [recordStep, recordRoute, updateRemoteProxy]; split
    · exact .refl r
    · split <;> exact .setProxy r _ _
  | validateProxyTrust => simp only [recordStep, recordRoute, validateProxyTrust]; split <;> exact .refl r
  | executeRemoteOperation =>
    simp only [recordStep, recordRoute, executeRemoteOperation]; split <;> (try split_ifs) <;> exact .refl r
  | getSystemStatus => exact .refl r

theorem HyperMeshState.step_grows (h : HyperMeshState) (q : AnyReq) : h.records.Grows (h.step q).records := by
  cases q with
  | asset q => exact .refl _
  | record q => exact recordStep_grows h.core h.records q

/-- **nothing is ever removed from the records**: over every run of the whole server, from any state, the consensus
history and the Byzantine detections only grow at their ends, and every proxy id stays -/
theorem run_records_grow (h : HyperMeshState) (reqs : List AnyReq) : h.records.Grows (h.run reqs).records := by
  induction reqs generalizing h with
  | nil => exact .refl _
  | cons q qs ih => exact (h.step_grows q).trans (ih (h.step q))

end Hypermesh.Server
