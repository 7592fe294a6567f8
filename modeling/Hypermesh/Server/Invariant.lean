import Hypermesh.Server.State
/-
Every active allocation of the HyperMesh server (`hypermesh_simple_server.py`) names an asset the server holds.

`request_allocation` and `execute_vm_asset` create an active allocation only for an asset they have just looked up,
`delete_asset` refuses an asset with an active allocation, `release_allocation` only ends allocations, and no
handler renames an asset or an allocation's asset. A handler that raises leaves the state reached at the raise,
which the same updates built. Each handler's lemma reads its `Ends` condition (`Server.State`) branch by branch.

Results:
- `step_activeAssetsExist`, `run_activeAssetsExist`: every request keeps the invariant, so every state reachable
  from `HyperMeshState()` satisfies it, `update_asset` included.
- `release_finds_asset_of_active_allocations`: in every reachable state `release_allocation` of an active
  allocation finds its asset, and answers 200 or 500 (`releaseAllocation_crash`).
- `release_fails_after_allocation_update`: `update_asset` can empty the sample asset's table, after which releasing
  the sample allocation answers 500.
- `install_catalog_application_orphans_vm_asset`: `install_catalog_application` of a held catalog id stores a VM
  asset, then raises `TypeError` at `Asset(**vm_asset_response)` (`VMAsset`'s `vm_config` is no field of `Asset`),
  so it answers 500 with the asset kept and the catalog entry unchanged, from every state.
-/

namespace Hypermesh.Server

/-- every active allocation's asset is a key of `state.assets` -/
def ActiveAssetsExist (s : State) : Prop :=
  ∀ e ∈ s.allocations, e.2.status = "active" → e.2.assetId ∈ s.assets.map Prod.fst

/-! ## The updates a handler makes -/

namespace ActiveAssetsExist

variable {s : State} (h : ActiveAssetsExist s)
include h

theorem setAsset (k : String) (a : PyObject) : ActiveAssetsExist (s.setAsset k a) :=
  fun e he hs => (PyDict.mem_keys_set a).2 (Or.inr (h e he hs))

theorem setAllocation (k : String) {a : Allocation}
    (ha : a.status = "active" → a.assetId ∈ s.assets.map Prod.fst) : ActiveAssetsExist (s.setAllocation k a) := by
  intro e he hs
  rcases PyDict.mem_set he with rfl | he
  · exact ha hs
  · exact h e he hs

theorem erase {k : String} (hk : ∀ e ∈ s.allocations, e.2.status = "active" → e.2.assetId ≠ k) :
    ActiveAssetsExist { s with assets := s.assets.erase k } :=
  fun e he hs => PyDict.mem_keys_erase.2 ⟨hk e he hs, h e he hs⟩

/-- an asset written together with an allocation on it -/
theorem setAsset_setAllocation (k : String) (a : PyObject) (i : String) {al : Allocation} (hk : al.assetId = k) :
    ActiveAssetsExist ((s.setAsset k a).setAllocation i al) :=
  (h.setAsset k a).setAllocation i fun _ => (PyDict.mem_keys_set a).2 (Or.inl hk)

/-- an allocation ended -/
theorem complete (i : String) (al : Allocation) :
    ActiveAssetsExist (s.setAllocation i { al with status := "completed" }) :=
  h.setAllocation i fun (hs : "completed" = "active") => absurd hs (by decide)

/-! ## The handlers -/

theorem createAsset (type : AssetType) (uuid : String) :
    Ends (Server.createAsset type uuid) s (fun _ => ActiveAssetsExist) (fun _ => ActiveAssetsExist) :=
  h.setAsset _ _

theorem updateAsset (assetId : String) (updates : List (String × PyVal)) :
    Ends (Server.updateAsset assetId updates) s (fun _ => ActiveAssetsExist) (fun _ => ActiveAssetsExist) := by
  simp only [Server.updateAsset, ends_bind, ends_get]
  cases s.assets.get? assetId with
  | none => exact h
  | some asset =>
    have ha := h.setAsset assetId (asset.updates (updates.filter (·.1 ∉ ["id", "created_at"]))).1
    simp only [ends_bind, ends_set]
    split
    · exact ha
    · simp only [ends_bind, ends_pure, ends_lift]
      split <;> exact ha

theorem deleteAsset (assetId : String) :
    Ends (Server.deleteAsset assetId) s (fun _ => ActiveAssetsExist) (fun _ => ActiveAssetsExist) := by
  simp only [Server.deleteAsset, ends_bind, ends_get, ends_ite, ends_throw, ends_pure, ends_set]
  split_ifs with hmem hactive
  · exact h
  · refine h.erase fun e he hs hk => hactive (List.any_eq_true.2 ⟨e, he, ?_⟩)
    simp [hs, hk]
  · exact h

theorem requestAllocation (assetId : String) (amount : PyNum) (duration : Int) (uuid : String) (now : Nat) :
    Ends (Server.requestAllocation assetId amount duration uuid now) s (fun _ => ActiveAssetsExist)
      (fun _ => ActiveAssetsExist) := by
  simp only [Server.requestAllocation, ends_bind, ends_get]
  cases s.assets.get? assetId with
  | none => exact h
  | some asset =>
    simp only [ends_bind, ends_pure, ends_throw, ends_lift, ends_modify, ends_ite, State.setAsset_setAsset]
    repeat' split
    all_goals first | exact h | exact h.setAsset _ _ | exact h.setAsset_setAllocation _ _ _ rfl

theorem releaseAllocation (allocationId : String) :
    Ends (Server.releaseAllocation allocationId) s (fun _ => ActiveAssetsExist) (fun _ => ActiveAssetsExist) := by
  simp only [Server.releaseAllocation, ends_bind, ends_get]
  cases s.allocations.get? allocationId with
  | none => exact h
  | some allocation =>
    have hc := h.complete allocationId allocation
    simp only [ends_bind, ends_get, ends_set, ends_pure, ends_throw, ends_ite]
    split_ifs
    · exact h
    · cases (s.setAllocation allocationId { allocation with status := "completed" }).assets.get? allocation.assetId with
      | none => exact hc
      | some asset =>
        simp only [ends_bind, ends_pure, ends_lift, ends_modify, ends_ite, State.setAsset_setAsset]
        repeat' split
        all_goals first | exact hc | exact hc.setAsset _ _

theorem createVmAsset (uuid : String) :
    Ends (Server.createVmAsset uuid) s (fun _ => ActiveAssetsExist) (fun _ => ActiveAssetsExist) :=
  h.setAsset _ _

theorem executeVmAsset (vmAssetId : String) (d : Int) (uuidExecution uuidAllocation : String) (now : Nat) :
    Ends (Server.executeVmAsset vmAssetId d uuidExecution uuidAllocation now) s (fun _ => ActiveAssetsExist)
      (fun _ => ActiveAssetsExist) := by
  simp only [Server.executeVmAsset, ends_bind, ends_get]
  cases hget : s.assets.get? vmAssetId with
  | none => exact h
  | some vmAsset =>
    simp only [ends_bind, ends_pure, ends_throw, ends_lift, ends_modify, ends_ite]
    have ha := h.setAllocation ("alloc-exec-" ++ hex8 uuidAllocation)
      (a := ⟨vmAssetId, .int 1, .str "instances", "active"⟩) fun _ => PyDict.mem_keys_of_get? hget
    repeat' split
    all_goals first | exact h | exact ha

theorem getVmExecution (executionId : String) (completes : Bool) :
    Ends (Server.getVmExecution executionId completes) s (fun _ => ActiveAssetsExist)
      (fun _ => ActiveAssetsExist) := by
  simp only [Server.getVmExecution, ends_bind, ends_get]
  cases s.vmExecutions.get? executionId with
  | none => exact h
  | some status =>
    simp only [ends_bind, ends_pure, ends_set, ends_ite]
    split_ifs <;> exact h

theorem cancelVmExecution (executionId : String) :
    Ends (Server.cancelVmExecution executionId) s (fun _ => ActiveAssetsExist) (fun _ => ActiveAssetsExist) := by
  simp only [Server.cancelVmExecution, ends_bind, ends_get]
  cases s.vmExecutions.get? executionId with
  | none => exact h
  | some status =>
    simp only [ends_bind, ends_pure, ends_set, ends_ite]
    split_ifs <;> exact h

theorem installCatalogApplication (catalogId : PyVal) (uuid : String) :
    Ends (Server.installCatalogApplication catalogId uuid) s (fun _ => ActiveAssetsExist)
      (fun _ => ActiveAssetsExist) := by
  cases catalogId with
  | list _ | dict _ | none | bool _ | int _ | float _ => exact h
  | str id =>
    simp only [Server.installCatalogApplication, Server.createVmAsset, ends_bind, ends_get, ends_pure, ends_throw,
      ends_modify, ends_ite]
    split_ifs
    · exact h
    · exact h.setAsset _ _

theorem handle (r : Req) : Ends (Server.handle r) s (fun _ => ActiveAssetsExist) (fun _ => ActiveAssetsExist) := by
  cases r with
  | createAsset type uuid => exact h.createAsset type uuid
  | updateAsset assetId updates => exact h.updateAsset assetId updates
  | deleteAsset assetId => exact h.deleteAsset assetId
  | requestAllocation assetId amount duration uuid now => exact h.requestAllocation assetId amount duration uuid now
  | releaseAllocation allocationId => exact h.releaseAllocation allocationId
  | createVmAsset uuid => exact h.createVmAsset uuid
  | executeVmAsset vmAssetId d uuidExecution uuidAllocation now =>
    exact h.executeVmAsset vmAssetId d uuidExecution uuidAllocation now
  | getVmExecution executionId completes => exact h.getVmExecution executionId completes
  | cancelVmExecution executionId => exact h.cancelVmExecution executionId
  | installCatalogApplication catalogId uuid => exact h.installCatalogApplication catalogId uuid
  | other => exact h

end ActiveAssetsExist

instance : DecidablePred ActiveAssetsExist := fun s =>
  inferInstanceAs (Decidable (∀ e ∈ s.allocations, e.2.status = "active" → e.2.assetId ∈ s.assets.map Prod.fst))

theorem init_activeAssetsExist : ActiveAssetsExist State.init := by decide

theorem step_activeAssetsExist {s : State} (h : ActiveAssetsExist s) (r : Req) : ActiveAssetsExist (step s r) :=
  stateOf_of_ends (h.handle r)

theorem run_activeAssetsExist {s : State} (h : ActiveAssetsExist s) (reqs : List Req) :
    ActiveAssetsExist (run s reqs) := by
  induction reqs generalizing s with
  | nil => exact h
  | cons r reqs ih => exact ih (step_activeAssetsExist h r)

/-! ## Releasing an active allocation -/

/-- `release_allocation` of an active allocation raises only what the general handler answers: at the lookup of its
asset, and at the updates of the asset's table -/
theorem releaseAllocation_crash {s : State} {allocationId : String} {al : Allocation}
    (hal : s.allocations.get? allocationId = some al) (hactive : al.status = "active") :
    Ends (handle (.releaseAllocation allocationId)) s (fun _ _ => True) (fun e _ => e.unhandled) := by
  simp only [handle, releaseAllocation, ends_bind, ends_get, hal, ends_ite, hactive, ne_eq, not_true_eq_false,
    if_false, ends_set]
  cases (s.setAllocation allocationId { al with status := "completed" }).assets.get? al.assetId with
  | none => rfl
  | some asset =>
    simp only [ends_bind, ends_pure, ends_lift, ends_modify, ends_ite]
    repeat' split
    all_goals first
      | trivial
      | exact Crash.bind (Crash.getattr _ _) (fun _ => Crash.addItem _ _ _) _ ‹_›
      | exact Crash.addItem _ _ _ _ ‹_›
      | exact Crash.getattr _ _ _ ‹_›
      | exact Crash.bind (Crash.getItem _ _) Crash.num? _ ‹_›

/-- every reachable state keeps the invariant; so `release_allocation` of an active allocation finds its asset, and
answers 200 or 500 -/
theorem release_finds_asset_of_active_allocations (reqs : List Req) :
    ActiveAssetsExist (run State.init reqs) ∧
      ∀ allocationId al, (run State.init reqs).allocations.get? allocationId = some al → al.status = "active" →
        (∃ asset, (run State.init reqs).assets.get? al.assetId = some asset) ∧
          (replyStatus (run State.init reqs) (.releaseAllocation allocationId) = 200 ∨
            replyStatus (run State.init reqs) (.releaseAllocation allocationId) = 500) := by
  have h := run_activeAssetsExist init_activeAssetsExist reqs
  exact ⟨h, fun allocationId al hal hactive => ⟨PyDict.exists_get?_of_mem (h _ (PyDict.mem_of_get? hal) hactive),
    replyStatus_of_ends (releaseAllocation_crash hal hactive)⟩⟩

theorem release_finds_sample_asset :
    (∃ asset, (run State.init []).assets.get? "asset-cpu-001" = some asset) ∧
      (replyStatus (run State.init []) (.releaseAllocation "alloc-001") = 200 ∨
        replyStatus (run State.init []) (.releaseAllocation "alloc-001") = 500) :=
  (release_finds_asset_of_active_allocations []).2 "alloc-001" ⟨"asset-cpu-001", .int 25, .str "percentage", "active"⟩
    rfl rfl

/-- `update_asset` may replace an asset's `allocation` table: releasing the sample allocation afterwards raises
`KeyError('allocated_capacity')`, answered 500, although the allocation is active and its asset is held -/
theorem release_fails_after_allocation_update :
    ((run State.init [.updateAsset "asset-cpu-001" [("allocation", .dict [])]]).allocations.get? "alloc-001").map
        (fun al => (al.assetId, al.status)) = some ("asset-cpu-001", "active") ∧
      "asset-cpu-001" ∈ (run State.init [.updateAsset "asset-cpu-001" [("allocation", .dict [])]]).assets.map Prod.fst ∧
      replyStatus (run State.init [.updateAsset "asset-cpu-001" [("allocation", .dict [])]])
        (.releaseAllocation "alloc-001") = 500 := by
  decide

/-! ## Installing a catalog application -/

/-- `install_catalog_application` of a catalog id the state holds: `create_vm_asset` stores the VM asset, and
`Asset(**vm_asset_response)` then raises `TypeError` -/
theorem installCatalogApplication_run (s : State) {catalogId : String} (uuid : String)
    (h : catalogId ∈ s.catalogApplications.map Prod.fst) :
    (installCatalogApplication (.str catalogId) uuid).run s =
      .error .typeError
        (s.setAsset ("vm-" ++ hex8 uuid) (newAsset vmAssetClass "vm" (capacityTable 1 0 "instances"))) := by
  show installCatalogApplication (.str catalogId) uuid s = _
  simp only [installCatalogApplication, bind, EStateM.bind, get, getThe, MonadStateOf.get, EStateM.get, h,
    decide_True, Bool.not_true, Bool.false_eq_true, if_false]
  rfl

/-- **Installing a catalog application never succeeds, and leaves its VM asset behind.** For every state and
every catalog id it holds, the request answers 500 and leaves the state with the new VM asset stored and the
catalog entry as it was. -/
theorem install_catalog_application_orphans_vm_asset (s : State) (catalogId uuid : String)
    (h : catalogId ∈ s.catalogApplications.map Prod.fst) :
    replyStatus s (.installCatalogApplication (.str catalogId) uuid) = 500 ∧
      step s (.installCatalogApplication (.str catalogId) uuid) =
        s.setAsset ("vm-" ++ hex8 uuid) (newAsset vmAssetClass "vm" (capacityTable 1 0 "instances")) := by
  simp only [replyStatus, step, handle, installCatalogApplication_run s uuid h, stateOf, Failure.status, and_self]

/-- installing the sample Julia application: the reply is 500, and `vm-0000aaaa`, absent before, is held after -/
theorem install_julia_orphans_vm_asset :
    "catalog-julia-001" ∈ State.init.catalogApplications.map Prod.fst ∧
      (replyStatus State.init (.installCatalogApplication (.str "catalog-julia-001") "0000aaaa1111") = 500 ∧
        step State.init (.installCatalogApplication (.str "catalog-julia-001") "0000aaaa1111") =
          State.init.setAsset ("vm-" ++ hex8 "0000aaaa1111")
            (newAsset vmAssetClass "vm" (capacityTable 1 0 "instances"))) ∧
      (State.init.assets.get? "vm-0000aaaa").isSome = false ∧
      ((step State.init (.installCatalogApplication (.str "catalog-julia-001") "0000aaaa1111")).assets.get?
        "vm-0000aaaa").isSome = true :=
  ⟨by decide, install_catalog_application_orphans_vm_asset State.init _ _ (by decide), by decide, by decide⟩

end Hypermesh.Server
