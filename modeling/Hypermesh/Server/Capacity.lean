import Mathlib
import Hypermesh.Server.State
/-
The capacity bookkeeping of the HyperMesh server (`hypermesh_simple_server.py`). `create_asset` and
`create_vm_asset` give an asset the table `{total_capacity, allocated_capacity, available_capacity}`;
`request_allocation` debits it by the requested amount and `release_allocation` credits it back.

`capacityConsistent s assetId` is the bookkeeping an asset's table is meant to keep, over the exact values of its
numbers: allocated plus available is the total, allocated is the sum of the amounts of the asset's active
allocations, and allocated lies between 0 and the total. An entry or an amount that is not a finite number (a string,
an infinity, a NaN) keeps no books.

Result:
- `capacity_bookkeeping_breaks`: `execute_vm_asset` records an active allocation of one instance on a fresh VM
  asset without debiting its table, so the table says 0 allocated against 1 allocated instance, and releasing that
  allocation then credits the table to -1; `request_allocation` of -5 on a fresh CPU asset leaves -5 allocated.
-/

namespace Hypermesh

/-- the exact value of a finite number -/
def PyNum.toRat? : PyNum → Option ℚ
  | .int n => some n
  | .float (.finite m e) => some (m * 2 ^ e)
  | .float _ => none

namespace Server

/-- `state.assets[asset_id].allocation[key]`, when it is a number -/
def capacityNum (s : State) (assetId key : String) : Option PyNum :=
  (s.assets.get? assetId).bind fun a => (a.getattr "allocation" >>= (·.getItem key) >>= PyVal.num?).toOption

/-- `state.assets[asset_id].allocation[key]`, when it is a finite number -/
def capacity (s : State) (assetId key : String) : Option ℚ := (capacityNum s assetId key).bind PyNum.toRat?

/-- the amounts of the asset's active allocations -/
def activeAmounts (s : State) (assetId : String) : List PyNum :=
  (s.allocations.filter fun e => e.2.assetId == assetId && e.2.status == "active").map (·.2.amount)

/-- the amounts of the asset's active allocations, summed exactly -/
def activeAmount (s : State) (assetId : String) : ℚ := ((activeAmounts s assetId).map fun n => n.toRat?.getD 0).sum

/-- the asset's table is balanced, matches its active allocations and stays within its total -/
def capacityConsistent (s : State) (assetId : String) : Bool :=
  match capacity s assetId "total_capacity", capacity s assetId "allocated_capacity",
    capacity s assetId "available_capacity" with
  | some total, some allocated, some available =>
    (activeAmounts s assetId).all (·.toRat?.isSome) && allocated + available == total &&
      allocated == activeAmount s assetId && 0 ≤ allocated && allocated ≤ total
  | _, _, _ => false

theorem capacity_of_int {s : State} {assetId key : String} {n : Int}
    (h : capacityNum s assetId key = some (.int n)) : capacity s assetId key = some n := by
  simp [capacity, h, PyNum.toRat?]

theorem activeAmount_of_int {s : State} {assetId : String} {amounts : List Int}
    (h : activeAmounts s assetId = amounts.map .int) : activeAmount s assetId = amounts.sum := by
  simp [activeAmount, h, PyNum.toRat?, Function.comp_def]

/-- a table of ints, with active amounts that are ints, keeps its books in `Int` -/
theorem capacityConsistent_of_int {s : State} {assetId : String} {total allocated available : Int}
    {amounts : List Int} (ht : capacityNum s assetId "total_capacity" = some (.int total))
    (ha : capacityNum s assetId "allocated_capacity" = some (.int allocated))
    (hv : capacityNum s assetId "available_capacity" = some (.int available))
    (hm : activeAmounts s assetId = amounts.map .int) :
    capacityConsistent s assetId =
      (allocated + available == total && allocated == amounts.sum && 0 ≤ allocated && allocated ≤ total) := by
  simp only [capacityConsistent, capacity_of_int ht, capacity_of_int ha, capacity_of_int hv, activeAmount_of_int hm, hm]
  rw [Bool.eq_iff_iff]
  simp [PyNum.toRat?, ← Int.cast_list_sum]
  intros
  norm_cast

/-- a fresh VM asset, then one execution on it for an hour, at `now` = 2025-01-01 -/
def vmExecutionRun : List Req :=
  [.createVmAsset "0000aaaa1111", .executeVmAsset "vm-0000aaaa" 3600 "1111bbbb" "2222cccc" 63871286400]

/-- a fresh CPU asset, then a request for -5 of it -/
def negativeRequestRun : List Req :=
  [.createAsset .cpu "3333dddd", .requestAllocation "asset-cpu-3333dddd" (.int (-5)) 60 "4444eeee" 63871286400]

theorem capacity_bookkeeping_breaks :
    capacityConsistent (run State.init (vmExecutionRun.take 1)) "vm-0000aaaa" = true ∧
      capacity (run State.init vmExecutionRun) "vm-0000aaaa" "allocated_capacity" = some 0 ∧
      activeAmount (run State.init vmExecutionRun) "vm-0000aaaa" = 1 ∧
      capacity (run State.init (vmExecutionRun ++ [.releaseAllocation "alloc-exec-2222cccc"])) "vm-0000aaaa"
        "allocated_capacity" = some (-1) ∧
      capacityConsistent (run State.init (negativeRequestRun.take 1)) "asset-cpu-3333dddd" = true ∧
      capacity (run State.init negativeRequestRun) "asset-cpu-3333dddd" "allocated_capacity" = some (-5) ∧
      capacityConsistent (run State.init negativeRequestRun) "asset-cpu-3333dddd" = false := by
  refine ⟨?_, capacity_of_int (by decide), ?_, capacity_of_int (by decide), ?_, capacity_of_int (by decide), ?_⟩
  · rw [@capacityConsistent_of_int _ _ 1 0 1 [] (by decide) (by decide) (by decide) (by decide)]
    decide
  · rw [@activeAmount_of_int _ _ [1] (by decide)]
    rfl
  · rw [@capacityConsistent_of_int _ _ 100 0 100 [] (by decide) (by decide) (by decide) (by decide)]
    decide
  · rw [@capacityConsistent_of_int _ _ 100 (-5) 105 [-5] (by decide) (by decide) (by decide) (by decide)]
    decide

end Server

end Hypermesh
