import Hypermesh.Stoq.State
/-
The time series of `get_historical_metrics` (`stoq_simple_server.py`).

The loop appends `current` while `current <= end_time` and then steps it by the interval. Every point keeps the offset
of `start`, so for two naive times, or two aware ones, the comparison is `current.wall ≤ bound`, where `bound` is
`end`'s wall clock read on `start`'s clock (`DateTime.bound`); a naive and an aware time raise `TypeError` at the
first comparison. The step after a point raises `OverflowError` when it passes year 9999, even when that point is
the last one the range admits.

Result:
- `historicalLoop_walls`: the reply is the `pointCount` points `start + k * interval`, or `TypeError` for a naive
  and an aware time, or `OverflowError` when the last point lies within one interval of the end of year 9999.
-/

namespace Hypermesh.Stoq

/-- `end`'s wall clock read on `start`'s clock, when both are aware; `end`'s wall clock otherwise -/
def DateTime.bound (start endTime : DateTime) : Int :=
  match start.offset, endTime.offset with
  | some o, some o' => (endTime.wall : Int) - o' + o
  | _, _ => endTime.wall

/-- the number of points from `c` to `bound` by steps of `i` -/
def pointCount (c : Nat) (bound : Int) (i : Nat) : Nat :=
  if (c : Int) ≤ bound then (bound - c).toNat / i + 1 else 0

section Loop

variable {endTime : DateTime} {i : {i : Nat // 0 < i}}

theorem DateTime.le_eq {c : DateTime} (h : c.offset.isSome = endTime.offset.isSome) :
    c.le endTime = .ok (decide ((c.wall : Int) ≤ c.bound endTime)) := by
  unfold DateTime.le DateTime.bound
  rcases hc : c.offset with _ | o <;> rcases he : endTime.offset with _ | o' <;>
    simp only [hc, he, Option.isSome_none, Option.isSome_some, reduceCtorEq] at h ⊢
  · exact congrArg _ (decide_eq_decide.2 Int.ofNat_le.symm)
  · exact congrArg _ (decide_eq_decide.2 (by omega))

theorem DateTime.le_mixed {c : DateTime} (h : c.offset.isSome ≠ endTime.offset.isSome) :
    c.le endTime = .error .typeError := by
  unfold DateTime.le
  rcases hc : c.offset with _ | o <;> rcases he : endTime.offset with _ | o' <;>
    simp only [hc, he, Option.isSome_none, Option.isSome_some, ne_eq, not_true_eq_false] at h ⊢

/-- one more step: the count from `c` is one more than the count from the next point -/
theorem pointCount_step {c : Nat} {bound : Int} (h : (c : Int) ≤ bound) :
    pointCount c bound i.1 = pointCount (c + i.1) bound i.1 + 1 := by
  have hi := i.2
  unfold pointCount
  rw [if_pos h]
  split_ifs with h'
  · have : (bound - c).toNat = (bound - ↑(c + i.1)).toNat + i.1 := by omega
    rw [this, Nat.add_div_right _ hi]
  · rw [Nat.div_eq_of_lt (by omega)]

theorem historicalLoop_walls_aux (c : DateTime) (hc : c.offset.isSome = endTime.offset.isSome)
    (acc : List DateTime) :
    (historicalLoop endTime i c acc).map (·.map (·.wall)) =
      if 0 < pointCount c.wall (c.bound endTime) i.1 ∧
          maxWall ≤ c.wall + pointCount c.wall (c.bound endTime) i.1 * i.1 then .error .overflowError
      else .ok (acc.map (·.wall) ++
        (List.range (pointCount c.wall (c.bound endTime) i.1)).map (c.wall + · * i.1)) := by
  generalize hm : maxWall - c.wall = m
  induction m using Nat.strong_induction_on generalizing c acc with
  | _ m ih =>
    have hi := i.2
    rw [historicalLoop, DateTime.le_eq hc]
    by_cases hle : (c.wall : Int) ≤ c.bound endTime
    · have hn := pointCount_step (i := i) hle
      rw [decide_eq_true hle]
      dsimp only
      by_cases hw : c.wall + i.1 < maxWall
      · -- the next point is within range: the loop goes on from it
        have hb : (⟨c.wall + i.1, c.offset, hw⟩ : DateTime).bound endTime = c.bound endTime := rfl
        rw [dif_pos hw, ih (maxWall - (c.wall + i.1)) (by omega) ⟨c.wall + i.1, c.offset, hw⟩ hc _ rfl, hb, hn]
        generalize pointCount (c.wall + i.1) (c.bound endTime) i.1 = n
        have hcond : (0 < n ∧ maxWall ≤ c.wall + i.1 + n * i.1) ↔
            (0 < n + 1 ∧ maxWall ≤ c.wall + (n + 1) * i.1) := by
          rw [Nat.succ_mul]
          constructor
          · rintro ⟨-, h2⟩; exact ⟨Nat.succ_pos _, by omega⟩
          · rintro ⟨-, h2⟩
            refine ⟨Nat.pos_of_ne_zero fun h0 => ?_, by omega⟩
            rw [h0, Nat.zero_mul] at h2
            omega
        have hlist : (acc ++ [c]).map (·.wall) ++ (List.range n).map (c.wall + i.1 + · * i.1) =
            acc.map (·.wall) ++ (List.range (n + 1)).map (c.wall + · * i.1) := by
          have hk : ∀ k, c.wall + i.1 + k * i.1 = c.wall + (k + 1) * i.1 := fun k => by rw [Nat.succ_mul]; omega
          simp only [List.range_succ_eq_map, List.map_cons, List.map_map, List.map_append, List.map_nil,
            List.append_assoc, List.nil_append, List.cons_append, Nat.zero_mul, Nat.add_zero, Function.comp_def, hk]
        rw [hlist]
        exact if_congr hcond rfl rfl
      · -- the step passes year 9999
        rw [dif_neg hw, hn, if_pos ⟨Nat.succ_pos _, by rw [Nat.succ_mul]; omega⟩]
        rfl
    · rw [decide_eq_false hle]
      have h0 : pointCount c.wall (c.bound endTime) i.1 = 0 := by unfold pointCount; rw [if_neg hle]
      simp only [h0, Nat.lt_irrefl, false_and, if_false, List.range_zero, List.map_nil, List.append_nil]
      rfl

end Loop

/-- **the time series**: the points `start + k * interval` for the `pointCount` values of `k`; `TypeError` when one
time is naive and the other aware; `OverflowError` when the step after the last point passes year 9999 -/
theorem historicalLoop_walls (endTime : DateTime) (i : {i : Nat // 0 < i}) (start : DateTime) :
    (historicalLoop endTime i start []).map (·.map (·.wall)) =
      if start.offset.isSome ≠ endTime.offset.isSome then .error .typeError
      else if 0 < pointCount start.wall (start.bound endTime) i.1 ∧
          maxWall ≤ start.wall + pointCount start.wall (start.bound endTime) i.1 * i.1 then .error .overflowError
      else .ok ((List.range (pointCount start.wall (start.bound endTime) i.1)).map (start.wall + · * i.1)) := by
  by_cases h : start.offset.isSome = endTime.offset.isSome
  · rw [if_neg (not_not.2 h), historicalLoop_walls_aux start h []]
    rfl
  · rw [if_pos h, historicalLoop, DateTime.le_mixed h]
    rfl

/-- `get_historical_metrics` reads `start`, then `end`, then the interval, and then runs the loop -/
theorem getHistoricalMetrics_eq (start endTime : DateTime) (interval : Option String) (s : State)
    {i : {i : Nat // 0 < i}} (hi : intervalSeconds (interval.getD "5m") = .ok i) :
    getHistoricalMetrics (.ok start) (.ok endTime) interval s =
      ((historicalLoop endTime i start []).map .historical, s) := by
  simp only [getHistoricalMetrics, hi, bind, Except.bind]
  cases historicalLoop endTime i start [] <;> rfl

end Hypermesh.Stoq
