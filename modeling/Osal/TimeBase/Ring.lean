import Mathlib.Dynamics.PeriodicPts
import Osal.TimeBase.WaitLoop

/-!
# The ring walk of `OS_TimeBase_CallbackThread` (`osapi-timebase.c`)

After a tick the servicing thread converts `first_cb` to a slot `timer_id` and runs
`do { …; curr_cb_local_id = timecb->next_ref; } while (curr_cb_local_id != timer_id);`, applying
the per-tick update (`timerTick`) to each slot it reaches. `ringWalk` is that loop on a table of
timer records, on fuel: `none` is a walk the fuel did not see to its end.

The update never writes `next_ref` (`timerTick_nextRef`), so the walk follows the links of the
table it started from. `ringWalk_eq_tickSlots` splits it into the pointer chase (`ringSlots`) and
the updates done along it (`tickSlots`). When `timer_id` lies on a `next_ref` cycle, the chase is
the cycle in ring order, each slot once (`ringSlots_iterate`), and the walk takes exactly as many
iterations as the cycle has slots (`ringWalk_on_cycle`). The callbacks run under the time base lock
and are not modelled as writing the table.
-/

namespace Osal

open Function

@[simp] theorem waitStep_nextRef (timecb : OsTimecbInternalRecord) :
    (waitStep timecb).nextRef = timecb.nextRef := by
  unfold waitStep; dsimp only; split <;> rfl

@[simp] theorem iterate_waitStep_nextRef (n : Nat) (timecb : OsTimecbInternalRecord) :
    (waitStep^[n] timecb).nextRef = timecb.nextRef := by
  induction n with
  | zero => rfl
  | succ n ih => rw [iterate_succ_apply', waitStep_nextRef, ih]

@[simp] theorem timerTick_nextRef (tickTime : Nat) (timecb : OsTimecbInternalRecord) :
    (timerTick tickTime timecb).1.nextRef = timecb.nextRef := by
  rw [timerTick, waitLoop_eq_passes, iterate_waitStep_nextRef]

/-- The `do … while (curr_cb_local_id != timer_id)` walk of one tick from `currCbLocalId`: the timer
table after it, and each slot processed with its number of callbacks, in order. -/
def ringWalk (tickTime timerId : Nat) :
    Nat → (Nat → OsTimecbInternalRecord) → Nat →
      Option ((Nat → OsTimecbInternalRecord) × List (Nat × Nat))
  | 0, _, _ => none
  | fuel + 1, tbl, currCbLocalId =>
    let r := timerTick tickTime (tbl currCbLocalId)
    let tbl := update tbl currCbLocalId r.1
    if r.1.nextRef = timerId then some (tbl, [(currCbLocalId, r.2)])
    else (ringWalk tickTime timerId fuel tbl r.1.nextRef).map fun w => (w.1, (currCbLocalId, r.2) :: w.2)

/-! ### The pointer chase and the updates along it -/

/-- The slots the walk reaches following `next` from `cur` until the link back to `timerId`. -/
def ringSlots (next : Nat → Nat) (timerId : Nat) : Nat → Nat → Option (List Nat)
  | 0, _ => none
  | fuel + 1, cur =>
    if next cur = timerId then some [cur]
    else (ringSlots next timerId fuel (next cur)).map (cur :: ·)

def tickSlots (tickTime : Nat) :
    List Nat → (Nat → OsTimecbInternalRecord) → (Nat → OsTimecbInternalRecord) × List (Nat × Nat)
  | [], tbl => (tbl, [])
  | s :: slots, tbl =>
    let r := timerTick tickTime (tbl s)
    let w := tickSlots tickTime slots (update tbl s r.1)
    (w.1, (s, r.2) :: w.2)

theorem ringWalk_eq_tickSlots (tickTime timerId : Nat) (fuel : Nat) (tbl : Nat → OsTimecbInternalRecord)
    (cur : Nat) :
    ringWalk tickTime timerId fuel tbl cur =
      (ringSlots (fun s => (tbl s).nextRef) timerId fuel cur).map (tickSlots tickTime · tbl) := by
  induction fuel generalizing tbl cur with
  | zero => rfl
  | succ fuel ih =>
    have hnext : (fun s => (update tbl cur (timerTick tickTime (tbl cur)).1 s).nextRef) =
        fun s => (tbl s).nextRef := by
      funext s
      by_cases hs : s = cur
      · subst hs; simp
      · rw [update_noteq hs]
    simp only [ringWalk, ringSlots, timerTick_nextRef]
    split_ifs
    · rfl
    · rw [ih, hnext, Option.map_map, Option.map_map]; rfl

theorem tickSlots_of_nodup (tickTime : Nat) {slots : List Nat} (hnd : slots.Nodup)
    (tbl : Nat → OsTimecbInternalRecord) :
    tickSlots tickTime slots tbl =
      (fun s => if s ∈ slots then (timerTick tickTime (tbl s)).1 else tbl s,
        slots.map fun s => (s, (timerTick tickTime (tbl s)).2)) := by
  induction slots generalizing tbl with
  | nil => rfl
  | cons v slots ih =>
    obtain ⟨hv, hnd⟩ := List.nodup_cons.mp hnd
    have hkeep : ∀ s ∈ slots, update tbl v (timerTick tickTime (tbl v)).1 s = tbl s :=
      fun s hs => update_noteq (by rintro rfl; exact hv hs) _ _
    simp only [tickSlots, ih hnd, Prod.mk.injEq, List.map_cons, List.mem_cons]
    refine ⟨funext fun s => ?_, by rw [List.map_inj_left.mpr fun s hs => by rw [hkeep s hs]]⟩
    by_cases hsv : s = v
    · subst hsv; simp [hv]
    · simp [hsv, update_noteq hsv]

/-! ### A ring of `next_ref` links -/

section Cycle

variable {next : Nat → Nat} {timerId : Nat}

theorem ringSlots_iterate (fuel k : Nat) (hk : k < minimalPeriod next timerId) :
    ringSlots next timerId fuel (next^[k] timerId) =
      if minimalPeriod next timerId - k ≤ fuel then
        some ((List.range' k (minimalPeriod next timerId - k)).map fun j => next^[j] timerId)
      else none := by
  induction fuel generalizing k with
  | zero => simp only [ringSlots]; rw [if_neg (by omega)]
  | succ fuel ih =>
    have hstep : next (next^[k] timerId) = next^[k + 1] timerId := (iterate_succ_apply' next k timerId).symm
    rw [ringSlots, hstep]
    by_cases hlast : k + 1 = minimalPeriod next timerId
    · rw [if_pos (by rw [hlast]; exact iterate_minimalPeriod), if_pos (by omega),
        show minimalPeriod next timerId - k = 1 by omega]
      rfl
    · have hk' : k + 1 < minimalPeriod next timerId := by omega
      have hne : next^[k + 1] timerId ≠ timerId := fun h =>
        absurd (IsPeriodicPt.minimalPeriod_le (Nat.succ_pos k) h) (by omega)
      rw [if_neg hne, ih (k + 1) hk', show minimalPeriod next timerId - k =
        minimalPeriod next timerId - (k + 1) + 1 by omega, List.range'_succ]
      by_cases hfuel : minimalPeriod next timerId - (k + 1) ≤ fuel
      · rw [if_pos hfuel, if_pos (by omega)]; rfl
      · rw [if_neg hfuel, if_neg (by omega)]; rfl

theorem nodup_ring : ((List.range (minimalPeriod next timerId)).map fun k => next^[k] timerId).Nodup :=
  (List.nodup_range _).map_on fun _ ha _ hb h =>
    iterate_injOn_Iio_minimalPeriod (List.mem_range.mp ha) (List.mem_range.mp hb) h

theorem mem_ring (hcycle : timerId ∈ periodicPts next) (s : Nat) :
    s ∈ (List.range (minimalPeriod next timerId)).map (fun k => next^[k] timerId) ↔
      ∃ k, next^[k] timerId = s := by
  simp only [List.mem_map, List.mem_range]
  refine ⟨fun ⟨k, _, h⟩ => ⟨k, h⟩, fun ⟨k, h⟩ => ⟨k % minimalPeriod next timerId, ?_, ?_⟩⟩
  · exact Nat.mod_lt _ (minimalPeriod_pos_of_mem_periodicPts hcycle)
  · rw [iterate_mod_minimalPeriod_eq, h]

end Cycle

/-- On a `next_ref` cycle through `timer_id` the walk processes the cycle in ring order, each slot
once from its record before the tick, and changes no other slot. -/
theorem ringWalk_on_cycle (tickTime : Nat) (tbl : Nat → OsTimecbInternalRecord) (timerId fuel : Nat)
    (hcycle : timerId ∈ periodicPts fun s => (tbl s).nextRef) :
    let next := fun s => (tbl s).nextRef
    let ring := (List.range (minimalPeriod next timerId)).map fun k => next^[k] timerId
    ring.Nodup ∧ (∀ s, s ∈ ring ↔ ∃ k, next^[k] timerId = s) ∧
      ringWalk tickTime timerId fuel tbl timerId =
        if ring.length ≤ fuel then
          some (fun s => if s ∈ ring then (timerTick tickTime (tbl s)).1 else tbl s,
            ring.map fun s => (s, (timerTick tickTime (tbl s)).2))
        else none := by
  intro next ring
  have hpos := minimalPeriod_pos_of_mem_periodicPts hcycle
  have hslots := ringSlots_iterate fuel 0 hpos
  rw [iterate_zero_apply, Nat.sub_zero, ← List.range_eq_range'] at hslots
  refine ⟨nodup_ring, mem_ring hcycle, ?_⟩
  rw [ringWalk_eq_tickSlots, hslots, List.length_map, List.length_range]
  split_ifs
  · rw [Option.map_some', tickSlots_of_nodup tickTime nodup_ring]
  · rfl

theorem ringWalk_on_cycle_two :
    let tbl : Nat → OsTimecbInternalRecord := fun k => ⟨1, 10, 0, none, 2 - k⟩
    (0 ∈ periodicPts fun s => (tbl s).nextRef) ∧
      let next := fun s => (tbl s).nextRef
      let ring := (List.range (minimalPeriod next 0)).map fun k => next^[k] 0
      ring.Nodup ∧ (∀ s, s ∈ ring ↔ ∃ k, next^[k] 0 = s) ∧
        ringWalk 5 0 2 tbl 0 =
          if ring.length ≤ 2 then
            some (fun s => if s ∈ ring then (timerTick 5 (tbl s)).1 else tbl s,
              ring.map fun s => (s, (timerTick 5 (tbl s)).2))
          else none :=
  ⟨⟨2, by decide, rfl⟩, ringWalk_on_cycle 5 (fun k => ⟨1, 10, 0, none, 2 - k⟩) 0 2 ⟨2, by decide, rfl⟩⟩

end Osal
