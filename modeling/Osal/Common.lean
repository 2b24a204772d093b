import Osal.Basic

/-!
# Deleting every object at shutdown (`OS_DeleteAllObjects`, `osapi-common.c`)

`OS_DeleteAllObjects` runs `OS_ForEachObject(OS_OBJECT_CREATOR_ANY, OS_CleanUpObject,
&ObjectCount)` until a pass finds no object or five passes have run, with `OS_TaskDelay(5)` between
passes, and then reaches the empty loop `while (ObjectCount > 0 && TryCount < 5);`.

Which objects a pass finds depends on how the deletes of the passes before it went, and neither
`OS_ForEachObject` nor `OS_IdentifyObject` is in the repository: a pass is given by the objects it
finds (`found TryCount`, the pass numbered by `TryCount` after its increment) and the type of each
by `identify`. Every result holds for all of them, so for every object population and every outcome
of the deletes.

`deleteAllLoop_spec` is the loop's exit invariant: one delay fewer than passes, the last pass found
nothing or was the fifth. It makes the trailing condition false (`osDeleteAllObjects_returns`).
-/

namespace Osal

inductive CleanUpCall
  | taskDelete | queueDelete | binSemDelete | countSemDelete | mutSemDelete | moduleUnload
  | timeBaseDelete | timerDelete | close | directoryClose
  deriving Repr, DecidableEq

def cleanUpCall (objType : Nat) : Option CleanUpCall :=
  if objType = osObjectTypeOsTask then some .taskDelete
  else if objType = osObjectTypeOsQueue then some .queueDelete
  else if objType = osObjectTypeOsBinsem then some .binSemDelete
  else if objType = osObjectTypeOsCountsem then some .countSemDelete
  else if objType = osObjectTypeOsMutex then some .mutSemDelete
  else if objType = osObjectTypeOsModule then some .moduleUnload
  else if objType = osObjectTypeOsTimebase then some .timeBaseDelete
  else if objType = osObjectTypeOsTimecb then some .timerDelete
  else if objType = osObjectTypeOsStream then some .close
  else if objType = osObjectTypeOsDir then some .directoryClose
  else none

/-- `OS_CleanUpObject(object_id, arg)` with `*arg = objectCount`: the `uint32` count after
`++(*ObjectCount)`, and the delete call it makes. -/
def osCleanUpObject (identify : OsalId → Nat) (objectId : OsalId) (objectCount : Nat) :
    Nat × Option (CleanUpCall × OsalId) :=
  ((objectCount + 1) % 2 ^ 32, (cleanUpCall (identify objectId)).map fun c => (c, objectId))

def cleanUpStep (identify : OsalId → Nat) (acc : Nat × List (CleanUpCall × OsalId))
    (objectId : OsalId) : Nat × List (CleanUpCall × OsalId) :=
  let r := osCleanUpObject identify objectId acc.1
  (r.1, acc.2 ++ r.2.toList)

def cleanUpPass (identify : OsalId → Nat) (ids : List OsalId) : Nat × List (CleanUpCall × OsalId) :=
  ids.foldl (cleanUpStep identify) (0, [])

/-- The `while (true)` loop of `OS_DeleteAllObjects` from `TryCount = tryCount`: `ObjectCount` and
`TryCount` at the `break`, and the number of `OS_TaskDelay(5)` calls. -/
def deleteAllLoop (identify : OsalId → Nat) (found : Nat → List OsalId) (tryCount : Nat) :
    Nat × Nat × Nat :=
  let tryCount := tryCount + 1
  let objectCount := (cleanUpPass identify (found tryCount)).1
  if h : objectCount = 0 ∨ tryCount > 4 then (objectCount, tryCount, 0)
  else
    let r := deleteAllLoop identify found tryCount
    (r.1, r.2.1, r.2.2 + 1)
termination_by 5 - tryCount
decreasing_by omega

/-- The condition of the empty loop `while (ObjectCount > 0 && TryCount < 5);`. Its body changes
nothing, so it runs zero times when the condition is false on entry, and forever otherwise. -/
def trailingSpin (objectCount tryCount : Nat) : Bool := objectCount > 0 && tryCount < 5

/-- `OS_DeleteAllObjects()`: `none` when the trailing loop spins forever. -/
def osDeleteAllObjects (identify : OsalId → Nat) (found : Nat → List OsalId) :
    Option (Nat × Nat × Nat) :=
  let r := deleteAllLoop identify found 0
  if trailingSpin r.1 r.2.1 then none else some r

/-! ### One pass -/

theorem foldl_cleanUpStep (identify : OsalId → Nat) (ids : List OsalId)
    {acc : Nat × List (CleanUpCall × OsalId)} (h : acc.1 < 2 ^ 32) :
    ids.foldl (cleanUpStep identify) acc =
      ((acc.1 + ids.length) % 2 ^ 32,
        acc.2 ++ ids.filterMap fun objectId => (osCleanUpObject identify objectId 0).2) := by
  induction ids generalizing acc with
  | nil => simp only [List.foldl_nil, List.length_nil, Nat.add_zero, Nat.mod_eq_of_lt h,
      List.filterMap_nil, List.append_nil]
  | cons objectId ids ih =>
    rw [List.foldl_cons, ih (Nat.mod_lt _ (Nat.two_pow_pos 32))]
    simp only [cleanUpStep, osCleanUpObject, Nat.mod_add_mod, List.length_cons, List.filterMap_cons]
    cases cleanUpCall (identify objectId) <;> simp [Nat.add_assoc, Nat.add_comm 1]

theorem cleanUpPass_eq (identify : OsalId → Nat) (ids : List OsalId) :
    cleanUpPass identify ids =
      (ids.length % 2 ^ 32, ids.filterMap fun objectId => (osCleanUpObject identify objectId 0).2) := by
  rw [cleanUpPass, foldl_cleanUpStep identify ids (Nat.two_pow_pos 32)]
  simp

/-! ### The loop -/

theorem deleteAllLoop_spec (identify : OsalId → Nat) (found : Nat → List OsalId) (tryCount : Nat) :
    let r := deleteAllLoop identify found tryCount
    tryCount < r.2.1 ∧ (r.2.1 ≤ 5 ∨ r.2.1 = tryCount + 1) ∧ r.2.2 + tryCount + 1 = r.2.1 ∧
      r.1 = (found r.2.1).length % 2 ^ 32 ∧ (r.1 = 0 ∨ 4 < r.2.1) := by
  induction tryCount using deleteAllLoop.induct identify found with
  | case1 t tc oc h =>
    rw [deleteAllLoop, dif_pos h]
    simp only [tc, oc, cleanUpPass_eq, or_true, true_and] at h ⊢
    omega
  | case2 t tc oc h ih =>
    rw [deleteAllLoop, dif_neg h]
    simp only [tc, oc, cleanUpPass_eq] at h ih ⊢
    omega

/-- `OS_DeleteAllObjects` returns after at most five passes and four delays. -/
theorem osDeleteAllObjects_returns (identify : OsalId → Nat) (found : Nat → List OsalId) :
    ∃ objectCount tryCount delays,
      osDeleteAllObjects identify found = some (objectCount, tryCount, delays) ∧
        tryCount ≤ 5 ∧ delays ≤ 4 ∧ delays + 1 = tryCount ∧
          trailingSpin objectCount tryCount = false := by
  have hspec := deleteAllLoop_spec identify found 0
  unfold osDeleteAllObjects
  generalize deleteAllLoop identify found 0 = r at hspec ⊢
  obtain ⟨objectCount, tryCount, delays⟩ := r
  obtain ⟨h₁, h₂, h₃, -, h₅⟩ : 0 < tryCount ∧ (tryCount ≤ 5 ∨ tryCount = 1) ∧ delays + 1 = tryCount ∧ _ ∧
    (objectCount = 0 ∨ 4 < tryCount) := hspec
  have hspin : trailingSpin objectCount tryCount = false := by
    simp only [trailingSpin, Bool.and_eq_false_iff, decide_eq_false_iff_not]
    omega
  exact ⟨objectCount, tryCount, delays, by simp [hspin], by omega, by omega, by omega, hspin⟩

end Osal
