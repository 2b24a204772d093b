import Osal.ObjectCall
import Osal.ObjectId

/-!
# The time base API (`osapi-timebase.c`)

`OS_TimeBaseCreate`, `OS_TimeBaseSet`, `OS_TimeBaseDelete`, `OS_TimeBaseGetIdByName`,
`OS_TimeBaseGetInfo` and `OS_TimeBaseGetFreeRun` over an arbitrary ID manager. The adapter's calls
are functions of the slot and of the arguments passed on to them, and `OS_TaskGetId_Impl()` is a
function `taskGetId` of the tables, the calling thread fixed.

Five of the calls refuse to run from a timer callback: each reads the type of
`OS_TaskGetId_Impl()` and returns `OS_ERR_INCORRECT_OBJ_STATE` for `OS_OBJECT_TYPE_OS_TIMEBASE`.
The check is the same text in each; `timerApiGuard` is that check, and the five use it where the
source has it.
-/

namespace Osal

/-- `OS_timebase_prop_t` -/
structure OsTimebaseProp where
  creator : OsalId
  name : CStr
  nominalIntervalTime : Nat
  freerunTime : Nat
  accuracy : Nat

def OsTimebaseProp.zero : OsTimebaseProp := ⟨0, CStr.empty, 0, 0, 0⟩

section
variable (cfg : Config) (idm : IdMgr) (taskGetId : Tables → OsalId)

def osTimeBaseLockImpl (localId : Nat) : OsalM Unit := emit (.timeBaseLock localId)

def osTimeBaseUnlockImpl (localId : Nat) : OsalM Unit := emit (.timeBaseUnlock localId)

def inTimebaseContext (taskId : OsalId) : Bool :=
  (osObjectIdToTypeImpl cfg.objectTypeShift taskId).toNat == osObjectTypeOsTimebase

def timerApiGuard {α : Type} (err : α) (k : OsalM α) : OsalM α := do
  let t ← readTables
  if inTimebaseContext cfg (taskGetId t) then pure err else k

/-- `OS_TimeBaseCreate(timer_id, timebase_name, external_sync)`: the status and the ID written to
`*timer_id`; `external_sync` is `none` for `NULL`. -/
def osTimeBaseCreate (timerIdValid : Bool) (timebaseName : Option CStr) (externalSync : Option Nat)
    (microSecPerTick : Nat) (createImpl : Nat → Int) : OsalM (Int × Option OsalId) :=
  match timebaseName with
  | none => pure (osInvalidPointer, none)
  | some name =>
    if !timerIdValid then pure (osInvalidPointer, none)
    else if name.length ≥ cfg.maxApiName then pure (osErrNameTooLong, none)
    else timerApiGuard cfg taskGetId (osErrIncorrectObjState, none) do
      let r ← osObjectIdAllocateNew idm osObjectTypeOsTimebase name
      match r with
      | .error rc => pure (rc, none)
      | .ok localId => do
        let rec_ : OsTimebaseInternalRecord :=
          { OsTimebaseInternalRecord.zero with
            timebaseName := name.take (cfg.maxApiName - 1), externalSync := externalSync,
            accuracyUsec := if externalSync.isNone then microSecPerTick else 0 }
        modifyTables fun t => (t.setTimebase localId rec_).setNameEntry osObjectTypeOsTimebase localId
          (some rec_.timebaseName)
        let r ← osObjectIdFinalizeNew idm (createImpl localId) osObjectTypeOsTimebase localId
        pure (r.1, some r.2)

def osTimeBaseSet (setImpl : Nat → Nat → Nat → Int) (timerId : OsalId) (startTime intervalTime : Nat) :
    OsalM Int :=
  if intervalTime ≥ 1000000000 ∨ startTime ≥ 1000000000 then pure osTimerErrInvalidArgs
  else timerApiGuard cfg taskGetId osErrIncorrectObjState do
    let r ← osObjectIdGetById idm .global osObjectTypeOsTimebase timerId
    match r with
    | .error rc => pure rc
    | .ok localId => do
      osTimeBaseLockImpl localId
      let rc := setImpl localId startTime intervalTime
      if rc = osSuccess then
        modifyTables fun t => t.setTimebase localId
          { t.timebase localId with nominalStartTime := startTime, nominalIntervalTime := intervalTime }
      osTimeBaseUnlockImpl localId
      osUnlockGlobal osObjectTypeOsTimebase
      pure rc

def osTimeBaseDelete (deleteImpl : Nat → Int) (timerId : OsalId) : OsalM Int :=
  timerApiGuard cfg taskGetId osErrIncorrectObjState
    (deleteCall idm osObjectTypeOsTimebase deleteImpl timerId)

/-- `OS_TimeBaseGetIdByName(timer_id, timebase_name)`: the status and the ID written to
`*timer_id`. -/
def osTimeBaseGetIdByName (timerIdValid : Bool) (timebaseName : Option CStr) :
    OsalM (Int × Option OsalId) :=
  match timebaseName with
  | none => pure (osInvalidPointer, none)
  | some name =>
    if !timerIdValid then pure (osInvalidPointer, none)
    else timerApiGuard cfg taskGetId (osErrIncorrectObjState, none) do
      let r ← osObjectIdFindByName idm osObjectTypeOsTimebase name
      match r with
      | .ok id => pure (osSuccess, some id)
      | .error rc => pure (rc, none)

/-- `OS_TimeBaseGetInfo(timebase_id, timebase_prop)`: the status and `*timebase_prop`, zeroed after
the guard and filled if the lookup succeeds; `none` for a `NULL` pointer. -/
def osTimeBaseGetInfo (getInfoImpl : Nat → Int) (timebaseId : OsalId)
    (timebaseProp : Option OsTimebaseProp) : OsalM (Int × Option OsTimebaseProp) :=
  match timebaseProp with
  | none => pure (osInvalidPointer, none)
  | some prop =>
    timerApiGuard cfg taskGetId (osErrIncorrectObjState, some prop) do
      let r ← osObjectIdGetById idm .global osObjectTypeOsTimebase timebaseId
      match r with
      | .error rc => pure (rc, some OsTimebaseProp.zero)
      | .ok localId => do
        let t ← readTables
        let record := t.common osObjectTypeOsTimebase localId
        let tb := t.timebase localId
        let prop' : OsTimebaseProp :=
          ⟨record.creator, (record.nameEntry.getD CStr.empty).take (cfg.maxApiName - 1),
            tb.nominalIntervalTime, tb.freerunTime, tb.accuracyUsec⟩
        let rc := getInfoImpl localId
        osUnlockGlobal osObjectTypeOsTimebase
        pure (rc, some prop')

/-- `OS_TimeBaseGetFreeRun(timebase_id, freerun_val)`: the status and `*freerun_val`. -/
def osTimeBaseGetFreeRun (timebaseId : OsalId) : OsalM (Int × Option Nat) := do
  let r ← osObjectIdGetById idm .none osObjectTypeOsTimebase timebaseId
  match r with
  | .error rc => pure (rc, none)
  | .ok localId => do
    let t ← readTables
    pure (osSuccess, some (t.timebase localId).freerunTime)

end

theorem timerApiGuard_run_of_inTimebaseContext {cfg : Config} {taskGetId : Tables → OsalId}
    {α : Type} {err : α} {k : OsalM α} {w : World} (h : inTimebaseContext cfg (taskGetId w.tables)) :
    (timerApiGuard cfg taskGetId err k).run w = (err, w) := by
  simp [timerApiGuard, readTables, h, StateT.run, bind, StateT.bind, pure, StateT.pure]

theorem timerApiGuard_run_of_not {cfg : Config} {taskGetId : Tables → OsalId}
    {α : Type} {err : α} {k : OsalM α} {w : World} (h : inTimebaseContext cfg (taskGetId w.tables) = false) :
    (timerApiGuard cfg taskGetId err k).run w = k.run w := by
  simp [timerApiGuard, readTables, h, StateT.run, bind, StateT.bind]

end Osal
