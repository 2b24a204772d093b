import Osal.ObjectCall

/-!
# Binary semaphores (`osapi-binsem.c`)

The shared layer's binary semaphore calls over an arbitrary ID manager. The adapter's calls
(`OS_BinSem*_Impl`) are functions of the slot and of the arguments passed on to them.
-/

namespace Osal

/-- `OS_bin_sem_prop_t`: the fields the shared layer fills (`OS_BinSemGetInfo_Impl` adds the
value, which nothing here reads). -/
structure OsBinSemProp where
  name : CStr
  creator : OsalId

section
variable (cfg : Config) (idm : IdMgr)

/-- `OS_BinSemCreate(sem_id, sem_name, sem_initial_value, options)`: the status and the ID written
to `*sem_id`. -/
def osBinSemCreate (semIdValid : Bool) (semName : Option CStr) (semInitialValue options : Nat)
    (createImpl : Nat → Nat → Nat → Int) : OsalM (Int × Option OsalId) :=
  match semName with
  | none => pure (osInvalidPointer, none)
  | some name =>
    if !semIdValid then pure (osInvalidPointer, none)
    else if name.length ≥ cfg.maxApiName then pure (osErrNameTooLong, none)
    else do
      let r ← osObjectIdAllocateNew idm osObjectTypeOsBinsem name
      match r with
      | .error rc => pure (rc, none)
      | .ok localId => do
        modifyTables fun t =>
          (t.setBinSem localId ⟨name⟩).setNameEntry osObjectTypeOsBinsem localId (some name)
        let r ← osObjectIdFinalizeNew idm (createImpl localId semInitialValue options)
          osObjectTypeOsBinsem localId
        pure (r.1, some r.2)

def osBinSemDelete (deleteImpl : Nat → Int) (semId : OsalId) : OsalM Int :=
  deleteCall idm osObjectTypeOsBinsem deleteImpl semId

def osBinSemGive (giveImpl : Nat → Int) (semId : OsalId) : OsalM Int :=
  noneLockCall idm osObjectTypeOsBinsem giveImpl semId

def osBinSemFlush (flushImpl : Nat → Int) (semId : OsalId) : OsalM Int :=
  noneLockCall idm osObjectTypeOsBinsem flushImpl semId

def osBinSemTake (takeImpl : Nat → Int) (semId : OsalId) : OsalM Int :=
  noneLockCall idm osObjectTypeOsBinsem takeImpl semId

def osBinSemTimedWait (timedWaitImpl : Nat → Nat → Int) (semId : OsalId) (msecs : Nat) : OsalM Int :=
  noneLockCall idm osObjectTypeOsBinsem (fun localId => timedWaitImpl localId msecs) semId

def osBinSemGetIdByName (semIdValid : Bool) (semName : Option CStr) : OsalM (Int × Option OsalId) :=
  getIdByNameCall idm osObjectTypeOsBinsem semIdValid semName

/-- `OS_BinSemGetInfo(sem_id, bin_prop)`: the status and `*bin_prop`, `none` for a `NULL`
pointer; zeroed unless the lookup succeeds. -/
def osBinSemGetInfo (getInfoImpl : Nat → Int) (semId : OsalId) (binPropValid : Bool) :
    OsalM (Int × Option OsBinSemProp) :=
  if !binPropValid then pure (osInvalidPointer, none)
  else do
    let r ← osObjectIdGetById idm .global osObjectTypeOsBinsem semId
    match r with
    | .error rc => pure (rc, some ⟨CStr.empty, 0⟩)
    | .ok localId => do
      let t ← readTables
      let record := t.common osObjectTypeOsBinsem localId
      let prop : OsBinSemProp :=
        ⟨(record.nameEntry.getD CStr.empty).take (cfg.maxApiName - 1), record.creator⟩
      osUnlockGlobal osObjectTypeOsBinsem
      pure (getInfoImpl localId, some prop)

end

end Osal
