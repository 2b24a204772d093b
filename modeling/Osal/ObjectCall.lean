import Osal.IdMap

/-!
# Call shapes shared by the resource APIs

Several entry points of `osapi-binsem.c`, `osapi-queue.c` and `osapi-timebase.c` are the same code
over another type and another adapter call: a lookup without lock and one adapter call
(`OS_BinSemGive`, `OS_BinSemFlush`, `OS_BinSemTake`, `OS_BinSemTimedWait`, and `OS_QueuePut`
behind its pointer check); an exclusive lookup, the adapter's delete and
`OS_ObjectIdFinalizeDelete` (`OS_BinSemDelete`, `OS_QueueDelete`, and `OS_TimeBaseDelete` behind
its guard); a name lookup behind a pointer check (`OS_BinSemGetIdByName`, `OS_QueueGetIdByName`).
Each shape is one definition; the entry points apply it to their own type and adapter call. An
adapter call is a function of the slot it is given, its result arbitrary.
-/

namespace Osal

section
variable (idm : IdMgr)

/-- `OS_ObjectIdGetById(OS_LOCK_MODE_NONE, idtype, id, ..)`, then the adapter call on the slot. -/
def noneLockCall (idtype : Nat) (impl : Nat → Int) (id : OsalId) : OsalM Int := do
  let r ← osObjectIdGetById idm .none idtype id
  match r with
  | .error rc => pure rc
  | .ok localId => pure (impl localId)

/-- `OS_ObjectIdGetById(OS_LOCK_MODE_EXCLUSIVE, idtype, id, ..)`, the adapter's delete, and
`OS_ObjectIdFinalizeDelete` with its status. -/
def deleteCall (idtype : Nat) (impl : Nat → Int) (id : OsalId) : OsalM Int := do
  let r ← osObjectIdGetById idm .exclusive idtype id
  match r with
  | .error rc => pure rc
  | .ok localId => osObjectIdFinalizeDelete idm (impl localId) idtype localId

/-- The check of both pointers, then `OS_ObjectIdFindByName`: the status and the ID written.
`idValid` is `false` for a `NULL` output pointer, `name` is `none` for a `NULL` name. -/
def getIdByNameCall (idtype : Nat) (idValid : Bool) (name : Option CStr) :
    OsalM (Int × Option OsalId) :=
  match name with
  | none => pure (osInvalidPointer, none)
  | some n =>
    if !idValid then pure (osInvalidPointer, none)
    else do
      let r ← osObjectIdFindByName idm idtype n
      match r with
      | .ok id => pure (osSuccess, some id)
      | .error rc => pure (rc, none)

end

end Osal
