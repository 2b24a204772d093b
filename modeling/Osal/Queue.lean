import Osal.ObjectCall

/-!
# Message queues (`osapi-queue.c`)

The shared layer's queue calls over an arbitrary ID manager. The adapter's calls
(`OS_Queue*_Impl`) are functions of the slot and of the arguments passed on to them; the data
buffers are not modelled, only whether their pointers are `NULL`.
-/

namespace Osal

structure OsQueueProp where
  name : CStr
  creator : OsalId

section
variable (cfg : Config) (idm : IdMgr)

/-- `OS_QueueCreate(queue_id, queue_name, queue_depth, data_size, flags)`: the status and the ID
written to `*queue_id`. -/
def osQueueCreate (queueIdValid : Bool) (queueName : Option CStr) (queueDepth dataSize flags : Nat)
    (createImpl : Nat → Nat → Int) : OsalM (Int × Option OsalId) :=
  match queueName with
  | none => pure (osInvalidPointer, none)
  | some name =>
    if !queueIdValid then pure (osInvalidPointer, none)
    else if name.length ≥ cfg.maxApiName then pure (osErrNameTooLong, none)
    else if queueDepth > cfg.queueMaxDepth then pure (osQueueInvalidSize, none)
    else do
      let r ← osObjectIdAllocateNew idm osObjectTypeOsQueue name
      match r with
      | .error rc => pure (rc, none)
      | .ok localId => do
        modifyTables fun t =>
          (t.setQueue localId ⟨name, queueDepth, dataSize⟩).setNameEntry osObjectTypeOsQueue localId
            (some name)
        let r ← osObjectIdFinalizeNew idm (createImpl localId flags) osObjectTypeOsQueue localId
        pure (r.1, some r.2)

def osQueueDelete (deleteImpl : Nat → Int) (queueId : OsalId) : OsalM Int :=
  deleteCall idm osObjectTypeOsQueue deleteImpl queueId

/-- `OS_QueueGet(queue_id, data, size, size_copied, timeout)`: the status and what the shared
layer writes to `*size_copied` (`0` for a buffer below the queue's message size); `getImpl` gives
the adapter's status for a slot, the buffer size and the timeout. -/
def osQueueGet (getImpl : Nat → Nat → Int → Int) (queueId : OsalId) (dataValid : Bool) (size : Nat)
    (sizeCopiedValid : Bool) (timeout : Int) : OsalM (Int × Option Nat) :=
  if !dataValid || !sizeCopiedValid then pure (osInvalidPointer, none)
  else do
    let r ← osObjectIdGetById idm .none osObjectTypeOsQueue queueId
    match r with
    | .error rc => pure (rc, none)
    | .ok localId => do
      let t ← readTables
      if size < (t.queue localId).maxSize then pure (osQueueInvalidSize, some 0)
      else pure (getImpl localId size timeout, none)

def osQueuePut (putImpl : Nat → Nat → Nat → Int) (queueId : OsalId) (dataValid : Bool)
    (size flags : Nat) : OsalM Int :=
  if !dataValid then pure osInvalidPointer
  else noneLockCall idm osObjectTypeOsQueue (fun localId => putImpl localId size flags) queueId

def osQueueGetIdByName (queueIdValid : Bool) (queueName : Option CStr) :
    OsalM (Int × Option OsalId) :=
  getIdByNameCall idm osObjectTypeOsQueue queueIdValid queueName

/-- `OS_QueueGetInfo(queue_id, queue_prop)`: the status and `*queue_prop`, `none` for a `NULL`
pointer; zeroed unless the lookup succeeds. -/
def osQueueGetInfo (queueId : OsalId) (queuePropValid : Bool) : OsalM (Int × Option OsQueueProp) :=
  if !queuePropValid then pure (osInvalidPointer, none)
  else do
    let r ← osObjectIdGetById idm .global osObjectTypeOsQueue queueId
    match r with
    | .error rc => pure (rc, some ⟨CStr.empty, 0⟩)
    | .ok localId => do
      let t ← readTables
      let record := t.common osObjectTypeOsQueue localId
      osUnlockGlobal osObjectTypeOsQueue
      pure (osSuccess, some ⟨(record.nameEntry.getD CStr.empty).take (cfg.maxApiName - 1),
        record.creator⟩)

end

end Osal
