import Osal.LockSpec
import Osal.BinSem
import Osal.Queue
import Osal.TimeBase.Api

/-!
# Lock discipline of the semaphore, queue and time base calls

Each entry point of `osapi-binsem.c`, `osapi-queue.c` and `osapi-timebase.c`, from any lock state
where its type lock is free, gives that state back, whatever the ID manager and the adapter
return. The call shapes of `ObjectCall.lean` are proved once; the entry points that apply them
follow from those.
-/

namespace Osal

section
variable {s : LockState} (idm : IdMgr) {t : Nat}

theorem noneLockCall_lockSpec (impl : Nat → Int) (id : OsalId) (h : t ∉ s.global) :
    LockSpec s (noneLockCall idm t impl id) (fun _ => s) :=
  .bindExcept (osObjectIdGetById_lockSpec idm .none id h) (fun _ => .pure _) fun _ => .pure _

theorem deleteCall_lockSpec (impl : Nat → Int) (id : OsalId) (h : t ∉ s.global) :
    LockSpec s (deleteCall idm t impl id) (fun _ => s) :=
  .bindExcept (osObjectIdGetById_lockSpec idm .exclusive id h) (fun _ => .pure _) fun i =>
    osObjectIdFinalizeDelete_acquired idm _ i

theorem getIdByNameCall_lockSpec (idValid : Bool) (name : Option CStr) (h : t ∉ s.global) :
    LockSpec s (getIdByNameCall idm t idValid name) (fun _ => s) := by
  unfold getIdByNameCall
  split
  · exact .pure _
  · exact .ite (.pure _) (.bind (osObjectIdFindByName_lockSpec idm _ h) fun r => by
      cases r <;> exact .pure _)

end

/-! ### Binary semaphores -/

section
variable {s : LockState} (cfg : Config) (idm : IdMgr) (h : osObjectTypeOsBinsem ∉ s.global)
include h

theorem osBinSemCreate_lockSpec (semIdValid : Bool) (semName : Option CStr) (v o : Nat)
    (createImpl : Nat → Nat → Nat → Int) :
    LockSpec s (osBinSemCreate cfg idm semIdValid semName v o createImpl) (fun _ => s) := by
  unfold osBinSemCreate
  split
  · exact .pure _
  · refine .ite (.pure _) (.ite (.pure _) ?_)
    exact .bindExcept (osObjectIdAllocateNew_lockSpec idm _ h) (fun _ => .pure _) fun i =>
      .bind (.modifyTables _) fun _ => .bind (osObjectIdFinalizeNew_acquired idm _ i) fun _ => .pure _

theorem osBinSemDelete_lockSpec (impl : Nat → Int) (semId : OsalId) :
    LockSpec s (osBinSemDelete idm impl semId) (fun _ => s) :=
  deleteCall_lockSpec idm impl semId h

theorem osBinSemGive_lockSpec (impl : Nat → Int) (semId : OsalId) :
    LockSpec s (osBinSemGive idm impl semId) (fun _ => s) :=
  noneLockCall_lockSpec idm impl semId h

theorem osBinSemFlush_lockSpec (impl : Nat → Int) (semId : OsalId) :
    LockSpec s (osBinSemFlush idm impl semId) (fun _ => s) :=
  noneLockCall_lockSpec idm impl semId h

theorem osBinSemTake_lockSpec (impl : Nat → Int) (semId : OsalId) :
    LockSpec s (osBinSemTake idm impl semId) (fun _ => s) :=
  noneLockCall_lockSpec idm impl semId h

theorem osBinSemTimedWait_lockSpec (impl : Nat → Nat → Int) (semId : OsalId) (msecs : Nat) :
    LockSpec s (osBinSemTimedWait idm impl semId msecs) (fun _ => s) :=
  noneLockCall_lockSpec idm _ semId h

theorem osBinSemGetIdByName_lockSpec (semIdValid : Bool) (semName : Option CStr) :
    LockSpec s (osBinSemGetIdByName idm semIdValid semName) (fun _ => s) :=
  getIdByNameCall_lockSpec idm semIdValid semName h

theorem osBinSemGetInfo_lockSpec (impl : Nat → Int) (semId : OsalId) (valid : Bool) :
    LockSpec s (osBinSemGetInfo cfg idm impl semId valid) (fun _ => s) :=
  .ite (.pure _) (.bindExcept (osObjectIdGetById_lockSpec idm .global semId h) (fun _ => .pure _)
    fun _ => .bind .readTables fun _ => .bind .unlockAcquired fun _ => .pure _)

end

/-! ### Queues -/

section
variable {s : LockState} (cfg : Config) (idm : IdMgr) (h : osObjectTypeOsQueue ∉ s.global)
include h

theorem osQueueCreate_lockSpec (queueIdValid : Bool) (queueName : Option CStr) (d z f : Nat)
    (createImpl : Nat → Nat → Int) :
    LockSpec s (osQueueCreate cfg idm queueIdValid queueName d z f createImpl) (fun _ => s) := by
  unfold osQueueCreate
  split
  · exact .pure _
  · refine .ite (.pure _) (.ite (.pure _) (.ite (.pure _) ?_))
    exact .bindExcept (osObjectIdAllocateNew_lockSpec idm _ h) (fun _ => .pure _) fun i =>
      .bind (.modifyTables _) fun _ => .bind (osObjectIdFinalizeNew_acquired idm _ i) fun _ => .pure _

theorem osQueueDelete_lockSpec (impl : Nat → Int) (queueId : OsalId) :
    LockSpec s (osQueueDelete idm impl queueId) (fun _ => s) :=
  deleteCall_lockSpec idm impl queueId h

theorem osQueueGet_lockSpec (impl : Nat → Nat → Int → Int) (queueId : OsalId) (dataValid : Bool)
    (size : Nat) (sizeCopiedValid : Bool) (timeout : Int) :
    LockSpec s (osQueueGet idm impl queueId dataValid size sizeCopiedValid timeout) (fun _ => s) :=
  .ite (.pure _) (.bindExcept (osObjectIdGetById_lockSpec idm .none queueId h) (fun _ => .pure _)
    fun _ => .bind .readTables fun _ => .ite (.pure _) (.pure _))

theorem osQueuePut_lockSpec (impl : Nat → Nat → Nat → Int) (queueId : OsalId) (dataValid : Bool)
    (size flags : Nat) :
    LockSpec s (osQueuePut idm impl queueId dataValid size flags) (fun _ => s) :=
  .ite (.pure _) (noneLockCall_lockSpec idm _ queueId h)

theorem osQueueGetIdByName_lockSpec (queueIdValid : Bool) (queueName : Option CStr) :
    LockSpec s (osQueueGetIdByName idm queueIdValid queueName) (fun _ => s) :=
  getIdByNameCall_lockSpec idm queueIdValid queueName h

theorem osQueueGetInfo_lockSpec (queueId : OsalId) (valid : Bool) :
    LockSpec s (osQueueGetInfo cfg idm queueId valid) (fun _ => s) :=
  .ite (.pure _) (.bindExcept (osObjectIdGetById_lockSpec idm .global queueId h) (fun _ => .pure _)
    fun _ => .bind .readTables fun _ => .bind .unlockAcquired fun _ => .pure _)

end

/-! ### Time bases -/

namespace LockState

def tbAcquire (s : LockState) (i : Nat) : LockState := { s with timebase := i :: s.timebase }

end LockState

namespace LockSpec
variable {s : LockState} {i : Nat}

theorem timeBaseLock (h : i ∉ s.timebase) : LockSpec s (osTimeBaseLockImpl i) (fun _ => s.tbAcquire i) :=
  emit (if_neg h)

theorem timeBaseUnlock : LockSpec (s.tbAcquire i) (osTimeBaseUnlockImpl i) (fun _ => s) :=
  emit (by simp [LockState.step, LockState.tbAcquire])

theorem timerApiGuard {cfg : Config} {taskGetId : Tables → OsalId} {α : Type} {err : α}
    {k : OsalM α} (hk : LockSpec s k (fun _ => s)) :
    LockSpec s (Osal.timerApiGuard cfg taskGetId err k) (fun _ => s) :=
  .bind .readTables fun _ => .ite (.pure _) hk

end LockSpec

section
variable {s : LockState} (cfg : Config) (idm : IdMgr) (taskGetId : Tables → OsalId)
  (h : osObjectTypeOsTimebase ∉ s.global)
include h

theorem osTimeBaseCreate_lockSpec (timerIdValid : Bool) (name : Option CStr) (sync : Option Nat)
    (usec : Nat) (createImpl : Nat → Int) :
    LockSpec s (osTimeBaseCreate cfg idm taskGetId timerIdValid name sync usec createImpl)
      (fun _ => s) := by
  unfold osTimeBaseCreate
  split
  · exact .pure _
  · refine .ite (.pure _) (.ite (.pure _) (.timerApiGuard ?_))
    exact .bindExcept (osObjectIdAllocateNew_lockSpec idm _ h) (fun _ => .pure _) fun i =>
      .bind (.modifyTables _) fun _ => .bind (osObjectIdFinalizeNew_acquired idm _ i) fun _ => .pure _

/-- `OS_TimeBaseSet` also takes the time base's own lock, inside the type lock. -/
theorem osTimeBaseSet_lockSpec (hs : s.timebase = []) (setImpl : Nat → Nat → Nat → Int)
    (timerId : OsalId) (start interval : Nat) :
    LockSpec s (osTimeBaseSet cfg idm taskGetId setImpl timerId start interval) (fun _ => s) := by
  refine .ite (.pure _) (.timerApiGuard ?_)
  refine .bindExcept (osObjectIdGetById_lockSpec idm .global timerId h) (fun _ => .pure _) fun i => ?_
  refine .bind (.timeBaseLock (by simp [LockState.afterLookup, LockState.acquire, hs])) fun _ => ?_
  have tail : LockSpec ((s.acquire osObjectTypeOsTimebase).tbAcquire i)
      (do osTimeBaseUnlockImpl i; osUnlockGlobal osObjectTypeOsTimebase; pure (setImpl i start interval))
      (fun _ => s) :=
    .bind .timeBaseUnlock fun _ => .bind .unlockAcquired fun _ => .pure _
  dsimp only
  split
  · exact .bind (.modifyTables _) fun _ => tail
  · exact .bind (.pure _) fun _ => tail

theorem osTimeBaseDelete_lockSpec (impl : Nat → Int) (timerId : OsalId) :
    LockSpec s (osTimeBaseDelete cfg idm taskGetId impl timerId) (fun _ => s) :=
  .timerApiGuard (deleteCall_lockSpec idm impl timerId h)

theorem osTimeBaseGetIdByName_lockSpec (timerIdValid : Bool) (name : Option CStr) :
    LockSpec s (osTimeBaseGetIdByName cfg idm taskGetId timerIdValid name) (fun _ => s) := by
  unfold osTimeBaseGetIdByName
  split
  · exact .pure _
  · exact .ite (.pure _) (.timerApiGuard (.bind (osObjectIdFindByName_lockSpec idm _ h) fun r => by
      cases r <;> exact .pure _))

theorem osTimeBaseGetInfo_lockSpec (impl : Nat → Int) (timebaseId : OsalId)
    (prop : Option OsTimebaseProp) :
    LockSpec s (osTimeBaseGetInfo cfg idm taskGetId impl timebaseId prop) (fun _ => s) := by
  unfold osTimeBaseGetInfo
  split
  · exact .pure _
  · exact .timerApiGuard (.bindExcept (osObjectIdGetById_lockSpec idm .global timebaseId h)
      (fun _ => .pure _) fun _ => .bind .readTables fun _ => .bind .unlockAcquired fun _ => .pure _)

theorem osTimeBaseGetFreeRun_lockSpec (timebaseId : OsalId) :
    LockSpec s (osTimeBaseGetFreeRun idm timebaseId) (fun _ => s) :=
  .bindExcept (osObjectIdGetById_lockSpec idm .none timebaseId h) (fun _ => .pure _) fun _ =>
    .bind .readTables fun _ => .pure _

end

end Osal
