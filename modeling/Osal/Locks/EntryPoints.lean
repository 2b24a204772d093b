import Osal.Locks.Resources
import Osal.Locks.FileSys

/-!
# Every entry point leaves the locks as it found them

`ApiCall` is a call of one of the shared layer's entry points with its arguments and the results
of its adapter calls; `ApiCall.run` runs it against an ID manager and a task-identity function.
From no lock held, every call, on every path, replays against the lock automaton and ends with
no type lock, no time base lock and no reference held: it never takes a lock it holds, never
releases one it does not, and releases each lock it takes.
-/

namespace Osal

/-- A call of a shared-layer entry point. -/
inductive ApiCall
  | binSemCreate (semIdValid : Bool) (semName : Option CStr) (initial options : Nat)
      (createImpl : Nat → Nat → Nat → Int)
  | binSemDelete (deleteImpl : Nat → Int) (semId : OsalId)
  | binSemGive (giveImpl : Nat → Int) (semId : OsalId)
  | binSemFlush (flushImpl : Nat → Int) (semId : OsalId)
  | binSemTake (takeImpl : Nat → Int) (semId : OsalId)
  | binSemTimedWait (timedWaitImpl : Nat → Nat → Int) (semId : OsalId) (msecs : Nat)
  | binSemGetIdByName (semIdValid : Bool) (semName : Option CStr)
  | binSemGetInfo (getInfoImpl : Nat → Int) (semId : OsalId) (binPropValid : Bool)
  | queueCreate (queueIdValid : Bool) (queueName : Option CStr) (depth dataSize flags : Nat)
      (createImpl : Nat → Nat → Int)
  | queueDelete (deleteImpl : Nat → Int) (queueId : OsalId)
  | queueGet (getImpl : Nat → Nat → Int → Int) (queueId : OsalId) (dataValid : Bool) (size : Nat)
      (sizeCopiedValid : Bool) (timeout : Int)
  | queuePut (putImpl : Nat → Nat → Nat → Int) (queueId : OsalId) (dataValid : Bool) (size flags : Nat)
  | queueGetIdByName (queueIdValid : Bool) (queueName : Option CStr)
  | queueGetInfo (queueId : OsalId) (queuePropValid : Bool)
  | timeBaseCreate (timerIdValid : Bool) (name : Option CStr) (externalSync : Option Nat)
      (microSecPerTick : Nat) (createImpl : Nat → Int)
  | timeBaseSet (setImpl : Nat → Nat → Nat → Int) (timerId : OsalId) (startTime intervalTime : Nat)
  | timeBaseDelete (deleteImpl : Nat → Int) (timerId : OsalId)
  | timeBaseGetIdByName (timerIdValid : Bool) (name : Option CStr)
  | timeBaseGetInfo (getInfoImpl : Nat → Int) (timebaseId : OsalId) (prop : Option OsTimebaseProp)
  | timeBaseGetFreeRun (timebaseId : OsalId)
  | mkfs (address : Nat) (devname volname : Option CStr) (blocksize numblocks : Nat)
      (start : StartResult) (formatRc stopRc : Int)
  | initfs (address : Nat) (devname volname : Option CStr) (blocksize numblocks : Nat)
      (start : StartResult) (stopRc : Int)
  | addFixedMap (physPath virtPath : Option CStr) (start : StartResult) (mountRc : Int)
  | rmfs (devname : Option CStr) (stopRc : Int)
  | mount (devname mountpoint : Option CStr) (mountRc : Int)
  | unmount (mountpoint : Option CStr) (unmountRc : Int)
  | fsBlocksFree (name : Option CStr) (statRc : Int) (statfs : OsStatvfs)
  | fsBytesFree (name : Option CStr) (bytesFreeValid : Bool) (statRc : Int) (statfs : OsStatvfs)
  | chkfs (name : Option CStr) (checkRc : Int)
  | getPhysDriveName (physDriveNameValid : Bool) (mountPoint : Option CStr)
  | getFsInfo (filesysInfoValid : Bool)
  | translatePath (virtualPath : Option CStr) (localPath : Option (List Char))

def ApiCall.run (cfg : Config) (idm : IdMgr) (taskGetId : Tables → OsalId) : ApiCall → OsalM Unit
  | .binSemCreate v n i o c => discard <| osBinSemCreate cfg idm v n i o c
  | .binSemDelete d id => discard <| osBinSemDelete idm d id
  | .binSemGive g id => discard <| osBinSemGive idm g id
  | .binSemFlush f id => discard <| osBinSemFlush idm f id
  | .binSemTake t id => discard <| osBinSemTake idm t id
  | .binSemTimedWait w id ms => discard <| osBinSemTimedWait idm w id ms
  | .binSemGetIdByName v n => discard <| osBinSemGetIdByName idm v n
  | .binSemGetInfo g id v => discard <| osBinSemGetInfo cfg idm g id v
  | .queueCreate v n d z f c => discard <| osQueueCreate cfg idm v n d z f c
  | .queueDelete d id => discard <| osQueueDelete idm d id
  | .queueGet g id dv sz sv tmo => discard <| osQueueGet idm g id dv sz sv tmo
  | .queuePut p id dv sz f => discard <| osQueuePut idm p id dv sz f
  | .queueGetIdByName v n => discard <| osQueueGetIdByName idm v n
  | .queueGetInfo id v => discard <| osQueueGetInfo cfg idm id v
  | .timeBaseCreate v n e u c => discard <| osTimeBaseCreate cfg idm taskGetId v n e u c
  | .timeBaseSet f id st iv => discard <| osTimeBaseSet cfg idm taskGetId f id st iv
  | .timeBaseDelete d id => discard <| osTimeBaseDelete cfg idm taskGetId d id
  | .timeBaseGetIdByName v n => discard <| osTimeBaseGetIdByName cfg idm taskGetId v n
  | .timeBaseGetInfo g id p => discard <| osTimeBaseGetInfo cfg idm taskGetId g id p
  | .timeBaseGetFreeRun id => discard <| osTimeBaseGetFreeRun idm id
  | .mkfs a d v b n st f sp => discard <| osMkfs cfg idm a d v b n st f sp
  | .initfs a d v b n st sp => discard <| osInitfs cfg idm a d v b n st sp
  | .addFixedMap p v st m => discard <| osFileSysAddFixedMap cfg idm p v st m
  | .rmfs d sp => discard <| osRmfs cfg idm d sp
  | .mount d m rc => discard <| osMount cfg idm d m rc
  | .unmount m rc => discard <| osUnmount cfg idm m rc
  | .fsBlocksFree n rc st => discard <| osFsBlocksFree cfg idm n rc st
  | .fsBytesFree n v rc st => discard <| osFsBytesFree cfg idm n v rc st
  | .chkfs n rc => discard <| osChkfs cfg idm n rc
  | .getPhysDriveName v m => discard <| osFsGetPhysDriveName cfg idm v m
  | .getFsInfo v => discard <| osGetFsInfo cfg v
  | .translatePath vp lp => discard <| osTranslatePath cfg idm vp lp

/-- Every entry point, from no lock held, under every result of the ID manager and the adapter,
replays against the lock automaton and ends with nothing held. -/
theorem apiCall_lockSpec (cfg : Config) (idm : IdMgr) (taskGetId : Tables → OsalId) (c : ApiCall) :
    LockSpec LockState.idle (c.run cfg idm taskGetId) (fun _ => LockState.idle) := by
  have h : ∀ t, t ∉ LockState.idle.global := fun _ => List.not_mem_nil _
  cases c <;> refine .discard ?_
  · exact osBinSemCreate_lockSpec cfg idm (h _) _ _ _ _ _
  · exact osBinSemDelete_lockSpec idm (h _) _ _
  · exact osBinSemGive_lockSpec idm (h _) _ _
  · exact osBinSemFlush_lockSpec idm (h _) _ _
  · exact osBinSemTake_lockSpec idm (h _) _ _
  · exact osBinSemTimedWait_lockSpec idm (h _) _ _ _
  · exact osBinSemGetIdByName_lockSpec idm (h _) _ _
  · exact osBinSemGetInfo_lockSpec cfg idm (h _) _ _ _
  · exact osQueueCreate_lockSpec cfg idm (h _) _ _ _ _ _ _
  · exact osQueueDelete_lockSpec idm (h _) _ _
  · exact osQueueGet_lockSpec idm (h _) _ _ _ _ _ _
  · exact osQueuePut_lockSpec idm (h _) _ _ _ _ _
  · exact osQueueGetIdByName_lockSpec idm (h _) _ _
  · exact osQueueGetInfo_lockSpec cfg idm (h _) _ _
  · exact osTimeBaseCreate_lockSpec cfg idm taskGetId (h _) _ _ _ _ _
  · exact osTimeBaseSet_lockSpec cfg idm taskGetId (h _) rfl _ _ _ _
  · exact osTimeBaseDelete_lockSpec cfg idm taskGetId (h _) _ _
  · exact osTimeBaseGetIdByName_lockSpec cfg idm taskGetId (h _) _ _
  · exact osTimeBaseGetInfo_lockSpec cfg idm taskGetId (h _) _ _ _
  · exact osTimeBaseGetFreeRun_lockSpec idm (h _) _
  · exact osMkfs_lockSpec cfg idm (h _) _ _ _ _ _ _ _ _
  · exact osInitfs_lockSpec cfg idm (h _) _ _ _ _ _ _ _
  · exact osFileSysAddFixedMap_lockSpec cfg idm (h _) _ _ _ _
  · exact osRmfs_lockSpec cfg idm (h _) _ _
  · exact osMount_lockSpec cfg idm (h _) _ _ _
  · exact osUnmount_lockSpec cfg idm (h _) _ _
  · exact osFsBlocksFree_lockSpec cfg idm (h _) _ _ _
  · exact osFsBytesFree_lockSpec cfg idm (h _) _ _ _ _
  · exact osChkfs_lockSpec cfg idm (h _) _ _
  · exact osFsGetPhysDriveName_lockSpec cfg idm (h _) _ _
  · exact osGetFsInfo_lockSpec cfg (h _) _ (h _)
  · exact osTranslatePath_lockSpec cfg idm (h _) _ _

end Osal
