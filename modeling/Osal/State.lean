import Osal.ObjectId
import Osal.CString

/-!
# The shared layer's global state

The per-type tables of common records (`OS_common_record_t`, one table per resource type) and
the internal records of the types the model covers (binary semaphores, queues, time bases,
file systems), with the state of the ID manager. The record types of `os-shared-*.h` are not in
the repository; their fields are the ones the shared code reads and writes (§3.2, §3.3).

A `World` pairs the tables with an event log: the lock and reference-count operations of the
lock contract (§4.D.1) and the volume calls made to the platform adapter, in the order they
happen. Nothing in the shared code reads the log; it is what the lock-discipline and the
adapter-agreement statements are about.
-/

namespace Osal

/-- `OS_common_record_t` -/
structure OsCommonRecord where
  nameEntry : Option CStr
  activeId : OsalId
  creator : OsalId
  refcount : Nat
  flags : Nat
deriving DecidableEq

def OsCommonRecord.zero : OsCommonRecord := ⟨none, 0, 0, 0, 0⟩

/-- `OS_bin_sem_internal_record_t` -/
structure OsBinSemInternalRecord where
  objName : CStr

/-- `OS_queue_internal_record_t` -/
structure OsQueueInternalRecord where
  queueName : CStr
  maxDepth : Nat
  maxSize : Nat

/-- `OS_timebase_internal_record_t`; `externalSync` stands for the sync function pointer
(`none` for `NULL`). -/
structure OsTimebaseInternalRecord where
  timebaseName : CStr
  externalSync : Option Nat
  accuracyUsec : Nat
  nominalStartTime : Nat
  nominalIntervalTime : Nat
  freerunTime : Nat

def OsTimebaseInternalRecord.zero : OsTimebaseInternalRecord := ⟨CStr.empty, none, 0, 0, 0, 0⟩

inductive OsFilesysType
  | unknown | fsBased | normalDisk | volatileDisk | mtd
deriving DecidableEq

/-- The file system `flags` bitmap (§3.3): the bits `OS_FILESYS_FLAG_IS_READY`,
`OS_FILESYS_FLAG_IS_FIXED`, `OS_FILESYS_FLAG_IS_MOUNTED_SYSTEM` and
`OS_FILESYS_FLAG_IS_MOUNTED_VIRTUAL`, one field per bit. -/
structure FsFlags where
  ready : Bool
  fixed : Bool
  mountedSystem : Bool
  mountedVirtual : Bool
deriving DecidableEq

namespace FsFlags

def zero : FsFlags := ⟨false, false, false, false⟩

def or (a b : FsFlags) : FsFlags :=
  ⟨a.ready || b.ready, a.fixed || b.fixed, a.mountedSystem || b.mountedSystem,
    a.mountedVirtual || b.mountedVirtual⟩

def and (a b : FsFlags) : FsFlags :=
  ⟨a.ready && b.ready, a.fixed && b.fixed, a.mountedSystem && b.mountedSystem,
    a.mountedVirtual && b.mountedVirtual⟩

def andNot (a b : FsFlags) : FsFlags :=
  ⟨a.ready && !b.ready, a.fixed && !b.fixed, a.mountedSystem && !b.mountedSystem,
    a.mountedVirtual && !b.mountedVirtual⟩

@[simp] theorem or_ready (a b : FsFlags) : (a.or b).ready = (a.ready || b.ready) := rfl
@[simp] theorem or_fixed (a b : FsFlags) : (a.or b).fixed = (a.fixed || b.fixed) := rfl
@[simp] theorem or_mountedSystem (a b : FsFlags) :
    (a.or b).mountedSystem = (a.mountedSystem || b.mountedSystem) := rfl
@[simp] theorem or_mountedVirtual (a b : FsFlags) :
    (a.or b).mountedVirtual = (a.mountedVirtual || b.mountedVirtual) := rfl
@[simp] theorem andNot_ready (a b : FsFlags) : (a.andNot b).ready = (a.ready && !b.ready) := rfl
@[simp] theorem andNot_fixed (a b : FsFlags) : (a.andNot b).fixed = (a.fixed && !b.fixed) := rfl
@[simp] theorem andNot_mountedSystem (a b : FsFlags) :
    (a.andNot b).mountedSystem = (a.mountedSystem && !b.mountedSystem) := rfl
@[simp] theorem andNot_mountedVirtual (a b : FsFlags) :
    (a.andNot b).mountedVirtual = (a.mountedVirtual && !b.mountedVirtual) := rfl

end FsFlags

def osFilesysFlagIsReady : FsFlags := ⟨true, false, false, false⟩
def osFilesysFlagIsFixed : FsFlags := ⟨false, true, false, false⟩
def osFilesysFlagIsMountedSystem : FsFlags := ⟨false, false, true, false⟩
def osFilesysFlagIsMountedVirtual : FsFlags := ⟨false, false, false, true⟩

/-- `OS_filesys_internal_record_t`; the strings live in buffers of `fsDevNameLen`,
`fsVolNameLen`, `maxLocalPathLen` and `maxPathLen` bytes; `address` is `0` for `NULL`. -/
structure OsFilesysInternalRecord where
  deviceName : CStr
  volumeName : CStr
  systemMountpt : CStr
  virtualMountpt : CStr
  blocksize : Nat
  numblocks : Nat
  address : Nat
  fstype : OsFilesysType
  flags : FsFlags

def OsFilesysInternalRecord.zero : OsFilesysInternalRecord :=
  ⟨CStr.empty, CStr.empty, CStr.empty, CStr.empty, 0, 0, 0, .unknown, FsFlags.zero⟩

/-- The global tables: the common records of every type (`OS_global_*_table`, indexed by type
and slot), the internal tables, and the ID manager's per-type last issued ID. -/
structure Tables where
  common : Nat → Nat → OsCommonRecord
  binSem : Nat → OsBinSemInternalRecord
  queue : Nat → OsQueueInternalRecord
  timebase : Nat → OsTimebaseInternalRecord
  filesys : Nat → OsFilesysInternalRecord
  lastIdIssued : Nat → OsalId

namespace Tables

def setCommon (t : Tables) (idtype i : Nat) (r : OsCommonRecord) : Tables :=
  { t with common := fun ty j => if ty = idtype ∧ j = i then r else t.common ty j }

def setFilesys (t : Tables) (i : Nat) (r : OsFilesysInternalRecord) : Tables :=
  { t with filesys := fun j => if j = i then r else t.filesys j }

def setBinSem (t : Tables) (i : Nat) (r : OsBinSemInternalRecord) : Tables :=
  { t with binSem := fun j => if j = i then r else t.binSem j }

def setQueue (t : Tables) (i : Nat) (r : OsQueueInternalRecord) : Tables :=
  { t with queue := fun j => if j = i then r else t.queue j }

def setTimebase (t : Tables) (i : Nat) (r : OsTimebaseInternalRecord) : Tables :=
  { t with timebase := fun j => if j = i then r else t.timebase j }

variable (t : Tables) (i j ty ty' : Nat)

@[simp] theorem common_setCommon (r : OsCommonRecord) :
    (t.setCommon ty i r).common ty' j = if ty' = ty ∧ j = i then r else t.common ty' j := rfl
@[simp] theorem filesys_setCommon (r : OsCommonRecord) : (t.setCommon ty i r).filesys = t.filesys := rfl
@[simp] theorem lastIdIssued_setCommon (r : OsCommonRecord) :
    (t.setCommon ty i r).lastIdIssued = t.lastIdIssued := rfl
@[simp] theorem filesys_setFilesys (r : OsFilesysInternalRecord) :
    (t.setFilesys i r).filesys j = if j = i then r else t.filesys j := rfl
@[simp] theorem common_setFilesys (r : OsFilesysInternalRecord) : (t.setFilesys i r).common = t.common := rfl
@[simp] theorem lastIdIssued_setFilesys (r : OsFilesysInternalRecord) :
    (t.setFilesys i r).lastIdIssued = t.lastIdIssued := rfl
@[simp] theorem filesys_setBinSem (r : OsBinSemInternalRecord) : (t.setBinSem i r).filesys = t.filesys := rfl
@[simp] theorem common_setBinSem (r : OsBinSemInternalRecord) : (t.setBinSem i r).common = t.common := rfl
@[simp] theorem filesys_setQueue (r : OsQueueInternalRecord) : (t.setQueue i r).filesys = t.filesys := rfl
@[simp] theorem common_setQueue (r : OsQueueInternalRecord) : (t.setQueue i r).common = t.common := rfl
@[simp] theorem filesys_setTimebase (r : OsTimebaseInternalRecord) :
    (t.setTimebase i r).filesys = t.filesys := rfl
@[simp] theorem common_setTimebase (r : OsTimebaseInternalRecord) :
    (t.setTimebase i r).common = t.common := rfl

/-- The tables as `OS_API_Init` leaves them: every record zeroed, so no slot in use. -/
def zero : Tables :=
  ⟨fun _ _ => OsCommonRecord.zero, fun _ => ⟨CStr.empty⟩, fun _ => ⟨CStr.empty, 0, 0⟩,
    fun _ => OsTimebaseInternalRecord.zero, fun _ => OsFilesysInternalRecord.zero, fun _ => 0⟩

def setNameEntry (t : Tables) (idtype i : Nat) (n : Option CStr) : Tables :=
  t.setCommon idtype i { t.common idtype i with nameEntry := n }

def setActiveId (t : Tables) (idtype i : Nat) (id : OsalId) : Tables :=
  t.setCommon idtype i { t.common idtype i with activeId := id }

@[simp] theorem filesys_setNameEntry (n : Option CStr) : (t.setNameEntry ty i n).filesys = t.filesys := rfl
@[simp] theorem activeId_setNameEntry (n : Option CStr) :
    ((t.setNameEntry ty i n).common ty' j).activeId = (t.common ty' j).activeId := by
  simp only [setNameEntry, common_setCommon]; split <;> simp_all
@[simp] theorem lastIdIssued_setNameEntry (n : Option CStr) :
    (t.setNameEntry ty i n).lastIdIssued = t.lastIdIssued := rfl
@[simp] theorem filesys_setActiveId (id : OsalId) : (t.setActiveId ty i id).filesys = t.filesys := rfl
@[simp] theorem activeId_setActiveId (id : OsalId) :
    ((t.setActiveId ty i id).common ty' j).activeId =
      if ty' = ty ∧ j = i then id else (t.common ty' j).activeId := by
  simp only [setActiveId, common_setCommon]; split <;> rfl

end Tables

inductive VolumeOp
  | start | format | stop | mount | unmount
deriving DecidableEq

/-- What the shared layer does that the lock contract and the adapter see. -/
inductive Event
  | lockGlobal (idtype : Nat)
  | unlockGlobal (idtype : Nat)
  | timeBaseLock (localId : Nat)
  | timeBaseUnlock (localId : Nat)
  | refcountIncr (idtype localId : Nat)
  | refcountDecr (idtype localId : Nat)
  | allocate (idtype localId : Nat)
  | volume (op : VolumeOp) (localId : Nat) (rc : Int)
deriving DecidableEq

structure World where
  tables : Tables
  log : List Event

end Osal
