import Mathlib.Data.BitVec

/-!
# Shared definitions of the OSAL shared layer

The status codes, resource types and configuration constants that the shared layer
(`src/os/shared`) and the VxWorks adapter read. The headers that fix their values
(`osconfig.h`, `osapi-error.h`, `osapi-idmap.h`) are not in the repository: the configuration is
a parameter of every definition that reads it, and the codes are modelled from the spec (§3.1,
§6, §7), which names them and says which are distinct, but gives no values beyond `OS_SUCCESS = 0`
and `undefined = 0`.
-/

namespace Osal

/-- The compile-time configuration (`osconfig.h`, §6.1): table capacities and buffer sizes, each
positive, and the split of an object ID into type and serial (`OS_OBJECT_TYPE_SHIFT`), which
leaves room above the shift for every resource type (`OS_OBJECT_TYPE_USER = 13` below). -/
structure Config where
  maxTasks : Nat
  maxQueues : Nat
  maxBinSemaphores : Nat
  maxCountSemaphores : Nat
  maxMutexes : Nat
  maxNumOpenFiles : Nat
  maxNumOpenDirs : Nat
  maxTimebases : Nat
  maxTimers : Nat
  maxModules : Nat
  maxFileSystems : Nat
  maxConsoles : Nat
  maxApiName : Nat
  maxPathLen : Nat
  maxLocalPathLen : Nat
  maxFileName : Nat
  fsDevNameLen : Nat
  fsVolNameLen : Nat
  fsPhysNameLen : Nat
  queueMaxDepth : Nat
  objectTypeShift : Nat
  maxTasks_pos : 0 < maxTasks
  maxQueues_pos : 0 < maxQueues
  maxBinSemaphores_pos : 0 < maxBinSemaphores
  maxTimebases_pos : 0 < maxTimebases
  maxFileSystems_pos : 0 < maxFileSystems
  maxApiName_pos : 0 < maxApiName
  maxPathLen_pos : 0 < maxPathLen
  maxLocalPathLen_pos : 0 < maxLocalPathLen
  objectTypeShift_pos : 0 < objectTypeShift
  objectTypeShift_lt : objectTypeShift < 32
  objectTypes_fit : 13 < 2 ^ (32 - objectTypeShift)

/-! ### Status codes

Each under its macro's name. Modelled from the spec: §7 names the codes and says `OS_SUCCESS = 0`
and that the others are distinct and negative; they are numbered here in the order §7 lists them.
-/

@[simp] def osSuccess : Int := 0
@[simp] def osError : Int := -1
@[simp] def osInvalidPointer : Int := -2
@[simp] def osErrInvalidId : Int := -3
@[simp] def osErrNameTooLong : Int := -4
@[simp] def osErrNameNotFound : Int := -5
@[simp] def osErrNameTaken : Int := -6
@[simp] def osErrNoFreeIds : Int := -7
@[simp] def osErrIncorrectObjState : Int := -8
@[simp] def osErrObjectInUse : Int := -9
@[simp] def osSemFailure : Int := -10
@[simp] def osQueueInvalidSize : Int := -15
@[simp] def osTimerErrInvalidArgs : Int := -16
@[simp] def osFsErrPathTooLong : Int := -19
@[simp] def osFsErrPathInvalid : Int := -20
@[simp] def osFsErrNameTooLong : Int := -21
@[simp] def osFsErrDeviceNotFree : Int := -22

/-! ### Resource types

`OS_OBJECT_TYPE_*`, modelled from the spec: §3.1 lists the resource types after `undefined = 0`,
and §4.C orders the type locks by their numbers; they are numbered here in the order §3.1 lists
them.
-/

@[simp] def osObjectTypeOsTask : Nat := 1
@[simp] def osObjectTypeOsQueue : Nat := 2
@[simp] def osObjectTypeOsBinsem : Nat := 3
@[simp] def osObjectTypeOsCountsem : Nat := 4
@[simp] def osObjectTypeOsMutex : Nat := 5
@[simp] def osObjectTypeOsStream : Nat := 6
@[simp] def osObjectTypeOsDir : Nat := 7
@[simp] def osObjectTypeOsTimebase : Nat := 8
@[simp] def osObjectTypeOsTimecb : Nat := 9
@[simp] def osObjectTypeOsModule : Nat := 10
@[simp] def osObjectTypeOsFilesys : Nat := 11
@[simp] def osObjectTypeOsConsole : Nat := 12
@[simp] def osObjectTypeUser : Nat := 13

/-- `OS_GetMaxForObjectType`: the capacity of a type's table (0 for a type with no table). -/
def Config.maxForObjectType (cfg : Config) (idtype : Nat) : Nat :=
  if idtype = osObjectTypeOsTask then cfg.maxTasks
  else if idtype = osObjectTypeOsQueue then cfg.maxQueues
  else if idtype = osObjectTypeOsBinsem then cfg.maxBinSemaphores
  else if idtype = osObjectTypeOsCountsem then cfg.maxCountSemaphores
  else if idtype = osObjectTypeOsMutex then cfg.maxMutexes
  else if idtype = osObjectTypeOsStream then cfg.maxNumOpenFiles
  else if idtype = osObjectTypeOsDir then cfg.maxNumOpenDirs
  else if idtype = osObjectTypeOsTimebase then cfg.maxTimebases
  else if idtype = osObjectTypeOsTimecb then cfg.maxTimers
  else if idtype = osObjectTypeOsModule then cfg.maxModules
  else if idtype = osObjectTypeOsFilesys then cfg.maxFileSystems
  else if idtype = osObjectTypeOsConsole then cfg.maxConsoles
  else 0

@[simp] theorem Config.maxForObjectType_filesys (cfg : Config) :
    cfg.maxForObjectType osObjectTypeOsFilesys = cfg.maxFileSystems := rfl

/-- A small configuration, for concrete runs: four slots a table, names of 20 characters, paths
of 64, and a 16-bit serial number. -/
def Config.small : Config where
  maxTasks := 4
  maxQueues := 4
  maxBinSemaphores := 4
  maxCountSemaphores := 4
  maxMutexes := 4
  maxNumOpenFiles := 4
  maxNumOpenDirs := 4
  maxTimebases := 4
  maxTimers := 4
  maxModules := 4
  maxFileSystems := 4
  maxConsoles := 4
  maxApiName := 20
  maxPathLen := 64
  maxLocalPathLen := 64
  maxFileName := 20
  fsDevNameLen := 32
  fsVolNameLen := 32
  fsPhysNameLen := 64
  queueMaxDepth := 50
  objectTypeShift := 16
  maxTasks_pos := by decide
  maxQueues_pos := by decide
  maxBinSemaphores_pos := by decide
  maxTimebases_pos := by decide
  maxFileSystems_pos := by decide
  maxApiName_pos := by decide
  maxPathLen_pos := by decide
  maxLocalPathLen_pos := by decide
  objectTypeShift_pos := by decide
  objectTypeShift_lt := by decide
  objectTypes_fit := by decide

/-- The `int32` a 32-bit pattern stands for: `x` reduced into `[-2^31, 2^31)`. -/
def toInt32 (x : Int) : Int := (x + 2 ^ 31) % 2 ^ 32 - 2 ^ 31

/-! ### Object IDs -/

/-- `osal_id_t`: an opaque 32-bit object ID (`OS_ObjectIdToInteger`/`OS_ObjectIdFromInteger` are
the identity on it). -/
abbrev OsalId := BitVec 32

def osObjectIdUndefined : OsalId := 0

/-- `OS_OBJECT_ID_RESERVED`, the sentinel of a slot between `AllocateNew` and `FinalizeNew`. -/
def osObjectIdReserved : OsalId := 0xFFFFFFFF

/-- `OS_ObjectIdDefined`: modelled from the spec (§4.A, `defined(h) ≡ h ≠ undefined`). -/
def osObjectIdDefined (id : OsalId) : Bool := id != osObjectIdUndefined

end Osal
