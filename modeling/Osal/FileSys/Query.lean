import Osal.FileSys.Api

/-!
# File system queries and path translation (`osapi-filesys.c`)

`OS_fsBlocksFree`, `OS_fsBytesFree`, `OS_chkfs`, `OS_FS_GetPhysDriveName`, `OS_GetFsInfo` and
`OS_TranslatePath`. `OS_TranslatePath` copies into the caller's `LocalPath` buffer with two
`memcpy` calls and a NUL store at indices it computes; these go through `writeBuf` and
`CStr.readRange`, so the buffer it returns is `none` exactly when one of them would leave
`LocalPath` or read `VirtualPath` past its terminator.
-/

namespace Osal

/-- `OS_statvfs_t`, as `OS_FileSysStatVolume_Impl` fills it; its header is not in the repository, so
the fields are unbounded. -/
structure OsStatvfs where
  blockSize : Nat
  totalBlocks : Nat
  blocksFree : Nat

structure OsFsinfo where
  maxFds : Nat
  freeFds : Nat
  maxVolumes : Nat
  freeVolumes : Nat

section
variable (cfg : Config) (idm : IdMgr)

def osFileSysQueryImpl (rc : Int) (_localId : Nat) : OsalM Int := pure rc

/-- `OS_fsBlocksFree(name)`: the number of free blocks, stored into the `int32` `return_code`, or an
error. -/
def osFsBlocksFree (name : Option CStr) (statRc : Int) (statfs : OsStatvfs) : OsalM Int :=
  match name with
  | none => pure osInvalidPointer
  | some n =>
    if n.length ≥ cfg.maxPathLen then pure osFsErrPathTooLong
    else do
      let r ← osObjectIdGetBySearch idm .global osObjectTypeOsFilesys (osFileSysFindVirtMountPoint n)
      match r with
      | .error _ => pure osFsErrPathInvalid
      | .ok localId => do
        let rc ← osFileSysQueryImpl statRc localId
        osUnlockGlobal osObjectTypeOsFilesys
        pure (if rc = osSuccess then toInt32 statfs.blocksFree else rc)

/-- `OS_fsBytesFree(name, bytes_free)`: the status and the value written to `*bytes_free`, the
`uint64` product of the free blocks and the block size; `bytesFree` says the pointer is not
`NULL`. -/
def osFsBytesFree (name : Option CStr) (bytesFree : Bool) (statRc : Int) (statfs : OsStatvfs) :
    OsalM (Int × Option Nat) :=
  match name with
  | some n =>
    if !bytesFree then pure (osInvalidPointer, none)
    else if n.length ≥ cfg.maxPathLen then pure (osFsErrPathTooLong, none)
    else do
      let r ← osObjectIdGetBySearch idm .global osObjectTypeOsFilesys (osFileSysFindVirtMountPoint n)
      match r with
      | .error _ => pure (osFsErrPathInvalid, none)
      | .ok localId => do
        let rc ← osFileSysQueryImpl statRc localId
        osUnlockGlobal osObjectTypeOsFilesys
        pure (rc, if rc = osSuccess then some (statfs.blocksFree * statfs.blockSize % 2 ^ 64) else none)
  | none => pure (osInvalidPointer, none)

def osChkfs (name : Option CStr) (checkRc : Int) : OsalM Int :=
  match name with
  | none => pure osInvalidPointer
  | some n =>
    if n.length ≥ cfg.maxPathLen then pure osFsErrPathTooLong
    else do
      let r ← osObjectIdGetBySearch idm .refcount osObjectTypeOsFilesys (osFileSysFindVirtMountPoint n)
      match r with
      | .error rc => pure rc
      | .ok localId => do
        let rc ← osFileSysQueryImpl checkRc localId
        discard <| osObjectIdRefcountDecr idm osObjectTypeOsFilesys localId
        pure rc

/-- `OS_FS_GetPhysDriveName(PhysDriveName, MountPoint)`: the status and the string written to
`PhysDriveName`; `physDriveName` says that pointer is not `NULL`. -/
def osFsGetPhysDriveName (physDriveName : Bool) (mountPoint : Option CStr) : OsalM (Int × Option CStr) :=
  match mountPoint with
  | some mp =>
    if !physDriveName then pure (osInvalidPointer, none)
    else if mp.length ≥ cfg.maxPathLen then pure (osFsErrPathTooLong, none)
    else do
      let r ← osObjectIdGetBySearch idm .global osObjectTypeOsFilesys (osFileSysFindVirtMountPoint mp)
      match r with
      | .error _ => pure (osErrNameNotFound, none)
      | .ok localId => do
        let t ← readTables
        let local_ := t.filesys localId
        let res := if local_.flags.and osFilesysFlagIsMountedSystem ≠ FsFlags.zero then
            (osSuccess, some (local_.systemMountpt.take (cfg.fsPhysNameLen - 1)))
          else (osErrIncorrectObjState, none)
        osUnlockGlobal osObjectTypeOsFilesys
        pure res
  | none => pure (osInvalidPointer, none)

def freeSlots (t : Tables) (idtype maxId : Nat) : Nat :=
  (List.range maxId).countP fun i => !osObjectIdDefined (t.common idtype i).activeId

def osGetFsInfo (filesysInfo : Bool) : OsalM (Int × Option OsFsinfo) :=
  if !filesysInfo then pure (osInvalidPointer, none)
  else do
    osLockGlobal osObjectTypeOsStream
    let t ← readTables
    let freeFds := freeSlots t osObjectTypeOsStream cfg.maxNumOpenFiles
    osUnlockGlobal osObjectTypeOsStream
    osLockGlobal osObjectTypeOsFilesys
    let t ← readTables
    let freeVolumes := freeSlots t osObjectTypeOsFilesys cfg.maxFileSystems
    osUnlockGlobal osObjectTypeOsFilesys
    pure (osSuccess, some ⟨cfg.maxNumOpenFiles, freeFds, cfg.maxFileSystems, freeVolumes⟩)

/-- The part of `OS_TranslatePath` under the table lock: with the record found, the system mount
point is copied to the start of `LocalPath`. Returns the status, `SysMountPointLen`,
`VirtPathBegin` and the buffer. -/
def translateLocked (virtPathLen : Nat) (buf : List Char) (local_ : OsFilesysInternalRecord) :
    Int × Nat × Nat × Option (List Char) :=
  if local_.flags.and osFilesysFlagIsMountedSystem ≠ FsFlags.zero then
    let sysMountPointLen := local_.systemMountpt.length
    (osSuccess, sysMountPointLen, local_.virtualMountpt.length,
      if sysMountPointLen < cfg.maxLocalPathLen then writeBuf buf 0 local_.systemMountpt.chars
      else some buf)
  else (osErrIncorrectObjState, 0, virtPathLen, some buf)

def translateTail (vp : CStr) (sysMountPointLen virtPathBegin : Nat) (buf : Option (List Char)) :
    Int × Option (List Char) :=
  if vp.length < virtPathBegin then (osFsErrPathInvalid, buf)
  else
    let virtPathLen := vp.length - virtPathBegin
    if sysMountPointLen + virtPathLen < cfg.maxLocalPathLen then
      (osSuccess, do
        let b ← buf
        let src ← vp.readRange virtPathBegin virtPathLen
        let b ← writeBuf b sysMountPointLen src
        writeBuf b (sysMountPointLen + virtPathLen) ['\x00'])
    else (osFsErrPathTooLong, buf)

/-- `OS_TranslatePath(VirtualPath, LocalPath)`: the status and the `LocalPath` buffer after the
call (`none` after an access outside the buffers). -/
def osTranslatePath (virtualPath : Option CStr) (localPath : Option (List Char)) :
    OsalM (Int × Option (List Char)) :=
  match virtualPath, localPath with
  | some vp, some buf =>
    if vp.length ≥ cfg.maxPathLen then pure (osFsErrPathTooLong, some buf)
    else match strrchr vp '/' with
      | none => pure (osFsErrPathInvalid, some buf)
      | some i =>
        if (vp.drop (i + 1)).length ≥ cfg.maxFileName then pure (osFsErrNameTooLong, some buf)
        else if vp.get 0 ≠ '/' then pure (osFsErrPathInvalid, some buf)
        else do
          let r ← osObjectIdGetBySearch idm .global osObjectTypeOsFilesys (osFileSysFindVirtMountPoint vp)
          match r with
          | .error _ => pure (osFsErrPathInvalid, some buf)
          | .ok localId => do
            let t ← readTables
            let (rc, sysMountPointLen, virtPathBegin, buf') := translateLocked cfg vp.length buf (t.filesys localId)
            osUnlockGlobal osObjectTypeOsFilesys
            pure (if rc = osSuccess then translateTail cfg vp sysMountPointLen virtPathBegin buf' else (rc, buf'))
  | _, _ => pure (osInvalidPointer, localPath)

end

end Osal
