import Osal.IdMap

/-!
# File system registration, mount and unmount (`osapi-filesys.c`)

`OS_FileSys_Initialize` (behind `OS_mkfs`/`OS_initfs`), `OS_FileSysAddFixedMap`, `OS_rmfs`,
`OS_mount`, `OS_unmount` and the search predicate `OS_FileSys_FindVirtMountPoint`, over an
arbitrary ID manager `idm`. The platform adapter's volume calls take their results as arguments:
a call's status, and for `OS_FileSysStartVolume_Impl` the system mount point it may fill in (the
adapter writes it with a bounded copy). Each adapter call is logged as a `volume` event.
-/

namespace Osal

/-- What `OS_FileSysStartVolume_Impl` returns, and the system mount point it writes, if any. -/
structure StartResult where
  rc : Int
  systemMountpt : Option CStr

def osFilesysRamdiskVolnamePrefix : CStr := ⟨['R', 'A', 'M'], by decide⟩

namespace Tables

def modifyFilesys (t : Tables) (i : Nat) (f : OsFilesysInternalRecord → OsFilesysInternalRecord) :
    Tables :=
  t.setFilesys i (f (t.filesys i))

@[simp] theorem filesys_modifyFilesys (t : Tables) (i j : Nat)
    (f : OsFilesysInternalRecord → OsFilesysInternalRecord) :
    (t.modifyFilesys i f).filesys j = if j = i then f (t.filesys i) else t.filesys j := rfl
@[simp] theorem common_modifyFilesys (t : Tables) (i : Nat)
    (f : OsFilesysInternalRecord → OsFilesysInternalRecord) : (t.modifyFilesys i f).common = t.common := rfl
@[simp] theorem lastIdIssued_modifyFilesys (t : Tables) (i : Nat)
    (f : OsFilesysInternalRecord → OsFilesysInternalRecord) :
    (t.modifyFilesys i f).lastIdIssued = t.lastIdIssued := rfl

end Tables

section
variable (cfg : Config) (idm : IdMgr)

/-- The table update of `OS_FileSysStartVolume_Impl`: the system mount point it writes into the
record, if it writes one. -/
def startVolumeTables (res : StartResult) (localId : Nat) (t : Tables) : Tables :=
  match res.systemMountpt with
  | some m => t.modifyFilesys localId fun r => { r with systemMountpt := m.take (cfg.maxLocalPathLen - 1) }
  | none => t

@[simp] theorem common_startVolumeTables (res : StartResult) (i : Nat) (t : Tables) :
    (startVolumeTables cfg res i t).common = t.common := by
  unfold startVolumeTables; split <;> rfl
@[simp] theorem lastIdIssued_startVolumeTables (res : StartResult) (i : Nat) (t : Tables) :
    (startVolumeTables cfg res i t).lastIdIssued = t.lastIdIssued := by
  unfold startVolumeTables; split <;> rfl
@[simp] theorem flags_startVolumeTables (res : StartResult) (i j : Nat) (t : Tables) :
    ((startVolumeTables cfg res i t).filesys j).flags = (t.filesys j).flags := by
  unfold startVolumeTables
  split <;> simp only [Tables.filesys_modifyFilesys, apply_ite, ite_eq_right_iff]
  exact fun h => h ▸ rfl
@[simp] theorem virtualMountpt_startVolumeTables (res : StartResult) (i j : Nat) (t : Tables) :
    ((startVolumeTables cfg res i t).filesys j).virtualMountpt = (t.filesys j).virtualMountpt := by
  unfold startVolumeTables
  split <;> simp only [Tables.filesys_modifyFilesys, apply_ite, ite_eq_right_iff]
  exact fun h => h ▸ rfl
theorem filesys_startVolumeTables_of_ne (res : StartResult) {i j : Nat} (t : Tables) (h : j ≠ i) :
    (startVolumeTables cfg res i t).filesys j = t.filesys j := by
  unfold startVolumeTables; split <;> simp [h]

def osFileSysStartVolumeImpl (res : StartResult) (localId : Nat) : OsalM Int := do
  modifyTables (startVolumeTables cfg res localId)
  emit (.volume .start localId res.rc)
  pure res.rc

theorem run_osFileSysStartVolumeImpl (w : World) (res : StartResult) (i : Nat) :
    (osFileSysStartVolumeImpl cfg res i).run w =
      (res.rc, ⟨startVolumeTables cfg res i w.tables, w.log ++ [.volume .start i res.rc]⟩) := rfl

/-- A volume call of the adapter that only returns a status (`OS_FileSysFormatVolume_Impl`,
`OS_FileSysStopVolume_Impl`, `OS_FileSysMountVolume_Impl`, `OS_FileSysUnmountVolume_Impl`). -/
def osFileSysVolumeImpl (op : VolumeOp) (rc : Int) (localId : Nat) : OsalM Int := do
  emit (.volume op localId rc)
  pure rc

theorem run_osFileSysVolumeImpl (w : World) (op : VolumeOp) (rc : Int) (i : Nat) :
    (osFileSysVolumeImpl op rc i).run w = (rc, { w with log := w.log ++ [.volume op i rc] }) := rfl

def osFileSysFindVirtMountPoint (target : CStr) (t : Tables) (localId : Nat) : Bool :=
  let rec_ := t.filesys localId
  if rec_.flags.and osFilesysFlagIsMountedVirtual = FsFlags.zero then false
  else
    let mplen := rec_.virtualMountpt.length
    decide (mplen > 0) && strncmp target rec_.virtualMountpt mplen == 0 &&
      (target.get mplen == '/' || target.get mplen == '\x00')

/-- `OS_FileSys_FindVirtMountPoint` holds of a record mounted virtually whose non-empty mount point
is a prefix of `target` ending where `target` has a `/` or its end. -/
theorem osFileSysFindVirtMountPoint_iff (target : CStr) (t : Tables) (i : Nat) :
    osFileSysFindVirtMountPoint target t i = true ↔
      (t.filesys i).flags.mountedVirtual = true ∧ 0 < (t.filesys i).virtualMountpt.length ∧
      target.chars.take (t.filesys i).virtualMountpt.length = (t.filesys i).virtualMountpt.chars ∧
      (target.get (t.filesys i).virtualMountpt.length = '/' ∨
        target.get (t.filesys i).virtualMountpt.length = '\x00') := by
  have hz : (t.filesys i).flags.and osFilesysFlagIsMountedVirtual = FsFlags.zero ↔
      (t.filesys i).flags.mountedVirtual = false := by
    simp [FsFlags.and, FsFlags.zero, osFilesysFlagIsMountedVirtual, FsFlags.mk.injEq]
  rw [osFileSysFindVirtMountPoint]
  split_ifs with h
  · simp [hz.1 h]
  · simp [hz.not.1 h, strncmp_eq_zero_iff, CStr.length, List.take_length, and_assoc]

theorem osFileSysFindVirtMountPoint_self {t : Tables} {i : Nat}
    (hv : (t.filesys i).flags.mountedVirtual) (hl : 0 < (t.filesys i).virtualMountpt.length) :
    osFileSysFindVirtMountPoint (t.filesys i).virtualMountpt t i := by
  rw [osFileSysFindVirtMountPoint_iff]
  exact ⟨hv, hl, by simp [CStr.length], .inr (by simp [CStr.get, CStr.length])⟩

def initializeRecord (dev vol : CStr) (address blocksize numblocks : Nat) : OsFilesysInternalRecord :=
  let local_ : OsFilesysInternalRecord :=
    { OsFilesysInternalRecord.zero with
      deviceName := dev, blocksize := blocksize, numblocks := numblocks, address := address,
      volumeName := vol }
  if local_.fstype = .unknown ∧
      (local_.address ≠ 0 ∨ strncmp local_.volumeName osFilesysRamdiskVolnamePrefix 3 = 0) then
    { local_ with fstype := .volatileDisk }
  else local_

@[simp] theorem initializeRecord_flags (dev vol : CStr) (address blocksize numblocks : Nat) :
    (initializeRecord dev vol address blocksize numblocks).flags = FsFlags.zero := by
  unfold initializeRecord; dsimp only; split <;> rfl

/-- `OS_FileSys_Initialize`, after the volume started: format it (for `mkfs`), then mark it
ready, or stop it if formatting failed. -/
def initializeStarted (shouldFormat : Bool) (formatRc stopRc : Int) (localId : Nat) : OsalM Int := do
  let rc ← if shouldFormat then osFileSysVolumeImpl .format formatRc localId else pure osSuccess
  if rc = osSuccess then
    modifyTables fun t => t.modifyFilesys localId fun r => { r with flags := r.flags.or osFilesysFlagIsReady }
  else
    discard <| osFileSysVolumeImpl .stop stopRc localId
  pure rc

theorem run_initializeStarted (w : World) (fmt : Bool) (formatRc stopRc : Int) (i : Nat) :
    (initializeStarted fmt formatRc stopRc i).run w =
      let rc := if fmt then formatRc else osSuccess
      (rc, ⟨if rc = osSuccess then
          w.tables.modifyFilesys i fun r => { r with flags := r.flags.or osFilesysFlagIsReady }
        else w.tables,
        w.log ++ (if fmt then [.volume .format i formatRc] else []) ++
          (if rc = osSuccess then [] else [.volume .stop i stopRc])⟩) := by
  cases fmt
  · simp [initializeStarted]
  · simp only [initializeStarted, run_bind, run_osFileSysVolumeImpl, ite_true]
    split_ifs <;> simp [*, run_osFileSysVolumeImpl]

def osFileSysInitialize (address : Nat) (fsdevname fsvolname : Option CStr) (blocksize numblocks : Nat)
    (shouldFormat : Bool) (start : StartResult) (formatRc stopRc : Int) : OsalM Int :=
  match fsdevname, fsvolname with
  | some dev, some vol =>
    if dev.length = 0 ∨ vol.length = 0 then pure osFsErrPathInvalid
    else if dev.length ≥ cfg.fsDevNameLen ∨ vol.length ≥ cfg.fsVolNameLen then pure osFsErrPathTooLong
    else do
      let r ← osObjectIdAllocateNew idm osObjectTypeOsFilesys dev
      match r with
      | .error rc => pure rc
      | .ok localId => do
        modifyTables fun t => (t.setFilesys localId (initializeRecord dev vol address blocksize numblocks)).setNameEntry
          osObjectTypeOsFilesys localId (some dev)
        let rc ← osFileSysStartVolumeImpl cfg start localId
        let rc ← if rc = osSuccess then initializeStarted shouldFormat formatRc stopRc localId else pure rc
        let r ← osObjectIdFinalizeNew idm rc osObjectTypeOsFilesys localId
        pure r.1
  | _, _ => pure osInvalidPointer

/-- The historic code `OS_mkfs`/`OS_initfs` give for a name in use or a full table. -/
def deviceNotFree (rc : Int) : Int :=
  if rc = osErrIncorrectObjState ∨ rc = osErrNoFreeIds then osFsErrDeviceNotFree else rc

def osMkfs (address : Nat) (devname volname : Option CStr) (blocksize numblocks : Nat)
    (start : StartResult) (formatRc stopRc : Int) : OsalM Int :=
  deviceNotFree <$> osFileSysInitialize cfg idm address devname volname blocksize numblocks true start
    formatRc stopRc

def osInitfs (address : Nat) (devname volname : Option CStr) (blocksize numblocks : Nat)
    (start : StartResult) (stopRc : Int) : OsalM Int :=
  deviceNotFree <$> osFileSysInitialize cfg idm address devname volname blocksize numblocks false start
    osSuccess stopRc

/-- The device name `OS_FileSysAddFixedMap` derives: the text after the last `/`. -/
def fixedMapDevName (physPath : CStr) : CStr :=
  match strrchr physPath '/' with
  | none => physPath
  | some i => physPath.drop (i + 1)

def fixedMapRecord (devName physPath virtPath : CStr) : OsFilesysInternalRecord :=
  { OsFilesysInternalRecord.zero with
    deviceName := devName.take (cfg.fsDevNameLen - 1), volumeName := devName.take (cfg.fsVolNameLen - 1),
    systemMountpt := physPath.take (cfg.maxLocalPathLen - 1),
    virtualMountpt := virtPath.take (cfg.maxPathLen - 1), fstype := .fsBased,
    flags := osFilesysFlagIsFixed }

@[simp] theorem fixedMapRecord_flags (devName physPath virtPath : CStr) :
    (fixedMapRecord cfg devName physPath virtPath).flags = osFilesysFlagIsFixed := rfl

/-- `OS_FileSysAddFixedMap(filesys_id, phys_path, virt_path)`: the status and the ID written to
`*filesys_id`. -/
def osFileSysAddFixedMap (physPath virtPath : Option CStr) (start : StartResult) (mountRc : Int) :
    OsalM (Int × OsalId) :=
  match physPath, virtPath with
  | some phys, some virt =>
    if phys.length ≥ cfg.maxLocalPathLen ∨ virt.length ≥ cfg.maxPathLen then
      pure (osErrNameTooLong, osObjectIdUndefined)
    else if (fixedMapDevName phys).length ≥ cfg.fsDevNameLen then
      pure (osErrNameTooLong, osObjectIdUndefined)
    else do
      let devName := fixedMapDevName phys
      let r ← osObjectIdAllocateNew idm osObjectTypeOsFilesys devName
      match r with
      | .error rc => pure (rc, osObjectIdUndefined)
      | .ok localId => do
        modifyTables fun t => (t.setFilesys localId (fixedMapRecord cfg devName phys virt)).setNameEntry
          osObjectTypeOsFilesys localId (some (devName.take (cfg.fsDevNameLen - 1)))
        let rc ← osFileSysStartVolumeImpl cfg start localId
        let rc ← if rc = osSuccess then do
            modifyTables fun t => t.modifyFilesys localId fun r =>
              { r with flags := r.flags.or osFilesysFlagIsReady }
            osFileSysVolumeImpl .mount mountRc localId
          else pure rc
        if rc = osSuccess then
          modifyTables fun t => t.modifyFilesys localId fun r =>
            { r with flags := r.flags.or (osFilesysFlagIsMountedSystem.or osFilesysFlagIsMountedVirtual) }
        osObjectIdFinalizeNew idm rc osObjectTypeOsFilesys localId
  | _, _ => pure (osInvalidPointer, osObjectIdUndefined)

def osRmfs (devname : Option CStr) (stopRc : Int) : OsalM Int :=
  match devname with
  | none => pure osInvalidPointer
  | some dev =>
    if dev.length ≥ cfg.maxApiName then pure osFsErrPathTooLong
    else do
      let r ← osObjectIdGetByName idm .exclusive osObjectTypeOsFilesys dev
      match r with
      | .error _ => pure osErrNameNotFound
      | .ok localId => do
        let rc ← osFileSysVolumeImpl .stop stopRc localId
        if rc = osSuccess then
          modifyTables fun t => t.setActiveId osObjectTypeOsFilesys localId osObjectIdUndefined
        osUnlockGlobal osObjectTypeOsFilesys
        pure rc

/-- `OS_mount`, once the record is found and locked: the checks, the adapter call and the flag
update. -/
def mountLocked (mountpoint : CStr) (mountRc : Int) (localId : Nat) : OsalM Int := do
  let t ← readTables
  let local_ := t.filesys localId
  let rc ← if local_.flags.andNot osFilesysFlagIsFixed ≠ osFilesysFlagIsReady then
      pure osErrIncorrectObjState
    else if local_.systemMountpt.length = 0 then pure osFsErrPathInvalid
    else osFileSysVolumeImpl .mount mountRc localId
  if rc = osSuccess then
    modifyTables fun t => t.modifyFilesys localId fun r =>
      { r with flags := r.flags.or (osFilesysFlagIsMountedSystem.or osFilesysFlagIsMountedVirtual),
               virtualMountpt := mountpoint }
  pure rc

theorem run_mountLocked (w : World) (mp : CStr) (mountRc : Int) (i : Nat) :
    (mountLocked mp mountRc i).run w =
      if (w.tables.filesys i).flags.andNot osFilesysFlagIsFixed ≠ osFilesysFlagIsReady then
        (osErrIncorrectObjState, w)
      else if (w.tables.filesys i).systemMountpt.length = 0 then (osFsErrPathInvalid, w)
      else (mountRc, ⟨if mountRc = osSuccess then
          w.tables.modifyFilesys i fun r =>
            { r with flags := r.flags.or (osFilesysFlagIsMountedSystem.or osFilesysFlagIsMountedVirtual),
                     virtualMountpt := mp }
        else w.tables, w.log ++ [.volume .mount i mountRc]⟩) := by
  simp only [mountLocked, run_bind, run_readTables]
  split_ifs <;>
    simp only [run_bind, run_pure, run_osFileSysVolumeImpl, run_modifyTables, run_discard, *, if_true, if_false,
      if_neg (by decide : osErrIncorrectObjState ≠ osSuccess), if_neg (by decide : osFsErrPathInvalid ≠ osSuccess)]

def osMount (devname mountpoint : Option CStr) (mountRc : Int) : OsalM Int :=
  match devname, mountpoint with
  | some dev, some mp =>
    if dev.length ≥ cfg.fsDevNameLen ∨ mp.length ≥ cfg.maxPathLen then pure osFsErrPathTooLong
    else do
      let r ← osObjectIdGetByName idm .exclusive osObjectTypeOsFilesys dev
      let rc ← match r with
        | .error rc => pure rc
        | .ok localId => do
          let rc ← mountLocked mp mountRc localId
          osUnlockGlobal osObjectTypeOsFilesys
          pure rc
      pure (if rc ≠ osSuccess then osErrNameNotFound else rc)
  | _, _ => pure osInvalidPointer

def unmountLocked (unmountRc : Int) (localId : Nat) : OsalM Int := do
  let t ← readTables
  let local_ := t.filesys localId
  let rc ← if local_.flags.andNot osFilesysFlagIsFixed ≠
        osFilesysFlagIsReady.or (osFilesysFlagIsMountedSystem.or osFilesysFlagIsMountedVirtual) then
      pure osErrIncorrectObjState
    else osFileSysVolumeImpl .unmount unmountRc localId
  if rc = osSuccess then
    modifyTables fun t => t.modifyFilesys localId fun r =>
      { r with flags := r.flags.andNot (osFilesysFlagIsMountedSystem.or osFilesysFlagIsMountedVirtual) }
  pure rc

theorem run_unmountLocked (w : World) (unmountRc : Int) (i : Nat) :
    (unmountLocked unmountRc i).run w =
      if (w.tables.filesys i).flags.andNot osFilesysFlagIsFixed ≠
          osFilesysFlagIsReady.or (osFilesysFlagIsMountedSystem.or osFilesysFlagIsMountedVirtual) then
        (osErrIncorrectObjState, w)
      else (unmountRc, ⟨if unmountRc = osSuccess then
          w.tables.modifyFilesys i fun r =>
            { r with flags := r.flags.andNot (osFilesysFlagIsMountedSystem.or osFilesysFlagIsMountedVirtual) }
        else w.tables, w.log ++ [.volume .unmount i unmountRc]⟩) := by
  simp only [unmountLocked, run_bind, run_readTables]
  split_ifs <;>
    simp only [run_bind, run_pure, run_osFileSysVolumeImpl, run_modifyTables, run_discard, *, if_true, if_false,
      if_neg (by decide : osErrIncorrectObjState ≠ osSuccess)]

def osUnmount (mountpoint : Option CStr) (unmountRc : Int) : OsalM Int :=
  match mountpoint with
  | none => pure osInvalidPointer
  | some mp =>
    if mp.length ≥ cfg.maxPathLen then pure osFsErrPathTooLong
    else do
      let r ← osObjectIdGetBySearch idm .exclusive osObjectTypeOsFilesys (osFileSysFindVirtMountPoint mp)
      let rc ← match r with
        | .error rc => pure rc
        | .ok localId => do
          let rc ← unmountLocked unmountRc localId
          osUnlockGlobal osObjectTypeOsFilesys
          pure rc
      pure (if rc ≠ osSuccess then osErrNameNotFound else rc)

end

end Osal
