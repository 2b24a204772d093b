import Osal.FileSys.Reachable
import Osal.FileSys.Query

/-!
# What the agreement gives the rest of the file system API

In every world the file system calls reach, a record in use has its two mounted flags equal and
is ready when mounted, so the lookups by mount point never find a record mounted virtually but
not on the system side: the `OS_ERR_INCORRECT_OBJ_STATE` branches of `OS_TranslatePath` and
`OS_FS_GetPhysDriveName` are dead. The adapter's started and mounted volumes all have a record in
use, except those the table gave up on with a stop or a failed mount. A record mounted at a
non-empty mount point is found by it, and the record the search returns passes the state check
of `OS_unmount`.
-/

namespace Osal

section
variable (cfg : Config)

theorem translateLocked_of_mountedSystem {n : Nat} {buf : List Char} {r : OsFilesysInternalRecord}
    (h : r.flags.mountedSystem) :
    translateLocked cfg n buf r = (osSuccess, r.systemMountpt.length, r.virtualMountpt.length,
      if r.systemMountpt.length < cfg.maxLocalPathLen then writeBuf buf 0 r.systemMountpt.chars else some buf) := by
  have : r.flags.and osFilesysFlagIsMountedSystem ≠ FsFlags.zero := by
    simp [FsFlags.and, FsFlags.zero, osFilesysFlagIsMountedSystem, h]
  simp only [translateLocked, this, ne_eq, not_false_eq_true, ↓reduceIte]

theorem translateLocked_of_not_mountedSystem {n : Nat} {buf : List Char} {r : OsFilesysInternalRecord}
    (h : r.flags.mountedSystem = false) :
    translateLocked cfg n buf r = (osErrIncorrectObjState, 0, n, some buf) := by
  have : r.flags.and osFilesysFlagIsMountedSystem = FsFlags.zero := by
    simp [FsFlags.and, FsFlags.zero, osFilesysFlagIsMountedSystem, h]
  simp [translateLocked, this]

theorem translateLocked_fst_of_mountedSystem {n : Nat} {buf : List Char} {r : OsFilesysInternalRecord}
    (h : r.flags.mountedSystem) : (translateLocked cfg n buf r).1 = osSuccess := by
  rw [translateLocked_of_mountedSystem cfg h]

theorem translateTail_fst_ne_incorrectObjState (vp : CStr) (n b : Nat) (buf : Option (List Char)) :
    (translateTail cfg vp n b buf).1 ≠ osErrIncorrectObjState := by
  unfold translateTail; dsimp only; split_ifs <;> simp

end

section
variable {cfg : Config} {w : World}

theorem mountedSystem_of_findVirtMountPoint (hw : ∀ j, (slotView w j).Good) {target : CStr} {creator : OsalId}
    {i : Nat} {t' : Tables} (h : (specIdMgr cfg creator).getBySearch .global osObjectTypeOsFilesys
      (osFileSysFindVirtMountPoint target w.tables) w.tables = .ok (i, t')) :
    t' = w.tables ∧ (w.tables.filesys i).flags.mountedSystem := by
  obtain ⟨hs, rfl⟩ := specIdMgr_getBySearch_ok (.inr rfl) h
  obtain ⟨-, hact, hfind⟩ := osObjectIdSearch_some hs
  have hv := ((osFileSysFindVirtMountPoint_iff _ _ _).1 hfind).1
  exact ⟨rfl, ((hw i).mounted_agree hact).trans hv⟩

theorem osTranslatePath_ne_incorrectObjState (hw : ∀ j, (slotView w j).Good) (creator : OsalId)
    (vp : Option CStr) (buf : Option (List Char)) :
    ((osTranslatePath cfg (specIdMgr cfg creator) vp buf).run w).1.1 ≠ osErrIncorrectObjState := by
  unfold osTranslatePath
  split
  · split_ifs with h₁ h₀
    · simp
    · split
      · simp
      · split_ifs <;> simp
    · split
      · simp
      · split_ifs
        · simp
        · simp only [run_bind, run_osObjectIdGetBySearch _ _ (.inl rfl)]
          rcases h : (specIdMgr cfg creator).getBySearch .global osObjectTypeOsFilesys
            (osFileSysFindVirtMountPoint _ w.tables) w.tables with e | ⟨i, t'⟩
          · simp
          · obtain ⟨rfl, hms⟩ := mountedSystem_of_findVirtMountPoint hw h
            simpa [run_readTables, osUnlockGlobal, translateLocked_fst_of_mountedSystem cfg hms] using
              translateTail_fst_ne_incorrectObjState cfg _ _ _ _
  · simp

theorem osFsGetPhysDriveName_ne_incorrectObjState (hw : ∀ j, (slotView w j).Good) (creator : OsalId)
    (phys : Bool) (mp : Option CStr) :
    ((osFsGetPhysDriveName cfg (specIdMgr cfg creator) phys mp).run w).1.1 ≠ osErrIncorrectObjState := by
  unfold osFsGetPhysDriveName
  split
  · split_ifs
    · simp
    · simp
    · simp only [run_bind, run_osObjectIdGetBySearch _ _ (.inl rfl)]
      rcases h : (specIdMgr cfg creator).getBySearch .global osObjectTypeOsFilesys
        (osFileSysFindVirtMountPoint _ w.tables) w.tables with e | ⟨i, t'⟩
      · simp
      · obtain ⟨rfl, hms⟩ := mountedSystem_of_findVirtMountPoint hw h
        simp [run_readTables, osUnlockGlobal, FsFlags.and, FsFlags.zero, osFilesysFlagIsMountedSystem, hms]
  · simp

theorem search_virtualMountpt (hw : ∀ j, (slotView w j).Good) {i : Nat} (hi : i < cfg.maxFileSystems)
    (ha : w.tables.fsActive i) (hv : (w.tables.filesys i).flags.mountedVirtual)
    (hl : 0 < (w.tables.filesys i).virtualMountpt.length) :
    ∃ j, osObjectIdSearch w.tables osObjectTypeOsFilesys cfg.maxFileSystems
        (osFileSysFindVirtMountPoint (w.tables.filesys i).virtualMountpt w.tables) = some j ∧
      w.tables.fsActive j ∧ (w.tables.filesys j).flags.andNot osFilesysFlagIsFixed =
        osFilesysFlagIsReady.or (osFilesysFlagIsMountedSystem.or osFilesysFlagIsMountedVirtual) := by
  have hself := osFileSysFindVirtMountPoint_self hv hl
  obtain ⟨j, hj⟩ : ∃ j, osObjectIdSearch w.tables osObjectTypeOsFilesys cfg.maxFileSystems
      (osFileSysFindVirtMountPoint (w.tables.filesys i).virtualMountpt w.tables) = some j :=
    Option.isSome_iff_exists.1 (List.find?_isSome.2 ⟨i, List.mem_range.2 hi, by simp_all [Tables.fsActive]⟩)
  obtain ⟨-, hact, hfind⟩ := osObjectIdSearch_some hj
  have hvj := ((osFileSysFindVirtMountPoint_iff _ _ _).1 hfind).1
  have hsj := ((hw j).mounted_agree hact).trans hvj
  have hrj := (hw j).ready_of_mounted hact hsj
  refine ⟨j, hj, hact, ?_⟩
  simp only [slotView] at hsj hrj
  simp [FsFlags.andNot, FsFlags.or, osFilesysFlagIsFixed, osFilesysFlagIsReady, osFilesysFlagIsMountedSystem,
    osFilesysFlagIsMountedVirtual, hvj, hsj, hrj]

end

/-! ### Every reachable world -/

section
variable {cfg : Config} {w : World}

/-- A record in use mounted virtually at a non-empty mount point is found by that mount point. -/
theorem FsReachable.mountpoint_selects_mounted (h : FsReachable cfg w) {i : Nat} (hi : i < cfg.maxFileSystems)
    (ha : w.tables.fsActive i) (hv : (w.tables.filesys i).flags.mountedVirtual)
    (hl : 0 < (w.tables.filesys i).virtualMountpt.length) :
    osFileSysFindVirtMountPoint (w.tables.filesys i).virtualMountpt w.tables i ∧
    ∃ j, osObjectIdSearch w.tables osObjectTypeOsFilesys cfg.maxFileSystems
        (osFileSysFindVirtMountPoint (w.tables.filesys i).virtualMountpt w.tables) = some j ∧
      w.tables.fsActive j ∧ (w.tables.filesys j).flags.andNot osFilesysFlagIsFixed =
        osFilesysFlagIsReady.or (osFilesysFlagIsMountedSystem.or osFilesysFlagIsMountedVirtual) :=
  ⟨osFileSysFindVirtMountPoint_self hv hl, search_virtualMountpt h.good hi ha hv hl⟩

end

/-! ### Runs on the small configuration -/

def devPath : CStr := ⟨['/', 'd', '0'], by decide⟩
def devName : CStr := ⟨['d', '0'], by decide⟩
def mountPath : CStr := ⟨['/', 'm'], by decide⟩

/-- `OS_FileSysAddFixedMap("/d0", "/m")`, the volume starting and its mount failing. -/
def fixedMapMountFails : List FsCall :=
  [.addFixedMap (some devPath) (some mountPath) ⟨osSuccess, none⟩ osError]

/-- `OS_initfs` of `d0`, started at `"/d0"`, `OS_mount("d0", "/m")`, then `OS_rmfs("d0")`, every
adapter call succeeding. -/
def mountThenRmfs : List FsCall :=
  [.initfs 0 (some devName) (some devName) 512 64 ⟨osSuccess, some devPath⟩ osSuccess,
    .mount (some devName) (some mountPath) osSuccess, .rmfs (some devName) osSuccess]

/-- `OS_mkfs` of `d0` on volume `d0`, started at `"/d0"`, the format failing. -/
def mkfsFormatFails : List FsCall :=
  [.mkfs 0 (some devName) (some devName) 512 64 ⟨osSuccess, some devPath⟩ osError osSuccess]

/-- A fixed mapping whose mount fails frees its slot with its volume still started, where `OS_mkfs`
stops the volume whose format failed; `OS_rmfs` frees a slot whose volume is still mounted. -/
theorem fixedMap_mount_failure_strands_volume :
    ((osFileSysAddFixedMap Config.small (specIdMgr Config.small 0) (some devPath) (some mountPath)
        ⟨osSuccess, none⟩ osError).run ⟨Tables.zero, []⟩).1.1 = osError ∧
      since (Event.startOk 1) (Event.isVolume .stop 1 fun _ => true)
        (FsCall.runs Config.small 0 fixedMapMountFails ⟨Tables.zero, []⟩).log ∧
      (FsCall.runs Config.small 0 fixedMapMountFails ⟨Tables.zero, []⟩).tables.fsActive 1 = false ∧
    since (Event.startOk 1) (Event.isVolume .stop 1 fun _ => true)
        (FsCall.runs Config.small 0 mkfsFormatFails ⟨Tables.zero, []⟩).log = false ∧
      (FsCall.runs Config.small 0 mkfsFormatFails ⟨Tables.zero, []⟩).tables.fsActive 1 = false ∧
    since (Event.mountOk 1) (Event.isVolume .unmount 1 fun _ => true)
        (FsCall.runs Config.small 0 mountThenRmfs ⟨Tables.zero, []⟩).log ∧
      (FsCall.runs Config.small 0 mountThenRmfs ⟨Tables.zero, []⟩).tables.fsActive 1 = false :=
  ⟨by decide, by decide, by decide, by decide, by decide, by decide, by decide⟩

/-- `OS_FileSysAddFixedMap("/d0", "/m")`, every adapter call succeeding. -/
def fixedMapMounted : List FsCall :=
  [.addFixedMap (some devPath) (some mountPath) ⟨osSuccess, none⟩ osSuccess]

theorem FsReachable.mountpoint_selects_mounted_fixedMap :
    FsReachable Config.small (FsCall.runs Config.small 0 fixedMapMounted ⟨Tables.zero, []⟩) ∧
    1 < Config.small.maxFileSystems ∧
    (FsCall.runs Config.small 0 fixedMapMounted ⟨Tables.zero, []⟩).tables.fsActive 1 ∧
    ((FsCall.runs Config.small 0 fixedMapMounted ⟨Tables.zero, []⟩).tables.filesys 1).flags.mountedVirtual ∧
    0 < ((FsCall.runs Config.small 0 fixedMapMounted ⟨Tables.zero, []⟩).tables.filesys 1).virtualMountpt.length ∧
    (osFileSysFindVirtMountPoint ((FsCall.runs Config.small 0 fixedMapMounted ⟨Tables.zero, []⟩).tables.filesys 1).virtualMountpt
        (FsCall.runs Config.small 0 fixedMapMounted ⟨Tables.zero, []⟩).tables 1 ∧
      ∃ j, osObjectIdSearch (FsCall.runs Config.small 0 fixedMapMounted ⟨Tables.zero, []⟩).tables
          osObjectTypeOsFilesys Config.small.maxFileSystems
          (osFileSysFindVirtMountPoint
            ((FsCall.runs Config.small 0 fixedMapMounted ⟨Tables.zero, []⟩).tables.filesys 1).virtualMountpt
            (FsCall.runs Config.small 0 fixedMapMounted ⟨Tables.zero, []⟩).tables) = some j ∧
        (FsCall.runs Config.small 0 fixedMapMounted ⟨Tables.zero, []⟩).tables.fsActive j ∧
        ((FsCall.runs Config.small 0 fixedMapMounted ⟨Tables.zero, []⟩).tables.filesys j).flags.andNot
            osFilesysFlagIsFixed =
          osFilesysFlagIsReady.or (osFilesysFlagIsMountedSystem.or osFilesysFlagIsMountedVirtual)) :=
  ⟨FsReachable.init.runs 0 _, by decide, by decide, by decide, by decide,
    FsReachable.mountpoint_selects_mounted (FsReachable.init.runs 0 _) (by decide) (by decide) (by decide)
      (by decide)⟩

/-- `OS_FileSysAddFixedMap("/d0", "")`, every adapter call succeeding. -/
def fixedMapEmptyMountpoint : List FsCall :=
  [.addFixedMap (some devPath) (some CStr.empty) ⟨osSuccess, none⟩ osSuccess]

/-- A file system mounted at the empty mount point is in use and mounted virtually, but the search
predicate does not find it by its own mount point. -/
theorem emptyMountpoint_not_found :
    FsReachable Config.small (FsCall.runs Config.small 0 fixedMapEmptyMountpoint ⟨Tables.zero, []⟩) ∧
    (FsCall.runs Config.small 0 fixedMapEmptyMountpoint ⟨Tables.zero, []⟩).tables.fsActive 1 ∧
    ((FsCall.runs Config.small 0 fixedMapEmptyMountpoint ⟨Tables.zero, []⟩).tables.filesys 1).flags.mountedVirtual ∧
    osFileSysFindVirtMountPoint
        ((FsCall.runs Config.small 0 fixedMapEmptyMountpoint ⟨Tables.zero, []⟩).tables.filesys 1).virtualMountpt
        (FsCall.runs Config.small 0 fixedMapEmptyMountpoint ⟨Tables.zero, []⟩).tables 1 = false :=
  ⟨FsReachable.init.runs 0 _, by decide, by decide, by decide⟩

end Osal
