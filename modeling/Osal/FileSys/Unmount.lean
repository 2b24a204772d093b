import Osal.FileSys.Consistency

/-!
# Which record `OS_unmount` unmounts

`OS_unmount(m)` looks the record up with `OS_FileSys_FindVirtMountPoint`, which accepts any record
whose mount point is a path prefix of `m`, and the search returns the first such record in slot
order. A successful unmount clears the two mounted flags of that record and changes nothing else
in the tables; when a file system is mounted at a prefix of another's mount point and sits in an
earlier slot, unmounting the longer mount point unmounts the shorter one.
-/

namespace Osal

section
variable {cfg : Config} {w : World}

/-- A successful `OS_unmount(m)` clears the mounted flags of the first record in use that
`OS_FileSys_FindVirtMountPoint(m)` accepts, and of no other; the rest of the tables is unchanged. -/
theorem osUnmount_ok_clears_first_match (creator : OsalId) (mp : CStr) (unmountRc : Int)
    (h : ((osUnmount cfg (specIdMgr cfg creator) (some mp) unmountRc).run w).1 = osSuccess) :
    ∃ i, i < cfg.maxFileSystems ∧ w.tables.fsActive i ∧ osFileSysFindVirtMountPoint mp w.tables i ∧
      (∀ j < i, w.tables.fsActive j → osFileSysFindVirtMountPoint mp w.tables j = false) ∧
      ((osUnmount cfg (specIdMgr cfg creator) (some mp) unmountRc).run w).2.tables =
        w.tables.modifyFilesys i fun r =>
          { r with flags := r.flags.andNot (osFilesysFlagIsMountedSystem.or osFilesysFlagIsMountedVirtual) } := by
  unfold osUnmount at h ⊢
  dsimp only at h ⊢
  split_ifs at h ⊢
  · simp at h
  · simp only [run_bind, run_osObjectIdGetBySearch _ _ (.inr rfl)] at h ⊢
    revert h
    rcases hs : (specIdMgr cfg creator).getBySearch .exclusive osObjectTypeOsFilesys
      (osFileSysFindVirtMountPoint mp w.tables) w.tables with e | ⟨i, t'⟩ <;> intro h
    · simp only [run_bind, run_pure] at h
      split_ifs at h with he
      · simp at h
      · exact absurd (not_not.1 he) (specIdMgr_getBySearch_error hs)
    · obtain ⟨hsearch, rfl⟩ := specIdMgr_getBySearch_ok (.inl rfl) hs
      obtain ⟨hi, hact, hfind⟩ := osObjectIdSearch_some hsearch
      refine ⟨i, hi, hact, hfind, fun j hj ha => ?_, ?_⟩
      · exact Bool.eq_false_iff.2 fun hp => osObjectIdSearch_first hsearch j hj ⟨ha, hp⟩
      · simp only [run_bind, run_pure, run_unmountLocked, osUnlockGlobal, run_emit] at h ⊢
        split_ifs at h ⊢ <;> simp_all
end

def cfPath : CStr := ⟨['/', 'c', 'f'], by decide⟩
def cfSubPath : CStr := ⟨['/', 'c', 'f', '/', 's', 'u', 'b'], by decide⟩
def dev1Name : CStr := ⟨['d', '1'], by decide⟩
def dev2Name : CStr := ⟨['d', '2'], by decide⟩

/-- `OS_initfs` of `d1` and of `d2`, each started at a system mount point, then
`OS_mount("d1", "/cf")` and `OS_mount("d2", "/cf/sub")`, every adapter call succeeding. -/
def nestedMounts : List FsCall :=
  [.initfs 0 (some dev1Name) (some dev1Name) 512 64 ⟨osSuccess, some dev1Name⟩ osSuccess,
    .initfs 0 (some dev2Name) (some dev2Name) 512 64 ⟨osSuccess, some dev2Name⟩ osSuccess,
    .mount (some dev1Name) (some cfPath) osSuccess, .mount (some dev2Name) (some cfSubPath) osSuccess]

def nestedWorld : World := FsCall.runs Config.small 0 nestedMounts ⟨Tables.zero, []⟩

theorem osUnmount_ok_clears_first_match_nested :
    ((osUnmount Config.small (specIdMgr Config.small 0) (some cfSubPath) osSuccess).run nestedWorld).1 =
      osSuccess ∧
    ∃ i, i < Config.small.maxFileSystems ∧ nestedWorld.tables.fsActive i ∧
      osFileSysFindVirtMountPoint cfSubPath nestedWorld.tables i ∧
      (∀ j < i, nestedWorld.tables.fsActive j → osFileSysFindVirtMountPoint cfSubPath nestedWorld.tables j = false) ∧
      ((osUnmount Config.small (specIdMgr Config.small 0) (some cfSubPath) osSuccess).run nestedWorld).2.tables =
        nestedWorld.tables.modifyFilesys i fun r =>
          { r with flags := r.flags.andNot (osFilesysFlagIsMountedSystem.or osFilesysFlagIsMountedVirtual) } :=
  ⟨by decide, osUnmount_ok_clears_first_match 0 cfSubPath osSuccess (by decide)⟩

/-- With `"/cf"` and `"/cf/sub"` both mounted, `OS_unmount("/cf/sub")` succeeds and unmounts the
file system at `"/cf"`, leaving the one at `"/cf/sub"` mounted. -/
theorem osUnmount_nested_unmounts_prefix :
    FsReachable Config.small nestedWorld ∧
    (nestedWorld.tables.filesys 1).virtualMountpt = cfPath ∧
    (nestedWorld.tables.filesys 2).virtualMountpt = cfSubPath ∧
    ((osUnmount Config.small (specIdMgr Config.small 0) (some cfSubPath) osSuccess).run nestedWorld).1 =
      osSuccess ∧
    (((osUnmount Config.small (specIdMgr Config.small 0) (some cfSubPath) osSuccess).run nestedWorld).2.tables.filesys
      1).flags.mountedVirtual = false ∧
    (((osUnmount Config.small (specIdMgr Config.small 0) (some cfSubPath) osSuccess).run nestedWorld).2.tables.filesys
      2).flags.mountedVirtual = true :=
  ⟨FsReachable.init.runs 0 _, by decide, by decide, by decide, by decide, by decide⟩

end Osal
