import Osal.LockSpec
import Osal.FileSys.Query

/-!
# Lock discipline of the file system calls

The volume calls of the adapter and the work done under the file system lock take and release no
lock; each entry point of `osapi-filesys.c`, from any lock state where the file system type lock
(and, for `OS_GetFsInfo`, the stream type lock) is free, gives that state back.
-/

namespace Osal

section
variable {s : LockState} (cfg : Config) (idm : IdMgr)

theorem osFileSysVolumeImpl_lockSpec (op : VolumeOp) (rc : Int) (i : Nat) :
    LockSpec s (osFileSysVolumeImpl op rc i) (fun _ => s) :=
  .bind (.emit rfl) fun _ => .pure _

theorem osFileSysStartVolumeImpl_lockSpec (res : StartResult) (i : Nat) :
    LockSpec s (osFileSysStartVolumeImpl cfg res i) (fun _ => s) :=
  .bind (.modifyTables _) fun _ => .bind (.emit rfl) fun _ => .pure _

theorem initializeStarted_lockSpec (fmt : Bool) (formatRc stopRc : Int) (i : Nat) :
    LockSpec s (initializeStarted fmt formatRc stopRc i) (fun _ => s) := by
  refine .ite (.bind (osFileSysVolumeImpl_lockSpec _ _ _) ?k) (.bind (.pure _) ?k)
  intro _
  exact .ite (.bind (.modifyTables _) fun _ => .pure _)
    (.bind (.discard (osFileSysVolumeImpl_lockSpec _ _ _)) fun _ => .pure _)

theorem mountLocked_lockSpec (mp : CStr) (mountRc : Int) (i : Nat) :
    LockSpec s (mountLocked mp mountRc i) (fun _ => s) := by
  refine .bind .readTables fun _ => ?_
  refine .ite (.bind (.pure _) ?k) (.ite (.bind (.pure _) ?k)
    (.bind (osFileSysVolumeImpl_lockSpec _ _ _) ?k))
  intro _
  exact .ite (.bind (.modifyTables _) fun _ => .pure _) (.bind (.pure _) fun _ => .pure _)

theorem unmountLocked_lockSpec (unmountRc : Int) (i : Nat) :
    LockSpec s (unmountLocked unmountRc i) (fun _ => s) := by
  refine .bind .readTables fun _ => ?_
  refine .ite (.bind (.pure _) ?k) (.bind (osFileSysVolumeImpl_lockSpec _ _ _) ?k)
  intro _
  exact .ite (.bind (.modifyTables _) fun _ => .pure _) (.bind (.pure _) fun _ => .pure _)

/-! ### Entry points -/

variable (h : osObjectTypeOsFilesys ∉ s.global)
include h

theorem osFileSysInitialize_lockSpec (address : Nat) (dev vol : Option CStr) (bs nb : Nat) (fmt : Bool)
    (start : StartResult) (formatRc stopRc : Int) :
    LockSpec s (osFileSysInitialize cfg idm address dev vol bs nb fmt start formatRc stopRc)
      (fun _ => s) := by
  unfold osFileSysInitialize
  split
  · refine .ite (.pure _) (.ite (.pure _) ?_)
    refine .bindExcept (osObjectIdAllocateNew_lockSpec idm _ h) (fun _ => .pure _) fun i => ?_
    refine .bind (.modifyTables _) fun _ => .bind (osFileSysStartVolumeImpl_lockSpec cfg _ _) fun _ => ?_
    refine .ite (.bind (initializeStarted_lockSpec _ _ _ _) ?k) (.bind (.pure _) ?k)
    exact fun _ => .bind (osObjectIdFinalizeNew_acquired idm _ i) fun _ => .pure _
  · exact .pure _

theorem osMkfs_lockSpec (address : Nat) (dev vol : Option CStr) (bs nb : Nat) (start : StartResult)
    (formatRc stopRc : Int) :
    LockSpec s (osMkfs cfg idm address dev vol bs nb start formatRc stopRc) (fun _ => s) :=
  .map _ (osFileSysInitialize_lockSpec cfg idm h _ _ _ _ _ _ _ _ _)

theorem osInitfs_lockSpec (address : Nat) (dev vol : Option CStr) (bs nb : Nat) (start : StartResult)
    (stopRc : Int) :
    LockSpec s (osInitfs cfg idm address dev vol bs nb start stopRc) (fun _ => s) :=
  .map _ (osFileSysInitialize_lockSpec cfg idm h _ _ _ _ _ _ _ _ _)

theorem osFileSysAddFixedMap_lockSpec (phys virt : Option CStr) (start : StartResult) (mountRc : Int) :
    LockSpec s (osFileSysAddFixedMap cfg idm phys virt start mountRc) (fun _ => s) := by
  unfold osFileSysAddFixedMap
  split
  · refine .ite (.pure _) (.ite (.pure _) ?_)
    refine .bindExcept (osObjectIdAllocateNew_lockSpec idm _ h) (fun _ => .pure _) fun i => ?_
    refine .bind (.modifyTables _) fun _ => .bind (osFileSysStartVolumeImpl_lockSpec cfg _ _) fun _ => ?_
    refine .ite (.bind (.modifyTables _) fun _ => .bind (osFileSysVolumeImpl_lockSpec _ _ _) ?k)
      (.bind (.pure _) ?k)
    exact fun _ => .ite (.bind (.modifyTables _) fun _ => osObjectIdFinalizeNew_acquired idm _ i)
      (.bind (.pure _) fun _ => osObjectIdFinalizeNew_acquired idm _ i)
  · exact .pure _

theorem osRmfs_lockSpec (dev : Option CStr) (stopRc : Int) :
    LockSpec s (osRmfs cfg idm dev stopRc) (fun _ => s) := by
  unfold osRmfs
  split
  · exact .pure _
  · refine .ite (.pure _) (.bindExcept (osObjectIdGetByName_lockSpec idm .exclusive _ h)
      (fun _ => .pure _) fun _ => .bind (osFileSysVolumeImpl_lockSpec _ _ _) fun _ => ?_)
    refine .ite (.bind (.modifyTables _) ?k) (.bind (.pure _) ?k)
    exact fun _ => .bind .unlockAcquired fun _ => .pure _

theorem osMount_lockSpec (dev mp : Option CStr) (mountRc : Int) :
    LockSpec s (osMount cfg idm dev mp mountRc) (fun _ => s) := by
  unfold osMount
  split
  · have hk : ∀ rc : Int, LockSpec s (pure (if rc ≠ osSuccess then osErrNameNotFound else rc))
        (fun _ => s) := fun _ => .pure _
    exact .ite (.pure _) (.bindExcept (osObjectIdGetByName_lockSpec idm .exclusive _ h)
      (fun _ => .bind (.pure _) hk) fun _ => .bind (mountLocked_lockSpec _ _ _) fun _ =>
        .bind .unlockAcquired fun _ => .bind (.pure _) hk)
  · exact .pure _

theorem osUnmount_lockSpec (mp : Option CStr) (unmountRc : Int) :
    LockSpec s (osUnmount cfg idm mp unmountRc) (fun _ => s) := by
  unfold osUnmount
  split
  · exact .pure _
  · have hk : ∀ rc : Int, LockSpec s (pure (if rc ≠ osSuccess then osErrNameNotFound else rc))
        (fun _ => s) := fun _ => .pure _
    exact .ite (.pure _) (.bindExcept (osObjectIdGetBySearch_lockSpec idm .exclusive _ h)
      (fun _ => .bind (.pure _) hk) fun _ => .bind (unmountLocked_lockSpec _ _) fun _ =>
        .bind .unlockAcquired fun _ => .bind (.pure _) hk)

theorem osFsBlocksFree_lockSpec (name : Option CStr) (statRc : Int) (statfs : OsStatvfs) :
    LockSpec s (osFsBlocksFree cfg idm name statRc statfs) (fun _ => s) := by
  unfold osFsBlocksFree
  split
  · exact .pure _
  · exact .ite (.pure _) (.bindExcept (osObjectIdGetBySearch_lockSpec idm .global _ h)
      (fun _ => .pure _) fun _ => .bind (.pure _) fun _ => .bind .unlockAcquired fun _ => .pure _)

theorem osFsBytesFree_lockSpec (name : Option CStr) (valid : Bool) (statRc : Int) (statfs : OsStatvfs) :
    LockSpec s (osFsBytesFree cfg idm name valid statRc statfs) (fun _ => s) := by
  unfold osFsBytesFree
  split
  · exact .ite (.pure _) (.ite (.pure _) (.bindExcept (osObjectIdGetBySearch_lockSpec idm .global _ h)
      (fun _ => .pure _) fun _ => .bind (.pure _) fun _ => .bind .unlockAcquired fun _ => .pure _))
  · exact .pure _

/-- `OS_chkfs` holds a reference, not the lock, across the check, and drops it after. -/
theorem osChkfs_lockSpec (name : Option CStr) (checkRc : Int) :
    LockSpec s (osChkfs cfg idm name checkRc) (fun _ => s) := by
  unfold osChkfs
  split
  · exact .pure _
  · exact .ite (.pure _) (.bindExcept (osObjectIdGetBySearch_lockSpec idm .refcount _ h)
      (fun _ => .pure _) fun _ => .bind (.pure _) fun _ =>
        .bind (.discard (osObjectIdRefcountDecr_lockSpec idm h)) fun _ => .pure _)

theorem osFsGetPhysDriveName_lockSpec (valid : Bool) (mp : Option CStr) :
    LockSpec s (osFsGetPhysDriveName cfg idm valid mp) (fun _ => s) := by
  unfold osFsGetPhysDriveName
  split
  · exact .ite (.pure _) (.ite (.pure _) (.bindExcept (osObjectIdGetBySearch_lockSpec idm .global _ h)
      (fun _ => .pure _) fun _ => .bind .readTables fun _ => .bind .unlockAcquired fun _ => .pure _))
  · exact .pure _

theorem osGetFsInfo_lockSpec (valid : Bool) (hs : osObjectTypeOsStream ∉ s.global) :
    LockSpec s (osGetFsInfo cfg valid) (fun _ => s) :=
  .ite (.pure _) (.bind (.lockGlobal hs) fun _ => .bind .readTables fun _ =>
    .bind .unlockAcquired fun _ => .bind (.lockGlobal h) fun _ => .bind .readTables fun _ =>
      .bind .unlockAcquired fun _ => .pure _)

theorem osTranslatePath_lockSpec (vp : Option CStr) (buf : Option (List Char)) :
    LockSpec s (osTranslatePath cfg idm vp buf) (fun _ => s) := by
  unfold osTranslatePath
  split
  · refine .ite (.pure _) ?_
    split
    · exact .pure _
    · refine .ite (.pure _) (.ite (.pure _) ?_)
      refine .bindExcept (osObjectIdGetBySearch_lockSpec idm .global _ h) (fun _ => .pure _) fun _ => ?_
      refine .bind .readTables fun _ => ?_
      split
      exact .bind .unlockAcquired fun _ => .pure _
  · exact .pure _

end

end Osal
