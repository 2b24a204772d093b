import Osal.FileSys.Invariant

/-!
# Every run of the file system calls keeps the table and the volumes in agreement

Each of the six calls that change the file system table keeps `SlotView.Good` at every slot,
whatever its arguments and whatever the adapter's volume calls return. The proofs follow the
branches of each call: a branch that fails before touching a slot logs only lock events
(`good_of_untouched`); a branch that works on one slot (the one `AllocateNew` reserves or the
lookup finds) leaves the others alone, and on that slot the new view is the old one with the
logged volume calls applied (`slotView_after`), checked field by field against the old view's
agreement.

`FsReachable` is the set of worlds these calls reach from the tables `OS_API_Init` leaves, each
call run against the ID manager of the spec on behalf of any task.
-/

namespace Osal

section
variable {w : World} (cfg : Config) (creator : OsalId)

theorem osMount_good (dev mp : Option CStr) (mountRc : Int) (hw : ∀ j, (slotView w j).Good) :
    ∀ j, (slotView ((osMount cfg (specIdMgr cfg creator) dev mp mountRc).run w).2 j).Good := by
  unfold osMount
  split
  · split_ifs
    · exact hw
    · simp only [run_bind, osObjectIdGetByName, run_osObjectIdGetBySearch _ _ (.inr rfl)]
      rcases h : (specIdMgr cfg creator).getBySearch .exclusive osObjectTypeOsFilesys
        (osObjectNameMatch osObjectTypeOsFilesys _ w.tables) w.tables with e | ⟨i, t'⟩
      · simp only [run_bind, run_pure]
        exact good_of_untouched hw (by simp)
      · obtain ⟨hs, rfl⟩ := specIdMgr_getBySearch_ok (.inl rfl) h
        have hact : (slotView w i).active := (osObjectIdSearch_some hs).2.1
        simp only [run_bind, run_pure, run_mountLocked, osUnlockGlobal, run_emit]
        split_ifs with hf hp hm <;> simp only [List.append_assoc, List.cons_append, List.nil_append]
        · exact good_of_untouched hw (by simp)
        · exact good_of_untouched hw (by simp)
        · refine good_of_touches i hw (fun j hj => ⟨rfl, by simp [hj], by simp [Ne.symm hj]⟩) ?_
          rw [slotView_after]
          simp [hm, osFilesysFlagIsMountedSystem, osFilesysFlagIsMountedVirtual, fsActive_eq_slotView,
            ready_eq_slotView, mountedSystem_eq_slotView, mountedVirtual_eq_slotView]
          exact (hw i).mount_ok hact (by simpa [osFilesysFlagIsReady, osFilesysFlagIsFixed, FsFlags.andNot,
            ready_eq_slotView] using congrArg FsFlags.ready (not_not.1 hf))
        · refine good_of_touches i hw (fun j hj => ⟨rfl, rfl, by simp [Ne.symm hj]⟩) ?_
          rw [slotView_after]
          simpa [show mountRc ≠ 0 from hm, Bool.beq_eq_decide_eq, fsActive_eq_slotView, ready_eq_slotView,
            mountedSystem_eq_slotView, mountedVirtual_eq_slotView] using (hw i).unstart
  · exact hw

theorem osUnmount_good (mp : Option CStr) (unmountRc : Int) (hw : ∀ j, (slotView w j).Good) :
    ∀ j, (slotView ((osUnmount cfg (specIdMgr cfg creator) mp unmountRc).run w).2 j).Good := by
  unfold osUnmount
  split
  · exact hw
  · split_ifs
    · exact hw
    · simp only [run_bind, run_osObjectIdGetBySearch _ _ (.inr rfl)]
      rcases h : (specIdMgr cfg creator).getBySearch .exclusive osObjectTypeOsFilesys
        (osFileSysFindVirtMountPoint _ w.tables) w.tables with e | ⟨i, t'⟩
      · simp only [run_bind, run_pure]
        exact good_of_untouched hw (by simp)
      · obtain ⟨hs, rfl⟩ := specIdMgr_getBySearch_ok (.inl rfl) h
        simp only [run_bind, run_pure, run_unmountLocked, osUnlockGlobal, run_emit]
        split_ifs with hf hm <;> simp only [List.append_assoc, List.cons_append, List.nil_append]
        · exact good_of_untouched hw (by simp)
        · refine good_of_touches i hw (fun j hj => ⟨rfl, by simp [hj], by simp [Ne.symm hj]⟩) ?_
          rw [slotView_after]
          simpa [hm, osFilesysFlagIsMountedSystem, osFilesysFlagIsMountedVirtual, fsActive_eq_slotView,
            ready_eq_slotView, mountedSystem_eq_slotView, mountedVirtual_eq_slotView] using (hw i).unmount_ok
        · refine good_of_touches i hw (fun j hj => ⟨rfl, rfl, by simp [Ne.symm hj]⟩) ?_
          rw [slotView_after]
          simpa [fsActive_eq_slotView, ready_eq_slotView, mountedSystem_eq_slotView, mountedVirtual_eq_slotView]
            using (hw i).unmount_failed

theorem osRmfs_good (dev : Option CStr) (stopRc : Int) (hw : ∀ j, (slotView w j).Good) :
    ∀ j, (slotView ((osRmfs cfg (specIdMgr cfg creator) dev stopRc).run w).2 j).Good := by
  unfold osRmfs
  split
  · exact hw
  · split_ifs
    · exact hw
    · simp only [run_bind, osObjectIdGetByName, run_osObjectIdGetBySearch _ _ (.inr rfl)]
      rcases h : (specIdMgr cfg creator).getBySearch .exclusive osObjectTypeOsFilesys
        (osObjectNameMatch osObjectTypeOsFilesys _ w.tables) w.tables with e | ⟨i, t'⟩
      · simp only [run_bind, run_pure]
        exact good_of_untouched hw (by simp)
      · obtain ⟨hs, rfl⟩ := specIdMgr_getBySearch_ok (.inl rfl) h
        simp only [run_bind, run_pure, run_osFileSysVolumeImpl]
        split_ifs with hstop <;>
        simp only [run_bind, run_pure, run_modifyTables, osUnlockGlobal, run_emit, List.append_assoc,
          List.cons_append, List.nil_append]
        · refine good_of_touches i hw (fun j hj => ⟨by simp [hj], rfl, by simp [Ne.symm hj]⟩) ?_
          rw [slotView_after]
          simpa [hstop, osObjectIdDefined, osObjectIdUndefined, ready_eq_slotView, mountedSystem_eq_slotView,
            mountedVirtual_eq_slotView] using (hw i).remove
        · refine good_of_touches i hw (fun j hj => ⟨rfl, rfl, by simp [Ne.symm hj]⟩) ?_
          rw [slotView_after]
          simpa [show stopRc ≠ 0 from hstop, Bool.beq_eq_decide_eq, fsActive_eq_slotView, ready_eq_slotView,
            mountedSystem_eq_slotView, mountedVirtual_eq_slotView] using (hw i).unstart

theorem fsActive_of_allocateNew {name : CStr} {i : Nat} {t₁ : Tables}
    (h : (specIdMgr cfg creator).allocateNew osObjectTypeOsFilesys name w.tables = .ok (i, t₁)) :
    w.tables.fsActive i = false ∧ (∀ j ≠ i, t₁.fsActive j = w.tables.fsActive j) ∧
      t₁.filesys = w.tables.filesys ∧ osObjectIdDefined (t₁.lastIdIssued osObjectTypeOsFilesys) := by
  obtain ⟨hfree, hc, hf, hlast⟩ :=
    specIdMgr_allocateNew_ok (by decide) (lt_of_lt_of_le (by decide) cfg.objectTypes_fit) h
  exact ⟨hfree, fun j hj => by simp [Tables.fsActive, hc, hj], hf, hlast⟩

/-- After `AllocateNew` reserved slot `i`, a call that changes only slot `i` and logs only about it
keeps the agreement at every slot once it keeps it at `i`. -/
theorem good_of_allocated {i : Nat} {t₁ t' : Tables} {new : List Event} (hw : ∀ j, (slotView w j).Good)
    (hc : ∀ j ≠ i, t₁.fsActive j = w.tables.fsActive j) (hf : t₁.filesys = w.tables.filesys)
    (hframe : ∀ j ≠ i, t'.fsActive j = t₁.fsActive j ∧ t'.filesys j = t₁.filesys j ∧
      ∀ e ∈ new, e.touchesFs j = false)
    (hi : (slotView ⟨t', w.log ++ new⟩ i).Good) : ∀ j, (slotView ⟨t', w.log ++ new⟩ j).Good :=
  good_of_touches i hw (fun j hj => (hframe j hj).imp (·.trans (hc j hj)) (.imp_left (·.trans (hf ▸ rfl)))) hi

theorem osFileSysInitialize_good (address : Nat) (dev vol : Option CStr) (blocksize numblocks : Nat)
    (fmt : Bool) (start : StartResult) (formatRc stopRc : Int) (hw : ∀ j, (slotView w j).Good) :
    ∀ j, (slotView ((osFileSysInitialize cfg (specIdMgr cfg creator) address dev vol blocksize numblocks
      fmt start formatRc stopRc).run w).2 j).Good := by
  unfold osFileSysInitialize
  split
  · split_ifs
    · exact hw
    · exact hw
    · simp only [run_bind, run_osObjectIdAllocateNew]
      rcases h : (specIdMgr cfg creator).allocateNew osObjectTypeOsFilesys _ w.tables with e | ⟨i, t₁⟩
      · simp only [run_pure]
        exact good_of_untouched hw (by simp)
      · obtain ⟨hfree, hc, hf, hlast⟩ := fsActive_of_allocateNew cfg creator h
        obtain ⟨hst, hmo⟩ := (hw i).not_started_of_free hfree
        simp only [osObjectTypeOsFilesys] at hlast
        simp only [run_bind, run_pure, run_modifyTables, run_osFileSysStartVolumeImpl]
        split_ifs with h₀
        · cases fmt
          · simp only [run_bind, run_pure, run_initializeStarted, run_osObjectIdFinalizeNew, specIdMgr_finalizeNew,
              h₀, Bool.false_eq_true, ↓reduceIte, List.append_assoc, List.cons_append, List.nil_append,
              List.append_nil]
            refine good_of_allocated hw hc hf (fun j hj => by simp [hj, Ne.symm hj, filesys_startVolumeTables_of_ne]) ?_
            rw [slotView_after]
            simp [hst, hmo, hlast, h₀, osFilesysFlagIsReady, FsFlags.zero]
            decide
          · by_cases hfm : formatRc = osSuccess <;>
            simp only [run_bind, run_pure, run_initializeStarted, run_osObjectIdFinalizeNew, specIdMgr_finalizeNew,
              h₀, hfm, ↓reduceIte, List.append_assoc, List.cons_append, List.nil_append, List.append_nil] <;>
            refine good_of_allocated hw hc hf
              (fun j hj => by simp [hj, Ne.symm hj, filesys_startVolumeTables_of_ne]) ?_ <;>
            rw [slotView_after]
            · simp [hst, hmo, hlast, h₀, hfm, osFilesysFlagIsReady, FsFlags.zero]
              decide
            · simp [hst, hmo, h₀, show formatRc ≠ 0 from hfm, Bool.beq_eq_decide_eq, FsFlags.zero]
              decide
        · simp only [run_bind, run_pure, run_osObjectIdFinalizeNew, specIdMgr_finalizeNew, h₀, ↓reduceIte,
            List.append_assoc, List.cons_append, List.nil_append]
          refine good_of_allocated hw hc hf (fun j hj => by simp [hj, Ne.symm hj, filesys_startVolumeTables_of_ne]) ?_
          rw [slotView_after]
          simp [hst, hmo, show start.rc ≠ 0 from h₀, Bool.beq_eq_decide_eq, FsFlags.zero]
          decide
  · exact hw

theorem osMkfs_good (address : Nat) (dev vol : Option CStr) (blocksize numblocks : Nat)
    (start : StartResult) (formatRc stopRc : Int) (hw : ∀ j, (slotView w j).Good) :
    ∀ j, (slotView ((osMkfs cfg (specIdMgr cfg creator) address dev vol blocksize numblocks start formatRc
      stopRc).run w).2 j).Good :=
  osFileSysInitialize_good cfg creator address dev vol blocksize numblocks true start formatRc stopRc hw

theorem osInitfs_good (address : Nat) (dev vol : Option CStr) (blocksize numblocks : Nat)
    (start : StartResult) (stopRc : Int) (hw : ∀ j, (slotView w j).Good) :
    ∀ j, (slotView ((osInitfs cfg (specIdMgr cfg creator) address dev vol blocksize numblocks start
      stopRc).run w).2 j).Good :=
  osFileSysInitialize_good cfg creator address dev vol blocksize numblocks false start osSuccess stopRc hw

theorem osFileSysAddFixedMap_good (phys virt : Option CStr) (start : StartResult) (mountRc : Int)
    (hw : ∀ j, (slotView w j).Good) :
    ∀ j, (slotView ((osFileSysAddFixedMap cfg (specIdMgr cfg creator) phys virt start mountRc).run w).2 j).Good := by
  unfold osFileSysAddFixedMap
  split
  · split_ifs
    · exact hw
    · exact hw
    · simp only [run_bind, run_osObjectIdAllocateNew]
      rcases h : (specIdMgr cfg creator).allocateNew osObjectTypeOsFilesys _ w.tables with e | ⟨i, t₁⟩
      · simp only [run_pure]
        exact good_of_untouched hw (by simp)
      · obtain ⟨hfree, hc, hf, hlast⟩ := fsActive_of_allocateNew cfg creator h
        obtain ⟨hst, hmo⟩ := (hw i).not_started_of_free hfree
        simp only [osObjectTypeOsFilesys] at hlast
        simp only [run_bind, run_pure, run_modifyTables, run_osFileSysStartVolumeImpl]
        split_ifs with h₀
        · by_cases hm : mountRc = osSuccess <;>
          simp only [run_bind, run_pure, run_modifyTables, run_osFileSysVolumeImpl, run_osObjectIdFinalizeNew,
            specIdMgr_finalizeNew, hm, ↓reduceIte, List.append_assoc, List.cons_append, List.nil_append] <;>
          refine good_of_allocated hw hc hf
              (fun j hj => by simp [hj, Ne.symm hj, filesys_startVolumeTables_of_ne]) ?_ <;>
          rw [slotView_after]
          · simp [hst, hmo, hlast, h₀, hm, osFilesysFlagIsReady, osFilesysFlagIsFixed, osFilesysFlagIsMountedSystem,
              osFilesysFlagIsMountedVirtual]
            decide
          · simp [hst, hmo, h₀, show mountRc ≠ 0 from hm, Bool.beq_eq_decide_eq, osFilesysFlagIsReady,
              osFilesysFlagIsFixed]
            decide
        · simp only [run_bind, run_pure, run_osObjectIdFinalizeNew, specIdMgr_finalizeNew, h₀, ↓reduceIte,
            List.append_assoc, List.cons_append, List.nil_append]
          refine good_of_allocated hw hc hf (fun j hj => by simp [hj, Ne.symm hj, filesys_startVolumeTables_of_ne]) ?_
          rw [slotView_after]
          simp [hst, hmo, show start.rc ≠ 0 from h₀, Bool.beq_eq_decide_eq, osFilesysFlagIsFixed]
          decide
  · exact hw

end

/-! ### Runs -/

/-- The calls that change the file system table, with their arguments and what the adapter's
volume calls return. -/
inductive FsCall
  | mkfs (address : Nat) (devname volname : Option CStr) (blocksize numblocks : Nat)
      (start : StartResult) (formatRc stopRc : Int)
  | initfs (address : Nat) (devname volname : Option CStr) (blocksize numblocks : Nat)
      (start : StartResult) (stopRc : Int)
  | addFixedMap (physPath virtPath : Option CStr) (start : StartResult) (mountRc : Int)
  | rmfs (devname : Option CStr) (stopRc : Int)
  | mount (devname mountpoint : Option CStr) (mountRc : Int)
  | unmount (mountpoint : Option CStr) (unmountRc : Int)

def FsCall.run (cfg : Config) (idm : IdMgr) : FsCall → OsalM Unit
  | .mkfs a d v bs nb st f s => discard <| osMkfs cfg idm a d v bs nb st f s
  | .initfs a d v bs nb st s => discard <| osInitfs cfg idm a d v bs nb st s
  | .addFixedMap p v st m => discard <| osFileSysAddFixedMap cfg idm p v st m
  | .rmfs d s => discard <| osRmfs cfg idm d s
  | .mount d m rc => discard <| osMount cfg idm d m rc
  | .unmount m rc => discard <| osUnmount cfg idm m rc

/-- The worlds reached from `OS_API_Init` by the file system calls, each made by some task
(`creator`) against the ID manager of the spec. -/
inductive FsReachable (cfg : Config) : World → Prop
  | init : FsReachable cfg ⟨Tables.zero, []⟩
  | step {w : World} (creator : OsalId) (c : FsCall) :
      FsReachable cfg w → FsReachable cfg ((c.run cfg (specIdMgr cfg creator)).run w).2

def FsCall.runs (cfg : Config) (creator : OsalId) : List FsCall → World → World
  | [], w => w
  | c :: cs, w => FsCall.runs cfg creator cs ((c.run cfg (specIdMgr cfg creator)).run w).2

theorem FsReachable.runs {cfg : Config} {w : World} (h : FsReachable cfg w) (creator : OsalId) :
    ∀ cs : List FsCall, FsReachable cfg (FsCall.runs cfg creator cs w)
  | [] => h
  | c :: cs => (FsReachable.step creator c h).runs creator cs

theorem FsCall.run_good (cfg : Config) (creator : OsalId) (c : FsCall) {w : World}
    (hw : ∀ j, (slotView w j).Good) : ∀ j, (slotView ((c.run cfg (specIdMgr cfg creator)).run w).2 j).Good := by
  cases c <;> simp only [FsCall.run, run_discard]
  · exact osMkfs_good cfg creator _ _ _ _ _ _ _ _ hw
  · exact osInitfs_good cfg creator _ _ _ _ _ _ _ hw
  · exact osFileSysAddFixedMap_good cfg creator _ _ _ _ hw
  · exact osRmfs_good cfg creator _ _ hw
  · exact osMount_good cfg creator _ _ _ hw
  · exact osUnmount_good cfg creator _ _ hw

theorem slotView_init_good (j : Nat) : (slotView ⟨Tables.zero, []⟩ j).Good :=
  ⟨by simp [slotView, Tables.fsActive, Tables.zero, OsCommonRecord.zero, osObjectIdDefined, osObjectIdUndefined],
    by simp [slotView, Tables.fsActive, Tables.zero, OsCommonRecord.zero, osObjectIdDefined, osObjectIdUndefined],
    by simp [slotView, Tables.fsActive, Tables.zero, OsCommonRecord.zero, osObjectIdDefined, osObjectIdUndefined],
    by simp [slotView], by simp [slotView]⟩

theorem FsReachable.good {cfg : Config} {w : World} (h : FsReachable cfg w) : ∀ j, (slotView w j).Good := by
  induction h with
  | init => exact slotView_init_good
  | step creator c _ ih => exact c.run_good cfg creator ih

end Osal
