import Osal.FileSys.Consistency
import Osal.Locks.FileSys

/-!
# Which call registered a file system slot

`OS_mkfs` and `OS_initfs` share `OS_FileSys_Initialize`, and only `OS_mkfs` formats the volume. The
tables and the log do not say which of them allocated a slot, so `FsRegistered` tracks it beside
each reachable world: a call that logs the allocation of slot `i` registers it
(`FsCall.register`). Two facts about the events of one call carry the invariant over runs
(`FsCall.run_log`): a call starts a volume only on a slot whose allocation it logs, and `OS_mkfs`
formats the volume it starts. So a slot `OS_mkfs` registered was formatted after its allocation
once its volume started (`MkfsFormats`), and, ready, formatted successfully.
-/

namespace Osal

namespace Event

def formatted (i : Nat) : Event → Bool := isVolume .format i fun _ => true

def formatOk (i : Nat) : Event → Bool := isVolume .format i (· == osSuccess)

end Event

def StartsOnAllocated (new : List Event) : Prop :=
  ∀ i, new.any (Event.startOk i) → new.any (Event.isFsAllocate i)

def FormatsStarted (new : List Event) : Prop :=
  ∀ i, since (Event.startOk i) (Event.isFsAllocate i) new → since (Event.formatted i) (Event.isFsAllocate i) new

section
variable (cfg : Config) (idm : IdMgr)

theorem osFileSysInitialize_log (address : Nat) (dev vol : Option CStr) (bs nb : Nat) (fmt : Bool)
    (start : StartResult) (formatRc stopRc : Int) (w : World) :
    let new := ((osFileSysInitialize cfg idm address dev vol bs nb fmt start formatRc stopRc).run w).2.log.drop
      w.log.length
    StartsOnAllocated new ∧ (fmt → FormatsStarted new) := by
  unfold osFileSysInitialize
  split
  · split_ifs
    · simp [StartsOnAllocated, FormatsStarted]
    · simp [StartsOnAllocated, FormatsStarted]
    · simp only [run_bind, run_osObjectIdAllocateNew]
      rcases idm.allocateNew osObjectTypeOsFilesys _ w.tables with e | ⟨k, t₁⟩
      · simp [StartsOnAllocated, FormatsStarted, Event.startOk, Event.formatted, since]
      · simp only [run_bind, run_pure, run_modifyTables, run_osFileSysStartVolumeImpl]
        split_ifs with h₀
        · simp only [run_bind, run_pure, run_initializeStarted, run_osObjectIdFinalizeNew]
          cases fmt
          · simp [StartsOnAllocated, Event.startOk]
          · by_cases hf : formatRc = 0 <;>
              simp [StartsOnAllocated, FormatsStarted, Event.startOk, Event.formatted, since, hf, h₀]
        · simp [run_osObjectIdFinalizeNew, StartsOnAllocated, FormatsStarted, Event.startOk, since,
            show start.rc ≠ 0 from h₀]
  · simp [StartsOnAllocated, FormatsStarted]

theorem osFileSysAddFixedMap_log (phys virt : Option CStr) (start : StartResult) (mountRc : Int) (w : World) :
    StartsOnAllocated (((osFileSysAddFixedMap cfg idm phys virt start mountRc).run w).2.log.drop w.log.length) := by
  unfold osFileSysAddFixedMap
  split
  · split_ifs
    · simp [StartsOnAllocated]
    · simp [StartsOnAllocated]
    · simp only [run_bind, run_osObjectIdAllocateNew]
      rcases idm.allocateNew osObjectTypeOsFilesys _ w.tables with e | ⟨k, t₁⟩
      · simp [StartsOnAllocated, Event.startOk]
      · simp only [run_bind, run_pure, run_modifyTables, run_osFileSysStartVolumeImpl]
        split_ifs with h₀
        · by_cases hm : mountRc = 0 <;>
            simp [hm, run_osFileSysVolumeImpl, run_osObjectIdFinalizeNew, StartsOnAllocated, Event.startOk]
        · simp [show start.rc ≠ 0 from h₀, run_osObjectIdFinalizeNew, StartsOnAllocated, Event.startOk]
  · simp [StartsOnAllocated]

theorem osMount_log (dev mp : Option CStr) (mountRc : Int) (w : World) :
    StartsOnAllocated (((osMount cfg idm dev mp mountRc).run w).2.log.drop w.log.length) := by
  unfold osMount
  split
  · split_ifs
    · simp [StartsOnAllocated]
    · simp only [run_bind, osObjectIdGetByName, run_osObjectIdGetBySearch _ _ (.inr rfl)]
      rcases idm.getBySearch .exclusive osObjectTypeOsFilesys _ w.tables with e | ⟨i, t'⟩
      · simp [StartsOnAllocated, Event.startOk]
      · simp only [run_bind, run_pure, run_mountLocked, osUnlockGlobal, run_emit]
        split_ifs <;> simp [StartsOnAllocated, Event.startOk]
  · simp [StartsOnAllocated]

theorem osUnmount_log (mp : Option CStr) (unmountRc : Int) (w : World) :
    StartsOnAllocated (((osUnmount cfg idm mp unmountRc).run w).2.log.drop w.log.length) := by
  unfold osUnmount
  split
  · simp [StartsOnAllocated]
  · split_ifs
    · simp [StartsOnAllocated]
    · simp only [run_bind, run_osObjectIdGetBySearch _ _ (.inr rfl)]
      rcases idm.getBySearch .exclusive osObjectTypeOsFilesys _ w.tables with e | ⟨i, t'⟩
      · simp [StartsOnAllocated, Event.startOk]
      · simp only [run_bind, run_pure, run_unmountLocked, osUnlockGlobal, run_emit]
        split_ifs <;> simp [StartsOnAllocated, Event.startOk]

theorem osRmfs_log (dev : Option CStr) (stopRc : Int) (w : World) :
    StartsOnAllocated (((osRmfs cfg idm dev stopRc).run w).2.log.drop w.log.length) := by
  unfold osRmfs
  split
  · simp [StartsOnAllocated]
  · split_ifs
    · simp [StartsOnAllocated]
    · simp only [run_bind, osObjectIdGetByName, run_osObjectIdGetBySearch _ _ (.inr rfl)]
      rcases idm.getBySearch .exclusive osObjectTypeOsFilesys _ w.tables with e | ⟨i, t'⟩
      · simp [StartsOnAllocated, Event.startOk]
      · simp only [run_bind, run_pure, run_osFileSysVolumeImpl]
        split_ifs <;> simp [StartsOnAllocated, Event.startOk, osUnlockGlobal]

end

/-! ### Registrations over runs -/

/-- The call that registered a file system slot. -/
inductive FsRegistration
  | mkfs
  | initfs
  | fixedMap
  deriving DecidableEq

def FsCall.registration : FsCall → Option FsRegistration
  | .mkfs .. => some .mkfs
  | .initfs .. => some .initfs
  | .addFixedMap .. => some .fixedMap
  | _ => none

/-- The registrations once `c` took `w` to `w'`: a slot whose allocation it logged is registered
by it. -/
def FsCall.register (c : FsCall) (w w' : World) (reg : Nat → Option FsRegistration) (i : Nat) :
    Option FsRegistration :=
  if (w'.log.drop w.log.length).any (Event.isFsAllocate i) then c.registration else reg i

/-- The worlds the file system calls reach, each made by some task against the ID manager of the
spec, with the call that last allocated each slot. -/
inductive FsRegistered (cfg : Config) : World → (Nat → Option FsRegistration) → Prop
  | init : FsRegistered cfg ⟨Tables.zero, []⟩ fun _ => none
  | step {w : World} {reg : Nat → Option FsRegistration} (creator : OsalId) (c : FsCall) :
      FsRegistered cfg w reg →
      FsRegistered cfg ((c.run cfg (specIdMgr cfg creator)).run w).2
        (c.register w ((c.run cfg (specIdMgr cfg creator)).run w).2 reg)

def FsCall.runsRegistering (cfg : Config) (creator : OsalId) :
    List FsCall → World × (Nat → Option FsRegistration) → World × (Nat → Option FsRegistration)
  | [], p => p
  | c :: cs, p =>
    FsCall.runsRegistering cfg creator cs (((c.run cfg (specIdMgr cfg creator)).run p.1).2,
      c.register p.1 ((c.run cfg (specIdMgr cfg creator)).run p.1).2 p.2)

section
variable {cfg : Config} {w : World} {reg : Nat → Option FsRegistration}

theorem FsRegistered.runs {w : World} {reg : Nat → Option FsRegistration} (h : FsRegistered cfg w reg)
    (creator : OsalId) :
    ∀ cs : List FsCall, FsRegistered cfg (FsCall.runsRegistering cfg creator cs (w, reg)).1
      (FsCall.runsRegistering cfg creator cs (w, reg)).2
  | [] => h
  | c :: cs => (FsRegistered.step creator c h).runs creator cs

theorem FsRegistered.reachable (h : FsRegistered cfg w reg) : FsReachable cfg w := by
  induction h with
  | init => exact .init
  | step creator c _ ih => exact .step creator c ih

theorem FsReachable.registered (h : FsReachable cfg w) : ∃ reg, FsRegistered cfg w reg := by
  induction h with
  | init => exact ⟨_, .init⟩
  | step creator c _ ih =>
    obtain ⟨reg, h⟩ := ih
    exact ⟨_, .step creator c h⟩

end

theorem FsCall.run_lockSpec (cfg : Config) (idm : IdMgr) (c : FsCall) :
    LockSpec LockState.idle (c.run cfg idm) (fun _ => LockState.idle) := by
  have h : osObjectTypeOsFilesys ∉ LockState.idle.global := List.not_mem_nil _
  cases c <;> refine .discard ?_
  · exact osMkfs_lockSpec cfg idm h _ _ _ _ _ _ _ _
  · exact osInitfs_lockSpec cfg idm h _ _ _ _ _ _ _
  · exact osFileSysAddFixedMap_lockSpec cfg idm h _ _ _ _
  · exact osRmfs_lockSpec cfg idm h _ _
  · exact osMount_lockSpec cfg idm h _ _ _
  · exact osUnmount_lockSpec cfg idm h _ _

theorem FsCall.run_log (cfg : Config) (idm : IdMgr) (c : FsCall) (w : World) :
    ∃ new, ((c.run cfg idm).run w).2.log = w.log ++ new ∧ StartsOnAllocated new ∧
      (c.registration = some .mkfs → FormatsStarted new) := by
  obtain ⟨new, hnew, -⟩ := FsCall.run_lockSpec cfg idm c w
  refine ⟨new, hnew, ?_⟩
  rw [← List.drop_left w.log new, ← hnew]
  cases c <;> simp only [FsCall.run, run_discard, FsCall.registration, osMkfs, osInitfs, run_map,
    Option.some.injEq, reduceCtorEq, false_implies, and_true]
  · exact ⟨(osFileSysInitialize_log cfg idm _ _ _ _ _ true _ _ _ w).1,
      fun _ => (osFileSysInitialize_log cfg idm _ _ _ _ _ true _ _ _ w).2 rfl⟩
  · exact (osFileSysInitialize_log cfg idm _ _ _ _ _ false _ _ _ w).1
  · exact osFileSysAddFixedMap_log cfg idm _ _ _ _ w
  · exact osRmfs_log cfg idm _ _ w
  · exact osMount_log cfg idm _ _ _ w
  · exact osUnmount_log cfg idm _ _ w

/-! ### Slots `OS_mkfs` registered -/

section
variable {p p' q : Event → Bool}

theorem since_any {l : List Event} (h : since p q l) : l.any p := by
  induction l with
  | nil => simp at h
  | cons e l ih =>
    simp only [since, Bool.or_eq_true, Bool.and_eq_true] at h
    rcases h with ⟨h, -⟩ | h <;> simp [*]

theorem since_or (l : List Event) :
    since (fun e => p e || p' e) q l = (since p q l || since p' q l) := by
  induction l with
  | nil => rfl
  | cons e l ih =>
    simp only [since, ih, Bool.and_or_distrib_right, Bool.or_assoc, Bool.or_left_comm]

end

theorem Event.formatted_eq (i : Nat) (e : Event) :
    Event.formatted i e = (Event.formatOk i e || Event.formatFailed i e) := by
  cases e with
  | volume op j rc =>
    simp only [Event.formatted, Event.formatOk, Event.formatFailed, Event.isVolume_volume, bne, Bool.and_true]
    cases op == .format && j == i <;> cases rc == osSuccess <;> rfl
  | _ => rfl

theorem since_formatOk {i : Nat} {q : Event → Bool} {l : List Event}
    (h : since (Event.formatted i) q l) (hf : since (Event.formatFailed i) q l = false) :
    since (Event.formatOk i) q l := by
  rwa [show Event.formatted i = fun e => Event.formatOk i e || Event.formatFailed i e from
    funext (Event.formatted_eq i), since_or, hf, Bool.or_false] at h

/-- Each slot `OS_mkfs` registered, once its volume started after the slot's allocation, was
formatted after the allocation too. -/
def MkfsFormats (w : World) (reg : Nat → Option FsRegistration) : Prop :=
  ∀ i, reg i = some .mkfs → since (Event.startOk i) (Event.isFsAllocate i) w.log →
    since (Event.formatted i) (Event.isFsAllocate i) w.log

theorem MkfsFormats.step {w w' : World} {reg : Nat → Option FsRegistration} (hw : MkfsFormats w reg)
    (c : FsCall) {new : List Event} (hlog : w'.log = w.log ++ new) (hs : StartsOnAllocated new)
    (hf : c.registration = some .mkfs → FormatsStarted new) : MkfsFormats w' (c.register w w' reg) := by
  intro i hreg hst
  simp only [FsCall.register, hlog, List.drop_left] at hreg
  rw [hlog, since_append] at hst ⊢
  split at hreg
  next ha =>
    have hall : (new.all fun e => !Event.isFsAllocate i e) = false := by simpa using ha
    rw [hall, Bool.and_false, Bool.false_or] at hst ⊢
    exact hf hreg i hst
  next ha =>
    have hall : (new.all fun e => !Event.isFsAllocate i e) = true := by simpa using ha
    have hnew : since (Event.startOk i) (Event.isFsAllocate i) new = false :=
      Bool.eq_false_iff.2 fun h => ha (hs i (since_any h))
    rw [hall, hnew, Bool.and_true, Bool.or_false] at hst
    rw [hall, Bool.and_true, hw i hreg hst, Bool.true_or]

theorem FsRegistered.mkfsFormats {cfg : Config} {w : World} {reg : Nat → Option FsRegistration}
    (h : FsRegistered cfg w reg) : MkfsFormats w reg := by
  induction h with
  | init => intro i _ h; simp at h
  | step creator c _ ih =>
    obtain ⟨new, hlog, hs, hf⟩ := FsCall.run_log _ _ c _
    exact ih.step c hlog hs hf

section
variable {cfg : Config} {w : World} {reg : Nat → Option FsRegistration}

/-- In every world the file system calls reach, the flags of a record in use agree, and a ready
record's volume started, and was formatted when `OS_mkfs` registered it, since its allocation. -/
theorem FsRegistered.fsRecords_consistent (h : FsRegistered cfg w reg) :
    (∀ i, w.tables.fsActive i →
      (w.tables.filesys i).flags.mountedSystem = (w.tables.filesys i).flags.mountedVirtual ∧
      ((w.tables.filesys i).flags.mountedSystem → (w.tables.filesys i).flags.ready) ∧
      ((w.tables.filesys i).flags.ready →
        since (Event.startOk i) (Event.isFsAllocate i) w.log ∧
          since (Event.formatFailed i) (Event.isFsAllocate i) w.log = false ∧
          (reg i = some .mkfs → since (Event.formatOk i) (Event.isFsAllocate i) w.log))) ∧
    (∀ creator vp buf, ((osTranslatePath cfg (specIdMgr cfg creator) vp buf).run w).1.1 ≠
      osErrIncorrectObjState) ∧
    (∀ creator phys mp, ((osFsGetPhysDriveName cfg (specIdMgr cfg creator) phys mp).run w).1.1 ≠
      osErrIncorrectObjState) := by
  have hg := h.reachable.good
  refine ⟨fun i ha => ⟨(hg i).mounted_agree ha, (hg i).ready_of_mounted ha, fun hr => ?_⟩,
    fun creator => osTranslatePath_ne_incorrectObjState hg creator,
    fun creator => osFsGetPhysDriveName_ne_incorrectObjState hg creator⟩
  obtain ⟨hst, hff⟩ := (hg i).started_of_ready ha hr
  exact ⟨hst, hff, fun hm => since_formatOk (h.mkfsFormats i hm hst) hff⟩

end

/-- `OS_mkfs` of `d0`, started at `"/d0"` and formatted, then `OS_mount("d0", "/m")`. -/
def mkfsThenMount : World × (Nat → Option FsRegistration) :=
  FsCall.runsRegistering Config.small 0
    [.mkfs 0 (some devName) (some devName) 512 64 ⟨osSuccess, some devPath⟩ osSuccess osSuccess,
      .mount (some devName) (some mountPath) osSuccess]
    (⟨Tables.zero, []⟩, fun _ => none)

theorem FsRegistered.fsRecords_consistent_mkfsThenMount :
    (FsRegistered Config.small mkfsThenMount.1 mkfsThenMount.2 ∧ mkfsThenMount.2 1 = some .mkfs ∧
      mkfsThenMount.1.tables.fsActive 1 ∧ (mkfsThenMount.1.tables.filesys 1).flags.ready ∧
      (mkfsThenMount.1.tables.filesys 1).flags.mountedSystem) ∧
    ((∀ i, mkfsThenMount.1.tables.fsActive i →
      (mkfsThenMount.1.tables.filesys i).flags.mountedSystem =
          (mkfsThenMount.1.tables.filesys i).flags.mountedVirtual ∧
      ((mkfsThenMount.1.tables.filesys i).flags.mountedSystem → (mkfsThenMount.1.tables.filesys i).flags.ready) ∧
      ((mkfsThenMount.1.tables.filesys i).flags.ready →
        since (Event.startOk i) (Event.isFsAllocate i) mkfsThenMount.1.log ∧
          since (Event.formatFailed i) (Event.isFsAllocate i) mkfsThenMount.1.log = false ∧
          (mkfsThenMount.2 i = some .mkfs → since (Event.formatOk i) (Event.isFsAllocate i) mkfsThenMount.1.log))) ∧
    (∀ creator vp buf, ((osTranslatePath Config.small (specIdMgr Config.small creator) vp buf).run
      mkfsThenMount.1).1.1 ≠ osErrIncorrectObjState) ∧
    (∀ creator phys mp, ((osFsGetPhysDriveName Config.small (specIdMgr Config.small creator) phys mp).run
      mkfsThenMount.1).1.1 ≠ osErrIncorrectObjState)) :=
  ⟨⟨FsRegistered.init.runs 0 _, by decide, by decide, by decide, by decide⟩,
    FsRegistered.fsRecords_consistent (FsRegistered.init.runs 0 _)⟩

end Osal
