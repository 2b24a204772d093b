import Osal.FileSys.Events
import Osal.FileSys.Api
import Osal.IdMapSpec

/-!
# The file system table and the adapter's volumes agree

The six calls that change the file system table (`OS_mkfs`, `OS_initfs`, `OS_FileSysAddFixedMap`,
`OS_mount`, `OS_unmount`, `OS_rmfs`), run against the ID manager of the spec, each touch at most
one slot: the one they allocate or find. `slotView w i` is what the agreement looks at for slot
`i`: whether it is in use, its flags, and four facts read off the log. `SlotView.Good` is the
agreement for one slot, and every call keeps it for every slot: the slot it touches by a short
case analysis over the call's branches, the others because nothing about them changes.
-/

namespace Osal

def Tables.fsActive (t : Tables) (i : Nat) : Bool :=
  osObjectIdDefined (t.common osObjectTypeOsFilesys i).activeId

@[simp] theorem Tables.fsActive_modifyFilesys (t : Tables) (i j : Nat)
    (f : OsFilesysInternalRecord → OsFilesysInternalRecord) : (t.modifyFilesys i f).fsActive j = t.fsActive j :=
  rfl

@[simp] theorem Tables.fsActive_startVolumeTables (cfg : Config) (res : StartResult) (t : Tables) (i j : Nat) :
    (startVolumeTables cfg res i t).fsActive j = t.fsActive j := by
  simp [fsActive]

@[simp] theorem Tables.fsActive_setFilesys (t : Tables) (i j : Nat) (r : OsFilesysInternalRecord) :
    (t.setFilesys i r).fsActive j = t.fsActive j := rfl

@[simp] theorem Tables.fsActive_setNameEntry (t : Tables) (ty i j : Nat) (n : Option CStr) :
    (t.setNameEntry ty i n).fsActive j = t.fsActive j := by
  simp [fsActive]

@[simp] theorem Tables.fsActive_setActiveId (t : Tables) (ty i j : Nat) (id : OsalId) :
    (t.setActiveId ty i id).fsActive j =
      if osObjectTypeOsFilesys = ty ∧ j = i then osObjectIdDefined id else t.fsActive j := by
  unfold fsActive; rw [activeId_setActiveId]; split <;> rfl

namespace Event

def startOk (i : Nat) : Event → Bool := isVolume .start i (· == osSuccess)

def formatFailed (i : Nat) : Event → Bool := isVolume .format i (· != osSuccess)

/-- `OS_FileSysStopVolume_Impl` was called on slot `i`, or `OS_FileSysMountVolume_Impl` failed
there. -/
def stopOrFailedMount (i : Nat) (e : Event) : Bool :=
  isVolume .stop i (fun _ => true) e || isVolume .mount i (· != osSuccess) e

def mountOk (i : Nat) : Event → Bool := isVolume .mount i (· == osSuccess)

/-- `OS_FileSysUnmountVolume_Impl` was called on slot `i`, or `OS_FileSysStopVolume_Impl`
succeeded there. -/
def unmountOrStopped (i : Nat) (e : Event) : Bool :=
  isVolume .unmount i (fun _ => true) e || isVolume .stop i (· == osSuccess) e

section
variable {i : Nat} {e : Event}

theorem touchesFs_of_startOk (h : startOk i e) : e.touchesFs i := touchesFs_of_isVolume h
theorem touchesFs_of_formatFailed (h : formatFailed i e) : e.touchesFs i := touchesFs_of_isVolume h
theorem touchesFs_of_mountOk (h : mountOk i e) : e.touchesFs i := touchesFs_of_isVolume h

theorem touchesFs_of_stopOrFailedMount (h : stopOrFailedMount i e) : e.touchesFs i := by
  rcases Bool.or_eq_true_iff.1 h with h | h <;> exact touchesFs_of_isVolume h

theorem touchesFs_of_unmountOrStopped (h : unmountOrStopped i e) : e.touchesFs i := by
  rcases Bool.or_eq_true_iff.1 h with h | h <;> exact touchesFs_of_isVolume h

end

end Event

/-- What the agreement looks at for one slot. -/
structure SlotView where
  active : Bool
  ready : Bool
  mountedSystem : Bool
  mountedVirtual : Bool
  /-- A successful start since the slot was last allocated. -/
  startedSinceAlloc : Bool
  /-- A failed format since the slot was last allocated. -/
  formatFailedSinceAlloc : Bool
  /-- A successful start, with no stop and no failed mount since. -/
  started : Bool
  /-- A successful mount, with no unmount and no successful stop since. -/
  mounted : Bool
deriving DecidableEq

def slotView (w : World) (i : Nat) : SlotView where
  active := w.tables.fsActive i
  ready := (w.tables.filesys i).flags.ready
  mountedSystem := (w.tables.filesys i).flags.mountedSystem
  mountedVirtual := (w.tables.filesys i).flags.mountedVirtual
  startedSinceAlloc := since (Event.startOk i) (Event.isFsAllocate i) w.log
  formatFailedSinceAlloc := since (Event.formatFailed i) (Event.isFsAllocate i) w.log
  started := since (Event.startOk i) (Event.stopOrFailedMount i) w.log
  mounted := since (Event.mountOk i) (Event.unmountOrStopped i) w.log

/-- The agreement for one slot, between the table's record and the volume calls logged for it. -/
structure SlotView.Good (v : SlotView) : Prop where
  mounted_agree : v.active → v.mountedSystem = v.mountedVirtual
  ready_of_mounted : v.active → v.mountedSystem → v.ready
  started_of_ready : v.active → v.ready → v.startedSinceAlloc ∧ v.formatFailedSinceAlloc = false
  ready_of_started : v.started → v.active ∧ v.ready
  mounted_of_mounted : v.mounted → v.active ∧ v.mountedSystem

theorem SlotView.good_iff (v : SlotView) : v.Good ↔
    (v.active → v.mountedSystem = v.mountedVirtual) ∧ (v.active → v.mountedSystem → v.ready) ∧
      (v.active → v.ready → v.startedSinceAlloc ∧ v.formatFailedSinceAlloc = false) ∧
      (v.started → v.active ∧ v.ready) ∧ (v.mounted → v.active ∧ v.mountedSystem) :=
  ⟨fun ⟨h₁, h₂, h₃, h₄, h₅⟩ => ⟨h₁, h₂, h₃, h₄, h₅⟩,
    fun ⟨h₁, h₂, h₃, h₄, h₅⟩ => ⟨h₁, h₂, h₃, h₄, h₅⟩⟩

instance : DecidablePred SlotView.Good := fun v => decidable_of_iff _ (SlotView.good_iff v).symm

namespace SlotView

@[simp] def logVolume (v : SlotView) : VolumeOp → Bool → SlotView
  | .start, ok => { v with startedSinceAlloc := v.startedSinceAlloc || ok, started := v.started || ok }
  | .format, ok => { v with formatFailedSinceAlloc := v.formatFailedSinceAlloc || !ok }
  | .stop, ok => { v with started := false, mounted := v.mounted && !ok }
  | .mount, ok => { v with started := v.started && ok, mounted := v.mounted || ok }
  | .unmount, _ => { v with mounted := false }

/-- What a logged event does to the view of slot `i`. -/
@[simp] def logEvent (i : Nat) (v : SlotView) : Event → SlotView
  | .allocate ty j =>
    if ty = osObjectTypeOsFilesys ∧ j = i then
      { v with startedSinceAlloc := false, formatFailedSinceAlloc := false }
    else v
  | .volume op j rc => if j = i then v.logVolume op (rc == osSuccess) else v
  | _ => v

@[simp] def withRecord (v : SlotView) (active : Bool) (flags : FsFlags) : SlotView :=
  { v with active := active, ready := flags.ready, mountedSystem := flags.mountedSystem,
           mountedVirtual := flags.mountedVirtual }

end SlotView

/-! ### The transitions the calls make on one slot

What each successful or failed branch of a call does to the view of the slot it works on, and
that it keeps the agreement. -/

namespace SlotView.Good
variable {v : SlotView}

theorem mount_ok (h : v.Good) (ha : v.active) (hr : v.ready) :
    ({ v with mountedSystem := true, mountedVirtual := true, mounted := true } : SlotView).Good := by
  obtain ⟨h₁, h₂, h₃, h₄, h₅⟩ := h
  exact ⟨fun _ => rfl, fun _ _ => hr, h₃, h₄, fun _ => ⟨ha, rfl⟩⟩

theorem unstart (h : v.Good) : ({ v with started := false } : SlotView).Good := by
  obtain ⟨h₁, h₂, h₃, h₄, h₅⟩ := h
  exact ⟨h₁, h₂, h₃, fun h => by simp at h, h₅⟩

theorem unmount_ok (h : v.Good) :
    ({ v with mountedSystem := false, mountedVirtual := false, mounted := false } : SlotView).Good := by
  obtain ⟨h₁, h₂, h₃, h₄, h₅⟩ := h
  exact ⟨fun _ => rfl, fun _ h => by simp at h, h₃, h₄, fun h => by simp at h⟩

theorem unmount_failed (h : v.Good) : ({ v with mounted := false } : SlotView).Good := by
  obtain ⟨h₁, h₂, h₃, h₄, h₅⟩ := h
  exact ⟨h₁, h₂, h₃, h₄, fun h => by simp at h⟩

theorem remove (h : v.Good) :
    ({ v with active := false, started := false, mounted := false } : SlotView).Good := by
  obtain ⟨h₁, h₂, h₃, h₄, h₅⟩ := h
  exact ⟨fun h => by simp at h, fun h => by simp at h, fun h => by simp at h, fun h => by simp at h,
    fun h => by simp at h⟩

theorem not_started_of_free (h : v.Good) (ha : v.active = false) : v.started = false ∧ v.mounted = false := by
  constructor
  · cases hs : v.started
    · rfl
    · simpa [ha] using (h.ready_of_started hs).1
  · cases hm : v.mounted
    · rfl
    · simpa [ha] using (h.mounted_of_mounted hm).1

end SlotView.Good

theorem slotView_append_event (w : World) (e : Event) (i : Nat) :
    slotView ⟨w.tables, w.log ++ [e]⟩ i = (slotView w i).logEvent i e := by
  cases e with
  | volume op j rc =>
    by_cases h : j = i
    · subst h
      cases op <;> simp [slotView, SlotView.logEvent, SlotView.logVolume, Event.startOk, Event.formatFailed,
        Event.stopOrFailedMount, Event.mountOk, Event.unmountOrStopped, Bool.beq_eq_decide_eq, bne]
    · simp [slotView, SlotView.logEvent, h, Event.startOk, Event.formatFailed,
        Event.stopOrFailedMount, Event.mountOk, Event.unmountOrStopped, Bool.beq_eq_decide_eq]
  | allocate ty j =>
    by_cases h₁ : ty = osObjectTypeOsFilesys <;> by_cases h₂ : j = i <;>
      simp_all [slotView, SlotView.logEvent, Event.startOk, Event.formatFailed, Event.stopOrFailedMount,
        Event.mountOk, Event.unmountOrStopped, Event.isVolume, Event.isFsAllocate]
  | _ => simp [slotView, SlotView.logEvent, Event.startOk, Event.formatFailed, Event.stopOrFailedMount,
        Event.mountOk, Event.unmountOrStopped, Event.isVolume, Event.isFsAllocate, Bool.beq_eq_decide_eq]

/-- The view after a run of events and a change of tables: the events act one by one on the
log's part of the view, the tables give the rest. -/
theorem slotView_after (w : World) (t' : Tables) (new : List Event) (i : Nat) :
    slotView ⟨t', w.log ++ new⟩ i =
      (new.foldl (SlotView.logEvent i) (slotView w i)).withRecord (t'.fsActive i) (t'.filesys i).flags := by
  suffices h : ∀ w : World,
      slotView ⟨w.tables, w.log ++ new⟩ i = new.foldl (SlotView.logEvent i) (slotView w i) by
    rw [← h]; rfl
  induction new with
  | nil => intro w; simp
  | cons e new ih =>
    intro w
    rw [List.foldl_cons, ← slotView_append_event, ← ih, List.append_cons]

/-! The table's part of the view, read back as the view's fields: with these, a view computed
after a call is stated over the fields of the view before it. -/

theorem fsActive_eq_slotView (w : World) (i : Nat) : w.tables.fsActive i = (slotView w i).active := rfl
theorem ready_eq_slotView (w : World) (i : Nat) :
    (w.tables.filesys i).flags.ready = (slotView w i).ready := rfl
theorem mountedSystem_eq_slotView (w : World) (i : Nat) :
    (w.tables.filesys i).flags.mountedSystem = (slotView w i).mountedSystem := rfl
theorem mountedVirtual_eq_slotView (w : World) (i : Nat) :
    (w.tables.filesys i).flags.mountedVirtual = (slotView w i).mountedVirtual := rfl

section
variable {w : World} {t' : Tables} {new : List Event}

theorem slotView_frame {j : Nat} (ha : t'.fsActive j = w.tables.fsActive j)
    (hf : t'.filesys j = w.tables.filesys j) (hn : ∀ e ∈ new, e.touchesFs j = false) :
    slotView ⟨t', w.log ++ new⟩ j = slotView w j := by
  simp only [slotView, ha, hf]
  rw [since_append_of_not_touches (fun _ => Event.touchesFs_of_startOk)
      (fun _ => Event.touchesFs_of_isFsAllocate) hn,
    since_append_of_not_touches (fun _ => Event.touchesFs_of_formatFailed)
      (fun _ => Event.touchesFs_of_isFsAllocate) hn,
    since_append_of_not_touches (fun _ => Event.touchesFs_of_startOk)
      (fun _ => Event.touchesFs_of_stopOrFailedMount) hn,
    since_append_of_not_touches (fun _ => Event.touchesFs_of_mountOk)
      (fun _ => Event.touchesFs_of_unmountOrStopped) hn]

theorem good_of_touches (i : Nat) (hw : ∀ j, (slotView w j).Good)
    (hframe : ∀ j ≠ i, t'.fsActive j = w.tables.fsActive j ∧ t'.filesys j = w.tables.filesys j ∧
      ∀ e ∈ new, e.touchesFs j = false)
    (hi : (slotView ⟨t', w.log ++ new⟩ i).Good) : ∀ j, (slotView ⟨t', w.log ++ new⟩ j).Good := by
  intro j
  by_cases hj : j = i
  · exact hj ▸ hi
  · obtain ⟨ha, hf, hn⟩ := hframe j hj
    rw [slotView_frame ha hf hn]
    exact hw j

theorem good_of_untouched (hw : ∀ j, (slotView w j).Good) (hn : ∀ j, ∀ e ∈ new, e.touchesFs j = false) :
    ∀ j, (slotView ⟨w.tables, w.log ++ new⟩ j).Good := fun j => by
  rw [slotView_frame rfl rfl (hn j)]
  exact hw j

end

end Osal
