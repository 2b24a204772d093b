import Osal.VxWorks.TaskStack
import Osal.VxWorks.Tasks

/-!
# The kernel handles of the VxWorks adapter (`os-impl-tasks.c`, `os-impl-binsem.c`)

Each slot of `OS_impl_task_table` and `OS_impl_bin_sem_table` holds the kernel object of one OSAL
object (the task's `WIND_TCB`, the semaphore's memory `bmem`) and a handle to it, `vxid`. A
successful `OS_TaskCreate_Impl` stores `(TASK_ID)&lrec->tcb`; a successful `OS_BinSemCreate_Impl`
stores what `semBInitialize` returns for the slot's `bmem`; `OS_TaskDelete_Impl` (once
`taskDelete` succeeds) and `OS_BinSemDelete_Impl` store `0`. Every other call only reads `vxid`.

The invariant is `OwnHandles`: each slot's handle is `0` or the address of its own object. Every
create and delete keeps it, so it holds after any run of adapter calls from the zeroed tables.
Since the objects of distinct slots lie at distinct addresses, no two slots share a nonzero handle:
`OS_TaskIdMatchSystemData_Impl` finds a task ID in at most one slot, the semaphore calls on
distinct slots reach distinct kernel semaphores, and a thread that `OS_TaskMatch_Impl` accepts for
a slot is the one `OS_TaskGetId_Impl` maps to that slot.

The records lie from `base` on, `recordSize` bytes each, with the kernel object first
(`OS_TaskGetId_Impl` casts the TCB pointer to the record); addresses are numbers. A VxWorks
`TASK_ID` is the address of the task's TCB, and the `SEM_ID` that `semBInitialize` returns is the
address of the memory it initialised, or `0` on failure.
-/

namespace Osal

open Function

/-- The address of the kernel object of slot `i`: `&OS_impl_task_table[i].tcb`, or
`OS_impl_bin_sem_table[i].bmem`. -/
def slotAddress (base recordSize i : Nat) : Nat := base + i * recordSize

/-- Each slot's handle is `0` or the address of its own object. -/
def OwnHandles (base recordSize : Nat) (vxid : Nat → Nat) : Prop :=
  ∀ i, vxid i = 0 ∨ vxid i = slotAddress base recordSize i

section OwnHandles

variable {base recordSize : Nat} {vxid : Nat → Nat}

theorem ownHandles_zero : OwnHandles base recordSize fun _ => 0 := fun _ => .inl rfl

theorem OwnHandles.clear (h : OwnHandles base recordSize vxid) (i : Nat) :
    OwnHandles base recordSize (update vxid i 0) := fun j => by
  by_cases hj : j = i
  · subst hj; exact .inl (update_same _ _ _)
  · rw [update_noteq hj]; exact h j

theorem OwnHandles.set (h : OwnHandles base recordSize vxid) (i : Nat) :
    OwnHandles base recordSize (update vxid i (slotAddress base recordSize i)) := fun j => by
  by_cases hj : j = i
  · subst hj; exact .inr (update_same _ _ _)
  · rw [update_noteq hj]; exact h j

theorem OwnHandles.unique (h : OwnHandles base recordSize vxid) (hr : 0 < recordSize) {i j : Nat}
    (hne : vxid i ≠ 0) (heq : vxid i = vxid j) : i = j := by
  have hi := (h i).resolve_left hne
  have hj := (h j).resolve_left (heq ▸ hne)
  rw [hi, hj, slotAddress, slotAddress] at heq
  exact Nat.eq_of_mul_eq_mul_right hr (Nat.add_left_cancel heq)

end OwnHandles

/-! ### Tasks -/

/-- The VxWorks task table: each slot's stack record and its `vxid` (`0` for none). -/
structure VxTaskTable where
  lrec : Nat → OsImplTaskInternalRecord
  vxid : Nat → Nat

def VxTaskTable.zero : VxTaskTable := ⟨fun _ => OsImplTaskInternalRecord.zero, fun _ => 0⟩

/-- `OS_TaskCreate_Impl(task_id, flags)` on the table: the stack and `taskInit` as in
`osTaskCreateImpl`, then on success `lrec->vxid = (TASK_ID)&lrec->tcb`. `taskActivate` is left out:
its result is not read. -/
def VxTaskTable.taskCreateImpl (base recordSize : Nat) (malloc : BitVec 64 → BitVec 64)
    (taskInitOk : BitVec 64 → BitVec 64 → Bool) (stackSize : BitVec 32) (stackPointer : BitVec 64)
    (taskId : Nat) (tbl : VxTaskTable) : Int × VxTaskTable :=
  let r := osTaskCreateImpl malloc taskInitOk stackSize stackPointer (tbl.lrec taskId)
  (r.status, ⟨update tbl.lrec taskId r.lrec,
    if r.status = osSuccess then update tbl.vxid taskId (slotAddress base recordSize taskId)
    else tbl.vxid⟩)

def osTaskDeleteImpl (taskDeleteOk : Nat → Bool) (taskId : Nat) (vxid : Nat → Nat) :
    Int × (Nat → Nat) :=
  if !taskDeleteOk (vxid taskId) then (osError, vxid) else (osSuccess, update vxid taskId 0)

def osTaskSetPriorityImpl (taskPrioritySetOk : Nat → Nat → Bool) (taskId newPriority : Nat)
    (vxid : Nat → Nat) : Int :=
  if !taskPrioritySetOk (vxid taskId) newPriority then osError else osSuccess

def osTaskMatchImpl (self taskId : Nat) (vxid : Nat → Nat) : Int :=
  if self ≠ vxid taskId then osError else osSuccess

def osTaskValidateSystemDataImpl (sizeofTaskId : Nat) (sysdataValid : Bool) (sysdataSize : Nat) :
    Int :=
  if !sysdataValid || sysdataSize ≠ sizeofTaskId then osInvalidPointer else osSuccess

def osTaskIdMatchSystemDataImpl (target localId : Nat) (vxid : Nat → Nat) : Bool :=
  target == vxid localId

inductive VxTaskCall
  | create (taskId : Nat) (malloc : BitVec 64 → BitVec 64) (taskInitOk : BitVec 64 → BitVec 64 → Bool)
      (stackSize : BitVec 32) (stackPointer : BitVec 64)
  | delete (taskId : Nat) (taskDeleteOk : Nat → Bool)

def VxTaskCall.run (base recordSize : Nat) (tbl : VxTaskTable) : VxTaskCall → VxTaskTable
  | .create taskId malloc taskInitOk stackSize stackPointer =>
    (tbl.taskCreateImpl base recordSize malloc taskInitOk stackSize stackPointer taskId).2
  | .delete taskId taskDeleteOk => { tbl with vxid := (osTaskDeleteImpl taskDeleteOk taskId tbl.vxid).2 }

theorem VxTaskCall.run_ownHandles {base recordSize : Nat} {tbl : VxTaskTable}
    (h : OwnHandles base recordSize tbl.vxid) (c : VxTaskCall) :
    OwnHandles base recordSize (c.run base recordSize tbl).vxid := by
  cases c with
  | create taskId malloc taskInitOk stackSize stackPointer =>
    simp only [VxTaskCall.run, VxTaskTable.taskCreateImpl]
    split
    · exact h.set taskId
    · exact h
  | delete taskId taskDeleteOk =>
    simp only [VxTaskCall.run, osTaskDeleteImpl]
    split
    · exact h
    · exact h.clear taskId

theorem osTaskMatchImpl_slotAddress {base recordSize : Nat} {vxid : Nat → Nat}
    (h : OwnHandles base recordSize vxid) {self i : Nat} (hself : self ≠ 0)
    (hm : osTaskMatchImpl self i vxid = osSuccess) : self = slotAddress base recordSize i := by
  unfold osTaskMatchImpl at hm
  split at hm
  · exact absurd hm (by decide)
  · rename_i hs
    rw [not_not] at hs
    exact ((h i).resolve_left (hs ▸ hself)).symm ▸ hs

/-- After any run of task creates and deletes from the zeroed table, each slot's `vxid` is `0` or
its own TCB's address, so task IDs and running threads map back to one slot each. -/
theorem vxTaskTable_handles (cfg : Config) (base recordSize : Nat) (hr : 0 < recordSize)
    (calls : List VxTaskCall) (t : Tables) :
    OwnHandles base recordSize (calls.foldl (VxTaskCall.run base recordSize) VxTaskTable.zero).vxid ∧
      (∀ target i j, target ≠ 0 →
        osTaskIdMatchSystemDataImpl target i (calls.foldl (VxTaskCall.run base recordSize) VxTaskTable.zero).vxid →
        osTaskIdMatchSystemDataImpl target j (calls.foldl (VxTaskCall.run base recordSize) VxTaskTable.zero).vxid →
          i = j) ∧
      (∀ self i, self ≠ 0 → self < 2 ^ 64 → i < cfg.maxTasks →
        osTaskMatchImpl self i (calls.foldl (VxTaskCall.run base recordSize) VxTaskTable.zero).vxid = osSuccess →
          osTaskGetIdImpl cfg (some (((self : Int) - base) / recordSize)) t =
            (t.common osObjectTypeOsTask i).activeId) := by
  have hown : OwnHandles base recordSize (calls.foldl (VxTaskCall.run base recordSize) VxTaskTable.zero).vxid :=
    List.foldlRecOn (motive := fun tbl : VxTaskTable => OwnHandles base recordSize tbl.vxid) calls _ _ ownHandles_zero
      fun _ h c _ => VxTaskCall.run_ownHandles h c
  refine ⟨hown, fun target i j ht hi hj => ?_, fun self i hself h64 hi hm => ?_⟩
  · simp only [osTaskIdMatchSystemDataImpl, beq_iff_eq] at hi hj
    exact hown.unique hr (hi ▸ ht) (hi.symm.trans hj)
  · have haddr := osTaskMatchImpl_slotAddress hown hself hm
    have hoff : ((self : Int) - base) / recordSize = i := by
      rw [haddr, slotAddress]; push_cast
      rw [add_sub_cancel_left, Int.mul_ediv_cancel _ (by exact_mod_cast hr.ne')]
    have hi64 : i < 2 ^ 64 := by
      rw [haddr, slotAddress] at h64
      have := Nat.le_mul_of_pos_right i hr
      omega
    rw [hoff, osTaskGetIdImpl, Int.emod_eq_of_lt (by omega) (by exact_mod_cast hi64), Int.toNat_ofNat, if_pos hi]

theorem vxTaskTable_handles_small :
    0 < 64 ∧
      let calls : List VxTaskCall := [.create 0 (fun _ => 0x2000) (fun _ _ => true) 256 0,
        .create 1 (fun _ => 0x3000) (fun _ _ => true) 256 0, .delete 1 fun _ => true]
      OwnHandles 0x1000 64 (calls.foldl (VxTaskCall.run 0x1000 64) VxTaskTable.zero).vxid ∧
        (∀ target i j, target ≠ 0 →
          osTaskIdMatchSystemDataImpl target i (calls.foldl (VxTaskCall.run 0x1000 64) VxTaskTable.zero).vxid →
          osTaskIdMatchSystemDataImpl target j (calls.foldl (VxTaskCall.run 0x1000 64) VxTaskTable.zero).vxid →
            i = j) ∧
        (∀ self i, self ≠ 0 → self < 2 ^ 64 → i < Config.small.maxTasks →
          osTaskMatchImpl self i (calls.foldl (VxTaskCall.run 0x1000 64) VxTaskTable.zero).vxid = osSuccess →
            osTaskGetIdImpl Config.small (some (((self : Int) - 0x1000) / 64)) Tables.zero =
              (Tables.zero.common osObjectTypeOsTask i).activeId) :=
  ⟨by decide, vxTaskTable_handles Config.small 0x1000 64 (by decide) _ Tables.zero⟩

/-! ### Binary semaphores -/

/-- `OS_BinSemCreate_Impl(sem_id, sem_initial_value, options)`, where `semBInitialize m v` is what
`semBInitialize(m, SEM_Q_PRIORITY, v)` returns for the memory at `m`; `options` is not read. -/
def osBinSemCreateImpl (base recordSize : Nat) (semBInitialize : Nat → Nat → Nat)
    (semId semInitialValue : Nat) (vxid : Nat → Nat) : Int × (Nat → Nat) :=
  let tmpSemId := semBInitialize (slotAddress base recordSize semId) semInitialValue
  if tmpSemId = 0 then (osSemFailure, vxid) else (osSuccess, update vxid semId tmpSemId)

def osBinSemDeleteImpl (semId : Nat) (vxid : Nat → Nat) : Int × (Nat → Nat) :=
  (osSuccess, update vxid semId 0)

def osBinSemGiveImpl (genericSemGive : Nat → Int) (semId : Nat) (vxid : Nat → Nat) : Int :=
  genericSemGive (vxid semId)

def osBinSemFlushImpl (semFlushOk : Nat → Bool) (semId : Nat) (vxid : Nat → Nat) : Int :=
  if !semFlushOk (vxid semId) then osSemFailure else osSuccess

def osBinSemTakeImpl (semTakeForever : Nat → Int) (semId : Nat) (vxid : Nat → Nat) : Int :=
  semTakeForever (vxid semId)

def vxBinSemZero : Nat → Nat := fun _ => 0

inductive VxBinSemCall
  | create (semId semInitialValue : Nat) (semBInitialize : Nat → Nat → Nat)
  | delete (semId : Nat)

namespace VxBinSemCall

def run (base recordSize : Nat) (vxid : Nat → Nat) : VxBinSemCall → Nat → Nat
  | .create semId semInitialValue semBInitialize =>
    (osBinSemCreateImpl base recordSize semBInitialize semId semInitialValue vxid).2
  | .delete semId => (osBinSemDeleteImpl semId vxid).2

/-- `semBInitialize` returns `0` or the memory it was given. -/
def InitializesOwn : VxBinSemCall → Prop
  | .create _ _ semBInitialize => ∀ m v, semBInitialize m v = 0 ∨ semBInitialize m v = m
  | .delete _ => True

theorem run_ownHandles {base recordSize : Nat} {vxid : Nat → Nat} (h : OwnHandles base recordSize vxid)
    {c : VxBinSemCall} (hc : c.InitializesOwn) : OwnHandles base recordSize (c.run base recordSize vxid) := by
  cases c with
  | create semId semInitialValue semBInitialize =>
    simp only [run, osBinSemCreateImpl]
    split
    · exact h
    · rcases hc (slotAddress base recordSize semId) semInitialValue with h0 | hm
      · exact absurd h0 ‹_›
      · rw [hm]; exact h.set semId
  | delete semId => exact h.clear semId

end VxBinSemCall

/-- After any run of semaphore creates and deletes from the zeroed table, each slot's `vxid` is `0`
or its own `bmem`, so distinct slots reach distinct kernel semaphores. -/
theorem vxBinSemTable_handles (base recordSize : Nat) (hr : 0 < recordSize) (calls : List VxBinSemCall)
    (hinit : ∀ c ∈ calls, c.InitializesOwn) :
    OwnHandles base recordSize (calls.foldl (VxBinSemCall.run base recordSize) vxBinSemZero) ∧
      ∀ i j, i ≠ j → (calls.foldl (VxBinSemCall.run base recordSize) vxBinSemZero) i ≠ 0 →
        (calls.foldl (VxBinSemCall.run base recordSize) vxBinSemZero) i ≠
          (calls.foldl (VxBinSemCall.run base recordSize) vxBinSemZero) j := by
  have h : OwnHandles base recordSize (calls.foldl (VxBinSemCall.run base recordSize) vxBinSemZero) :=
    List.foldlRecOn (motive := OwnHandles base recordSize) calls _ _ ownHandles_zero
      fun _ h c hc => VxBinSemCall.run_ownHandles h (hinit c hc)
  exact ⟨h, fun i j hij hne heq => hij (h.unique hr hne heq)⟩

theorem vxBinSemTable_handles_small :
    let calls : List VxBinSemCall := [.create 0 1 (fun m _ => m), .create 1 0 (fun m _ => m), .delete 0]
    (0 < 32 ∧ ∀ c ∈ calls, c.InitializesOwn) ∧
      OwnHandles 0x4000 32 (calls.foldl (VxBinSemCall.run 0x4000 32) vxBinSemZero) ∧
        ∀ i j, i ≠ j → (calls.foldl (VxBinSemCall.run 0x4000 32) vxBinSemZero) i ≠ 0 →
          (calls.foldl (VxBinSemCall.run 0x4000 32) vxBinSemZero) i ≠
            (calls.foldl (VxBinSemCall.run 0x4000 32) vxBinSemZero) j :=
  have hinit : ∀ c ∈ ([.create 0 1 (fun m _ => m), .create 1 0 (fun m _ => m), .delete 0] :
      List VxBinSemCall), c.InitializesOwn := by
    simp [VxBinSemCall.InitializesOwn]
  ⟨⟨by decide, hinit⟩, vxBinSemTable_handles 0x4000 32 (by decide) _ hinit⟩

end Osal
