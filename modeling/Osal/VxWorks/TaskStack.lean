import Osal.Basic

/-!
# The task stack of the VxWorks `OS_TaskCreate_Impl` (`os-impl-tasks.c`)

`OS_TaskCreate_Impl` builds each task with `taskInit` on a stack it sizes itself. A user stack
(`stack_pointer`) is used as given; otherwise the size gets `VX_IMPL_STACK_ALIGN_SIZE` of slack and
is rounded up, and the slot's leftover heap block is reused when its recorded `heap_block_size` is
enough, or freed and replaced by a new `malloc`. The base is then rounded up, the size loses the
slack between the two bases and is rounded down, and the base moves to the top of the
downward-growing stack.

The headers are not in the repository: the macros take their defaults (`VX_IMPL_STACK_ALIGN_SIZE
= 16`, no `STACK_ROUND_UP`/`DOWN` from `vxWorks.h`), `long`, pointers and `size_t` are 64 bits,
and `stack_size` is a `uint32`. Only the fields the stack sizing reads are kept.

`vxImplStackRegion_toNat` brings the rounding to numbers. Over a heap block every region handed
to `taskInit` is aligned, non-negative, at least the requested size, and inside the block
(`osTaskCreateImpl_heap_stack`), because `heap_block_size` never exceeds what `malloc` gave the
block, over every history of creates (`StackSlot`). A user stack is handled as well when its size
covers the slack of rounding its base up, and is handed the size `-16` when it does not
(`osTaskCreateImpl_user_stack`).
-/

namespace Osal

def vxImplStackAlignSize : BitVec 64 := 16

def vxImplStackRoundDown (x : BitVec 64) : BitVec 64 := x &&& ~~~(vxImplStackAlignSize - 1)

def vxImplStackRoundUp (x : BitVec 64) : BitVec 64 :=
  (x + (vxImplStackAlignSize - 1)) &&& ~~~(vxImplStackAlignSize - 1)

/-- `OS_impl_task_internal_record_t` as far as the stack goes: the leftover stack block
(`heap_block`, `0` for `NULL`) and its recorded size (`heap_block_size`). -/
structure OsImplTaskInternalRecord where
  heapBlock : BitVec 64
  heapBlockSize : BitVec 64
  deriving DecidableEq, Repr

def OsImplTaskInternalRecord.zero : OsImplTaskInternalRecord := ⟨0, 0⟩

/-- What one `OS_TaskCreate_Impl` does with the stack: its status, the record after it, and the
arguments of `malloc` and `taskInit` when it calls them. -/
structure TaskCreateResult where
  status : Int
  lrec : OsImplTaskInternalRecord
  mallocCall : Option (BitVec 64)
  taskInitCall : Option (BitVec 64 × BitVec 64)

/-- The first `if (userstackbase == 0)` block: slack and round-up, then reuse the leftover block or
free it and `malloc` a new one (`0` for `NULL`). -/
def vxImplHeapStack (malloc : BitVec 64 → BitVec 64) (actualsz : BitVec 64)
    (lrec : OsImplTaskInternalRecord) : OsImplTaskInternalRecord × Option (BitVec 64) × BitVec 64 :=
  let actualsz := vxImplStackRoundUp (actualsz + vxImplStackAlignSize)
  if lrec.heapBlockSize < actualsz then
    let lrec := if lrec.heapBlock ≠ 0 then { lrec with heapBlockSize := 0 } else lrec
    let lrec := { lrec with heapBlock := malloc actualsz }
    let lrec := if lrec.heapBlock ≠ 0 then { lrec with heapBlockSize := actualsz } else lrec
    (lrec, some actualsz, actualsz)
  else (lrec, none, actualsz)

/-- From `actualstackbase = userstackbase;` to the `taskInit` call: the base and size it is
handed. -/
def vxImplStackRegion (actualsz userstackbase : BitVec 64) : BitVec 64 × BitVec 64 :=
  let actualstackbase := vxImplStackRoundUp userstackbase
  let actualsz := vxImplStackRoundDown (actualsz - (actualstackbase - userstackbase))
  (actualstackbase + actualsz, actualsz)

/-- The second `if (userstackbase == 0)` and what follows it; `taskInitOk` says whether `taskInit`
returns `OK`. -/
def vxImplTaskInit (taskInitOk : BitVec 64 → BitVec 64 → Bool) (lrec : OsImplTaskInternalRecord)
    (mallocCall : Option (BitVec 64)) (actualsz userstackbase : BitVec 64) : TaskCreateResult :=
  if userstackbase = 0 then ⟨osError, lrec, mallocCall, none⟩
  else
    let r := vxImplStackRegion actualsz userstackbase
    ⟨if taskInitOk r.1 r.2 then osSuccess else osError, lrec, mallocCall, some r⟩

/-- `OS_TaskCreate_Impl(task_id, flags)` for a slot with record `lrec` whose `stack_size` is
`stackSize` and `stack_pointer` is `stackPointer` (`0` for `NULL`). -/
def osTaskCreateImpl (malloc : BitVec 64 → BitVec 64) (taskInitOk : BitVec 64 → BitVec 64 → Bool)
    (stackSize : BitVec 32) (stackPointer : BitVec 64) (lrec : OsImplTaskInternalRecord) :
    TaskCreateResult :=
  let actualsz : BitVec 64 := stackSize.setWidth 64
  if stackPointer = 0 then
    let h := vxImplHeapStack malloc actualsz lrec
    vxImplTaskInit taskInitOk h.1 h.2.1 h.2.2 h.1.heapBlock
  else vxImplTaskInit taskInitOk lrec none actualsz stackPointer

/-! ### The rounding macros in numbers -/

theorem toNat_vxImplStackRoundDown (x : BitVec 64) :
    (vxImplStackRoundDown x).toNat = x.toNat / 16 * 16 := by
  have hdisjoint : (x &&& ~~~15#64) &&& (x &&& 15#64) = 0 := by
    ext i
    simp only [BitVec.getLsbD_and, BitVec.getLsbD_not, BitVec.getLsbD_zero]
    cases x.getLsbD i <;> simp
  have hjoin : (x &&& ~~~15#64) ||| (x &&& 15#64) = x := by
    ext i
    simp only [BitVec.getLsbD_or, BitVec.getLsbD_and, BitVec.getLsbD_not]
    cases x.getLsbD i <;> cases (15#64).getLsbD i <;> simp_all
  have hlow : (x &&& 15#64).toNat = x.toNat % 16 := by
    rw [BitVec.toNat_and, show (15#64).toNat = 2 ^ 4 - 1 from rfl, Nat.and_pow_two_sub_one_eq_mod]
  have hsum := congrArg BitVec.toNat (BitVec.add_eq_or_of_and_eq_zero _ _ hdisjoint)
  rw [hjoin, BitVec.toNat_add_of_and_eq_zero hdisjoint, hlow] at hsum
  show (x &&& ~~~15#64).toNat = _
  omega

theorem toNat_vxImplStackRoundUp (x : BitVec 64) :
    (vxImplStackRoundUp x).toNat = (x.toNat + 15) % 2 ^ 64 / 16 * 16 := by
  rw [show vxImplStackRoundUp x = vxImplStackRoundDown (x + 15#64) from rfl,
    toNat_vxImplStackRoundDown, BitVec.toNat_add, show (15#64).toNat = 15 from rfl]

theorem vxImplStackRegion_toNat (actualsz u : BitVec 64) :
    let B := (u.toNat + 15) % 2 ^ 64 / 16 * 16
    let d := (2 ^ 64 - (2 ^ 64 - u.toNat + B) % 2 ^ 64 + actualsz.toNat) % 2 ^ 64
    (vxImplStackRegion actualsz u).2.toNat = d / 16 * 16 ∧
      (vxImplStackRegion actualsz u).1.toNat = (B + d / 16 * 16) % 2 ^ 64 := by
  have hsize : (vxImplStackRegion actualsz u).2.toNat =
      (2 ^ 64 - (2 ^ 64 - u.toNat + (u.toNat + 15) % 2 ^ 64 / 16 * 16) % 2 ^ 64 + actualsz.toNat) %
        2 ^ 64 / 16 * 16 := by
    simp only [vxImplStackRegion]
    rw [toNat_vxImplStackRoundDown, BitVec.toNat_sub, BitVec.toNat_sub, toNat_vxImplStackRoundUp]
  refine ⟨hsize, ?_⟩
  simp only [vxImplStackRegion] at hsize ⊢
  rw [BitVec.toNat_add, hsize, toNat_vxImplStackRoundUp]

theorem vxImplStackRegion_inside {actualsz u : BitVec 64} (hfit : u.toNat + actualsz.toNat < 2 ^ 64)
    (hslack : (16 - u.toNat % 16) % 16 ≤ actualsz.toNat) :
    let r := vxImplStackRegion actualsz u
    u.toNat ≤ r.1.toNat - r.2.toNat ∧ r.2.toNat ≤ r.1.toNat ∧ r.1.toNat ≤ u.toNat + actualsz.toNat ∧
      r.1.toNat % 16 = 0 ∧ r.2.toNat % 16 = 0 ∧
        actualsz.toNat < r.2.toNat + (16 - u.toNat % 16) % 16 + 16 := by
  obtain ⟨hsize, htop⟩ := vxImplStackRegion_toNat actualsz u
  simp only at hsize htop ⊢
  omega

theorem toInt_nonneg_of_lt {x : BitVec 64} (h : x.toNat < 2 ^ 63) : 0 ≤ x.toInt := by
  rw [BitVec.toInt_eq_toNat_cond]
  split <;> omega

/-! ### The calls of one create -/

@[simp] theorem vxImplTaskInit_lrec (taskInitOk : BitVec 64 → BitVec 64 → Bool)
    (lrec : OsImplTaskInternalRecord) (mallocCall : Option (BitVec 64)) (actualsz u : BitVec 64) :
    (vxImplTaskInit taskInitOk lrec mallocCall actualsz u).lrec = lrec := by
  unfold vxImplTaskInit; split <;> rfl

@[simp] theorem vxImplTaskInit_mallocCall (taskInitOk : BitVec 64 → BitVec 64 → Bool)
    (lrec : OsImplTaskInternalRecord) (mallocCall : Option (BitVec 64)) (actualsz u : BitVec 64) :
    (vxImplTaskInit taskInitOk lrec mallocCall actualsz u).mallocCall = mallocCall := by
  unfold vxImplTaskInit; split <;> rfl

theorem vxImplTaskInit_taskInitCall (taskInitOk : BitVec 64 → BitVec 64 → Bool)
    (lrec : OsImplTaskInternalRecord) (mallocCall : Option (BitVec 64)) (actualsz u : BitVec 64) :
    (vxImplTaskInit taskInitOk lrec mallocCall actualsz u).taskInitCall =
      if u = 0 then none else some (vxImplStackRegion actualsz u) := by
  unfold vxImplTaskInit; split <;> rfl

theorem vxImplHeapStack_cases (malloc : BitVec 64 → BitVec 64) (actualsz : BitVec 64)
    (lrec : OsImplTaskInternalRecord) :
    let A := vxImplStackRoundUp (actualsz + vxImplStackAlignSize)
    let h := vxImplHeapStack malloc actualsz lrec
    h.2.2 = A ∧
      ((A.toNat ≤ lrec.heapBlockSize.toNat ∧ h.1 = lrec ∧ h.2.1 = none) ∨
        (h.1.heapBlock = malloc A ∧ h.2.1 = some A ∧
          h.1.heapBlockSize =
            if malloc A ≠ 0 then A else if lrec.heapBlock ≠ 0 then 0 else lrec.heapBlockSize)) := by
  intro A h
  simp only [h, A, vxImplHeapStack]
  split_ifs <;> simp_all [BitVec.lt_def]

/-! ### The heap block over every history of creates -/

/-- A `malloc` that returns `0` (`NULL`) or a block of the size asked for that lies in the address
space. -/
structure Malloc where
  alloc : BitVec 64 → BitVec 64
  fits : ∀ n, alloc n ≠ 0 → (alloc n).toNat + n.toNat < 2 ^ 64

def blockBytesAfter (blockBytes : Nat) (r : TaskCreateResult) : Nat :=
  match r.mallocCall with
  | some n => if r.lrec.heapBlock = 0 then 0 else n.toNat
  | none => blockBytes

/-- A slot's record with the bytes the heap holds at its `heap_block`, which `heap_block_size`
never exceeds. -/
structure StackSlot where
  lrec : OsImplTaskInternalRecord
  blockBytes : Nat
  size_le_blockBytes : lrec.heapBlockSize.toNat ≤ blockBytes
  blockBytes_of_null : lrec.heapBlock = 0 → blockBytes = 0
  block_fits : lrec.heapBlock.toNat + blockBytes < 2 ^ 64

def StackSlot.zero : StackSlot := ⟨.zero, 0, Nat.zero_le _, fun _ => rfl, by decide⟩

theorem StackSlot.create_inv (m : Malloc) (taskInitOk : BitVec 64 → BitVec 64 → Bool)
    (stackSize : BitVec 32) (stackPointer : BitVec 64) (s : StackSlot) :
    let r := osTaskCreateImpl m.alloc taskInitOk stackSize stackPointer s.lrec
    r.lrec.heapBlockSize.toNat ≤ blockBytesAfter s.blockBytes r ∧
      (r.lrec.heapBlock = 0 → blockBytesAfter s.blockBytes r = 0) ∧
        r.lrec.heapBlock.toNat + blockBytesAfter s.blockBytes r < 2 ^ 64 := by
  have keep : s.lrec.heapBlockSize.toNat ≤ s.blockBytes ∧ (s.lrec.heapBlock = 0 → s.blockBytes = 0) ∧
      s.lrec.heapBlock.toNat + s.blockBytes < 2 ^ 64 :=
    ⟨s.size_le_blockBytes, s.blockBytes_of_null, s.block_fits⟩
  by_cases hsp : stackPointer = 0
  · obtain ⟨-, ⟨-, hl, hm⟩ | ⟨hb, hm, hsz⟩⟩ :=
      vxImplHeapStack_cases m.alloc (stackSize.setWidth 64) s.lrec
    · simpa only [osTaskCreateImpl, if_pos hsp, vxImplTaskInit_lrec, vxImplTaskInit_mallocCall,
        blockBytesAfter, hl, hm] using keep
    · simp only [osTaskCreateImpl, if_pos hsp, vxImplTaskInit_lrec, vxImplTaskInit_mallocCall,
        blockBytesAfter, hb, hm, hsz]
      by_cases h0 : m.alloc (vxImplStackRoundUp (stackSize.setWidth 64 + vxImplStackAlignSize)) = 0
      · have := s.size_le_blockBytes
        have := s.blockBytes_of_null
        split_ifs <;> simp_all
      · have := m.fits _ h0
        simp only [h0, if_false, if_true, ne_eq, not_false_eq_true]
        exact ⟨le_rfl, False.elim, this⟩
  · simpa only [osTaskCreateImpl, if_neg hsp, vxImplTaskInit_lrec, vxImplTaskInit_mallocCall,
      blockBytesAfter] using keep

def StackSlot.create (m : Malloc) (taskInitOk : BitVec 64 → BitVec 64 → Bool) (stackSize : BitVec 32)
    (stackPointer : BitVec 64) (s : StackSlot) : StackSlot :=
  let r := osTaskCreateImpl m.alloc taskInitOk stackSize stackPointer s.lrec
  have h := StackSlot.create_inv m taskInitOk stackSize stackPointer s
  ⟨r.lrec, blockBytesAfter s.blockBytes r, h.1, h.2.1, h.2.2⟩

structure CreateCall where
  malloc : Malloc
  taskInitOk : BitVec 64 → BitVec 64 → Bool
  stackSize : BitVec 32
  stackPointer : BitVec 64

def StackSlot.run (s : StackSlot) (calls : List CreateCall) : StackSlot :=
  calls.foldl (fun s c => s.create c.malloc c.taskInitOk c.stackSize c.stackPointer) s

theorem StackSlot.run_lrec (s : StackSlot) (calls : List CreateCall) :
    (s.run calls).lrec = calls.foldl (fun lrec c =>
      (osTaskCreateImpl c.malloc.alloc c.taskInitOk c.stackSize c.stackPointer lrec).lrec) s.lrec := by
  induction calls generalizing s with
  | nil => rfl
  | cons c calls ih => exact ih _

/-! ### The region handed to `taskInit` -/

theorem toNat_heapStackSize (stackSize : BitVec 32) :
    (vxImplStackRoundUp (stackSize.setWidth 64 + vxImplStackAlignSize)).toNat =
      (stackSize.toNat + 31) / 16 * 16 := by
  have hS := stackSize.isLt
  have hsum : (stackSize.setWidth 64 + vxImplStackAlignSize).toNat = stackSize.toNat + 16 := by
    rw [BitVec.toNat_add, BitVec.toNat_setWidth, show vxImplStackAlignSize.toNat = 16 from rfl]
    omega
  rw [toNat_vxImplStackRoundUp, hsum]
  omega

theorem StackSlot.heap_region (s : StackSlot) (m : Malloc) (taskInitOk : BitVec 64 → BitVec 64 → Bool)
    (stackSize : BitVec 32) {top size : BitVec 64}
    (h : (osTaskCreateImpl m.alloc taskInitOk stackSize 0 s.lrec).taskInitCall = some (top, size)) :
    let lrec := (osTaskCreateImpl m.alloc taskInitOk stackSize 0 s.lrec).lrec
    stackSize.toNat ≤ size.toNat ∧ 0 ≤ size.toInt ∧ top.toNat % 16 = 0 ∧ size.toNat % 16 = 0 ∧
      lrec.heapBlock.toNat ≤ top.toNat - size.toNat ∧ size.toNat ≤ top.toNat ∧
        top.toNat ≤ lrec.heapBlock.toNat + lrec.heapBlockSize.toNat := by
  have hA := toNat_heapStackSize stackSize
  have hS := stackSize.isLt
  obtain ⟨hsz, hcases⟩ := vxImplHeapStack_cases m.alloc (stackSize.setWidth 64) s.lrec
  simp only [osTaskCreateImpl, ite_true, vxImplTaskInit_lrec, vxImplTaskInit_taskInitCall, hsz] at h ⊢
  split_ifs at h with h0
  obtain ⟨rfl, rfl⟩ : (vxImplStackRegion _ _).1 = top ∧ (vxImplStackRegion _ _).2 = size :=
    Prod.mk.inj (Option.some.inj h)
  -- the block at `heap_block` holds the rounded size and lies in the address space
  have hblock : (vxImplHeapStack m.alloc (stackSize.setWidth 64) s.lrec).1.heapBlock.toNat +
        (vxImplStackRoundUp (stackSize.setWidth 64 + vxImplStackAlignSize)).toNat < 2 ^ 64 ∧
      (vxImplStackRoundUp (stackSize.setWidth 64 + vxImplStackAlignSize)).toNat ≤
        (vxImplHeapStack m.alloc (stackSize.setWidth 64) s.lrec).1.heapBlockSize.toNat := by
    rcases hcases with ⟨hle, hl, -⟩ | ⟨hb, -, hsize⟩
    · rw [hl] at h0 ⊢
      have := s.size_le_blockBytes
      have := s.block_fits
      omega
    · rw [hb] at h0 ⊢
      rw [hsize, if_pos h0]
      exact ⟨m.fits _ h0, le_rfl⟩
  obtain ⟨h₁, h₂, h₃, h₄, h₅, h₆⟩ := vxImplStackRegion_inside hblock.1 (by omega)
  exact ⟨by omega, toInt_nonneg_of_lt (by omega), h₄, h₅, h₁, h₂, by omega⟩

/-- Over a heap block, after any history of creates from the zeroed record, the region handed to
`taskInit` is aligned, at least `stack_size` long and inside the block `malloc` gave. -/
theorem osTaskCreateImpl_heap_stack (calls : List CreateCall) (m : Malloc)
    (taskInitOk : BitVec 64 → BitVec 64 → Bool) (stackSize : BitVec 32) {top size : BitVec 64} :
    let lrec := calls.foldl (fun lrec c =>
      (osTaskCreateImpl c.malloc.alloc c.taskInitOk c.stackSize c.stackPointer lrec).lrec)
      OsImplTaskInternalRecord.zero
    let r := osTaskCreateImpl m.alloc taskInitOk stackSize 0 lrec
    r.taskInitCall = some (top, size) →
      stackSize.toNat ≤ size.toNat ∧ 0 ≤ size.toInt ∧ top.toNat % 16 = 0 ∧ size.toNat % 16 = 0 ∧
        r.lrec.heapBlock.toNat ≤ top.toNat - size.toNat ∧ size.toNat ≤ top.toNat ∧
          top.toNat ≤ r.lrec.heapBlock.toNat + r.lrec.heapBlockSize.toNat ∧
            r.lrec.heapBlockSize.toNat ≤ (StackSlot.zero.run (calls ++ [⟨m, taskInitOk, stackSize, 0⟩])).blockBytes := by
  intro lrec r h
  have hrun : lrec = (StackSlot.zero.run calls).lrec := (StackSlot.run_lrec StackSlot.zero calls).symm
  have hlast := (StackSlot.create m taskInitOk stackSize 0 (StackSlot.zero.run calls)).size_le_blockBytes
  unfold r at h ⊢
  rw [hrun] at h ⊢
  obtain ⟨h₁, h₂, h₃, h₄, h₅, h₆, h₇⟩ := StackSlot.heap_region _ m taskInitOk stackSize h
  refine ⟨h₁, h₂, h₃, h₄, h₅, h₆, h₇, ?_⟩
  simpa only [StackSlot.run, List.foldl_append, List.foldl_cons, List.foldl_nil] using hlast

/-- A second create with `stack_size = 50` reuses the `128`-byte block the first one left at
`0x1008`. -/
theorem osTaskCreateImpl_heap_stack_reuse :
    let m₁ : Malloc := ⟨fun n => if n.toNat ≤ 4096 then 0x1008 else 0, fun n h => by
      dsimp only at h ⊢
      split at h
      · have : (0x1008 : BitVec 64).toNat = 4104 := rfl
        rw [if_pos ‹_›]; omega
      · exact absurd rfl h⟩
    let m₂ : Malloc := ⟨fun n => if n.toNat ≤ 4096 then 0x2008 else 0, fun n h => by
      dsimp only at h ⊢
      split at h
      · have : (0x2008 : BitVec 64).toNat = 8200 := rfl
        rw [if_pos ‹_›]; omega
      · exact absurd rfl h⟩
    let calls : List CreateCall := [⟨m₁, fun _ _ => true, 100, 0⟩]
    let lrec := calls.foldl (fun lrec c =>
      (osTaskCreateImpl c.malloc.alloc c.taskInitOk c.stackSize c.stackPointer lrec).lrec)
      OsImplTaskInternalRecord.zero
    let r := osTaskCreateImpl m₂.alloc (fun _ _ => true) 50 0 lrec
    (r.taskInitCall = some (0x1050, 64) ∧ r.lrec.heapBlock = 0x1008) ∧
      ((50 : BitVec 32).toNat ≤ (64 : BitVec 64).toNat ∧ 0 ≤ (64 : BitVec 64).toInt ∧
        (0x1050 : BitVec 64).toNat % 16 = 0 ∧ (64 : BitVec 64).toNat % 16 = 0 ∧
        r.lrec.heapBlock.toNat ≤ (0x1050 : BitVec 64).toNat - (64 : BitVec 64).toNat ∧
        (64 : BitVec 64).toNat ≤ (0x1050 : BitVec 64).toNat ∧
        (0x1050 : BitVec 64).toNat ≤ r.lrec.heapBlock.toNat + r.lrec.heapBlockSize.toNat ∧
        r.lrec.heapBlockSize.toNat ≤ (StackSlot.zero.run (calls ++ [⟨m₂, fun _ _ => true, 50, 0⟩])).blockBytes) :=
  have hcall : (osTaskCreateImpl (fun n => if n.toNat ≤ 4096 then 0x2008 else 0) (fun _ _ => true) 50 0
      (osTaskCreateImpl (fun n => if n.toNat ≤ 4096 then 0x1008 else 0) (fun _ _ => true) 100 0
        OsImplTaskInternalRecord.zero).lrec).taskInitCall = some (0x1050, 64) := by decide
  ⟨⟨hcall, by decide⟩, osTaskCreateImpl_heap_stack [_] _ (fun _ _ => true) 50 hcall⟩

/-! ### A user stack -/

/-- Over a user stack inside the address space, the ends handed to `taskInit` are aligned, and the
region lies inside the user's block when its size covers the rounding slack. -/
theorem osTaskCreateImpl_user_stack (malloc : BitVec 64 → BitVec 64)
    (taskInitOk : BitVec 64 → BitVec 64 → Bool) (stackSize : BitVec 32) {stackPointer : BitVec 64}
    (lrec : OsImplTaskInternalRecord) (hsp : stackPointer ≠ 0)
    (hfit : stackPointer.toNat + stackSize.toNat < 2 ^ 64) :
    let r := osTaskCreateImpl malloc taskInitOk stackSize stackPointer lrec
    let slack := (16 - stackPointer.toNat % 16) % 16
    r.lrec = lrec ∧ r.mallocCall = none ∧
      ∃ top size, r.taskInitCall = some (top, size) ∧ top.toNat % 16 = 0 ∧ size.toNat % 16 = 0 ∧
        (slack ≤ stackSize.toNat → 0 ≤ size.toInt ∧ stackPointer.toNat ≤ top.toNat - size.toNat ∧
          size.toNat ≤ top.toNat ∧ top.toNat ≤ stackPointer.toNat + stackSize.toNat ∧
            stackSize.toNat < size.toNat + slack + 16) ∧
        (stackSize.toNat < slack → size.toInt = -16) := by
  intro r slack
  have hS : (stackSize.setWidth 64).toNat = stackSize.toNat := by
    rw [BitVec.toNat_setWidth]
    exact Nat.mod_eq_of_lt (by omega)
  have hr : r = vxImplTaskInit taskInitOk lrec none (stackSize.setWidth 64) stackPointer := by
    simp only [r, osTaskCreateImpl, if_neg hsp]
  refine ⟨by rw [hr, vxImplTaskInit_lrec], by rw [hr, vxImplTaskInit_mallocCall], _, _,
    by rw [hr, vxImplTaskInit_taskInitCall, if_neg hsp], ?_⟩
  obtain ⟨hsize, htop⟩ := vxImplStackRegion_toNat (stackSize.setWidth 64) stackPointer
  simp only [hS] at hsize htop
  refine ⟨by omega, by omega, fun h => ?_, fun h => ?_⟩
  · obtain ⟨h₁, h₂, h₃, -, -, h₆⟩ := @vxImplStackRegion_inside (stackSize.setWidth 64) stackPointer
      (by omega) (by omega)
    rw [hS] at h₃ h₆
    exact ⟨toInt_nonneg_of_lt (by omega), h₁, h₂, h₃, h₆⟩
  · rw [BitVec.toInt_eq_toNat_cond]
    split <;> omega

theorem osTaskCreateImpl_user_stack_aligned :
    (0x1008 : BitVec 64) ≠ 0 ∧ (0x1008 : BitVec 64).toNat + (100 : BitVec 32).toNat < 2 ^ 64 ∧
    let r := osTaskCreateImpl (fun _ => 0) (fun _ _ => true) 100 0x1008 OsImplTaskInternalRecord.zero
    let slack := (16 - (0x1008 : BitVec 64).toNat % 16) % 16
    r.lrec = OsImplTaskInternalRecord.zero ∧ r.mallocCall = none ∧
      ∃ top size, r.taskInitCall = some (top, size) ∧ top.toNat % 16 = 0 ∧ size.toNat % 16 = 0 ∧
        (slack ≤ (100 : BitVec 32).toNat → 0 ≤ size.toInt ∧
          (0x1008 : BitVec 64).toNat ≤ top.toNat - size.toNat ∧ size.toNat ≤ top.toNat ∧
            top.toNat ≤ (0x1008 : BitVec 64).toNat + (100 : BitVec 32).toNat ∧
              (100 : BitVec 32).toNat < size.toNat + slack + 16) ∧
        ((100 : BitVec 32).toNat < slack → size.toInt = -16) :=
  ⟨by decide, by decide, osTaskCreateImpl_user_stack (fun _ => 0) (fun _ _ => true) 100
    OsImplTaskInternalRecord.zero (by decide) (by decide)⟩

/-- A user stack of 8 bytes at `0x1001`: the base rounds up to `0x1010`, and `taskInit` is handed
the size `-16` and the stack top `0x1000`, below the user's block. -/
theorem osTaskCreateImpl_small_misaligned_user_stack (malloc : BitVec 64 → BitVec 64)
    (taskInitOk : BitVec 64 → BitVec 64 → Bool) (lrec : OsImplTaskInternalRecord) :
    (osTaskCreateImpl malloc taskInitOk 8 0x1001 lrec).taskInitCall =
        some (0x1000, 0xFFFFFFFFFFFFFFF0) ∧
      (0xFFFFFFFFFFFFFFF0 : BitVec 64).toInt = -16 := by
  refine ⟨?_, by decide⟩
  simp only [osTaskCreateImpl, if_neg (by decide : (0x1001 : BitVec 64) ≠ 0),
    vxImplTaskInit_taskInitCall]
  rfl

end Osal
