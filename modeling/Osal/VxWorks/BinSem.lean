import Osal.VxWorks.Tasks

/-!
# The timed wait of the VxWorks binary semaphores (`os-impl-binsem.c`)

`OS_BinSemTimedWait_Impl` converts its milliseconds with `OS_Milli2Ticks` and takes the semaphore
through `OS_VxWorks_GenericSemTake` with that many ticks. `OS_VxWorks_GenericSemTake` is not in
the repository: it is a function of the slot and of the tick count. The model returns the status
and the tick count handed to the kernel, `none` when the kernel is not called.

`milli2Ticks_kernel_ticks`: both VxWorks callers of `OS_Milli2Ticks` hand the kernel the exact
ceiling of the duration in ticks, and neither waits when the conversion fails.
-/

namespace Osal

/-- `OS_BinSemTimedWait_Impl(sem_id, msecs)`: the status and the tick count handed to
`OS_VxWorks_GenericSemTake`, if it is called. -/
def osBinSemTimedWaitImpl (ticksPerSecond : Nat) (genericSemTake : Nat → Int → Int) (semId msecs : Nat) :
    Int × Option Int :=
  let r := osMilli2Ticks ticksPerSecond msecs
  if r.1 = osSuccess then (genericSemTake semId r.2, some r.2) else (r.1, none)

theorem kernel_ticks_of_milli2Ticks {ticksPerSecond ms : Nat} {k : Int}
    (h : (∃ ok, (osTaskDelayImpl ticksPerSecond ok ms).2 = some k) ∨
      ∃ take semId, (osBinSemTimedWaitImpl ticksPerSecond take semId ms).2 = some k) :
    (osMilli2Ticks ticksPerSecond ms).1 = osSuccess ∧ (osMilli2Ticks ticksPerSecond ms).2 = k := by
  rcases h with ⟨ok, h⟩ | ⟨take, semId, h⟩
  · unfold osTaskDelayImpl at h
    dsimp only at h
    split_ifs at h with h₁ <;> simp_all
  · unfold osBinSemTimedWaitImpl at h
    dsimp only at h
    split_ifs at h with h₁
    simp_all

/-- `OS_Milli2Ticks` does not wrap and stores the least tick count covering the duration when it fits
an `int`; both VxWorks callers hand the kernel that count, and only then. -/
theorem milli2Ticks_kernel_ticks (ticksPerSecond ms : Nat) (hms : ms < 2 ^ 32)
    (htps : ticksPerSecond < 2 ^ 32) :
    ms * ticksPerSecond + 999 < 2 ^ 64 ∧
    (∀ k : Int, ((∃ ok, (osTaskDelayImpl ticksPerSecond ok ms).2 = some k) ∨
        ∃ take semId, (osBinSemTimedWaitImpl ticksPerSecond take semId ms).2 = some k) →
      ((ms * ticksPerSecond : Nat) : Int) ≤ k * 1000 ∧ k * 1000 < ((ms * ticksPerSecond : Nat) : Int) + 1000) ∧
    ((osMilli2Ticks ticksPerSecond ms).1 ≠ osSuccess → (osMilli2Ticks ticksPerSecond ms).2 = 0 ∧
      (∀ ok, osTaskDelayImpl ticksPerSecond ok ms = (osError, none)) ∧
      ∀ take semId, osBinSemTimedWaitImpl ticksPerSecond take semId ms = (osError, none)) ∧
    let t := (ms * ticksPerSecond + 999) / 1000
    ((osMilli2Ticks ticksPerSecond ms).1 = osSuccess ↔ t ≤ intMax) ∧
    ((osMilli2Ticks ticksPerSecond ms).1 = osSuccess →
      (osMilli2Ticks ticksPerSecond ms).2 = t ∧ ms * ticksPerSecond ≤ t * 1000 ∧
        ∀ t' : Nat, ms * ticksPerSecond ≤ t' * 1000 → t ≤ t') := by
  obtain ⟨hfit, heq⟩ := osMilli2Ticks_eq hms htps
  obtain ⟨hlo, hhi, hleast⟩ := ceil_ticks_bounds (ms * ticksPerSecond)
  have hok : (osMilli2Ticks ticksPerSecond ms).1 = osSuccess →
      (osMilli2Ticks ticksPerSecond ms).2 = (ms * ticksPerSecond + 999) / 1000 := by
    rw [heq]; split_ifs
    exacts [fun _ => rfl, by simp]
  have herr : (osMilli2Ticks ticksPerSecond ms).1 ≠ osSuccess →
      (osMilli2Ticks ticksPerSecond ms).1 = osError ∧ (osMilli2Ticks ticksPerSecond ms).2 = 0 := by
    rw [heq]; split_ifs <;> simp
  refine ⟨hfit, fun k hk => ?_, fun h => ⟨(herr h).2, fun ok => ?_, fun take semId => ?_⟩,
    ⟨by rw [heq]; split_ifs with h <;> simp [h], fun h => ⟨hok h, hlo, hleast⟩⟩⟩
  · obtain ⟨h₁, h₂⟩ := kernel_ticks_of_milli2Ticks hk
    rw [← h₂, hok h₁]
    constructor <;> push_cast <;> omega
  · simp [osTaskDelayImpl, (herr h).1]
  · simp [osBinSemTimedWaitImpl, (herr h).1]

theorem milli2Ticks_kernel_ticks_100Hz :
    1500 < 2 ^ 32 ∧ 100 < 2 ^ 32 ∧
    1500 * 100 + 999 < 2 ^ 64 ∧
    (∀ k : Int, ((∃ ok, (osTaskDelayImpl 100 ok 1500).2 = some k) ∨
        ∃ take semId, (osBinSemTimedWaitImpl 100 take semId 1500).2 = some k) →
      ((1500 * 100 : Nat) : Int) ≤ k * 1000 ∧ k * 1000 < ((1500 * 100 : Nat) : Int) + 1000) ∧
    ((osMilli2Ticks 100 1500).1 ≠ osSuccess → (osMilli2Ticks 100 1500).2 = 0 ∧
      (∀ ok, osTaskDelayImpl 100 ok 1500 = (osError, none)) ∧
      ∀ take semId, osBinSemTimedWaitImpl 100 take semId 1500 = (osError, none)) ∧
    let t := (1500 * 100 + 999) / 1000
    ((osMilli2Ticks 100 1500).1 = osSuccess ↔ t ≤ intMax) ∧
    ((osMilli2Ticks 100 1500).1 = osSuccess →
      (osMilli2Ticks 100 1500).2 = t ∧ 1500 * 100 ≤ t * 1000 ∧
        ∀ t' : Nat, 1500 * 100 ≤ t' * 1000 → t ≤ t') :=
  ⟨by decide, by decide, milli2Ticks_kernel_ticks 100 1500 (by decide) (by decide)⟩

end Osal
