import Osal.Basic

/-!
# Milliseconds to kernel ticks (`OS_Milli2Ticks`, `osapi-timebase.c`)

`OS_Milli2Ticks` rounds `milli_seconds * TicksPerSecond / 1000` up in `uint64` arithmetic and
keeps the result when it fits an `int`. `TicksPerSecond` is the adapter's value in
`OS_SharedGlobalVars`, a parameter here. For `uint32` operands the product and the `+ 999` stay
below `2^64` (`osMilli2Ticks_eq`), so the call computes the exact ceiling: never fewer ticks than
the duration, less than one tick more, and the least such count.
-/

namespace Osal

def intMax : Nat := 2 ^ 31 - 1

/-- `OS_Milli2Ticks(milli_seconds, ticks)`, with `ticksPerSecond` for
`OS_SharedGlobalVars.TicksPerSecond`: the status and the value stored in `*ticks`. -/
def osMilli2Ticks (ticksPerSecond milliSeconds : Nat) : Int × Int :=
  let numOfTicks := (milliSeconds * ticksPerSecond % 2 ^ 64 + 999) % 2 ^ 64 / 1000
  if numOfTicks ≤ intMax then (osSuccess, numOfTicks) else (osError, 0)

theorem osMilli2Ticks_eq {ticksPerSecond milliSeconds : Nat} (hms : milliSeconds < 2 ^ 32)
    (htps : ticksPerSecond < 2 ^ 32) :
    milliSeconds * ticksPerSecond + 999 < 2 ^ 64 ∧
      osMilli2Ticks ticksPerSecond milliSeconds =
        if (milliSeconds * ticksPerSecond + 999) / 1000 ≤ intMax then
          (osSuccess, (((milliSeconds * ticksPerSecond + 999) / 1000 : Nat) : Int))
        else (osError, 0) := by
  have hmul : milliSeconds * ticksPerSecond ≤ (2 ^ 32 - 1) * (2 ^ 32 - 1) :=
    Nat.mul_le_mul (by omega) (by omega)
  have hfit : milliSeconds * ticksPerSecond + 999 < 2 ^ 64 := by
    have : (2 ^ 32 - 1) * (2 ^ 32 - 1) + 999 < 2 ^ 64 := by decide
    omega
  refine ⟨hfit, ?_⟩
  unfold osMilli2Ticks
  rw [Nat.mod_eq_of_lt (by omega : milliSeconds * ticksPerSecond < 2 ^ 64), Nat.mod_eq_of_lt hfit]

theorem ceil_ticks_bounds (n : Nat) :
    n ≤ (n + 999) / 1000 * 1000 ∧ (n + 999) / 1000 * 1000 < n + 1000 ∧
      ∀ t : Nat, n ≤ t * 1000 → (n + 999) / 1000 ≤ t :=
  ⟨by omega, by omega, fun t h => by omega⟩

end Osal
