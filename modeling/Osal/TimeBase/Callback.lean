import Mathlib.Algebra.Order.Ring.Nat
import Osal.Basic

/-!
# The per-tick timer update of `OS_TimeBase_CallbackThread` (`osapi-timebase.c`)

For each timer on the ring the servicing thread saves `wait_time`, subtracts the tick, and runs
`while (timecb->wait_time <= 0)`: add the interval, clamp a backlog below `-interval_time`, give
the callback if the saved wait was positive, and stop unless the interval is positive.
`wait_time` and `interval_time` are `int32`, the tick a `uint32`: `wait_time -= tick_time` is
computed in `uint32` and converted back (`toInt32`), while `wait_time += interval_time` is
`int32` arithmetic, kept exact here. The loop is modelled by well-founded recursion on
`1 - wait_time`, which every iteration that goes on lowers.

`timerRun` applies the update once per tick over a sequence of tick times, as the ring walk does
for a timer on the ring that nothing reconfigures; it returns the number of callbacks per tick.
-/

namespace Osal

/-- `OS_timecb_internal_record_t`: the fields the servicing thread reads and writes;
`callbackPtr` stands for the callback pointer (`none` for `NULL`). -/
structure OsTimecbInternalRecord where
  waitTime : Int
  intervalTime : Int
  backlogResets : Nat
  callbackPtr : Option Nat
  nextRef : Nat

theorem toInt32_of_mem {x : Int} (h₁ : -2 ^ 31 ≤ x) (h₂ : x < 2 ^ 31) : toInt32 x = x := by
  unfold toInt32; omega

/-- One pass of the loop body before the callback: add the interval, and clamp a wait below
`-interval_time` to it, counting a backlog reset. -/
def waitStep (timecb : OsTimecbInternalRecord) : OsTimecbInternalRecord :=
  let w := timecb.waitTime + timecb.intervalTime
  if w < -timecb.intervalTime then
    { timecb with backlogResets := (timecb.backlogResets + 1) % 2 ^ 32, waitTime := -timecb.intervalTime }
  else { timecb with waitTime := w }

@[simp] theorem waitStep_intervalTime (timecb : OsTimecbInternalRecord) :
    (waitStep timecb).intervalTime = timecb.intervalTime := by
  unfold waitStep; dsimp only; split <;> rfl

@[simp] theorem waitStep_callbackPtr (timecb : OsTimecbInternalRecord) :
    (waitStep timecb).callbackPtr = timecb.callbackPtr := by
  unfold waitStep; dsimp only; split <;> rfl

theorem waitTime_lt_waitStep (timecb : OsTimecbInternalRecord) (h : 0 < timecb.intervalTime) :
    timecb.waitTime < (waitStep timecb).waitTime := by
  unfold waitStep; dsimp only; split <;> simp only at * <;> omega

/-- The `while (timecb->wait_time <= 0)` loop for one timer: the record after it and the number
of callbacks given. -/
def waitLoop (savedWaitTime : Int) (timecb : OsTimecbInternalRecord) : OsTimecbInternalRecord × Nat :=
  if _h : timecb.waitTime ≤ 0 then
    let given := if savedWaitTime > 0 ∧ (waitStep timecb).callbackPtr.isSome then 1 else 0
    if _hI : (waitStep timecb).intervalTime ≤ 0 then (waitStep timecb, given)
    else
      let r := waitLoop savedWaitTime (waitStep timecb)
      (r.1, given + r.2)
  else (timecb, 0)
termination_by (1 - timecb.waitTime).toNat
decreasing_by
  have := waitTime_lt_waitStep timecb (by simp only [waitStep_intervalTime] at _hI; omega)
  omega

/-- The update of one timer for one tick: save the wait, subtract the tick, run the loop. -/
def timerTick (tickTime : Nat) (timecb : OsTimecbInternalRecord) : OsTimecbInternalRecord × Nat :=
  waitLoop timecb.waitTime { timecb with waitTime := toInt32 (timecb.waitTime - tickTime) }

def timerRun : List Nat → OsTimecbInternalRecord → OsTimecbInternalRecord × List Nat
  | [], timecb => (timecb, [])
  | tickTime :: ticks, timecb =>
    let r := timerTick tickTime timecb
    let rs := timerRun ticks r.1
    (rs.1, r.2 :: rs.2)

theorem waitLoop_of_pos {saved : Int} {timecb : OsTimecbInternalRecord} (h : 0 < timecb.waitTime) :
    waitLoop saved timecb = (timecb, 0) := by
  rw [waitLoop, dif_neg (by omega)]

theorem waitStep_of_le {timecb : OsTimecbInternalRecord}
    (h : -timecb.intervalTime ≤ timecb.waitTime + timecb.intervalTime) :
    waitStep timecb = { timecb with waitTime := timecb.waitTime + timecb.intervalTime } := by
  simp only [waitStep]; exact if_neg (by omega)

theorem waitLoop_of_lt {saved : Int} {timecb : OsTimecbInternalRecord} (h₁ : timecb.waitTime ≤ 0)
    (h₂ : 0 < timecb.waitTime + timecb.intervalTime) :
    waitLoop saved timecb = ({ timecb with waitTime := timecb.waitTime + timecb.intervalTime },
      if saved > 0 ∧ timecb.callbackPtr.isSome then 1 else 0) := by
  rw [waitLoop, dif_pos h₁, waitStep_of_le (by omega)]
  have h₃ : 0 < ({ timecb with waitTime := timecb.waitTime + timecb.intervalTime } :
    OsTimecbInternalRecord).waitTime := h₂
  simp only [dif_neg (show ¬timecb.intervalTime ≤ 0 by omega), waitLoop_of_pos h₃, Nat.add_zero]

theorem waitLoop_oneShot {saved : Int} {timecb : OsTimecbInternalRecord} (h₁ : timecb.waitTime ≤ 0)
    (hI : timecb.intervalTime = 0) :
    waitLoop saved timecb =
      (waitStep timecb, if saved > 0 ∧ timecb.callbackPtr.isSome then 1 else 0) := by
  rw [waitLoop, dif_pos h₁, dif_pos (by simp [hI])]
  simp

def expiryCount (w0 I : Int) (S : Nat) : Nat :=
  ((Finset.range (S + 1)).filter fun k : Nat => w0 + k * I ≤ S).card

theorem expiryCount_eq {w0 I : Int} {S n : Nat} (hw : 0 < w0) (hI : 0 < I)
    (hlo : n = 0 ∨ w0 + n * I ≤ S + I) (hhi : (S : Int) < w0 + n * I) :
    expiryCount w0 I S = n := by
  have hkey : ∀ k : Nat, w0 + k * I ≤ S ↔ k < n := by
    intro k
    constructor
    · intro hk
      by_contra hkn
      have : (n : Int) * I ≤ k * I := Int.mul_le_mul_of_nonneg_right (by omega) (by omega)
      omega
    · intro hk
      have : ((k + 1 : Nat) : Int) * I ≤ n * I := Int.mul_le_mul_of_nonneg_right (by omega) (by omega)
      push_cast [Int.add_mul] at this
      omega
  have : (Finset.range (S + 1)).filter (fun k : Nat => w0 + k * I ≤ S) = Finset.range n := by
    ext k
    simp only [Finset.mem_filter, Finset.mem_range, hkey]
    refine ⟨fun h => h.2, fun hk => ⟨?_, hk⟩⟩
    have h1 := (hkey k).2 hk
    have : (k : Int) * 1 ≤ k * I := Int.mul_le_mul_of_nonneg_left (by omega) (by omega)
    omega
  rw [expiryCount, this, Finset.card_range]

/-- The ideal periodic timer: at each tick, the number of expiry points `w0 + k * I` that the
running sum of tick times `S` passes during it. -/
def expiryFires (w0 I : Int) : Nat → List Nat → List Nat
  | _, [] => []
  | S, T :: ticks => (expiryCount w0 I (S + T) - expiryCount w0 I S) :: expiryFires w0 I (S + T) ticks

/-- A periodic timer armed with wait `w0` and interval `I`, after `n` callbacks and tick times
summing to `S`: the wait is on schedule, positive, and at most one interval once it has fired. -/
structure OnSchedule (w0 I : Int) (b n S : Nat) (timecb : OsTimecbInternalRecord) : Prop where
  interval : timecb.intervalTime = I
  callback : timecb.callbackPtr.isSome
  backlog : timecb.backlogResets = b
  wait_eq : timecb.waitTime = w0 + n * I - S
  wait_pos : 0 < timecb.waitTime
  wait_lt : timecb.waitTime < 2 ^ 31
  wait_le : n = 0 ∨ timecb.waitTime ≤ I

namespace OnSchedule

variable {w0 I : Int} {b n S : Nat} {timecb : OsTimecbInternalRecord}

theorem expiryCount_eq' (h : OnSchedule w0 I b n S timecb) (hw : 0 < w0) (hI : 0 < I) :
    expiryCount w0 I S = n :=
  expiryCount_eq hw hI (h.wait_le.imp_right fun h' => by have := h.wait_eq; omega)
    (by have := h.wait_eq; have := h.wait_pos; omega)

theorem timerTick (h : OnSchedule w0 I b n S timecb) (hI : 0 < I) (hI' : I < 2 ^ 31) {T : Nat}
    (hT : T ≤ I) :
    (Osal.timerTick T timecb).2 ≤ 1 ∧
      OnSchedule w0 I b (n + (Osal.timerTick T timecb).2) (S + T) (Osal.timerTick T timecb).1 := by
  have hw := h.wait_eq
  have hw₀ := h.wait_pos
  have hw₁ := h.wait_lt
  have hI₀ := h.interval
  unfold Osal.timerTick
  rw [toInt32_of_mem (by omega) (by omega)]
  by_cases hpos : 0 < timecb.waitTime - T
  · rw [waitLoop_of_pos hpos]
    refine ⟨Nat.zero_le 1, h.interval, h.callback, h.backlog, ?_, hpos, ?_, h.wait_le.imp_right ?_⟩ <;>
      dsimp only [Nat.add_zero] <;> push_cast <;> omega
  · rw [@waitLoop_of_lt _ { timecb with waitTime := timecb.waitTime - T } (by dsimp only; omega)
      (by dsimp only; omega)]
    simp only [h.callback, gt_iff_lt, hw₀, and_self, if_true]
    refine ⟨le_rfl, h.interval, h.callback, h.backlog, ?_, ?_, ?_, .inr ?_⟩ <;>
      dsimp only <;> push_cast [Int.add_mul] <;> omega

theorem timerRun (h : OnSchedule w0 I b n S timecb) (hw : 0 < w0) (hI : 0 < I) (hI' : I < 2 ^ 31)
    {ticks : List Nat} (hT : ∀ T ∈ ticks, T ≤ I) :
    OnSchedule w0 I b (n + (Osal.timerRun ticks timecb).2.sum) (S + ticks.sum)
        (Osal.timerRun ticks timecb).1 ∧
      (Osal.timerRun ticks timecb).2 = expiryFires w0 I S ticks ∧
      ∀ x ∈ (Osal.timerRun ticks timecb).2, x ≤ 1 := by
  induction ticks generalizing n S timecb with
  | nil => exact ⟨by simpa [Osal.timerRun] using h, rfl, by simp [Osal.timerRun]⟩
  | cons T ticks ih =>
    obtain ⟨h1, h2⟩ := h.timerTick hI hI' (hT T (List.mem_cons_self _ _))
    obtain ⟨h3, h4, h5⟩ := ih h2 fun T' hT' => hT T' (List.mem_cons_of_mem _ hT')
    refine ⟨?_, ?_, ?_⟩
    · simpa [Osal.timerRun, Nat.add_assoc] using h3
    · simp only [Osal.timerRun, expiryFires, h4, h2.expiryCount_eq' hw hI, h.expiryCount_eq' hw hI,
        Nat.add_sub_cancel_left]
    · simpa [Osal.timerRun] using ⟨h1, h5⟩

end OnSchedule

/-- A periodic timer serviced with ticks at most its interval gives the ideal timer's callbacks, one
per tick at most, never resets its backlog, and keeps its wait on schedule. -/
theorem timerRun_periodic (timecb : OsTimecbInternalRecord) (ticks : List Nat)
    (hI : 0 < timecb.intervalTime) (hI' : timecb.intervalTime < 2 ^ 31)
    (hw : 0 < timecb.waitTime) (hw' : timecb.waitTime < 2 ^ 31)
    (hcb : timecb.callbackPtr.isSome) (hT : ∀ T ∈ ticks, T ≤ timecb.intervalTime) :
    let r := timerRun ticks timecb
    let N := expiryCount timecb.waitTime timecb.intervalTime ticks.sum
    r.2.sum = N ∧ r.2 = expiryFires timecb.waitTime timecb.intervalTime 0 ticks ∧
      (∀ x ∈ r.2, x ≤ 1) ∧ r.1.backlogResets = timecb.backlogResets ∧
      r.1.waitTime = timecb.waitTime + N * timecb.intervalTime - ticks.sum ∧
      (1 ≤ N → 0 < r.1.waitTime ∧ r.1.waitTime ≤ timecb.intervalTime) := by
  have h0 : OnSchedule timecb.waitTime timecb.intervalTime timecb.backlogResets 0 0 timecb :=
    ⟨rfl, hcb, rfl, by simp, hw, hw', .inl rfl⟩
  obtain ⟨h, hfires, hle⟩ := h0.timerRun hw hI hI' hT
  have hN := h.expiryCount_eq' hw hI
  simp only [Nat.zero_add] at h hN
  refine ⟨hN.symm, hfires, hle, h.backlog, by rw [hN]; exact h.wait_eq, fun h1 => ⟨h.wait_pos, ?_⟩⟩
  rcases h.wait_le with h0 | h0
  · omega
  · exact h0

theorem timerRun_periodic_ticks :
    (0 : Int) < 10 ∧ (10 : Int) < 2 ^ 31 ∧ (0 : Int) < 25 ∧ (25 : Int) < 2 ^ 31 ∧
      (some 0 : Option Nat).isSome ∧ (∀ T ∈ [7, 10, 3, 10, 10], (T : Int) ≤ 10) ∧
      let r := timerRun [7, 10, 3, 10, 10] ⟨25, 10, 0, some 0, 0⟩
      let N := expiryCount 25 10 [7, 10, 3, 10, 10].sum
      r.2.sum = N ∧ r.2 = expiryFires 25 10 0 [7, 10, 3, 10, 10] ∧ (∀ x ∈ r.2, x ≤ 1) ∧
        r.1.backlogResets = 0 ∧ r.1.waitTime = 25 + N * 10 - ([7, 10, 3, 10, 10].sum : Nat) ∧
        (1 ≤ N → 0 < r.1.waitTime ∧ r.1.waitTime ≤ 10) :=
  ⟨by decide, by decide, by decide, by decide, rfl, by decide,
    timerRun_periodic ⟨25, 10, 0, some 0, 0⟩ [7, 10, 3, 10, 10] (by decide) (by decide) (by decide)
      (by decide) rfl (by decide)⟩

/-! ### One-shot timers

With `interval_time = 0` the loop makes one pass. `wait_time -= tick_time` is computed in
`uint32`: a tick more than `2^31` above the wait wraps to a positive `int32`, so a pending
one-shot skips its expiry and an expired one (wait `0`) is re-armed and fires again. -/

theorem timerTick_of_pos {T : Nat} {timecb : OsTimecbInternalRecord}
    (h : 0 < toInt32 (timecb.waitTime - T)) :
    timerTick T timecb = ({ timecb with waitTime := toInt32 (timecb.waitTime - T) }, 0) :=
  @waitLoop_of_pos _ { timecb with waitTime := _ } h

theorem timerTick_oneShot {T : Nat} {timecb : OsTimecbInternalRecord} (hI : timecb.intervalTime = 0)
    (h : toInt32 (timecb.waitTime - T) ≤ 0) :
    timerTick T timecb = (waitStep { timecb with waitTime := toInt32 (timecb.waitTime - T) },
      if timecb.waitTime > 0 ∧ timecb.callbackPtr.isSome then 1 else 0) :=
  @waitLoop_oneShot _ { timecb with waitTime := _ } h hI

/-- A one-shot armed with wait `1`: a tick of `2^31 + 2` gives no callback, and after the
callback of a tick of `1`, ticks of `2^31 + 1` and `2^31 - 1` give a second one. -/
theorem timerRun_oneShot_wraps :
    (timerRun [2 ^ 31 + 2] ⟨1, 0, 0, some 0, 0⟩).2 = [0] ∧
      (timerRun [1, 2 ^ 31 + 1, 2 ^ 31 - 1] ⟨1, 0, 0, some 0, 0⟩).2 = [1, 0, 1] := by
  constructor
  · rw [timerRun, timerTick_of_pos (by decide)]; rfl
  · rw [timerRun, timerTick_oneShot rfl (by decide)]
    simp only [timerRun]
    rw [timerTick_of_pos (by decide), timerTick_oneShot rfl (by decide)]
    decide

end Osal
