import Osal.TimeBase.Callback

/-!
# How long the per-tick wait loop runs

`waitLoopPasses` lists the records at the start of each iteration of
`while (timecb->wait_time <= 0)`; `waitLoop_eq_passes` ties it to the loop of
`OS_TimeBase_CallbackThread`: the loop applies `waitStep` once per pass and gives the callback at
every pass or at none. The first pass brings the wait to at least `-interval_time` (the backlog
clamp), so with a positive interval two more passes at most bring it above zero, to at most
`interval_time`; with a zero interval the loop breaks after its first pass. Every pass starts from
a wait between the loop's first wait and zero, so `wait_time + interval_time` stays an `int32`.
-/

namespace Osal

@[simp] theorem waitStep_waitTime (timecb : OsTimecbInternalRecord) :
    (waitStep timecb).waitTime = max (timecb.waitTime + timecb.intervalTime) (-timecb.intervalTime) := by
  unfold waitStep; dsimp only; split <;> simp only <;> omega

/-- The records at the start of each pass of `while (timecb->wait_time <= 0)`, in order: the loop
makes one iteration per entry. -/
def waitLoopPasses (timecb : OsTimecbInternalRecord) : List OsTimecbInternalRecord :=
  if _h : timecb.waitTime ≤ 0 then
    if _hI : (waitStep timecb).intervalTime ≤ 0 then [timecb]
    else timecb :: waitLoopPasses (waitStep timecb)
  else []
termination_by (1 - timecb.waitTime).toNat
decreasing_by
  have := waitTime_lt_waitStep timecb (by simp only [waitStep_intervalTime] at _hI; omega)
  omega

theorem waitLoopPasses_of_pos {timecb : OsTimecbInternalRecord} (h : 0 < timecb.waitTime) :
    waitLoopPasses timecb = [] := by
  rw [waitLoopPasses, dif_neg (by omega)]

theorem waitLoopPasses_of_nonpos {timecb : OsTimecbInternalRecord} (h : timecb.waitTime ≤ 0)
    (hI : 0 < timecb.intervalTime) : waitLoopPasses timecb = timecb :: waitLoopPasses (waitStep timecb) := by
  rw [waitLoopPasses, dif_pos h, dif_neg (by simp; omega)]

theorem waitLoopPasses_oneShot {timecb : OsTimecbInternalRecord} (h : timecb.waitTime ≤ 0)
    (hI : timecb.intervalTime ≤ 0) : waitLoopPasses timecb = [timecb] := by
  rw [waitLoopPasses, dif_pos h, dif_pos (by simpa using hI)]

theorem waitLoop_eq_passes (saved : Int) (timecb : OsTimecbInternalRecord) :
    waitLoop saved timecb = (waitStep^[(waitLoopPasses timecb).length] timecb,
      if saved > 0 ∧ timecb.callbackPtr.isSome then (waitLoopPasses timecb).length else 0) := by
  induction timecb using waitLoopPasses.induct with
  | case1 t h hI => rw [waitLoop, dif_pos h, dif_pos hI, waitLoopPasses, dif_pos h, dif_pos hI]; simp
  | case2 t h hI ih =>
    rw [waitLoop, dif_pos h, dif_neg hI, waitLoopPasses, dif_pos h, dif_neg hI, ih]
    simp only [List.length_cons, Function.iterate_succ_apply, waitStep_callbackPtr]
    split_ifs <;> simp only [Prod.mk.injEq, true_and]
    omega
  | case3 t h => rw [waitLoop, dif_neg h, waitLoopPasses, dif_neg h]; simp

theorem mem_waitLoopPasses {timecb p : OsTimecbInternalRecord} (hI : 0 ≤ timecb.intervalTime)
    (hp : p ∈ waitLoopPasses timecb) :
    timecb.waitTime ≤ p.waitTime ∧ p.waitTime ≤ 0 ∧ p.intervalTime = timecb.intervalTime := by
  induction timecb using waitLoopPasses.induct with
  | case1 t h hI' =>
    rw [waitLoopPasses, dif_pos h, dif_pos hI', List.mem_singleton] at hp
    subst hp; exact ⟨le_rfl, h, rfl⟩
  | case2 t h hI' ih =>
    rw [waitLoopPasses, dif_pos h, dif_neg hI', List.mem_cons] at hp
    rcases hp with rfl | hp
    · exact ⟨le_rfl, h, rfl⟩
    · obtain ⟨h₁, h₂, h₃⟩ := ih (by simpa using hI) hp
      simp only [waitStep_waitTime, waitStep_intervalTime] at h₁ h₃
      exact ⟨by omega, h₂, h₃⟩
  | case3 t h => rw [waitLoopPasses, dif_neg h] at hp; cases hp

theorem waitLoopPasses_length_le_two {timecb : OsTimecbInternalRecord} (hI : 0 < timecb.intervalTime)
    (hw : -timecb.intervalTime ≤ timecb.waitTime) : (waitLoopPasses timecb).length ≤ 2 := by
  by_cases h₀ : 0 < timecb.waitTime
  · simp [waitLoopPasses_of_pos h₀]
  rw [waitLoopPasses_of_nonpos (by omega) hI, List.length_cons]
  by_cases h₁ : 0 < (waitStep timecb).waitTime
  · simp [waitLoopPasses_of_pos h₁]
  have h₂ : 0 < (waitStep (waitStep timecb)).waitTime := by simp at h₁ ⊢; omega
  rw [waitLoopPasses_of_nonpos (by omega) (by simpa using hI), waitLoopPasses_of_pos h₂]
  rfl

theorem waitLoopPasses_length_le_three {timecb : OsTimecbInternalRecord} (hI : 0 < timecb.intervalTime) :
    (waitLoopPasses timecb).length ≤ 3 := by
  by_cases h₀ : 0 < timecb.waitTime
  · simp [waitLoopPasses_of_pos h₀]
  rw [waitLoopPasses_of_nonpos (by omega) hI, List.length_cons]
  have := @waitLoopPasses_length_le_two (waitStep timecb) (by simpa using hI) (by simp)
  omega

theorem waitTime_after_passes {timecb : OsTimecbInternalRecord} (hI : 0 < timecb.intervalTime)
    (hw : timecb.waitTime ≤ 0) :
    0 < (waitStep^[(waitLoopPasses timecb).length] timecb).waitTime ∧
      (waitStep^[(waitLoopPasses timecb).length] timecb).waitTime ≤ timecb.intervalTime := by
  induction timecb using waitLoopPasses.induct with
  | case1 t _ hI' => simp at hI'; omega
  | case2 t h hI' ih =>
    rw [waitLoopPasses, dif_pos h, dif_neg hI', List.length_cons, Function.iterate_succ_apply]
    by_cases h₁ : 0 < (waitStep t).waitTime
    · rw [waitLoopPasses_of_pos h₁]
      simp at h₁ ⊢; omega
    · simpa using ih (by simpa using hI) (by omega)
  | case3 t h => omega

/-- One timer, one tick of `OS_TimeBase_CallbackThread`, `0 ≤ interval_time < 2^31`: at most three
passes, the callback given at every pass or at none, and the loop's sums in the `int32` range. -/
theorem timerTick_passes_bounded (T : Nat) (timecb : OsTimecbInternalRecord)
    (hI₀ : 0 ≤ timecb.intervalTime) (hI₁ : timecb.intervalTime < 2 ^ 31) :
    let t₀ := { timecb with waitTime := toInt32 (timecb.waitTime - T) }
    (waitLoopPasses t₀).length ≤ 3 ∧
    (timecb.intervalTime = 0 → (waitLoopPasses t₀).length = if t₀.waitTime ≤ 0 then 1 else 0) ∧
    timerTick T timecb = (waitStep^[(waitLoopPasses t₀).length] t₀,
      if timecb.waitTime > 0 ∧ timecb.callbackPtr.isSome then (waitLoopPasses t₀).length else 0) ∧
    (timerTick T timecb).2 ≤ 3 ∧
    (∀ p ∈ waitLoopPasses t₀, -2 ^ 31 ≤ p.waitTime + p.intervalTime ∧
      p.waitTime + p.intervalTime < 2 ^ 31 ∧ -2 ^ 31 ≤ -p.intervalTime ∧ -p.intervalTime < 2 ^ 31) ∧
    (0 < timecb.intervalTime → 0 < (waitLoopPasses t₀).length →
      0 < (timerTick T timecb).1.waitTime ∧ (timerTick T timecb).1.waitTime ≤ timecb.intervalTime) := by
  intro t₀
  have hlo : -2 ^ 31 ≤ t₀.waitTime := by simp only [t₀, toInt32]; omega
  have hrun : timerTick T timecb = _ := waitLoop_eq_passes timecb.waitTime t₀
  have hlen : (waitLoopPasses t₀).length ≤ 3 := by
    rcases hI₀.eq_or_lt with hI | hI
    · by_cases hw : t₀.waitTime ≤ 0
      · rw [waitLoopPasses_oneShot hw hI.ge]; simp
      · rw [waitLoopPasses_of_pos (not_le.1 hw)]; simp
    · exact waitLoopPasses_length_le_three hI
  refine ⟨hlen, fun hI => ?_, hrun, ?_, fun p hp => ?_, fun hI hpos => ?_⟩
  · split_ifs with hw
    · rw [waitLoopPasses_oneShot hw hI.le]; rfl
    · rw [waitLoopPasses_of_pos (not_le.1 hw)]; rfl
  · rw [hrun]; split_ifs <;> omega
  · obtain ⟨h₁, h₂, h₃⟩ := @mem_waitLoopPasses t₀ p hI₀ hp
    have hI : t₀.intervalTime = timecb.intervalTime := rfl
    rw [h₃, hI]; exact ⟨by omega, by omega, by omega, by omega⟩
  · have hw : t₀.waitTime ≤ 0 := by
      by_contra hw
      rw [waitLoopPasses_of_pos (not_le.1 hw)] at hpos
      exact absurd hpos (lt_irrefl 0)
    rw [hrun]
    exact waitTime_after_passes hI hw

/-- A timer at wait `1` and interval `10`, ticked by `100`: the first pass clamps the wait to `-10`
and counts a backlog reset, and the loop makes three passes. -/
theorem timerTick_passes_bounded_backlog :
    (0 : Int) ≤ 10 ∧ (10 : Int) < 2 ^ 31 ∧
    let timecb : OsTimecbInternalRecord := ⟨1, 10, 0, some 0, 0⟩
    let t₀ := { timecb with waitTime := toInt32 (timecb.waitTime - (100 : Nat)) }
    (waitLoopPasses t₀).length ≤ 3 ∧
    (timecb.intervalTime = 0 → (waitLoopPasses t₀).length = if t₀.waitTime ≤ 0 then 1 else 0) ∧
    timerTick 100 timecb = (waitStep^[(waitLoopPasses t₀).length] t₀,
      if timecb.waitTime > 0 ∧ timecb.callbackPtr.isSome then (waitLoopPasses t₀).length else 0) ∧
    (timerTick 100 timecb).2 ≤ 3 ∧
    (∀ p ∈ waitLoopPasses t₀, -2 ^ 31 ≤ p.waitTime + p.intervalTime ∧
      p.waitTime + p.intervalTime < 2 ^ 31 ∧ -2 ^ 31 ≤ -p.intervalTime ∧ -p.intervalTime < 2 ^ 31) ∧
    (0 < timecb.intervalTime → 0 < (waitLoopPasses t₀).length →
      0 < (timerTick 100 timecb).1.waitTime ∧
        (timerTick 100 timecb).1.waitTime ≤ timecb.intervalTime) :=
  ⟨by decide, by decide, timerTick_passes_bounded 100 ⟨1, 10, 0, some 0, 0⟩ (by decide) (by decide)⟩

theorem oneShot_pending_no_pass :
    (⟨5, 0, 0, some 0, 0⟩ : OsTimecbInternalRecord).intervalTime = 0 ∧
      (waitLoopPasses { (⟨5, 0, 0, some 0, 0⟩ : OsTimecbInternalRecord) with waitTime := toInt32 (5 - 1) }).length
        = 0 := by
  refine ⟨rfl, ?_⟩
  rw [waitLoopPasses_of_pos (by decide)]
  rfl

end Osal
