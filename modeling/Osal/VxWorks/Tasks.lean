import Osal.TimeBase.Api
import Osal.TimeBase.Ticks

/-!
# The VxWorks task identity calls (`os-impl-tasks.c`)

`OS_TaskRegister_Impl` and `OS_TaskGetId_Impl` of the VxWorks adapter. `OS_TaskCreate_Impl`
builds each OSAL task with `taskInit` on the `WIND_TCB` inside its own record of
`OS_impl_task_table`, so that `taskTcb(taskIdSelf())` points into that table and its offset is the
task's slot. A calling thread is given by that offset, in records from
`&OS_impl_task_table[0]` (`none` for a `NULL` TCB); the offset is converted to `size_t`.

`OS_TaskRegister_Impl` records nothing: what `OS_TaskGetId_Impl` returns depends on the thread's
TCB and the task table only.

`OS_TaskDelay_Impl` converts its milliseconds with `OS_Milli2Ticks` and pends in `taskDelay`; the
model returns the status and the tick count handed to `taskDelay`, `none` when it is not called.
-/

namespace Osal

def osTaskRegisterImpl (_globalTaskId : OsalId) : Int := osSuccess

/-- `OS_TaskGetId_Impl()` on the thread whose `taskTcb(taskIdSelf())` lies `tcb` records from the
start of `OS_impl_task_table`. -/
def osTaskGetIdImpl (cfg : Config) (tcb : Option Int) (t : Tables) : OsalId :=
  match tcb with
  | none => osObjectIdUndefined
  | some offset =>
    let index := (offset % 2 ^ 64).toNat
    if index < cfg.maxTasks then (t.common osObjectTypeOsTask index).activeId else osObjectIdUndefined

theorem osTaskGetIdImpl_cases (cfg : Config) (tcb : Option Int) (t : Tables) :
    osTaskGetIdImpl cfg tcb t = osObjectIdUndefined ∨
      ∃ i < cfg.maxTasks, osTaskGetIdImpl cfg tcb t = (t.common osObjectTypeOsTask i).activeId := by
  unfold osTaskGetIdImpl
  split
  · exact .inl rfl
  · dsimp only
    split
    · exact .inr ⟨_, ‹_›, rfl⟩
    · exact .inl rfl

/-- `OS_TaskDelay_Impl(milli_second)`: the status and the tick count handed to `taskDelay`, if it
is called; `taskDelayOk` says whether `taskDelay` returns `OK`. -/
def osTaskDelayImpl (ticksPerSecond : Nat) (taskDelayOk : Int → Bool) (milliSecond : Nat) :
    Int × Option Int :=
  let r := osMilli2Ticks ticksPerSecond milliSecond
  if r.1 ≠ osSuccess then (osError, none)
  else if !taskDelayOk r.2 then (osError, some r.2)
  else (osSuccess, some r.2)

/-- The time base thread is not made by `OS_TaskCreate_Impl`, so its TCB lies outside
`OS_impl_task_table`: its task ID is undefined and the timer API lets it through. -/
theorem osTimeBaseSet_from_vxWorks_timebaseThread (idm : IdMgr) (w : World)
    (setImpl : Nat → Nat → Nat → Int) (timerId : OsalId) :
    let getId := osTaskGetIdImpl Config.small (some 4)
    inTimebaseContext Config.small (getId w.tables) = false ∧
      ((osTimeBaseSet Config.small idm getId setImpl timerId 0 0).run w).2.log =
        w.log ++ match idm.getById .global osObjectTypeOsTimebase timerId w.tables with
          | .error _ => [.lockGlobal osObjectTypeOsTimebase, .unlockGlobal osObjectTypeOsTimebase]
          | .ok (li, _) => [.lockGlobal osObjectTypeOsTimebase, .timeBaseLock li, .timeBaseUnlock li,
              .unlockGlobal osObjectTypeOsTimebase] := by
  have hg : ∀ t, inTimebaseContext Config.small (osTaskGetIdImpl Config.small (some 4) t) = false :=
    fun _ => by unfold osTaskGetIdImpl; dsimp only; rw [if_neg (by decide)]; decide
  refine ⟨hg _, ?_⟩
  rw [osTimeBaseSet, if_neg (by decide), timerApiGuard_run_of_not (hg _)]
  simp only [osObjectIdGetById, lockModeEnter, osLockGlobal, if_neg (show OsLockMode.global ≠ .none by decide),
    run_bind, run_emit, run_idCall]
  rcases idm.getById .global osObjectTypeOsTimebase timerId w.tables with e | ⟨li, t'⟩
  · simp [lockModeExit, osUnlockGlobal]
  · simp only [lockModeExit, osTimeBaseLockImpl, osTimeBaseUnlockImpl, osUnlockGlobal, run_bind,
      run_pure, run_emit]
    split <;> simp

end Osal
