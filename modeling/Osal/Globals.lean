import Osal.Basic

/-!
# The shared globals: start-up, event handler and shutdown (`osapi-common.c`)

`OS_SharedGlobalVars` is written by `OS_API_Init` (`Initialized`, and through the implementation's
initialisation the tick constants), by `OS_RegisterEventHandler` (`EventHandler`) and by
`OS_ApplicationShutdown` (`ShutdownFlag`), and read by `OS_NotifyEvent` and `OS_IdleLoop`.

`OS_API_Init` is a `for` loop over the object types with two `break`s and a `switch` whose
`default` makes no call. `osApiInit_eq_runUntilFailure` shows it is the flat sequence of
initialisation calls (`initSequence`) run up to its first failure, followed by the check of the
tick constants. Of the calls it makes only the four shared-layer ones whose files are here
(`OS_BinSemAPI_Init`, `OS_QueueAPI_Init`, `OS_TimeBaseAPI_Init`, `OS_FileSysAPI_Init`) are in the
repository, and they return `OS_SUCCESS`; every other call is given by its status and by the tick
constants it leaves (`InitOracle`).

Over any run of calls from the initialiser the globals are a function of the calls made
(`globalsRun_summary`): `OS_API_Init` does its work at most once, even when that once failed,
`ShutdownFlag` holds the magic number once `OS_ApplicationShutdown(true)` was called, and the event
handler is the last one registered. `OS_IdleLoop` returns after the first `OS_IdleLoop_Impl()`
during which that call was made (`osIdleLoop_returns`).

`os-shared-common.h`, which declares the record and `OS_SHUTDOWN_MAGIC_NUMBER`, is not in the
repository. The magic number is a parameter (`magic`), and the tick constants are signed, as the
`(long)` casts of `OS_API_Init`'s warning read them.
-/

namespace Osal

/-- The fields of `OS_SharedGlobalVars_t` the calls here read or write; an event handler is given
by its address (`none` for `NULL`). -/
structure OsSharedGlobalVars where
  initialized : Bool
  shutdownFlag : Nat
  microSecPerTick : Int
  ticksPerSecond : Int
  eventHandler : Option Nat
  deriving DecidableEq, Repr

def osSharedGlobalVars : OsSharedGlobalVars := ⟨false, 0, 0, 0, none⟩

/-! ### `OS_API_Init` -/

/-- The shared layer's per-type initialisation calls, as the `switch` of `OS_API_Init` names them. -/
inductive ApiInitCall
  | taskApi | queueApi | binSemApi | countSemApi | mutexApi | moduleApi | timeBaseApi | timerCbApi
  | fileApi | dirApi | fileSysApi | consoleApi
  deriving DecidableEq, Repr

/-- The `switch (idtype)` of `OS_API_Init`; `none` is its `default`. -/
def apiInitCall (idtype : Nat) : Option ApiInitCall :=
  if idtype = osObjectTypeOsTask then some .taskApi
  else if idtype = osObjectTypeOsQueue then some .queueApi
  else if idtype = osObjectTypeOsBinsem then some .binSemApi
  else if idtype = osObjectTypeOsCountsem then some .countSemApi
  else if idtype = osObjectTypeOsMutex then some .mutexApi
  else if idtype = osObjectTypeOsModule then some .moduleApi
  else if idtype = osObjectTypeOsTimebase then some .timeBaseApi
  else if idtype = osObjectTypeOsTimecb then some .timerCbApi
  else if idtype = osObjectTypeOsStream then some .fileApi
  else if idtype = osObjectTypeOsDir then some .dirApi
  else if idtype = osObjectTypeOsFilesys then some .fileSysApi
  else if idtype = osObjectTypeOsConsole then some .consoleApi
  else none

/-- A call `OS_API_Init` makes: `OS_ObjectIdInit()`, `OS_API_Impl_Init(idtype)`, a shared-layer
per-type init, `OS_NetworkAPI_Init()` or `OS_SocketAPI_Init()`. -/
inductive InitCall
  | objectIdInit
  | apiImplInit (idtype : Nat)
  | sharedInit (c : ApiInitCall)
  | networkApiInit
  | socketApiInit
  deriving DecidableEq, Repr

/-- The calls that are not in the repository, as `OS_API_Init` sees them: each one's status, and
the `MicroSecPerTick` and `TicksPerSecond` it leaves (`none`: it leaves them alone). -/
structure InitOracle where
  status : InitCall → Int
  ticks : InitCall → Option (Int × Int)

/-- The status of a call: `OS_BinSemAPI_Init`, `OS_QueueAPI_Init`, `OS_TimeBaseAPI_Init` and
`OS_FileSysAPI_Init` return `OS_SUCCESS`, the others what the oracle says. -/
def initStatus (o : InitOracle) : InitCall → Int
  | .sharedInit .binSemApi | .sharedInit .queueApi | .sharedInit .timeBaseApi
  | .sharedInit .fileSysApi => osSuccess
  | c => o.status c

def initGlobals (o : InitOracle) : InitCall → OsSharedGlobalVars → OsSharedGlobalVars
  | .sharedInit .binSemApi, g | .sharedInit .queueApi, g | .sharedInit .timeBaseApi, g
  | .sharedInit .fileSysApi, g => g
  | c, g =>
    match o.ticks c with
    | some (us, tps) => { g with microSecPerTick := us, ticksPerSecond := tps }
    | none => g

def initCall (o : InitOracle) (c : InitCall) (g : OsSharedGlobalVars) : Int × OsSharedGlobalVars :=
  (initStatus o c, initGlobals o c g)

/-- The `for (idtype = …; idtype < OS_OBJECT_TYPE_USER; ++idtype)` loop entered at `idtype` with
`n` types left: `return_code` after it, the globals, and the calls made. -/
def apiInitLoop (o : InitOracle) : Nat → Nat → OsSharedGlobalVars → Int × OsSharedGlobalVars × List InitCall
  | 0, _, g => (osSuccess, g, [])
  | n + 1, idtype, g =>
    let r := initCall o (.apiImplInit idtype) g
    if r.1 ≠ osSuccess then (r.1, r.2, [.apiImplInit idtype])
    else
      match apiInitCall idtype with
      | none =>
        let w := apiInitLoop o n (idtype + 1) r.2
        (w.1, w.2.1, .apiImplInit idtype :: w.2.2)
      | some c =>
        let s := initCall o (.sharedInit c) r.2
        if s.1 ≠ osSuccess then (s.1, s.2, [.apiImplInit idtype, .sharedInit c])
        else
          let w := apiInitLoop o n (idtype + 1) s.2
          (w.1, w.2.1, .apiImplInit idtype :: .sharedInit c :: w.2.2)

structure ApiInitResult where
  status : Int
  globals : OsSharedGlobalVars
  calls : List InitCall
  warn : Bool

def initIfSuccess (o : InitOracle) (c : InitCall) (r : Int × OsSharedGlobalVars × List InitCall) :
    Int × OsSharedGlobalVars × List InitCall :=
  if r.1 = osSuccess then ((initCall o c r.2.1).1, (initCall o c r.2.1).2, r.2.2 ++ [c]) else r

/-- `OS_API_Init()` on the globals `g`. The product of the tick constants is taken into the
`uint32` `microSecPerSec`. -/
def osApiInit (o : InitOracle) (g : OsSharedGlobalVars) : ApiInitResult :=
  if g.initialized ≠ false then ⟨osError, g, [], false⟩
  else
    let r := initCall o .objectIdInit { g with initialized := true }
    if r.1 ≠ osSuccess then ⟨r.1, r.2, [.objectIdInit], false⟩
    else
      let s := initIfSuccess o .socketApiInit
        (initIfSuccess o .networkApiInit (apiInitLoop o osObjectTypeUser 0 r.2))
      let rc := if s.1 = osSuccess ∧ (s.2.1.microSecPerTick = 0 ∨ s.2.1.ticksPerSecond = 0) then osError
        else s.1
      ⟨rc, s.2.1, .objectIdInit :: s.2.2,
        (s.2.1.microSecPerTick * s.2.1.ticksPerSecond) % 2 ^ 32 ≠ 1000000⟩

/-! ### The sequence it is for -/

def initTypes (idtype n : Nat) : List InitCall :=
  (List.range' idtype n).flatMap fun k => .apiImplInit k :: ((apiInitCall k).map .sharedInit).toList

/-- The initialisation calls in the order they are to be made: the ID manager, each object type
below `OS_OBJECT_TYPE_USER`, then the network and socket layers. -/
def initSequence : List InitCall :=
  .objectIdInit :: initTypes 0 osObjectTypeUser ++ [.networkApiInit, .socketApiInit]

/-- Run calls in order up to the first that fails: its status (`OS_SUCCESS` when none fails), the
globals after, and the calls made. -/
def runUntilFailure (o : InitOracle) : List InitCall → OsSharedGlobalVars →
    Int × OsSharedGlobalVars × List InitCall
  | [], g => (osSuccess, g, [])
  | c :: cs, g =>
    let r := initCall o c g
    if r.1 ≠ osSuccess then (r.1, r.2, [c])
    else
      let w := runUntilFailure o cs r.2
      (w.1, w.2.1, c :: w.2.2)

section Run

variable (o : InitOracle)

theorem runUntilFailure_cons_of_success {c : InitCall} (cs : List InitCall) (g : OsSharedGlobalVars)
    (h : initStatus o c = osSuccess) :
    runUntilFailure o (c :: cs) g =
      ((runUntilFailure o cs (initGlobals o c g)).1, (runUntilFailure o cs (initGlobals o c g)).2.1,
        c :: (runUntilFailure o cs (initGlobals o c g)).2.2) := by
  simp [runUntilFailure, initCall, h]

theorem runUntilFailure_cons_of_failure {c : InitCall} (cs : List InitCall) (g : OsSharedGlobalVars)
    (h : initStatus o c ≠ osSuccess) :
    runUntilFailure o (c :: cs) g = (initStatus o c, initGlobals o c g, [c]) := by
  simp only [runUntilFailure, initCall, if_pos h]

theorem initGlobals_fields (c : InitCall) (g : OsSharedGlobalVars) :
    (initGlobals o c g).initialized = g.initialized ∧ (initGlobals o c g).shutdownFlag = g.shutdownFlag ∧
      (initGlobals o c g).eventHandler = g.eventHandler := by
  unfold initGlobals; split <;> try exact ⟨rfl, rfl, rfl⟩
  split <;> exact ⟨rfl, rfl, rfl⟩

theorem runUntilFailure_append (xs ys : List InitCall) (g : OsSharedGlobalVars) :
    runUntilFailure o (xs ++ ys) g =
      if (runUntilFailure o xs g).1 = osSuccess then
        ((runUntilFailure o ys (runUntilFailure o xs g).2.1).1,
          (runUntilFailure o ys (runUntilFailure o xs g).2.1).2.1,
          (runUntilFailure o xs g).2.2 ++ (runUntilFailure o ys (runUntilFailure o xs g).2.1).2.2)
      else runUntilFailure o xs g := by
  induction xs generalizing g with
  | nil => simp [runUntilFailure]
  | cons c xs ih =>
    by_cases h : initStatus o c = osSuccess
    · rw [List.cons_append, runUntilFailure_cons_of_success _ _ _ h,
        runUntilFailure_cons_of_success _ _ _ h, ih]
      split <;> simp
    · rw [List.cons_append, runUntilFailure_cons_of_failure _ _ _ h,
        runUntilFailure_cons_of_failure _ _ _ h, if_neg h]

theorem initIfSuccess_runUntilFailure (xs : List InitCall) (c : InitCall) (g : OsSharedGlobalVars) :
    initIfSuccess o c (runUntilFailure o xs g) = runUntilFailure o (xs ++ [c]) g := by
  rw [runUntilFailure_append, initIfSuccess]
  split
  · by_cases h : initStatus o c = 0 <;> simp [runUntilFailure, initCall, h]
  · rfl

theorem runUntilFailure_calls (cs : List InitCall) (g g' : OsSharedGlobalVars) :
    (runUntilFailure o cs g).1 = (runUntilFailure o cs g').1 ∧
      (runUntilFailure o cs g).2.2 = (runUntilFailure o cs g').2.2 := by
  induction cs generalizing g g' with
  | nil => simp [runUntilFailure]
  | cons c cs ih =>
    by_cases h : initStatus o c = osSuccess
    · simp [runUntilFailure_cons_of_success _ _ _ h, ih (initGlobals o c g) (initGlobals o c g')]
    · simp [runUntilFailure_cons_of_failure _ _ _ h]

theorem runUntilFailure_fields (cs : List InitCall) (g : OsSharedGlobalVars) :
    (runUntilFailure o cs g).2.1.initialized = g.initialized ∧
      (runUntilFailure o cs g).2.1.shutdownFlag = g.shutdownFlag ∧
      (runUntilFailure o cs g).2.1.eventHandler = g.eventHandler := by
  induction cs generalizing g with
  | nil => exact ⟨rfl, rfl, rfl⟩
  | cons c cs ih =>
    obtain ⟨h₁, h₂, h₃⟩ := initGlobals_fields o c g
    by_cases h : initStatus o c = osSuccess
    · obtain ⟨i₁, i₂, i₃⟩ := ih (initGlobals o c g)
      rw [runUntilFailure_cons_of_success _ _ _ h]
      exact ⟨i₁.trans h₁, i₂.trans h₂, i₃.trans h₃⟩
    · rw [runUntilFailure_cons_of_failure _ _ _ h]
      exact ⟨h₁, h₂, h₃⟩

theorem runUntilFailure_success (cs : List InitCall) (g : OsSharedGlobalVars) :
    ((runUntilFailure o cs g).1 = osSuccess ↔ ∀ c ∈ cs, initStatus o c = osSuccess) ∧
      ((runUntilFailure o cs g).1 = osSuccess → (runUntilFailure o cs g).2.2 = cs) := by
  induction cs generalizing g with
  | nil => simp [runUntilFailure]
  | cons c cs ih =>
    by_cases h : initStatus o c = osSuccess
    · obtain ⟨ih₁, ih₂⟩ := ih (initGlobals o c g)
      rw [runUntilFailure_cons_of_success _ _ _ h, List.forall_mem_cons, ← ih₁]
      exact ⟨⟨fun hs => ⟨h, hs⟩, And.right⟩, fun hs => by rw [ih₂ hs]⟩
    · rw [runUntilFailure_cons_of_failure _ _ _ h, List.forall_mem_cons]
      exact ⟨iff_of_false h fun hs => h hs.1, fun hs => absurd hs h⟩

end Run

theorem apiInitLoop_eq (o : InitOracle) (n idtype : Nat) (g : OsSharedGlobalVars) :
    apiInitLoop o n idtype g = runUntilFailure o (initTypes idtype n) g := by
  induction n generalizing idtype g with
  | zero => rfl
  | succ n ih =>
    rw [initTypes, List.range'_succ, List.flatMap_cons, ← initTypes]
    by_cases h : initStatus o (.apiImplInit idtype) = 0
    · cases hc : apiInitCall idtype with
      | none => simp [apiInitLoop, runUntilFailure, initCall, h, hc, ih]
      | some c =>
        by_cases h' : initStatus o (.sharedInit c) = 0 <;>
          simp [apiInitLoop, runUntilFailure, initCall, h, hc, h', ih]
    · simp [apiInitLoop, runUntilFailure, initCall, h]

theorem osApiInit_eq_run (o : InitOracle) (g : OsSharedGlobalVars) :
    let r := runUntilFailure o initSequence { g with initialized := true }
    (osApiInit o g).status =
        (if g.initialized then osError
         else if r.1 = osSuccess ∧ (r.2.1.microSecPerTick = 0 ∨ r.2.1.ticksPerSecond = 0) then osError
         else r.1) ∧
      (osApiInit o g).globals = (if g.initialized then g else r.2.1) ∧
      (osApiInit o g).calls = (if g.initialized then [] else r.2.2) := by
  intro r
  cases hg : g.initialized
  case true => simp [osApiInit, hg]
  case false =>
  have hr : r = runUntilFailure o (.objectIdInit :: (initTypes 0 osObjectTypeUser ++
      [.networkApiInit] ++ [.socketApiInit])) { g with initialized := true } := rfl
  rw [runUntilFailure, ← initIfSuccess_runUntilFailure, ← initIfSuccess_runUntilFailure,
    ← apiInitLoop_eq] at hr
  simp only [osApiInit, hg, ne_eq, Bool.false_eq_true, not_false_eq_true, if_false, if_true]
  generalize initCall o .objectIdInit { g with initialized := true } = r₀ at hr ⊢
  generalize initIfSuccess o .socketApiInit
    (initIfSuccess o .networkApiInit (apiInitLoop o osObjectTypeUser 0 r₀.2)) = w at hr ⊢
  rw [hr]
  by_cases h₀ : r₀.1 = 0 <;> simp [h₀]

theorem osApiInit_success_iff (o : InitOracle) (g : OsSharedGlobalVars) :
    ((osApiInit o g).status = osSuccess ↔
        g.initialized = false ∧ (∀ c ∈ initSequence, initStatus o c = osSuccess) ∧
          (osApiInit o g).globals.microSecPerTick ≠ 0 ∧ (osApiInit o g).globals.ticksPerSecond ≠ 0) ∧
      ((osApiInit o g).status = osSuccess → (osApiInit o g).calls = initSequence) := by
  obtain ⟨hs, hg, hc⟩ := osApiInit_eq_run o g
  obtain ⟨hr₁, hr₂⟩ := runUntilFailure_success o initSequence { g with initialized := true }
  rw [hs, hg, hc]
  cases g.initialized
  · simp only [Bool.false_eq_true, if_false, true_and]
    split_ifs with h
    · simp only [osError, osSuccess, false_iff, false_implies, and_true]
      omega
    · rw [← hr₁]
      simp only [not_and, not_or] at h
      exact ⟨⟨fun hr => ⟨hr, h hr⟩, fun hr => hr.1⟩, hr₂⟩
  · simp

/-- `OS_API_Init` is the run of `initSequence` up to its first failure, with the check of the tick
constants, and succeeds exactly when every call of it does and the constants are nonzero. -/
theorem osApiInit_refines (o : InitOracle) (g : OsSharedGlobalVars) :
    ((osApiInit o g).status =
        (if g.initialized then osError
         else if (runUntilFailure o initSequence { g with initialized := true }).1 = osSuccess ∧
             ((runUntilFailure o initSequence { g with initialized := true }).2.1.microSecPerTick = 0 ∨
               (runUntilFailure o initSequence { g with initialized := true }).2.1.ticksPerSecond = 0)
           then osError
         else (runUntilFailure o initSequence { g with initialized := true }).1) ∧
      (osApiInit o g).globals =
        (if g.initialized then g else (runUntilFailure o initSequence { g with initialized := true }).2.1) ∧
      (osApiInit o g).calls =
        (if g.initialized then [] else (runUntilFailure o initSequence { g with initialized := true }).2.2)) ∧
    ((osApiInit o g).status = osSuccess ↔
        g.initialized = false ∧ (∀ c ∈ initSequence, initStatus o c = osSuccess) ∧
          (osApiInit o g).globals.microSecPerTick ≠ 0 ∧ (osApiInit o g).globals.ticksPerSecond ≠ 0) ∧
      ((osApiInit o g).status = osSuccess → (osApiInit o g).calls = initSequence) :=
  ⟨osApiInit_eq_run o g, osApiInit_success_iff o g⟩

/-! ### The event handler and shutdown -/

def osRegisterEventHandler (handler : Option Nat) (g : OsSharedGlobalVars) : Int × OsSharedGlobalVars :=
  match handler with
  | none => (osInvalidPointer, g)
  | some h => (osSuccess, { g with eventHandler := some h })

def osNotifyEvent (call : Nat → Int) (g : OsSharedGlobalVars) : Int :=
  match g.eventHandler with
  | some h => call h
  | none => osSuccess

/-- `OS_ApplicationShutdown(flag)`: `flag == true` compares the `uint8` `flag` with `1`. The
adapter's `OS_ApplicationShutdown_Impl()` is not in the repository and is left out. -/
def osApplicationShutdown (magic flag : Nat) (g : OsSharedGlobalVars) : OsSharedGlobalVars :=
  if flag = 1 then { g with shutdownFlag := magic } else g

inductive GlobalsCall
  | apiInit (o : InitOracle)
  | registerEventHandler (handler : Option Nat)
  | applicationShutdown (flag : Nat)

namespace GlobalsCall

def run (magic : Nat) (g : OsSharedGlobalVars) : GlobalsCall → OsSharedGlobalVars × List InitCall
  | .apiInit o => ((osApiInit o g).globals, (osApiInit o g).calls)
  | .registerEventHandler handler => ((osRegisterEventHandler handler g).2, [])
  | .applicationShutdown flag => (osApplicationShutdown magic flag g, [])

def initOracle : GlobalsCall → Option InitOracle
  | .apiInit o => some o
  | _ => none

def handler : GlobalsCall → Option Nat
  | .registerEventHandler h => h
  | _ => none

def shutsDown : GlobalsCall → Bool
  | .applicationShutdown flag => flag == 1
  | _ => false

end GlobalsCall

def globalsRun (magic : Nat) : OsSharedGlobalVars → List GlobalsCall → OsSharedGlobalVars × List InitCall
  | g, [] => (g, [])
  | g, c :: cs =>
    let r := c.run magic g
    let w := globalsRun magic r.1 cs
    (w.1, r.2 ++ w.2)

def firstInitCalls (cs : List GlobalsCall) : List InitCall :=
  ((cs.filterMap GlobalsCall.initOracle).head?.map fun o => (osApiInit o osSharedGlobalVars).calls).getD []

theorem osApiInit_globals (o : InitOracle) (g : OsSharedGlobalVars) :
    (osApiInit o g).globals.initialized = true ∧
      (osApiInit o g).globals.shutdownFlag = g.shutdownFlag ∧
      (osApiInit o g).globals.eventHandler = g.eventHandler ∧
      (osApiInit o g).calls = if g.initialized then [] else (osApiInit o osSharedGlobalVars).calls := by
  obtain ⟨-, hg, hc⟩ := osApiInit_eq_run o g
  obtain ⟨-, -, hc₀⟩ := osApiInit_eq_run o osSharedGlobalVars
  obtain ⟨f₁, f₂, f₃⟩ := runUntilFailure_fields o initSequence { g with initialized := true }
  rw [hg, hc, hc₀, (runUntilFailure_calls o initSequence { g with initialized := true } _).2]
  cases h : g.initialized
  · exact ⟨f₁, f₂, f₃, rfl⟩
  · exact ⟨h, rfl, rfl, rfl⟩

theorem globalsRun_eq (magic : Nat) (cs : List GlobalsCall) (g : OsSharedGlobalVars) :
    (globalsRun magic g cs).2 = (if g.initialized then [] else firstInitCalls cs) ∧
      (globalsRun magic g cs).1.initialized = (g.initialized || cs.any fun c => c.initOracle.isSome) ∧
      (globalsRun magic g cs).1.shutdownFlag =
        (if cs.any GlobalsCall.shutsDown then magic else g.shutdownFlag) ∧
      (globalsRun magic g cs).1.eventHandler =
        ((cs.filterMap GlobalsCall.handler).getLast?).or g.eventHandler := by
  induction cs generalizing g with
  | nil => simp [globalsRun, firstInitCalls]
  | cons c cs ih =>
    obtain ⟨ih₁, ih₂, ih₃, ih₄⟩ := ih (c.run magic g).1
    simp only [globalsRun, ih₁, ih₂, ih₃, ih₄]
    cases c with
    | apiInit o =>
      obtain ⟨h₁, h₂, h₃, h₄⟩ := osApiInit_globals o g
      simp only [GlobalsCall.run, h₁, h₂, h₃, h₄]
      cases g.initialized <;> simp [firstInitCalls, GlobalsCall.initOracle, GlobalsCall.handler,
        GlobalsCall.shutsDown]
    | registerEventHandler handler =>
      cases handler with
      | none => simp [GlobalsCall.run, osRegisterEventHandler, firstInitCalls, GlobalsCall.initOracle,
          GlobalsCall.handler, GlobalsCall.shutsDown]
      | some h =>
        have hlast : ((h :: cs.filterMap GlobalsCall.handler).getLast?).or g.eventHandler =
            (cs.filterMap GlobalsCall.handler).getLast?.or (some h) := by
          rw [List.getLast?_cons]; cases (cs.filterMap GlobalsCall.handler).getLast? <;> rfl
        simp only [GlobalsCall.run, osRegisterEventHandler, List.filterMap_cons, GlobalsCall.handler,
          hlast]
        simp [firstInitCalls, GlobalsCall.initOracle, GlobalsCall.shutsDown]
    | applicationShutdown flag =>
      by_cases hf : flag = 1 <;> simp [GlobalsCall.run, osApplicationShutdown, hf, firstInitCalls,
        GlobalsCall.initOracle, GlobalsCall.handler, GlobalsCall.shutsDown]

/-- Over any run from the initialiser, the globals and the calls made are fixed by the first
`OS_API_Init`, the calls of `OS_ApplicationShutdown(true)` and the last handler registered. -/
theorem globalsRun_summary (magic : Nat) (cs : List GlobalsCall) (call : Nat → Int) :
    (globalsRun magic osSharedGlobalVars cs).2 = firstInitCalls cs ∧
      (globalsRun magic osSharedGlobalVars cs).1.initialized = cs.any (fun c => c.initOracle.isSome) ∧
      (globalsRun magic osSharedGlobalVars cs).1.shutdownFlag =
        (if cs.any GlobalsCall.shutsDown then magic else 0) ∧
      osNotifyEvent call (globalsRun magic osSharedGlobalVars cs).1 =
        match (cs.filterMap GlobalsCall.handler).getLast? with
        | some h => call h
        | none => osSuccess := by
  obtain ⟨h₁, h₂, h₃, h₄⟩ := globalsRun_eq magic cs osSharedGlobalVars
  refine ⟨by simpa [osSharedGlobalVars] using h₁, by simpa [osSharedGlobalVars] using h₂, h₃, ?_⟩
  rw [osNotifyEvent, h₄]
  cases (cs.filterMap GlobalsCall.handler).getLast? <;> rfl

/-! ### `OS_IdleLoop` -/

/-- `OS_IdleLoop()` while the rest of the system makes the calls `rounds k` during its `k`-th call
of `OS_IdleLoop_Impl()` (not in the repository): the number of those calls when it returns, `none`
when the rounds run out first. -/
def osIdleLoop (magic : Nat) : OsSharedGlobalVars → List (List GlobalsCall) → Option Nat
  | g, [] => if g.shutdownFlag ≠ magic then none else some 0
  | g, r :: rs =>
    if g.shutdownFlag ≠ magic then (osIdleLoop magic (globalsRun magic g r).1 rs).map (· + 1)
    else some 0

theorem osIdleLoop_of_shutdown {magic : Nat} {g : OsSharedGlobalVars} (h : g.shutdownFlag = magic)
    (rounds : List (List GlobalsCall)) : osIdleLoop magic g rounds = some 0 := by
  cases rounds <;> simp [osIdleLoop, h]

/-- `OS_IdleLoop` returns right after the first round in which `OS_ApplicationShutdown(true)` was
called. -/
theorem osIdleLoop_returns (magic : Nat) (g : OsSharedGlobalVars) (hg : g.shutdownFlag ≠ magic)
    (rounds : List (List GlobalsCall)) :
    osIdleLoop magic g rounds = (rounds.findIdx? fun r => r.any GlobalsCall.shutsDown).map (· + 1) := by
  induction rounds generalizing g with
  | nil => simp [osIdleLoop, hg]
  | cons r rs ih =>
    have hflag := (globalsRun_eq magic r g).2.2.1
    rw [osIdleLoop, if_pos hg, List.findIdx?_cons, List.findIdx?_succ]
    split
    · rw [osIdleLoop_of_shutdown (by rw [hflag, if_pos ‹_›])]
    · rw [ih _ (by rw [hflag, if_neg ‹_›]; exact hg)]

theorem osIdleLoop_returns_second :
    osSharedGlobalVars.shutdownFlag ≠ 1 ∧
      osIdleLoop 1 osSharedGlobalVars [[], [.applicationShutdown 1], []] =
        ([[], [.applicationShutdown 1], []].findIdx? fun r => r.any GlobalsCall.shutsDown).map (· + 1) :=
  ⟨by decide, osIdleLoop_returns 1 osSharedGlobalVars (by decide) _⟩

end Osal
