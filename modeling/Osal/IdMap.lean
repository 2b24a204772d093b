import Osal.State

/-!
# The ID manager's interface and its lock contract (`os-shared-idmap.h`)

The ID manager (`osapi-idmap.c`) is not in the repository. The shared layer sees it through the
calls declared in `os-shared-idmap.h`; `IdMgr` gives each call's result and table update as an
arbitrary function, and the wrappers `osObjectId*` add what the header's lock modes promise:
`AllocateNew` and `GLOBAL`/`EXCLUSIVE` lookups return holding the type lock only on success,
`REFCOUNT` lookups return unlocked with one more reference, `NONE` lookups take no lock ("Do not
lock global table at all"), `FindByName` takes and releases it, `FinalizeNew`/`FinalizeDelete`
release it, `RefcountDecr` takes it, drops one reference and releases it. The waits of an
`EXCLUSIVE` lookup (unlock, delay, lock again) are balanced inside the call and not shown.

`LockState.run` replays a log against the lock automaton: a lock may be taken only if free and
released only if held, and a reference dropped only if taken. `LockSpec pre m post` says that
from the lock state `pre` the events `m` appends replay to `post` of its result.
-/

namespace Osal

inductive OsLockMode
  | none | global | exclusive | refcount
deriving DecidableEq

/-- The shared layer: a state monad over the world. -/
abbrev OsalM := StateM World

def emit (e : Event) : OsalM Unit := modify fun w => { w with log := w.log ++ [e] }

def readTables : OsalM Tables := fun w => (w.tables, w)

def modifyTables (f : Tables → Tables) : OsalM Unit := fun w => ((), { w with tables := f w.tables })

section
variable {α β : Type}

@[simp] theorem run_bind (m : OsalM α) (f : α → OsalM β) (w : World) :
    (m >>= f).run w = (f (m.run w).1).run (m.run w).2 := rfl

@[simp] theorem run_pure (a : α) (w : World) : (pure a : OsalM α).run w = (a, w) := rfl

@[simp] theorem run_map (f : α → β) (m : OsalM α) (w : World) :
    (f <$> m).run w = (f (m.run w).1, (m.run w).2) := rfl

@[simp] theorem run_discard (m : OsalM α) (w : World) :
    (Functor.discard m).run w = ((), (m.run w).2) := rfl

@[simp] theorem run_emit (e : Event) (w : World) :
    (emit e).run w = ((), { w with log := w.log ++ [e] }) := rfl

@[simp] theorem run_readTables (w : World) : readTables.run w = (w.tables, w) := rfl

@[simp] theorem run_modifyTables (f : Tables → Tables) (w : World) :
    (modifyTables f).run w = ((), { w with tables := f w.tables }) := rfl

end

/-- The ID manager's calls: results and table updates, without the lock operations. -/
structure IdMgr where
  allocateNew : Nat → CStr → Tables → Except Int (Nat × Tables)
  finalizeNew : Int → Nat → Nat → Tables → (Int × OsalId) × Tables
  finalizeDelete : Int → Nat → Nat → Tables → Int × Tables
  getById : OsLockMode → Nat → OsalId → Tables → Except Int (Nat × Tables)
  getBySearch : OsLockMode → Nat → (Nat → Bool) → Tables → Except Int (Nat × Tables)
  findByName : Nat → CStr → Tables → Except Int OsalId
  refcountDecr : Nat → Nat → Tables → Int × Tables

def idCall {α : Type} (f : Tables → Except Int (α × Tables)) : OsalM (Except Int α) := fun w =>
  match f w.tables with
  | .ok (a, t) => (.ok a, { w with tables := t })
  | .error e => (.error e, w)

def idCall' {α : Type} (f : Tables → α × Tables) : OsalM α := fun w =>
  ((f w.tables).1, { w with tables := (f w.tables).2 })

theorem run_idCall {α : Type} (f : Tables → Except Int (α × Tables)) (w : World) :
    (idCall f).run w = match f w.tables with
      | .ok (a, t) => (.ok a, { w with tables := t })
      | .error e => (.error e, w) := rfl

@[simp] theorem run_idCall' {α : Type} (f : Tables → α × Tables) (w : World) :
    (idCall' f).run w = ((f w.tables).1, { w with tables := (f w.tables).2 }) := rfl

def osLockGlobal (idtype : Nat) : OsalM Unit := emit (.lockGlobal idtype)

def osUnlockGlobal (idtype : Nat) : OsalM Unit := emit (.unlockGlobal idtype)

/-- What a lookup in `mode` leaves held (§4.D.1), after taking the lock unless `mode` is
`NONE`. -/
def lockModeExit (mode : OsLockMode) (idtype : Nat) : Except Int Nat → OsalM Unit
  | .ok i =>
    match mode with
    | .none | .global | .exclusive => pure ()
    | .refcount => do emit (.refcountIncr idtype i); osUnlockGlobal idtype
  | .error _ => if mode = .none then pure () else osUnlockGlobal idtype

def lockModeEnter (mode : OsLockMode) (idtype : Nat) : OsalM Unit :=
  if mode = .none then pure () else osLockGlobal idtype

def osObjectIdGetById (idm : IdMgr) (mode : OsLockMode) (idtype : Nat) (id : OsalId) :
    OsalM (Except Int Nat) := do
  lockModeEnter mode idtype
  let r ← idCall (idm.getById mode idtype id)
  lockModeExit mode idtype r
  pure r

/-- `OS_ObjectIdGetBySearch`; `matchFunc` reads the tables at a slot. -/
def osObjectIdGetBySearch (idm : IdMgr) (mode : OsLockMode) (idtype : Nat)
    (matchFunc : Tables → Nat → Bool) : OsalM (Except Int Nat) := do
  lockModeEnter mode idtype
  let r ← idCall fun t => idm.getBySearch mode idtype (matchFunc t) t
  lockModeExit mode idtype r
  pure r

def osObjectNameMatch (idtype : Nat) (name : CStr) (t : Tables) (localId : Nat) : Bool :=
  (t.common idtype localId).nameEntry == some name

def osObjectIdGetByName (idm : IdMgr) (mode : OsLockMode) (idtype : Nat) (name : CStr) :
    OsalM (Except Int Nat) :=
  osObjectIdGetBySearch idm mode idtype (osObjectNameMatch idtype name)

def osObjectIdFindByName (idm : IdMgr) (idtype : Nat) (name : CStr) : OsalM (Except Int OsalId) := do
  osLockGlobal idtype
  let t ← readTables
  let r := idm.findByName idtype name t
  osUnlockGlobal idtype
  pure r

/-- `OS_ObjectIdAllocateNew`: the type lock is kept on success. -/
def osObjectIdAllocateNew (idm : IdMgr) (idtype : Nat) (name : CStr) : OsalM (Except Int Nat) := do
  osLockGlobal idtype
  let r ← idCall (idm.allocateNew idtype name)
  match r with
  | .ok i => emit (.allocate idtype i)
  | .error _ => osUnlockGlobal idtype
  pure r

/-- `OS_ObjectIdFinalizeNew`: returns the status and the ID written to `*outid`. -/
def osObjectIdFinalizeNew (idm : IdMgr) (status : Int) (idtype localId : Nat) :
    OsalM (Int × OsalId) := do
  let r ← idCall' (idm.finalizeNew status idtype localId)
  osUnlockGlobal idtype
  pure r

def osObjectIdFinalizeDelete (idm : IdMgr) (status : Int) (idtype localId : Nat) : OsalM Int := do
  let r ← idCall' (idm.finalizeDelete status idtype localId)
  osUnlockGlobal idtype
  pure r

def osObjectIdRefcountDecr (idm : IdMgr) (idtype localId : Nat) : OsalM Int := do
  osLockGlobal idtype
  let r ← idCall' (idm.refcountDecr idtype localId)
  emit (.refcountDecr idtype localId)
  osUnlockGlobal idtype
  pure r

/-! ### What the wrappers do to the world -/

section
variable (idm : IdMgr) (w : World)

theorem run_osObjectIdAllocateNew (idtype : Nat) (name : CStr) :
    (osObjectIdAllocateNew idm idtype name).run w = match idm.allocateNew idtype name w.tables with
      | .ok (i, t) => (.ok i, ⟨t, w.log ++ [.lockGlobal idtype, .allocate idtype i]⟩)
      | .error e => (.error e, ⟨w.tables, w.log ++ [.lockGlobal idtype, .unlockGlobal idtype]⟩) := by
  simp only [osObjectIdAllocateNew, osLockGlobal, osUnlockGlobal, run_bind, run_emit, run_idCall]
  rcases idm.allocateNew idtype name w.tables with e | ⟨i, t⟩ <;> simp

theorem run_osObjectIdGetBySearch {mode : OsLockMode} (hm : mode = .global ∨ mode = .exclusive)
    (idtype : Nat) (f : Tables → Nat → Bool) :
    (osObjectIdGetBySearch idm mode idtype f).run w =
      match idm.getBySearch mode idtype (f w.tables) w.tables with
      | .ok (i, t) => (.ok i, ⟨t, w.log ++ [.lockGlobal idtype]⟩)
      | .error e => (.error e, ⟨w.tables, w.log ++ [.lockGlobal idtype, .unlockGlobal idtype]⟩) := by
  have hn : mode ≠ .none := by rcases hm with rfl | rfl <;> decide
  simp only [osObjectIdGetBySearch, lockModeEnter, if_neg hn, osLockGlobal, run_bind, run_emit,
    run_idCall]
  rcases idm.getBySearch mode idtype (f w.tables) w.tables with e | ⟨i, t⟩
  · simp [lockModeExit, hn, osUnlockGlobal]
  · rcases hm with rfl | rfl <;> simp [lockModeExit]

theorem run_osObjectIdFinalizeNew (status : Int) (idtype i : Nat) :
    (osObjectIdFinalizeNew idm status idtype i).run w =
      ((idm.finalizeNew status idtype i w.tables).1,
        ⟨(idm.finalizeNew status idtype i w.tables).2, w.log ++ [.unlockGlobal idtype]⟩) := rfl

end

/-! ### The lock automaton -/

/-- Held type locks, held time base locks and outstanding references. -/
structure LockState where
  global : List Nat
  timebase : List Nat
  refs : List (Nat × Nat)
deriving DecidableEq

def LockState.idle : LockState := ⟨[], [], []⟩

/-- One event: `none` when it takes a held lock, releases a free one or drops a reference not
taken. -/
def LockState.step (s : LockState) : Event → Option LockState
  | .lockGlobal t => if t ∈ s.global then none else some { s with global := t :: s.global }
  | .unlockGlobal t => if t ∈ s.global then some { s with global := s.global.erase t } else none
  | .timeBaseLock i => if i ∈ s.timebase then none else some { s with timebase := i :: s.timebase }
  | .timeBaseUnlock i =>
    if i ∈ s.timebase then some { s with timebase := s.timebase.erase i } else none
  | .refcountIncr t i => some { s with refs := (t, i) :: s.refs }
  | .refcountDecr t i => if (t, i) ∈ s.refs then some { s with refs := s.refs.erase (t, i) } else none
  | .allocate .. | .volume .. => some s

def LockState.run : LockState → List Event → Option LockState
  | s, [] => some s
  | s, e :: es => (s.step e).bind fun s' => s'.run es

theorem LockState.run_append (s : LockState) (es es' : List Event) :
    s.run (es ++ es') = (s.run es).bind fun s' => s'.run es' := by
  induction es generalizing s with
  | nil => rfl
  | cons e es ih => simp only [List.cons_append, run]; cases s.step e <;> simp [ih]

end Osal
