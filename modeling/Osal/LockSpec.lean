import Osal.IdMap

/-!
# Lock specifications of the shared-layer primitives

`LockSpec pre m post`: run from any world, the events `m` appends replay from the lock state
`pre` to `post r`, where `r` is the result of `m`. The rules compose along `>>=`; table reads and
writes leave the lock state alone; each wrapper of `IdMap.lean` gets one spec stating the lock
contract of its call. Entry points are then checked against these specs without unfolding the
wrappers.
-/

namespace Osal

/-- From `pre`, the events `m` appends replay to `post` of its result. -/
def LockSpec {α : Type} (pre : LockState) (m : OsalM α) (post : α → LockState) : Prop :=
  ∀ w, ∃ es, (m.run w).2.log = w.log ++ es ∧ pre.run es = some (post (m.run w).1)

namespace LockState

def acquire (s : LockState) (t : Nat) : LockState := { s with global := t :: s.global }

def release (s : LockState) (t : Nat) : LockState := { s with global := s.global.erase t }

def ref (s : LockState) (t i : Nat) : LockState := { s with refs := (t, i) :: s.refs }

@[simp] theorem release_acquire (s : LockState) (t : Nat) : (s.acquire t).release t = s := by
  simp [acquire, release]

/-- The lock state a lookup in `mode` leaves (§4.D.1). -/
def afterLookup (s : LockState) (mode : OsLockMode) (t : Nat) : Except Int Nat → LockState
  | .ok i =>
    match mode with
    | .global | .exclusive => s.acquire t
    | .refcount => s.ref t i
    | .none => s
  | .error _ => s

/-- The lock state `AllocateNew` leaves: the lock is kept on success. -/
def afterAllocate (s : LockState) (t : Nat) : Except Int Nat → LockState
  | .ok _ => s.acquire t
  | .error _ => s

theorem step_lockGlobal {s : LockState} {t : Nat} (h : t ∉ s.global) :
    s.step (.lockGlobal t) = some (s.acquire t) := if_neg h

theorem step_unlockGlobal {s : LockState} {t : Nat} (h : t ∈ s.global) :
    s.step (.unlockGlobal t) = some (s.release t) := if_pos h

theorem mem_acquire (s : LockState) (t : Nat) : t ∈ (s.acquire t).global := List.mem_cons_self _ _

end LockState

namespace LockSpec
variable {α β : Type} {s s' : LockState}

theorem pure (a : α) : LockSpec s (Pure.pure a : OsalM α) (fun _ => s) :=
  fun w => ⟨[], by simp [StateT.run, Pure.pure, StateT.pure], rfl⟩

theorem bind {m : OsalM α} {f : α → OsalM β} {Q : α → LockState} {R : β → LockState}
    (hm : LockSpec s m Q) (hf : ∀ a, LockSpec (Q a) (f a) R) : LockSpec s (m >>= f) R := by
  intro w
  obtain ⟨es₁, h₁, r₁⟩ := hm w
  obtain ⟨es₂, h₂, r₂⟩ := hf (m.run w).1 (m.run w).2
  exact ⟨es₁ ++ es₂, by rw [← List.append_assoc, ← h₁, ← h₂]; rfl,
    by rw [LockState.run_append, r₁]; exact r₂⟩

theorem emit {e : Event} (h : s.step e = some s') : LockSpec s (Osal.emit e) (fun _ => s') :=
  fun w => ⟨[e], rfl, by simp [LockState.run, h]⟩

theorem readTables : LockSpec s Osal.readTables (fun _ => s) := fun _ => ⟨[], by simp, rfl⟩

theorem modifyTables (f : Tables → Tables) : LockSpec s (Osal.modifyTables f) (fun _ => s) :=
  fun _ => ⟨[], by simp, rfl⟩

theorem idCall (f : Tables → Except Int (α × Tables)) : LockSpec s (Osal.idCall f) (fun _ => s) := by
  intro w
  refine ⟨[], ?_, rfl⟩
  rw [run_idCall]
  split <;> simp

theorem idCall' (f : Tables → α × Tables) : LockSpec s (Osal.idCall' f) (fun _ => s) :=
  fun _ => ⟨[], by simp, rfl⟩

theorem lockGlobal {t : Nat} (h : t ∉ s.global) :
    LockSpec s (osLockGlobal t) (fun _ => s.acquire t) :=
  emit (LockState.step_lockGlobal h)

theorem unlockGlobal {t : Nat} (h : t ∈ s.global) :
    LockSpec s (osUnlockGlobal t) (fun _ => s.release t) :=
  emit (LockState.step_unlockGlobal h)

theorem ite {c : Prop} [Decidable c] {m₁ m₂ : OsalM α} {Q : α → LockState} (h₁ : LockSpec s m₁ Q)
    (h₂ : LockSpec s m₂ Q) : LockSpec s (if c then m₁ else m₂) Q := by
  split <;> assumption

theorem map {m : OsalM α} (f : α → β) (h : LockSpec s m fun _ => s') :
    LockSpec s (f <$> m) fun _ => s' := h

theorem discard {m : OsalM α} (h : LockSpec s m fun _ => s') :
    LockSpec s (Functor.discard m) fun _ => s' := h

theorem bindExcept {m : OsalM (Except Int Nat)} {f : Except Int Nat → OsalM β}
    {Q : Except Int Nat → LockState} {R : β → LockState} (hm : LockSpec s m Q)
    (herr : ∀ e, LockSpec (Q (.error e)) (f (.error e)) R) (hok : ∀ i, LockSpec (Q (.ok i)) (f (.ok i)) R) :
    LockSpec s (m >>= f) R :=
  bind hm fun r => by cases r; exacts [herr _, hok _]

theorem unlockAcquired {t : Nat} : LockSpec (s.acquire t) (osUnlockGlobal t) (fun _ => s) := by
  simpa using unlockGlobal (LockState.mem_acquire s t)

theorem lookup {mode : OsLockMode} {t : Nat} {m : OsalM (Except Int Nat)} (h : t ∉ s.global)
    (hm : ∀ s', LockSpec s' m (fun _ => s')) :
    LockSpec s (do lockModeEnter mode t; let r ← m; lockModeExit mode t r; Pure.pure r)
      (s.afterLookup mode t) := by
  by_cases hn : mode = .none
  · subst hn
    refine bind (pure ()) fun _ => bind (hm s) fun r => ?_
    cases r <;> exact bind (pure ()) fun _ => pure _
  · refine bind (by simpa [lockModeEnter, hn] using lockGlobal h) fun _ => bind (hm _) fun r => ?_
    cases r with
    | error e =>
      simpa [lockModeExit, hn, LockState.afterLookup] using
        bind (unlockGlobal (LockState.mem_acquire s t)) fun _ => pure (Except.error e)
    | ok i =>
      cases mode with
      | none => exact absurd rfl hn
      | global | exclusive => exact bind (pure ()) fun _ => pure _
      | refcount =>
        refine bind (bind (emit rfl) fun _ => unlockGlobal (LockState.mem_acquire s t)) fun _ => ?_
        simpa [LockState.afterLookup, LockState.ref, LockState.acquire, LockState.release] using
          pure (Except.ok i)

end LockSpec

section
variable {s : LockState} (idm : IdMgr)

theorem osObjectIdGetById_lockSpec (mode : OsLockMode) {t : Nat} (id : OsalId) (h : t ∉ s.global) :
    LockSpec s (osObjectIdGetById idm mode t id) (s.afterLookup mode t) :=
  LockSpec.lookup h fun _ => LockSpec.idCall _

theorem osObjectIdGetBySearch_lockSpec (mode : OsLockMode) {t : Nat} (f : Tables → Nat → Bool)
    (h : t ∉ s.global) :
    LockSpec s (osObjectIdGetBySearch idm mode t f) (s.afterLookup mode t) :=
  LockSpec.lookup h fun _ => LockSpec.idCall _

theorem osObjectIdGetByName_lockSpec (mode : OsLockMode) {t : Nat} (name : CStr) (h : t ∉ s.global) :
    LockSpec s (osObjectIdGetByName idm mode t name) (s.afterLookup mode t) :=
  osObjectIdGetBySearch_lockSpec idm mode _ h

theorem osObjectIdFindByName_lockSpec {t : Nat} (name : CStr) (h : t ∉ s.global) :
    LockSpec s (osObjectIdFindByName idm t name) (fun _ => s) := by
  refine LockSpec.bind (LockSpec.lockGlobal h) fun _ => LockSpec.bind LockSpec.readTables fun _ => ?_
  simpa using LockSpec.bind (LockSpec.unlockGlobal (LockState.mem_acquire s t)) fun _ =>
    LockSpec.pure _

theorem osObjectIdAllocateNew_lockSpec {t : Nat} (name : CStr) (h : t ∉ s.global) :
    LockSpec s (osObjectIdAllocateNew idm t name) (s.afterAllocate t) := by
  refine LockSpec.bind (LockSpec.lockGlobal h) fun _ => LockSpec.bind (LockSpec.idCall _) fun r => ?_
  cases r with
  | ok i => exact LockSpec.bind (LockSpec.emit rfl) fun _ => LockSpec.pure _
  | error e =>
    simpa [LockState.afterAllocate] using
      LockSpec.bind (LockSpec.unlockGlobal (LockState.mem_acquire s t)) fun _ =>
        LockSpec.pure (Except.error e : Except Int Nat)

theorem osObjectIdFinalizeNew_lockSpec (status : Int) {t : Nat} (i : Nat) (h : t ∈ s.global) :
    LockSpec s (osObjectIdFinalizeNew idm status t i) (fun _ => s.release t) :=
  LockSpec.bind (LockSpec.idCall' _) fun _ =>
    LockSpec.bind (LockSpec.unlockGlobal h) fun _ => LockSpec.pure _

theorem osObjectIdFinalizeNew_acquired (status : Int) {t : Nat} (i : Nat) :
    LockSpec (s.acquire t) (osObjectIdFinalizeNew idm status t i) (fun _ => s) := by
  simpa using osObjectIdFinalizeNew_lockSpec idm status i (LockState.mem_acquire s t)

theorem osObjectIdFinalizeDelete_lockSpec (status : Int) {t : Nat} (i : Nat) (h : t ∈ s.global) :
    LockSpec s (osObjectIdFinalizeDelete idm status t i) (fun _ => s.release t) :=
  LockSpec.bind (LockSpec.idCall' _) fun _ =>
    LockSpec.bind (LockSpec.unlockGlobal h) fun _ => LockSpec.pure _

theorem osObjectIdFinalizeDelete_acquired (status : Int) {t : Nat} (i : Nat) :
    LockSpec (s.acquire t) (osObjectIdFinalizeDelete idm status t i) (fun _ => s) := by
  simpa using osObjectIdFinalizeDelete_lockSpec idm status i (LockState.mem_acquire s t)

theorem osObjectIdRefcountDecr_lockSpec {t i : Nat} (h : t ∉ s.global) :
    LockSpec (s.ref t i) (osObjectIdRefcountDecr idm t i) (fun _ => s) := by
  refine LockSpec.bind (LockSpec.lockGlobal h) fun _ => LockSpec.bind (LockSpec.idCall' _) fun _ => ?_
  refine LockSpec.bind (LockSpec.emit
    (show _ = some (s.acquire t) by simp [LockState.step, LockState.ref, LockState.acquire])) fun _ => ?_
  simpa using LockSpec.bind (LockSpec.unlockGlobal (LockState.mem_acquire s t)) fun _ =>
      LockSpec.pure _

end

end Osal
