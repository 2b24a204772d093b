import Osal.State

/-!
# What the adapter has been told about a file system slot

The agreement between the file system table and the volumes the adapter holds is read off the
log: the volume calls issued for a slot, with their results, and the slot's allocations.
`since p q log` says an event matching `p` was logged and none matching `q` after it; every
predicate used with it looks at one slot, so events on other slots leave it alone
(`since_append_of_not_touches`).
-/

namespace Osal

namespace Event

/-- The event is about slot `i` of the file system table: its allocation or a volume call on it. -/
def touchesFs (i : Nat) : Event → Bool
  | .allocate ty j => ty == osObjectTypeOsFilesys && j == i
  | .volume _ j _ => j == i
  | _ => false

/-- The allocation of file system slot `i`. -/
def isFsAllocate (i : Nat) : Event → Bool
  | .allocate ty j => ty == osObjectTypeOsFilesys && j == i
  | _ => false

/-- A volume call `op` on slot `i` whose status satisfies `r`. -/
def isVolume (op : VolumeOp) (i : Nat) (r : Int → Bool) : Event → Bool
  | .volume op' j rc => op' == op && j == i && r rc
  | _ => false

@[simp] theorem isFsAllocate_allocate (i ty j : Nat) :
    isFsAllocate i (.allocate ty j) = (ty == osObjectTypeOsFilesys && j == i) := rfl
@[simp] theorem isVolume_volume (op op' : VolumeOp) (i j : Nat) (r : Int → Bool) (rc : Int) :
    isVolume op i r (.volume op' j rc) = (op' == op && j == i && r rc) := rfl
@[simp] theorem touchesFs_allocate (i ty j : Nat) :
    touchesFs i (.allocate ty j) = (ty == osObjectTypeOsFilesys && j == i) := rfl
@[simp] theorem touchesFs_volume (i j : Nat) (op : VolumeOp) (rc : Int) :
    touchesFs i (.volume op j rc) = (j == i) := rfl
@[simp] theorem touchesFs_lockGlobal (i t : Nat) : touchesFs i (.lockGlobal t) = false := rfl
@[simp] theorem touchesFs_unlockGlobal (i t : Nat) : touchesFs i (.unlockGlobal t) = false := rfl
@[simp] theorem isFsAllocate_lockGlobal (i t : Nat) : isFsAllocate i (.lockGlobal t) = false := rfl
@[simp] theorem isFsAllocate_unlockGlobal (i t : Nat) : isFsAllocate i (.unlockGlobal t) = false := rfl
@[simp] theorem isFsAllocate_volume (i j : Nat) (op : VolumeOp) (rc : Int) :
    isFsAllocate i (.volume op j rc) = false := rfl
@[simp] theorem isVolume_lockGlobal (op : VolumeOp) (i t : Nat) (r : Int → Bool) :
    isVolume op i r (.lockGlobal t) = false := rfl
@[simp] theorem isVolume_unlockGlobal (op : VolumeOp) (i t : Nat) (r : Int → Bool) :
    isVolume op i r (.unlockGlobal t) = false := rfl
@[simp] theorem isVolume_allocate (op : VolumeOp) (i ty j : Nat) (r : Int → Bool) :
    isVolume op i r (.allocate ty j) = false := rfl

theorem touchesFs_of_isFsAllocate {i : Nat} {e : Event} (h : isFsAllocate i e) : touchesFs i e := by
  cases e <;> simp_all [isFsAllocate, touchesFs]

theorem touchesFs_of_isVolume {op : VolumeOp} {i : Nat} {r : Int → Bool} {e : Event}
    (h : isVolume op i r e) : touchesFs i e := by
  cases e <;> simp_all [isVolume, touchesFs]

end Event

/-- An event matching `p` was logged, and none matching `q` after it. -/
def since (p q : Event → Bool) : List Event → Bool
  | [] => false
  | e :: l => (p e && l.all fun e' => !q e') || since p q l

section
variable {p q : Event → Bool}

@[simp] theorem since_nil : since p q [] = false := rfl

theorem since_append (l l' : List Event) :
    since p q (l ++ l') = ((since p q l && l'.all fun e => !q e) || since p q l') := by
  induction l with
  | nil => simp
  | cons e l ih =>
    rw [List.cons_append, since, since, ih, List.all_append]
    cases p e <;> cases since p q l <;> cases l.all (fun e => !q e) <;> simp

@[simp] theorem since_append_singleton (l : List Event) (e : Event) :
    since p q (l ++ [e]) = ((since p q l && !q e) || p e) := by
  simp [since_append, since]

theorem since_append_of_not_touches {i : Nat} (hp : ∀ e, p e → e.touchesFs i)
    (hq : ∀ e, q e → e.touchesFs i) {l l' : List Event} (h : ∀ e ∈ l', e.touchesFs i = false) :
    since p q (l ++ l') = since p q l := by
  have hp' : since p q l' = false := by
    induction l' with
    | nil => rfl
    | cons e l' ih =>
      simp only [List.mem_cons, forall_eq_or_imp] at h
      have hpe : p e = false := by
        cases hpe : p e
        · rfl
        · simpa [h.1] using hp e hpe
      simp [since, hpe, ih h.2]
  have hq' : (l'.all fun e => !q e) = true := List.all_eq_true.2 fun e he => by
    cases hqe : q e
    · rfl
    · simpa [h e he] using hq e hqe
  rw [since_append, hq', hp', Bool.and_true, Bool.or_false]

end

end Osal
