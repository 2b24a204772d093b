import Osal.IdMap

/-!
# The ID manager of the spec (§4.D)

`osapi-idmap.c` is not in the repository; `specIdMgr` follows §4.D. A slot is in use when its
`active_id` is defined; a search walks the slots in index order and the first match wins
(§4.D.5); `AllocateNew` refuses a name already in use, then walks forward from the last issued
serial number to the next free slot, marks it `OS_OBJECT_ID_RESERVED` and keeps the composed ID
as the last issued one, which `FinalizeNew` publishes on success (§4.D.2, §4.D.3). The
lock-mode policy of a lookup is `convertLock`: an `EXCLUSIVE` lookup of a referenced record
fails with `OS_ERR_OBJECT_IN_USE`, a `REFCOUNT` lookup adds a reference.
-/

namespace Osal

/-- The first slot below `maxId` of type `idtype` that is in use and satisfies `pred`. -/
def osObjectIdSearch (t : Tables) (idtype maxId : Nat) (pred : Nat → Bool) : Option Nat :=
  (List.range maxId).find? fun i => osObjectIdDefined (t.common idtype i).activeId && pred i

theorem osObjectIdSearch_some {t : Tables} {idtype maxId : Nat} {pred : Nat → Bool} {i : Nat}
    (h : osObjectIdSearch t idtype maxId pred = some i) :
    i < maxId ∧ osObjectIdDefined (t.common idtype i).activeId ∧ pred i := by
  obtain ⟨hi, hmem⟩ := List.find?_some h, List.mem_of_find?_eq_some h
  simp only [Bool.and_eq_true] at hi
  exact ⟨List.mem_range.1 hmem, hi⟩

theorem osObjectIdSearch_first {t : Tables} {idtype : Nat} {pred : Nat → Bool} :
    ∀ {maxId i : Nat}, osObjectIdSearch t idtype maxId pred = some i →
      ∀ j < i, ¬(osObjectIdDefined (t.common idtype j).activeId ∧ pred j)
  | 0, _, h => by simp [osObjectIdSearch] at h
  | n + 1, i, h => by
    unfold osObjectIdSearch at h
    rw [List.range_succ, List.find?_append] at h
    cases hn : (List.range n).find? fun i => osObjectIdDefined (t.common idtype i).activeId && pred i with
    | some i' =>
      rw [hn, Option.or_some] at h
      cases h
      exact osObjectIdSearch_first hn
    | none =>
      rw [hn, Option.none_or] at h
      have hi : i = n := by
        simp only [List.find?_cons, List.find?_nil] at h
        split at h <;> simp_all
      intro j hj hp
      simpa [hp.1, hp.2] using List.find?_eq_none.1 hn j (List.mem_range.2 (hi ▸ hj))

/-- `OS_ObjectIdFindNext`: advance the serial number until it lands on a free slot, at most
`fuel` times; a serial reaching the mask restarts at its slot index. -/
def osObjectIdFindNext (t : Tables) (idtype maxId mask : Nat) : Nat → Nat → Option (Nat × Nat)
  | 0, _ => none
  | fuel + 1, serial =>
    let localId := (serial + 1) % maxId
    let serial' := if serial + 1 ≥ mask then localId else serial + 1
    if osObjectIdDefined (t.common idtype localId).activeId then
      osObjectIdFindNext t idtype maxId mask fuel serial'
    else some (localId, serial')

theorem osObjectIdFindNext_free {t : Tables} {idtype maxId mask : Nat} :
    ∀ {fuel serial i serial' : Nat}, osObjectIdFindNext t idtype maxId mask fuel serial = some (i, serial') →
      osObjectIdDefined (t.common idtype i).activeId = false
  | 0, _, _, _, h => nomatch h
  | fuel + 1, serial, i, serial', h => by
    simp only [osObjectIdFindNext] at h
    split at h
    · exact osObjectIdFindNext_free h
    · rename_i hfree
      cases h
      simpa using hfree

/-- `OS_ObjectIdConvertLock`: the lock-mode policy once the record is found (§4.D.1). -/
def osObjectIdConvertLock (mode : OsLockMode) (idtype i : Nat) (t : Tables) :
    Except Int (Nat × Tables) :=
  match mode with
  | .exclusive => if (t.common idtype i).refcount > 0 then .error osErrObjectInUse else .ok (i, t)
  | .refcount =>
    .ok (i, t.setCommon idtype i { t.common idtype i with refcount := (t.common idtype i).refcount + 1 })
  | .none | .global => .ok (i, t)

def reservedRecord (creator : OsalId) : OsCommonRecord := ⟨none, osObjectIdReserved, creator, 0, 0⟩

/-- The ID manager of §4.D. Modelled from the spec: `osapi-idmap.c` is not in the repository.
`creator` is the calling task's ID (`OS_TaskGetId()`). -/
def specIdMgr (cfg : Config) (creator : OsalId) : IdMgr where
  allocateNew idtype name t :=
    let maxId := cfg.maxForObjectType idtype
    if name.length > 0 ∧ (osObjectIdSearch t idtype maxId (osObjectNameMatch idtype name t)).isSome then
      .error osErrNameTaken
    else
      let last := (osObjectIdToSerialNumberImpl cfg.objectTypeShift (t.lastIdIssued idtype)).toNat
      match osObjectIdFindNext t idtype maxId (2 ^ cfg.objectTypeShift - 1) maxId last with
      | none => .error osErrNoFreeIds
      | some (i, serial) =>
        .ok (i, { t.setCommon idtype i (reservedRecord creator) with
          lastIdIssued := fun ty => if ty = idtype then
            osObjectIdComposeImpl cfg.objectTypeShift (BitVec.ofNat 32 idtype) (BitVec.ofNat 32 serial)
            else t.lastIdIssued ty })
  finalizeNew status idtype i t :=
    if status = osSuccess then
      ((osSuccess, t.lastIdIssued idtype),
        t.setCommon idtype i { t.common idtype i with activeId := t.lastIdIssued idtype })
    else
      ((status, osObjectIdUndefined),
        t.setCommon idtype i { t.common idtype i with activeId := osObjectIdUndefined })
  finalizeDelete status idtype i t :=
    if status = osSuccess then
      (status, t.setCommon idtype i { t.common idtype i with activeId := osObjectIdUndefined })
    else (status, t)
  getById mode idtype id t :=
    let maxId := cfg.maxForObjectType idtype
    let i := (osObjectIdToSerialNumberImpl cfg.objectTypeShift id).toNat % maxId
    if (osObjectIdToTypeImpl cfg.objectTypeShift id).toNat ≠ idtype ∨ maxId = 0 then
      .error osErrInvalidId
    else if (t.common idtype i).activeId ≠ id then .error osErrInvalidId
    else osObjectIdConvertLock mode idtype i t
  getBySearch mode idtype pred t :=
    match osObjectIdSearch t idtype (cfg.maxForObjectType idtype) pred with
    | some i => osObjectIdConvertLock mode idtype i t
    | none => .error osErrNameNotFound
  findByName idtype name t :=
    match osObjectIdSearch t idtype (cfg.maxForObjectType idtype) (osObjectNameMatch idtype name t) with
    | some i => .ok (t.common idtype i).activeId
    | none => .error osErrNameNotFound
  refcountDecr idtype i t :=
    (osSuccess, t.setCommon idtype i { t.common idtype i with refcount := (t.common idtype i).refcount - 1 })

section
variable {cfg : Config} {creator : OsalId}

@[simp] theorem specIdMgr_finalizeNew (status : Int) (idtype i : Nat) (t : Tables) :
    (specIdMgr cfg creator).finalizeNew status idtype i t =
      if status = osSuccess then
        ((osSuccess, t.lastIdIssued idtype), t.setActiveId idtype i (t.lastIdIssued idtype))
      else ((status, osObjectIdUndefined), t.setActiveId idtype i osObjectIdUndefined) := rfl

theorem specIdMgr_allocateNew_ok {idtype : Nat} {name : CStr} {t t' : Tables} {i : Nat}
    (hty : 0 < idtype) (hty' : idtype < 2 ^ (32 - cfg.objectTypeShift))
    (h : (specIdMgr cfg creator).allocateNew idtype name t = .ok (i, t')) :
    osObjectIdDefined (t.common idtype i).activeId = false ∧
      t'.common = (t.setCommon idtype i (reservedRecord creator)).common ∧ t'.filesys = t.filesys ∧
      osObjectIdDefined (t'.lastIdIssued idtype) = true := by
  simp only [specIdMgr] at h
  split at h
  · cases h
  · split at h
    · cases h
    · rename_i serial hnext
      cases h
      refine ⟨osObjectIdFindNext_free hnext, rfl, rfl, ?_⟩
      have hlt : idtype < 2 ^ 32 :=
        lt_of_lt_of_le hty' (Nat.pow_le_pow_right (by decide) (Nat.sub_le _ _))
      simpa [osObjectIdDefined] using @osObjectIdComposeImpl_ne_undefined _ cfg.objectTypeShift_lt
        (BitVec.ofNat 32 idtype) (by simp only [BitVec.toNat_ofNat]; omega)
        (by simp only [BitVec.toNat_ofNat]; omega) (BitVec.ofNat 32 serial)

theorem specIdMgr_getBySearch_ok {mode : OsLockMode} {idtype : Nat} {pred : Nat → Bool}
    {t t' : Tables} {i : Nat} (hm : mode = .exclusive ∨ mode = .global)
    (h : (specIdMgr cfg creator).getBySearch mode idtype pred t = .ok (i, t')) :
    osObjectIdSearch t idtype (cfg.maxForObjectType idtype) pred = some i ∧ t' = t := by
  simp only [specIdMgr] at h
  split at h
  · rename_i j hj
    rcases hm with rfl | rfl <;> simp only [osObjectIdConvertLock] at h
    · split at h
      · cases h
      · cases h; exact ⟨hj, rfl⟩
    · cases h; exact ⟨hj, rfl⟩
  · cases h

theorem specIdMgr_getBySearch_global (idtype : Nat) (pred : Nat → Bool) (t : Tables) :
    (specIdMgr cfg creator).getBySearch .global idtype pred t =
      match osObjectIdSearch t idtype (cfg.maxForObjectType idtype) pred with
      | some i => .ok (i, t)
      | none => .error osErrNameNotFound := rfl

theorem specIdMgr_getBySearch_error {mode : OsLockMode} {idtype : Nat} {pred : Nat → Bool} {t : Tables}
    {e : Int} (h : (specIdMgr cfg creator).getBySearch mode idtype pred t = .error e) : e ≠ osSuccess := by
  simp only [specIdMgr] at h
  split at h
  · cases mode <;> simp [osObjectIdConvertLock] at h
    split at h <;> cases h
    decide
  · cases h; decide

end

end Osal
