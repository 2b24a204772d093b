import Osal.Basic

/-!
# The object-ID codec (`os-shared-idmap.h`)

`osObjectIdComposeImpl` places the resource type above bit `s = OS_OBJECT_TYPE_SHIFT` and ORs the
serial number into the low bits; `osObjectIdToTypeImpl` and `osObjectIdToSerialNumberImpl` read
the two fields back with a shift and a mask. Every fact here goes through `BitVec.toNat`: on legal
pairs (type below `2^(32-s)`, serial at most `2^s - 1`) composition is `type * 2^s + serial`, and
the two readers are division and remainder by `2^s`.
-/

namespace Osal

def osObjectIndexMask (s : Nat) : BitVec 32 := BitVec.ofNat 32 (2 ^ s - 1)

def osObjectIdToSerialNumberImpl (s : Nat) (id : OsalId) : BitVec 32 := id &&& osObjectIndexMask s

def osObjectIdToTypeImpl (s : Nat) (id : OsalId) : BitVec 32 := id >>> s

def osObjectIdComposeImpl (s : Nat) (idtype idserial : BitVec 32) : OsalId := (idtype <<< s) ||| idserial

/-- A (type, serial) pair the codec is meant for: the type fits above the shift and the serial
fits in the mask. -/
def LegalId (s : Nat) (idtype idserial : BitVec 32) : Prop :=
  idtype.toNat < 2 ^ (32 - s) ∧ idserial.toNat ≤ 2 ^ s - 1

section
variable {s : Nat}

theorem two_pow_mul_two_pow_sub (hs : s < 32) : 2 ^ (32 - s) * 2 ^ s = 2 ^ 32 := by
  rw [← Nat.pow_add, Nat.sub_add_cancel (Nat.le_of_lt hs)]

theorem toNat_osObjectIndexMask (hs : s < 32) : (osObjectIndexMask s).toNat = 2 ^ s - 1 := by
  have : 2 ^ s ≤ 2 ^ 32 := Nat.pow_le_pow_right (by decide) (Nat.le_of_lt hs)
  simp only [osObjectIndexMask, BitVec.toNat_ofNat]
  exact Nat.mod_eq_of_lt (by omega)

theorem toNat_osObjectIdToSerialNumberImpl (hs : s < 32) (id : OsalId) :
    (osObjectIdToSerialNumberImpl s id).toNat = id.toNat % 2 ^ s := by
  rw [osObjectIdToSerialNumberImpl, BitVec.toNat_and, toNat_osObjectIndexMask hs,
    Nat.and_pow_two_sub_one_eq_mod]

theorem toNat_osObjectIdToTypeImpl (id : OsalId) :
    (osObjectIdToTypeImpl s id).toNat = id.toNat / 2 ^ s := by
  rw [osObjectIdToTypeImpl, BitVec.toNat_ushiftRight, Nat.shiftRight_eq_div_pow]

theorem toNat_osObjectIdComposeImpl (hs : s < 32) {t r : BitVec 32} (h : LegalId s t r) :
    (osObjectIdComposeImpl s t r).toNat = 2 ^ s * t.toNat + r.toNat := by
  have hpos : 0 < 2 ^ s := Nat.two_pow_pos s
  have hlt : 2 ^ s * t.toNat < 2 ^ 32 := by
    rw [← two_pow_mul_two_pow_sub hs, Nat.mul_comm (2 ^ (32 - s))]
    exact Nat.mul_lt_mul_of_pos_left h.1 hpos
  rw [osObjectIdComposeImpl, BitVec.toNat_or, BitVec.toNat_shiftLeft, Nat.shiftLeft_eq,
    Nat.mul_comm t.toNat, Nat.mod_eq_of_lt hlt, Nat.mul_add_lt_is_or (by have := h.2; omega)]

theorem osObjectIdComposeImpl_ne_undefined (hs : s < 32) {t : BitVec 32} (ht : 0 < t.toNat)
    (ht' : t.toNat < 2 ^ (32 - s)) (r : BitVec 32) : osObjectIdComposeImpl s t r ≠ osObjectIdUndefined := by
  have hlt : 2 ^ s * t.toNat < 2 ^ 32 := by
    rw [← two_pow_mul_two_pow_sub hs, Nat.mul_comm (2 ^ (32 - s))]
    exact Nat.mul_lt_mul_of_pos_left ht' (Nat.two_pow_pos s)
  have hne : 2 ^ s * t.toNat ≠ 0 := Nat.mul_ne_zero (Nat.two_pow_pos s).ne' ht.ne'
  obtain ⟨i, hi⟩ := Nat.ne_zero_implies_bit_true hne
  intro h
  have := congrArg (fun x : BitVec 32 => x.toNat.testBit i) h
  simp only [osObjectIdComposeImpl, BitVec.toNat_or, BitVec.toNat_shiftLeft, Nat.shiftLeft_eq,
    Nat.mul_comm t.toNat, Nat.mod_eq_of_lt hlt, Nat.testBit_or, hi, Bool.true_or, osObjectIdUndefined,
    BitVec.toNat_ofNat, Nat.zero_mod, Nat.zero_testBit] at this
  simp at this

theorem osObjectIdToTypeImpl_compose (hs : s < 32) {t r : BitVec 32} (h : LegalId s t r) :
    osObjectIdToTypeImpl s (osObjectIdComposeImpl s t r) = t := by
  apply BitVec.eq_of_toNat_eq
  have hr : r.toNat < 2 ^ s := by have := h.2; have := Nat.two_pow_pos s; omega
  rw [toNat_osObjectIdToTypeImpl, toNat_osObjectIdComposeImpl hs h,
    Nat.mul_add_div (Nat.two_pow_pos s), Nat.div_eq_of_lt hr, Nat.add_zero]

theorem osObjectIdToSerialNumberImpl_compose (hs : s < 32) {t r : BitVec 32} (h : LegalId s t r) :
    osObjectIdToSerialNumberImpl s (osObjectIdComposeImpl s t r) = r := by
  apply BitVec.eq_of_toNat_eq
  have hr : r.toNat < 2 ^ s := by have := h.2; have := Nat.two_pow_pos s; omega
  rw [toNat_osObjectIdToSerialNumberImpl hs, toNat_osObjectIdComposeImpl hs h, Nat.mul_add_mod,
    Nat.mod_eq_of_lt hr]

theorem legalId_fields (hs : s < 32) (id : OsalId) :
    LegalId s (osObjectIdToTypeImpl s id) (osObjectIdToSerialNumberImpl s id) := by
  have hid := id.isLt
  have hpos := Nat.two_pow_pos s
  refine ⟨?_, ?_⟩
  · rw [toNat_osObjectIdToTypeImpl, Nat.div_lt_iff_lt_mul hpos, two_pow_mul_two_pow_sub hs]
    exact hid
  · rw [toNat_osObjectIdToSerialNumberImpl hs]
    have := Nat.mod_lt id.toNat hpos
    omega

theorem osObjectIdComposeImpl_fields (hs : s < 32) (id : OsalId) :
    osObjectIdComposeImpl s (osObjectIdToTypeImpl s id) (osObjectIdToSerialNumberImpl s id) = id := by
  apply BitVec.eq_of_toNat_eq
  rw [toNat_osObjectIdComposeImpl hs (legalId_fields hs id), toNat_osObjectIdToTypeImpl,
    toNat_osObjectIdToSerialNumberImpl hs, Nat.div_add_mod]

theorem osObjectIdComposeImpl_inj (hs : s < 32) {t₁ r₁ t₂ r₂ : BitVec 32} (h₁ : LegalId s t₁ r₁)
    (h₂ : LegalId s t₂ r₂) (h : osObjectIdComposeImpl s t₁ r₁ = osObjectIdComposeImpl s t₂ r₂) :
    t₁ = t₂ ∧ r₁ = r₂ := by
  have ht := congrArg (osObjectIdToTypeImpl s) h
  have hr := congrArg (osObjectIdToSerialNumberImpl s) h
  rw [osObjectIdToTypeImpl_compose hs h₁, osObjectIdToTypeImpl_compose hs h₂] at ht
  rw [osObjectIdToSerialNumberImpl_compose hs h₁, osObjectIdToSerialNumberImpl_compose hs h₂] at hr
  exact ⟨ht, hr⟩

theorem osObjectIdComposeImpl_eq_iff (hs : s < 32) {t r t' r' : BitVec 32} (h : LegalId s t r)
    (h' : LegalId s t' r') :
    osObjectIdComposeImpl s t r = osObjectIdComposeImpl s t' r' ↔ t = t' ∧ r = r' :=
  ⟨osObjectIdComposeImpl_inj hs h h', fun ⟨ht, hr⟩ => ht ▸ hr ▸ rfl⟩

theorem osObjectIdUndefined_eq_compose (hs : s < 32) :
    osObjectIdUndefined = osObjectIdComposeImpl s 0 0 := by
  apply BitVec.eq_of_toNat_eq
  rw [toNat_osObjectIdComposeImpl hs ⟨by simp [Nat.two_pow_pos], by simp⟩]
  rfl

theorem osObjectIdReserved_eq_compose (hs : s < 32) :
    osObjectIdReserved = osObjectIdComposeImpl s (BitVec.ofNat 32 (2 ^ (32 - s) - 1))
      (osObjectIndexMask s) := by
  have h32 := two_pow_mul_two_pow_sub hs
  have hp := Nat.two_pow_pos (32 - s)
  have hq := Nat.two_pow_pos s
  have hle : 2 ^ (32 - s) ≤ 2 ^ 32 := Nat.pow_le_pow_right (by decide) (Nat.sub_le 32 s)
  have ht : (BitVec.ofNat 32 (2 ^ (32 - s) - 1)).toNat = 2 ^ (32 - s) - 1 := by
    rw [BitVec.toNat_ofNat]; exact Nat.mod_eq_of_lt (by omega)
  apply BitVec.eq_of_toNat_eq
  rw [toNat_osObjectIdComposeImpl hs ⟨by rw [ht]; omega, by rw [toNat_osObjectIndexMask hs]⟩, ht,
    toNat_osObjectIndexMask hs, Nat.mul_sub, Nat.mul_one, Nat.mul_comm, h32]
  show 2 ^ 32 - 1 = _
  have : 2 ^ s ≤ 2 ^ 32 := by rw [← h32]; exact Nat.le_mul_of_pos_left _ hp
  omega

end

/-- What the codec promises for shift `s`: the readers and composition invert each other on legal
pairs, and the two sentinels are the images of the extreme pairs only. -/
structure CodecLaws (s : Nat) : Prop where
  type_compose : ∀ t r, LegalId s t r → osObjectIdToTypeImpl s (osObjectIdComposeImpl s t r) = t
  serial_compose : ∀ t r, LegalId s t r →
    osObjectIdToSerialNumberImpl s (osObjectIdComposeImpl s t r) = r
  compose_fields : ∀ id : OsalId,
    osObjectIdComposeImpl s (osObjectIdToTypeImpl s id) (osObjectIdToSerialNumberImpl s id) = id
  compose_inj : ∀ t₁ r₁ t₂ r₂, LegalId s t₁ r₁ → LegalId s t₂ r₂ →
    osObjectIdComposeImpl s t₁ r₁ = osObjectIdComposeImpl s t₂ r₂ → t₁ = t₂ ∧ r₁ = r₂
  undefined_iff : ∀ t r, LegalId s t r →
    (osObjectIdComposeImpl s t r = osObjectIdUndefined ↔ t = 0 ∧ r = 0)
  reserved_iff : ∀ t r, LegalId s t r →
    (osObjectIdComposeImpl s t r = osObjectIdReserved ↔
      t.toNat = 2 ^ (32 - s) - 1 ∧ r = osObjectIndexMask s)
  sentinels_ne : ∀ t r, LegalId s t r → 0 < t.toNat → t.toNat < 2 ^ (32 - s) - 1 →
    osObjectIdComposeImpl s t r ≠ osObjectIdUndefined ∧ osObjectIdComposeImpl s t r ≠ osObjectIdReserved

theorem objectIdCodec_laws (s : Nat) (hs : s < 32) : CodecLaws s := by
  have hle : 2 ^ (32 - s) ≤ 2 ^ 32 := Nat.pow_le_pow_right (by decide) (Nat.sub_le 32 s)
  have hmax : (BitVec.ofNat 32 (2 ^ (32 - s) - 1)).toNat = 2 ^ (32 - s) - 1 := by
    rw [BitVec.toNat_ofNat]; exact Nat.mod_eq_of_lt (by omega)
  have hleg : LegalId s (BitVec.ofNat 32 (2 ^ (32 - s) - 1)) (osObjectIndexMask s) :=
    ⟨by rw [hmax]; have := Nat.two_pow_pos (32 - s); omega, by rw [toNat_osObjectIndexMask hs]⟩
  have hundef : ∀ t r, LegalId s t r →
      (osObjectIdComposeImpl s t r = osObjectIdUndefined ↔ t = 0 ∧ r = 0) := fun t r h => by
    rw [osObjectIdUndefined_eq_compose hs,
      osObjectIdComposeImpl_eq_iff hs h ⟨by simp [Nat.two_pow_pos], by simp⟩]
  have hres : ∀ t r, LegalId s t r → (osObjectIdComposeImpl s t r = osObjectIdReserved ↔
      t.toNat = 2 ^ (32 - s) - 1 ∧ r = osObjectIndexMask s) := fun t r h => by
    rw [osObjectIdReserved_eq_compose hs, osObjectIdComposeImpl_eq_iff hs h hleg, BitVec.toNat_eq,
      hmax]
  refine ⟨fun t r h => osObjectIdToTypeImpl_compose hs h,
    fun t r h => osObjectIdToSerialNumberImpl_compose hs h, osObjectIdComposeImpl_fields hs,
    fun _ _ _ _ h₁ h₂ => osObjectIdComposeImpl_inj hs h₁ h₂, hundef, hres, ?_⟩
  intro t r h ht0 htm
  refine ⟨fun he => ?_, fun he => ?_⟩
  · rw [((hundef t r h).1 he).1] at ht0; exact absurd ht0 (by decide)
  · rw [((hres t r h).1 he).1] at htm; exact absurd htm (Nat.lt_irrefl _)

theorem objectIdCodec_laws_shift16 : 16 < 32 ∧ CodecLaws 16 :=
  ⟨by decide, objectIdCodec_laws 16 (by decide)⟩

end Osal
