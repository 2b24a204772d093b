import Mathlib.Data.List.Basic

/-!
# C strings and buffers

A C string is the list of characters before its terminating NUL, so it holds no NUL itself
(`CStr.no_nul`): an embedded NUL cannot be built. The C library calls the shared layer makes
(`strlen`, `strncmp`, `strrchr`, `strncpy`) are modelled on that list with the terminator read as
`'\x00'` one past the end. Accesses whose indices the shared layer computes itself (an explicit
`s[i]`, a `memcpy` source or destination) go through the checked `CStr.readRange` and
`writeBuf`, which return `none` when they leave the readable string or the writable buffer.
-/

namespace Osal

/-- A NUL-terminated string: the characters before the terminator. -/
structure CStr where
  chars : List Char
  no_nul : '\x00' ∉ chars
deriving DecidableEq

namespace CStr

def empty : CStr := ⟨[], List.not_mem_nil _⟩

def length (s : CStr) : Nat := s.chars.length

/-- The first `n` characters: what `strncpy(dst, s, n)` leaves in a buffer whose last byte is
kept as the terminator. -/
def take (s : CStr) (n : Nat) : CStr := ⟨s.chars.take n, fun h => s.no_nul (List.mem_of_mem_take h)⟩

def drop (s : CStr) (n : Nat) : CStr := ⟨s.chars.drop n, fun h => s.no_nul (List.mem_of_mem_drop h)⟩

def get (s : CStr) (i : Nat) : Char := s.chars.getD i '\x00'

@[simp] theorem length_take (s : CStr) (n : Nat) : (s.take n).length = min n s.length :=
  List.length_take ..

@[simp] theorem length_drop (s : CStr) (n : Nat) : (s.drop n).length = s.length - n :=
  List.length_drop ..

@[simp] theorem length_empty : empty.length = 0 := rfl

theorem eq_empty_iff {s : CStr} : s = empty ↔ s.length = 0 := by
  cases s; simp [empty, length, CStr.mk.injEq]

end CStr

theorem char_eq_of_toNat_eq {a b : Char} (h : a.toNat = b.toNat) : a = b := by
  rw [← Char.ofNat_toNat a, h, Char.ofNat_toNat]

theorem toNat_ne_zero_of_ne_nul {a : Char} (h : a ≠ '\x00') : a.toNat ≠ 0 :=
  fun h0 => h (char_eq_of_toNat_eq h0)

/-- `strncmp` on the character lists of two NUL-terminated strings: the difference of the first
differing characters among the first `n`, the end of a string reading as `'\x00'`. -/
def strncmpChars : List Char → List Char → Nat → Int
  | _, _, 0 => 0
  | [], [], _ + 1 => 0
  | [], b :: _, _ + 1 => -(b.toNat : Int)
  | a :: _, [], _ + 1 => a.toNat
  | a :: as, b :: bs, n + 1 => if a = b then strncmpChars as bs n else (a.toNat : Int) - b.toNat

def strncmp (a b : CStr) (n : Nat) : Int := strncmpChars a.chars b.chars n

theorem strncmpChars_eq_zero_iff :
    ∀ (as bs : List Char) (n : Nat), '\x00' ∉ as → '\x00' ∉ bs →
      (strncmpChars as bs n = 0 ↔ as.take n = bs.take n)
  | _, _, 0, _, _ => by simp [strncmpChars]
  | [], [], _ + 1, _, _ => by simp [strncmpChars]
  | [], b :: _, _ + 1, _, hb => by
    have := toNat_ne_zero_of_ne_nul (fun h : b = '\x00' => hb (h ▸ List.mem_cons_self _ _))
    simp [strncmpChars]; omega
  | a :: _, [], _ + 1, ha, _ => by
    have := toNat_ne_zero_of_ne_nul (fun h : a = '\x00' => ha (h ▸ List.mem_cons_self _ _))
    simp [strncmpChars]; omega
  | a :: as, b :: bs, n + 1, ha, hb => by
    simp only [strncmpChars, List.take_succ_cons, List.cons.injEq]
    by_cases hab : a = b
    · simp only [hab, if_true, true_and]
      exact strncmpChars_eq_zero_iff as bs n (fun h => ha (List.mem_cons_of_mem _ h))
        (fun h => hb (List.mem_cons_of_mem _ h))
    · have : (a.toNat : Int) - b.toNat ≠ 0 := fun h => hab (char_eq_of_toNat_eq (by omega))
      simp [hab, this]

theorem strncmp_eq_zero_iff (a b : CStr) (n : Nat) :
    strncmp a b n = 0 ↔ a.chars.take n = b.chars.take n :=
  strncmpChars_eq_zero_iff _ _ n a.no_nul b.no_nul

def lastIndexOf (c : Char) : List Char → Option Nat
  | [] => none
  | x :: xs =>
    match lastIndexOf c xs with
    | some i => some (i + 1)
    | none => if x = c then some 0 else none

/-- `strrchr(s, c)` for `c ≠ '\x00'`: the index of the last `c`, or `none` for `NULL`. -/
def strrchr (s : CStr) (c : Char) : Option Nat := lastIndexOf c s.chars

theorem lastIndexOf_ne_none_of_mem (c : Char) :
    ∀ (l : List Char), c ∈ l → lastIndexOf c l ≠ none
  | [], h => by simp at h
  | x :: xs, h => by
    simp only [lastIndexOf]
    split
    · simp
    · rename_i hn
      rcases List.mem_cons.1 h with rfl | h
      · simp
      · exact absurd hn (lastIndexOf_ne_none_of_mem c xs h)

theorem lastIndexOf_spec (c : Char) :
    ∀ (l : List Char) (i : Nat), lastIndexOf c l = some i → i < l.length ∧ l.getD i '\x00' = c ∧
      c ∉ l.drop (i + 1)
  | [], _, h => by simp [lastIndexOf] at h
  | x :: xs, i, h => by
    simp only [lastIndexOf] at h
    split at h
    · rename_i j hj
      obtain ⟨h1, h2, h3⟩ := lastIndexOf_spec c xs j hj
      cases h
      exact ⟨by simp [h1], by simpa using h2, by simpa using h3⟩
    · rename_i hj
      split at h
      · cases h
        refine ⟨by simp, by simp [*], fun hm => ?_⟩
        exact lastIndexOf_ne_none_of_mem c xs (by simpa using hm) hj
      · cases h

/-! ### Checked accesses -/

/-- `memcpy(dst, &s[b], n)` reads `s[b] .. s[b + n - 1]`: defined when those lie in the string
and its terminator, `none` otherwise. -/
def CStr.readRange (s : CStr) (b n : Nat) : Option (List Char) :=
  if b + n ≤ s.length + 1 then some (((s.chars ++ ['\x00']).drop b).take n) else none

/-- Writing `cs` into `buf` from index `i` (`memcpy(&buf[i], cs, len)` or `buf[i] = c`): defined
when the written bytes lie in the buffer, `none` otherwise. -/
def writeBuf (buf : List Char) (i : Nat) (cs : List Char) : Option (List Char) :=
  if i + cs.length ≤ buf.length then some (buf.take i ++ cs ++ buf.drop (i + cs.length)) else none

theorem readRange_of_le {s : CStr} {b n : Nat} (h : b + n ≤ s.length) :
    s.readRange b n = some ((s.chars.drop b).take n) := by
  have hb : b ≤ s.chars.length := by simp only [CStr.length] at h; omega
  rw [CStr.readRange, if_pos (by omega), List.drop_append_of_le_length hb,
    List.take_append_of_le_length (by simp only [List.length_drop, CStr.length] at h ⊢; omega)]

theorem writeBuf_of_le {buf : List Char} {i : Nat} {cs : List Char} (h : i + cs.length ≤ buf.length) :
    writeBuf buf i cs = some (buf.take i ++ cs ++ buf.drop (i + cs.length)) := if_pos h

theorem writeBuf_some {buf : List Char} {i : Nat} {cs : List Char} (h : i + cs.length ≤ buf.length) :
    ∃ b, writeBuf buf i cs = some b ∧ b.length = buf.length ∧ b.take (i + cs.length) = buf.take i ++ cs := by
  have hi : (buf.take i ++ cs).length = i + cs.length := by simp; omega
  exact ⟨_, writeBuf_of_le h, by simp; omega, List.take_left' hi⟩

end Osal
