/-
  Little-endian words in a byte slice. `u16At`, `u32At` and `u64At` are the checked reads
  of a Rust decoder: they panic when the word leaves the slice. `le16`, `le32` and `le64`
  are the values they read, and two slices give equal words exactly when they agree on the
  bytes of the word.
-/
import Mathlib.Data.Nat.Digits.Defs
import GputoolsReplay.Lib.Rust

namespace RustSem

abbrev Bytes := List UInt8

/-- The number with the little-endian bytes `b`. -/
def leNat (b : Bytes) : Nat := Nat.ofDigits 256 (b.map UInt8.toNat)

theorem leNat_lt (b : Bytes) : leNat b < 256 ^ b.length := by
  have h := Nat.ofDigits_lt_base_pow_length (b := 256) (l := b.map UInt8.toNat) (by decide) ?_
  · rwa [List.length_map] at h
  · intro x hx
    obtain ⟨y, -, rfl⟩ := List.mem_map.mp hx
    exact y.toNat_lt

theorem leNat_inj {a b : Bytes} (hl : a.length = b.length) (h : leNat a = leNat b) : a = b := by
  have hd : ∀ c : Bytes, ∀ x ∈ c.map UInt8.toNat, x < 256 := by
    intro c x hx
    obtain ⟨y, -, rfl⟩ := List.mem_map.mp hx
    exact y.toNat_lt
  have hm := Nat.ofDigits_inj_of_len_eq (b := 256) (by decide) (by simpa using hl) (hd a) (hd b) h
  exact List.map_injective_iff.mpr (fun _ _ => UInt8.toNat_inj.mp) hm

/-! ## Words at an offset -/

/-- The `u16` at offset `o`. -/
def le16 (b : Bytes) (o : Nat) : UInt16 := UInt16.ofNat (leNat (window b o 2))

/-- The `u32` at offset `o`. -/
def le32 (b : Bytes) (o : Nat) : UInt32 := UInt32.ofNat (leNat (window b o 4))

/-- The `u64` at offset `o`. -/
def le64 (b : Bytes) (o : Nat) : UInt64 := UInt64.ofNat (leNat (window b o 8))

/-- `u16_at`: panics when `b[o..o + 2]` leaves `b`. -/
def u16At (b : Bytes) (o : Nat) : Rust UInt16 :=
  return UInt16.ofNat (leNat (← indexRange b o (o + 2)))

/-- `u32_at`: panics when `b[o..o + 4]` leaves `b`. -/
def u32At (b : Bytes) (o : Nat) : Rust UInt32 :=
  return UInt32.ofNat (leNat (← indexRange b o (o + 4)))

/-- `u64_at`: panics when `b[o..o + 8]` leaves `b`. -/
def u64At (b : Bytes) (o : Nat) : Rust UInt64 :=
  return UInt64.ofNat (leNat (← indexRange b o (o + 8)))

theorem u16At_eq {b : Bytes} {o : Nat} (h : o + 2 ≤ b.length) : u16At b o = .ok (le16 b o) := by
  unfold u16At
  rw [indexRange_window h, ok_bind]
  rfl

theorem u32At_eq {b : Bytes} {o : Nat} (h : o + 4 ≤ b.length) : u32At b o = .ok (le32 b o) := by
  unfold u32At
  rw [indexRange_window h, ok_bind]
  rfl

theorem u64At_eq {b : Bytes} {o : Nat} (h : o + 8 ≤ b.length) : u64At b o = .ok (le64 b o) := by
  unfold u64At
  rw [indexRange_window h, ok_bind]
  rfl

theorem leNat_window_lt (b : Bytes) (o n : Nat) : leNat (window b o n) < 256 ^ n := by
  have hl : (window b o n).length ≤ n := by
    simp only [window, List.length_take]
    omega
  exact Nat.lt_of_lt_of_le (leNat_lt _) (Nat.pow_le_pow_right (by decide) hl)

theorem le16_toNat (b : Bytes) (o : Nat) : (le16 b o).toNat = leNat (window b o 2) := by
  have := leNat_window_lt b o 2
  simp only [le16, UInt16.toNat_ofNat']
  omega

theorem le32_toNat (b : Bytes) (o : Nat) : (le32 b o).toNat = leNat (window b o 4) := by
  have := leNat_window_lt b o 4
  simp only [le32, UInt32.toNat_ofNat']
  omega

theorem le64_toNat (b : Bytes) (o : Nat) : (le64 b o).toNat = leNat (window b o 8) := by
  have := leNat_window_lt b o 8
  simp only [le64, UInt64.toNat_ofNat']
  omega

/-! ## Equal words are equal bytes -/

section Equal

variable {b b' : Bytes} {o : Nat}

theorem leNat_window_eq_iff {n : Nat} (h : o + n ≤ b.length) (h' : o + n ≤ b'.length) :
    leNat (window b o n) = leNat (window b' o n) ↔ window b o n = window b' o n := by
  constructor
  · exact leNat_inj (by rw [window_length h, window_length h'])
  · exact congrArg leNat

theorem le16_eq_iff (h : o + 2 ≤ b.length) (h' : o + 2 ≤ b'.length) :
    le16 b o = le16 b' o ↔ window b o 2 = window b' o 2 := by
  rw [← UInt16.toNat_inj, le16_toNat, le16_toNat, leNat_window_eq_iff h h']

theorem le32_eq_iff (h : o + 4 ≤ b.length) (h' : o + 4 ≤ b'.length) :
    le32 b o = le32 b' o ↔ window b o 4 = window b' o 4 := by
  rw [← UInt32.toNat_inj, le32_toNat, le32_toNat, leNat_window_eq_iff h h']

theorem le64_eq_iff (h : o + 8 ≤ b.length) (h' : o + 8 ≤ b'.length) :
    le64 b o = le64 b' o ↔ window b o 8 = window b' o 8 := by
  rw [← UInt64.toNat_inj, le64_toNat, le64_toNat, leNat_window_eq_iff h h']

end Equal

/-! ## Encoding -/

/-- The `n` little-endian bytes of `x`. -/
def leBytes : Nat → Nat → Bytes
  | 0, _ => []
  | n + 1, x => UInt8.ofNat x :: leBytes n (x / 256)

theorem length_leBytes (n x : Nat) : (leBytes n x).length = n := by
  induction n generalizing x with
  | zero => rfl
  | succ n ih => rw [leBytes, List.length_cons, ih]

theorem leNat_leBytes (n x : Nat) : leNat (leBytes n x) = x % 256 ^ n := by
  induction n generalizing x with
  | zero => simp [leBytes, leNat, Nat.mod_one]
  | succ n ih =>
    have h : leNat (leBytes (n + 1) x) = x % 256 + 256 * leNat (leBytes n (x / 256)) := by
      simp [leBytes, leNat, Nat.ofDigits_cons]
    rw [h, ih, Nat.pow_succ', Nat.mod_mul]

/-- A word reads as what was encoded in its window. -/
theorem le16_of_window {b : Bytes} {o : Nat} {x : UInt16} (h : window b o 2 = leBytes 2 x.toNat) :
    le16 b o = x := by
  rw [← UInt16.toNat_inj, le16_toNat, h, leNat_leBytes]
  exact Nat.mod_eq_of_lt x.toNat_lt

theorem le32_of_window {b : Bytes} {o : Nat} {x : UInt32} (h : window b o 4 = leBytes 4 x.toNat) :
    le32 b o = x := by
  rw [← UInt32.toNat_inj, le32_toNat, h, leNat_leBytes]
  exact Nat.mod_eq_of_lt x.toNat_lt

theorem le64_of_window {b : Bytes} {o : Nat} {x : UInt64} (h : window b o 8 = leBytes 8 x.toNat) :
    le64 b o = x := by
  rw [← UInt64.toNat_inj, le64_toNat, h, leNat_leBytes]
  exact Nat.mod_eq_of_lt x.toNat_lt

/-! ## Fields cut out of a `u32` -/

theorem leNat_window_split (b : Bytes) (o m n : Nat) (h : o + m ≤ b.length) :
    leNat (window b o (m + n)) = leNat (window b o m) + 256 ^ m * leNat (window b (o + m) n) := by
  have hw : window b o (m + n) = window b o m ++ window b (o + m) n := by
    simp only [window, List.take_add, List.drop_drop]
  have hl : ((window b o m).map UInt8.toNat).length = m := by
    rw [List.length_map, window_length h]
  rw [hw, leNat, List.map_append, Nat.ofDigits_append, hl]
  rfl

/-- The high half of a `u32` is the `u16` two bytes on. -/
theorem le32_shiftRight_sixteen (b : Bytes) (o : Nat) (h : o + 4 ≤ b.length) :
    (le32 b o >>> 16).toNat = leNat (window b (o + 2) 2) := by
  have hs := leNat_window_split b o 2 2 (by omega)
  have := leNat_window_lt b o 2
  rw [UInt32.toNat_shiftRight, le32_toNat, hs, show (16 : UInt32).toNat % 32 = 16 from rfl,
    Nat.shiftRight_eq_div_pow]
  omega

/-- The low byte of a `u32`. -/
theorem le32_and_low (b : Bytes) (o : Nat) (h : o + 4 ≤ b.length) :
    (le32 b o &&& 0xff).toNat = leNat (window b o 1) := by
  have hs := leNat_window_split b o 1 3 (by omega)
  have := leNat_window_lt b o 1
  rw [UInt32.toNat_and, le32_toNat, hs, show (0xff : UInt32).toNat = 2 ^ 8 - 1 from rfl,
    Nat.and_two_pow_sub_one_eq_mod]
  omega

/-- The second byte of a `u32`. -/
theorem le32_shiftRight_and (b : Bytes) (o : Nat) (h : o + 4 ≤ b.length) :
    ((le32 b o >>> 8) &&& 0xff).toNat = leNat (window b (o + 1) 1) := by
  have hs := leNat_window_split b o 1 3 (by omega)
  have ht := leNat_window_split b (o + 1) 1 2 (by omega)
  have := leNat_window_lt b o 1
  have := leNat_window_lt b (o + 1) 1
  rw [UInt32.toNat_and, UInt32.toNat_shiftRight, le32_toNat, hs, ht,
    show (0xff : UInt32).toNat = 2 ^ 8 - 1 from rfl, Nat.and_two_pow_sub_one_eq_mod,
    show (8 : UInt32).toNat % 32 = 8 from rfl, Nat.shiftRight_eq_div_pow]
  omega

/-- The low half of a `u32`. -/
theorem le16_eq_low (b : Bytes) (o : Nat) (h : o + 4 ≤ b.length) :
    le16 b o = (le32 b o).toUInt16 := by
  have hs := leNat_window_split b o 2 2 (by omega)
  have := leNat_window_lt b o 2
  rw [← UInt16.toNat_inj, UInt32.toNat_toUInt16, le16_toNat, le32_toNat, hs]
  omega

/-- The high half of a `u32`. -/
theorem le16_eq_high (b : Bytes) (o : Nat) (h : o + 4 ≤ b.length) :
    le16 b (o + 2) = (le32 b o >>> 16).toUInt16 := by
  have := leNat_window_lt b (o + 2) 2
  rw [← UInt16.toNat_inj, UInt32.toNat_toUInt16, le16_toNat, le32_shiftRight_sixteen b o h]
  omega

/-- A `u64` is two `u32`s. -/
theorem le64_eq_halves (b : Bytes) (o : Nat) (h : o + 8 ≤ b.length) :
    le64 b o = (le32 b o).toUInt64 + (le32 b (o + 4)).toUInt64 <<< 32 := by
  have hs := leNat_window_split b o 4 4 (by omega)
  have := leNat_window_lt b o 4
  have := leNat_window_lt b (o + 4) 4
  rw [← UInt64.toNat_inj, UInt64.toNat_add, UInt64.toNat_shiftLeft, UInt32.toNat_toUInt64,
    UInt32.toNat_toUInt64, le64_toNat, le32_toNat, le32_toNat, hs,
    show (32 : UInt64).toNat % 64 = 32 from rfl, Nat.shiftLeft_eq]
  omega

end RustSem
