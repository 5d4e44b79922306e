/-
  Rust as the modelled code uses it: panics, `usize` arithmetic on a 64-bit target, and
  slices of lists. Nothing here names the code that is verified.

  A function that may panic is `Rust α = Except Panic α`; a function that may panic and
  that reports errors is `Rust (Except ε α)`, so a proof that the outer layer is `.ok`
  is a proof that the code does not panic. A `usize` is a `Nat`, and its arithmetic is
  checked against `usizeLimit` where the source computes with it.
-/
import Mathlib.Algebra.Order.Floor.Div
import Mathlib.Data.List.Basic
import Mathlib.Data.List.Forall2
import Mathlib.Data.List.Nodup

namespace RustSem

/-- Why a thread panics. -/
inductive Panic where
  | sliceIndex
  | overflow
  | divideByZero
  deriving DecidableEq, Repr

/-- A computation that may panic. -/
abbrev Rust (α : Type) := Except Panic α

theorem ok_bind {ε α β : Type} (a : α) (f : α → Except ε β) : (Except.ok a >>= f) = f a := rfl

theorem pure_eq_ok {ε α : Type} (a : α) : (pure a : Except ε α) = .ok a := rfl

/-- Inversion of a bind that ends in `.ok`. -/
theorem bind_eq_ok {ε α β : Type} {x : Except ε α} {f : α → Except ε β} {b : β} :
    (x >>= f) = .ok b ↔ ∃ a, x = .ok a ∧ f a = .ok b := by
  cases x with
  | error e =>
    constructor
    · intro h; cases h
    · rintro ⟨a, h, -⟩; cases h
  | ok a =>
    constructor
    · intro h; exact ⟨a, rfl, h⟩
    · rintro ⟨a', h, h'⟩; cases h; exact h'

/-! ## `usize` on a 64-bit target -/

/-- One past `usize::MAX`. -/
def usizeLimit : Nat := 18446744073709551616

/-- `usize::checked_add`. -/
def checkedAdd (a b : Nat) : Option Nat :=
  if a + b < usizeLimit then some (a + b) else none

/-- `usize::checked_mul`. -/
def checkedMul (a b : Nat) : Option Nat :=
  if a * b < usizeLimit then some (a * b) else none

/-- `usize::saturating_mul`. -/
def saturatingMul (a b : Nat) : Nat := min (a * b) (usizeLimit - 1)

/-- `a + b` on `usize`, which panics on overflow. -/
def addUsize (a b : Nat) : Rust Nat :=
  if a + b < usizeLimit then .ok (a + b) else .error .overflow

/-- `a * b` on `usize`, which panics on overflow. -/
def mulUsize (a b : Nat) : Rust Nat :=
  if a * b < usizeLimit then .ok (a * b) else .error .overflow

/-- `a / b` on `usize`, which panics when `b` is zero. -/
def divUsize (a b : Nat) : Rust Nat := if b = 0 then .error .divideByZero else .ok (a / b)

/-- `usize::div_ceil`, which panics when `b` is zero. -/
def divCeil (a b : Nat) : Rust Nat :=
  if b = 0 then .error .divideByZero else .ok (a / b + if a % b > 0 then 1 else 0)

/-- `a * b` on `u32`: on overflow it panics in a build with overflow checks, and wraps in one
    without. -/
def mulU32 (overflowChecks : Bool) (a b : UInt32) : Rust UInt32 :=
  if overflowChecks ∧ 2 ^ 32 ≤ a.toNat * b.toNat then .error .overflow else .ok (a * b)

theorem checkedAdd_of_lt {a b : Nat} (h : a + b < usizeLimit) : checkedAdd a b = some (a + b) :=
  if_pos h

theorem checkedMul_of_lt {a b : Nat} (h : a * b < usizeLimit) : checkedMul a b = some (a * b) :=
  if_pos h

theorem saturatingMul_of_lt {a b : Nat} (h : a * b < usizeLimit) : saturatingMul a b = a * b :=
  Nat.min_eq_left (by unfold usizeLimit at *; omega)

theorem addUsize_of_lt {a b : Nat} (h : a + b < usizeLimit) : addUsize a b = .ok (a + b) :=
  if_pos h

theorem addUsize_eq_ok {a b c : Nat} : addUsize a b = .ok c ↔ a + b < usizeLimit ∧ c = a + b := by
  unfold addUsize
  split <;> simp_all [eq_comm]

theorem mulUsize_of_lt {a b : Nat} (h : a * b < usizeLimit) : mulUsize a b = .ok (a * b) :=
  if_pos h

theorem exists_mulU32_iff {overflowChecks : Bool} {a b : UInt32} :
    (∃ c, mulU32 overflowChecks a b = .ok c) ↔
      (overflowChecks = true → a.toNat * b.toNat < 2 ^ 32) := by
  unfold mulU32
  cases overflowChecks with
  | false => simp
  | true =>
    by_cases h : 2 ^ 32 ≤ a.toNat * b.toNat
    · rw [if_pos ⟨rfl, h⟩]
      simp only [reduceCtorEq, exists_false, forall_const, false_iff]
      omega
    · rw [if_neg (by simpa using h)]
      simp only [Except.ok.injEq, exists_eq', forall_const, true_iff]
      omega

/-- A product that fits is the product. -/
theorem toNat_mulU32 {overflowChecks : Bool} {a b c : UInt32} (h : a.toNat * b.toNat < 2 ^ 32)
    (hc : mulU32 overflowChecks a b = .ok c) : c.toNat = a.toNat * b.toNat := by
  unfold mulU32 at hc
  rw [if_neg (by omega)] at hc
  cases hc
  rw [UInt32.toNat_mul, Nat.mod_eq_of_lt h]

theorem divUsize_of_pos (a : Nat) {b : Nat} (h : 0 < b) : divUsize a b = .ok (a / b) :=
  if_neg (by omega)

theorem divCeil_of_pos (a : Nat) {b : Nat} (h : 0 < b) : divCeil a b = .ok (a ⌈/⌉ b) := by
  unfold divCeil
  rw [if_neg (by omega), Nat.ceilDiv_eq_add_pred_div]
  congr 1
  have hmod := Nat.mod_lt a h
  have hdiv : (a + b - 1) / b = a / b + (a % b + b - 1) / b := by
    rw [← Nat.mul_add_div h, ← Nat.add_sub_assoc (by omega), ← Nat.add_assoc, Nat.div_add_mod]
  rw [hdiv]
  congr 1
  split
  · rw [Nat.div_eq_of_lt_le] <;> omega
  · rw [Nat.div_eq_of_lt]
    omega

theorem ceilDiv_le_self (a : Nat) {b : Nat} (h : 0 < b) : a ⌈/⌉ b ≤ a := by
  rw [ceilDiv_le_iff_le_mul h]
  exact Nat.le_mul_of_pos_left a h

/-- Two `u32`s widened to `usize` never overflow a sum. -/
theorem toNat_add_toNat_lt (a b : UInt32) : a.toNat + b.toNat < usizeLimit := by
  have := a.toNat_lt
  have := b.toNat_lt
  unfold usizeLimit
  omega

/-- Nor do two such values overflow a product. -/
theorem mul_lt_usizeLimit {a b : Nat} (ha : a < 2 ^ 32) (hb : b < 2 ^ 32) :
    a * b < usizeLimit := by
  have h := Nat.mul_le_mul (Nat.le_sub_one_of_lt ha) (Nat.le_sub_one_of_lt hb)
  unfold usizeLimit
  omega

/-- `usize::try_from(n)` of a `u64`. -/
def usizeTryFrom (n : UInt64) : Option Nat := if n.toNat < usizeLimit then some n.toNat else none

theorem usizeTryFrom_eq (n : UInt64) : usizeTryFrom n = some n.toNat := if_pos n.toNat_lt

/-! ## Slices -/

variable {α : Type}

/-- The `n` elements of `l` from offset `o`. -/
def window (l : List α) (o n : Nat) : List α := (l.drop o).take n

/-- `l.get(lo..hi)`. -/
def getRange (l : List α) (lo hi : Nat) : Option (List α) :=
  if lo ≤ hi ∧ hi ≤ l.length then some (window l lo (hi - lo)) else none

/-- `l[lo..hi]`, which panics when the range leaves `l`. -/
def indexRange (l : List α) (lo hi : Nat) : Rust (List α) :=
  match getRange l lo hi with
  | some w => .ok w
  | none => .error .sliceIndex

theorem window_length {l : List α} {o n : Nat} (h : o + n ≤ l.length) :
    (window l o n).length = n := by
  simp only [window, List.length_take, List.length_drop]
  omega

theorem getElem?_window (l : List α) (o n i : Nat) (hi : i < n) :
    (window l o n)[i]? = l[o + i]? := by
  simp [window, hi]

/-- A range given by its start and its length. -/
theorem getRange_add (l : List α) (o n : Nat) :
    getRange l o (o + n) = if o + n ≤ l.length then some (window l o n) else none := by
  unfold getRange
  rw [Nat.add_sub_cancel_left]
  simp

theorem getRange_window {l : List α} {o n : Nat} (h : o + n ≤ l.length) :
    getRange l o (o + n) = some (window l o n) := by
  rw [getRange_add, if_pos h]

theorem indexRange_window {l : List α} {o n : Nat} (h : o + n ≤ l.length) :
    indexRange l o (o + n) = .ok (window l o n) := by
  unfold indexRange
  rw [getRange_window h]

/-- `l[..n]`. -/
theorem indexRange_take {l : List α} {n : Nat} (h : n ≤ l.length) :
    indexRange l 0 n = .ok (l.take n) := by
  have hw := indexRange_window (l := l) (o := 0) (n := n) (by omega)
  rw [Nat.zero_add] at hw
  exact hw

/-- A slice that is not out of range. -/
theorem indexRange_eq_ok {l w : List α} {lo hi : Nat} :
    indexRange l lo hi = .ok w ↔ lo ≤ hi ∧ hi ≤ l.length ∧ w = window l lo (hi - lo) := by
  unfold indexRange getRange
  by_cases h : lo ≤ hi ∧ hi ≤ l.length
  · simp [h, eq_comm]
  · simp only [if_neg h]
    constructor
    · intro hw
      cases hw
    · intro h'
      obtain ⟨h1, h2, -⟩ := h'
      exact absurd ⟨h1, h2⟩ h

/-- Two windows agree exactly when their elements do. -/
theorem window_eq_iff {l l' : List α} {o n : Nat} :
    window l o n = window l' o n ↔ ∀ i, i < n → l[o + i]? = l'[o + i]? := by
  constructor
  · intro h i hi
    rw [← getElem?_window l o n i hi, ← getElem?_window l' o n i hi, h]
  · intro h
    apply List.ext_getElem?
    intro i
    by_cases hi : i < n
    · rw [getElem?_window l o n i hi, getElem?_window l' o n i hi, h i hi]
    · unfold window
      rw [List.getElem?_take_eq_none (by omega), List.getElem?_take_eq_none (by omega)]

/-- `l.chunks_exact(n)`: the full `n`-element chunks, without the remainder. -/
def chunksExact (n : Nat) (l : List α) : List (List α) :=
  (List.range (l.length / n)).map fun i => window l (n * i) n

theorem chunksExact_length (n : Nat) (l : List α) : (chunksExact n l).length = l.length / n := by
  simp [chunksExact]

theorem chunksExact_getElem (n : Nat) (l : List α) (i : Nat) (h : i < (chunksExact n l).length) :
    (chunksExact n l)[i] = window l (n * i) n := by
  simp [chunksExact]

theorem length_of_mem_chunksExact {n : Nat} {l c : List α} (h : c ∈ chunksExact n l) :
    c.length = n := by
  obtain ⟨i, hi, rfl⟩ := List.mem_map.mp h
  have hi' := List.mem_range.mp hi
  apply window_length
  have h1 : n * (i + 1) ≤ n * (l.length / n) := Nat.mul_le_mul_left n hi'
  have h2 : n * (l.length / n) ≤ l.length := Nat.mul_div_le l.length n
  rw [Nat.mul_succ] at h1
  omega

/-! ## Loops that stop at the first failure -/

/-- `mapM` over a list on which `f` always succeeds. -/
theorem mapM_ok {ε β : Type} {f : α → Except ε β} {g : α → β} {l : List α}
    (h : ∀ a ∈ l, f a = .ok (g a)) : l.mapM f = .ok (l.map g) := by
  induction l with
  | nil => rfl
  | cons a l ih =>
    have ha := h a (List.mem_cons_self ..)
    have hl := ih fun b hb => h b (List.mem_cons_of_mem _ hb)
    rw [List.mapM_cons, ha, ok_bind, hl]
    rfl

/-- `mapM` over a list succeeds exactly when `f` does on every element. -/
theorem exists_mapM_ok_iff {ε β : Type} {f : α → Except ε β} {l : List α} :
    (∃ r, l.mapM f = .ok r) ↔ ∀ a ∈ l, ∃ b, f a = .ok b := by
  induction l with
  | nil => simp [pure_eq_ok]
  | cons a l ih =>
    simp only [List.mapM_cons, bind_eq_ok, List.forall_mem_cons]
    constructor
    · intro h
      obtain ⟨r, b, hb, bs, hbs, -⟩ := h
      exact ⟨⟨b, hb⟩, ih.mp ⟨bs, hbs⟩⟩
    · intro h
      obtain ⟨⟨b, hb⟩, hl⟩ := h
      obtain ⟨bs, hbs⟩ := ih.mpr hl
      exact ⟨b :: bs, b, hb, bs, hbs, rfl⟩

/-- What `mapM` returns, element by element. -/
theorem mapM_eq_ok_iff {ε β : Type} {f : α → Except ε β} {l : List α} {r : List β} :
    l.mapM f = .ok r ↔ List.Forall₂ (fun a b => f a = .ok b) l r := by
  induction l generalizing r with
  | nil => cases r <;> simp [pure_eq_ok]
  | cons a l ih =>
    simp only [List.mapM_cons, bind_eq_ok, ih, pure_eq_ok, Except.ok.injEq]
    constructor
    · intro h
      obtain ⟨b, hb, bs, hbs, rfl⟩ := h
      exact .cons hb hbs
    · rintro (_ | ⟨hb, hbs⟩)
      exact ⟨_, hb, _, hbs, rfl⟩

/-- A loop whose turn at `a` appends `g a`. -/
theorem foldlM_append_ok {ε β : Type} {step : List β → α → Except ε (List β)} {g : α → List β}
    {l : List α} (h : ∀ a ∈ l, ∀ out, step out a = .ok (out ++ g a)) (out : List β) :
    l.foldlM step out = .ok (out ++ (l.map g).flatten) := by
  induction l generalizing out with
  | nil => simp [pure_eq_ok]
  | cons a l ih =>
    rw [List.foldlM_cons, h a (by simp), ok_bind, ih fun a' ha' => h a' (by simp [ha'])]
    simp

/-- A `for` loop whose body may fail succeeds exactly when every turn does. -/
theorem forM_eq_ok_iff {ε : Type} {f : α → Except ε Unit} {l : List α} :
    forM l f = .ok () ↔ ∀ a ∈ l, f a = .ok () := by
  induction l with
  | nil => simp [pure_eq_ok]
  | cons a l ih =>
    rw [List.forM_cons, bind_eq_ok]
    constructor
    · intro h' b hb
      obtain ⟨u, ha, hl⟩ := h'
      rcases List.mem_cons.mp hb with rfl | hb
      · exact ha
      · exact ih.mp hl b hb
    · intro h
      exact ⟨(), h a (List.mem_cons_self ..), ih.mpr fun b hb => h b (List.mem_cons_of_mem _ hb)⟩

/-- The error of a `for` loop is the error of one of its turns. -/
theorem forM_eq_error {ε : Type} {f : α → Except ε Unit} {l : List α} {e : ε}
    (h : forM l f = .error e) : ∃ a ∈ l, f a = .error e := by
  induction l with
  | nil => cases h
  | cons a l ih =>
    rw [List.forM_cons] at h
    cases ha : f a with
    | error e' =>
      rw [ha] at h
      cases h
      exact ⟨a, by simp, ha⟩
    | ok u =>
      rw [ha] at h
      obtain ⟨b, hb, hfb⟩ := ih h
      exact ⟨b, by simp [hb], hfb⟩

end RustSem
