/-
  Writes into a buffer of fixed length, as a C producer makes them: a block of bytes is
  copied over the buffer at an offset. A read of a window gives the block when the window is
  the block's own place, and the old bytes when the two do not meet.
-/
import GputoolsReplay.Lib.Rust

namespace RustSem

variable {α : Type}

/-- `l` with `src` copied over it from offset `o`. -/
def overwrite (l : List α) (o : Nat) (src : List α) : List α :=
  l.take o ++ src ++ l.drop (o + src.length)

theorem length_overwrite {l : List α} {o : Nat} {src : List α} (h : o + src.length ≤ l.length) :
    (overwrite l o src).length = l.length := by
  simp only [overwrite, List.length_append, List.length_take, List.length_drop]
  omega

theorem getElem?_overwrite {l : List α} {o : Nat} {src : List α} (h : o + src.length ≤ l.length)
    (i : Nat) :
    (overwrite l o src)[i]? = if o ≤ i ∧ i < o + src.length then src[i - o]? else l[i]? := by
  have ho : (l.take o).length = o := by simp only [List.length_take]; omega
  unfold overwrite
  by_cases hlow : i < o
  · rw [if_neg (by omega), List.append_assoc, List.getElem?_append_left (by omega),
      List.getElem?_take_of_lt hlow]
  · by_cases hmid : i < o + src.length
    · rw [if_pos (by omega), List.append_assoc, List.getElem?_append_right (by omega), ho,
        List.getElem?_append_left (by omega)]
    · rw [if_neg (by omega), List.getElem?_append_right (by simp only [List.length_append]; omega),
        List.length_append, ho, List.getElem?_drop]
      congr 1
      omega

/-- The window that was written. -/
theorem window_overwrite {l : List α} {o : Nat} {src : List α} (h : o + src.length ≤ l.length) :
    window (overwrite l o src) o src.length = src := by
  have hl : (window (overwrite l o src) o src.length).length = src.length :=
    window_length (by rwa [length_overwrite h])
  apply List.ext_getElem?
  intro i
  by_cases hi : i < src.length
  · rw [getElem?_window _ _ _ _ hi, getElem?_overwrite h, if_pos (by omega),
      Nat.add_sub_cancel_left]
  · rw [List.getElem?_eq_none (by omega), List.getElem?_eq_none (by omega)]

/-- A window that does not meet the bytes written. -/
theorem window_overwrite_of_disjoint {l : List α} {o p n : Nat} {src : List α}
    (h : o + src.length ≤ l.length) (hd : p + n ≤ o ∨ o + src.length ≤ p) :
    window (overwrite l o src) p n = window l p n := by
  rw [window_eq_iff]
  intro i hi
  rw [getElem?_overwrite h, if_neg (by omega)]

/-! ## Windows of windows and of longer buffers -/

theorem window_window (l : List α) {o n p m : Nat} (h : p + m ≤ n) :
    window (window l o n) p m = window l (o + p) m := by
  unfold window
  rw [List.drop_take, List.take_take, List.drop_drop, Nat.min_eq_left (by omega)]

theorem window_append_left {l l' : List α} {o n : Nat} (h : o + n ≤ l.length) :
    window (l ++ l') o n = window l o n := by
  rw [window_eq_iff]
  intro i hi
  rw [List.getElem?_append_left (by omega)]

theorem window_replicate {a : α} {k o n : Nat} (h : o + n ≤ k) :
    window (List.replicate k a) o n = List.replicate n a := by
  unfold window
  rw [List.drop_replicate, List.take_replicate, Nat.min_eq_left (by omega)]

end RustSem
