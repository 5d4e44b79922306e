/-
  Rows in a flat buffer. A list of rows of one length is the same as its concatenation, in
  which row `i` stands at `i * n`; and rows cut out of a buffer at a stride are the same as
  the buffer when the stride is the length of a row.

  * `window_flatten`, `getElem?_flatten`: the rows of a concatenation.
  * `window_flatten_rows`: a window of the rows cut out of a buffer, put together again.
  * `flatten_rows_tight`: rows without padding are a prefix of the buffer.
-/
import GputoolsReplay.Lib.Overwrite

namespace RustSem

variable {α : Type}

/-! ## Rows of one length -/

section Flatten

variable {ls : List (List α)} {n : Nat}

theorem length_flatten (h : ∀ l ∈ ls, l.length = n) : ls.flatten.length = ls.length * n := by
  induction ls with
  | nil => simp
  | cons l ls ih =>
    rw [List.flatten_cons, List.length_append, List.length_cons, h l (by simp),
      ih fun l' hl' => h l' (by simp [hl']), Nat.succ_mul, Nat.add_comm]

/-- Element `k` of row `i` of a concatenation. -/
theorem getElem?_flatten (h : ∀ l ∈ ls, l.length = n) (i : Nat) {k : Nat} (hk : k < n) :
    ls.flatten[i * n + k]? = ls[i]?.bind fun l => l[k]? := by
  induction ls generalizing i with
  | nil => simp
  | cons l ls ih =>
    have hl : l.length = n := h l (by simp)
    have hls : ∀ l' ∈ ls, l'.length = n := fun l' hl' => h l' (by simp [hl'])
    rw [List.flatten_cons]
    cases i with
    | zero => rw [Nat.zero_mul, Nat.zero_add, List.getElem?_append_left (by omega)]; rfl
    | succ i =>
      rw [List.getElem?_append_right (by rw [Nat.succ_mul]; omega), List.getElem?_cons_succ,
        ← ih hls i]
      congr 1
      rw [Nat.succ_mul]
      omega

/-- Row `i` of a concatenation. -/
theorem window_flatten (h : ∀ l ∈ ls, l.length = n) {i : Nat} (hi : i < ls.length) :
    window ls.flatten (i * n) n = ls[i] := by
  have hl : (ls[i]).length = n := h _ (List.getElem_mem hi)
  have hroom : i * n + n ≤ ls.flatten.length := by
    rw [length_flatten h, ← Nat.succ_mul]
    exact Nat.mul_le_mul_right n hi
  apply List.ext_getElem?
  intro k
  by_cases hk : k < n
  · rw [getElem?_window _ _ _ _ hk, getElem?_flatten h i hk, List.getElem?_eq_getElem hi]
    rfl
  · rw [List.getElem?_eq_none (by rw [window_length hroom]; omega),
      List.getElem?_eq_none (by omega)]

end Flatten

/-! ## Rows cut out of a buffer -/

/-- `n` rows of `len` elements, one at every multiple of `stride`. -/
def rows (l : List α) (stride len n : Nat) : List (List α) :=
  (List.range n).map fun y => window l (y * stride) len

section Rows

variable {l : List α} {stride len n : Nat}

theorem length_rows : (rows l stride len n).length = n := by simp [rows]

/-- Every row ends before the next one starts. -/
theorem row_end_le (hlen : len ≤ stride) {y : Nat} (hy : y < n) :
    y * stride + len ≤ n * stride := by
  have h := Nat.mul_le_mul_right stride hy
  rw [Nat.succ_mul] at h
  omega

/-- So every row has its length. -/
theorem row_fits (hlen : len ≤ stride) (hroom : n * stride ≤ l.length) {y : Nat} (hy : y < n) :
    y * stride + len ≤ l.length :=
  Nat.le_trans (row_end_le hlen hy) hroom

theorem length_of_mem_rows (hlen : len ≤ stride) (hroom : n * stride ≤ l.length) :
    ∀ row ∈ rows l stride len n, row.length = len := by
  intro row hrow
  obtain ⟨y, hy, rfl⟩ := List.mem_map.mp hrow
  exact window_length (row_fits hlen hroom (List.mem_range.mp hy))

/-- A window within row `y` of the rows put together. -/
theorem window_flatten_rows (hlen : len ≤ stride) (hroom : n * stride ≤ l.length) {y o k : Nat}
    (hy : y < n) (hk : o + k ≤ len) :
    window (rows l stride len n).flatten (y * len + o) k = window l (y * stride + o) k := by
  have hlt : y < (rows l stride len n).length := by rwa [length_rows]
  have hrow := window_flatten (length_of_mem_rows hlen hroom) hlt
  have hget : (rows l stride len n)[y] = window l (y * stride) len := by simp [rows]
  rw [← window_window _ hk, hrow, hget, window_window _ hk]

/-- The loop that copies `len` elements out of each of `n` rows, where no offset overflows. -/
theorem copyRows_eq (hlen : len ≤ stride) (hroom : n * stride ≤ l.length)
    (hlt : n * stride < usizeLimit) :
    ((List.range n).foldlM (fun out y => do
      let start ← mulUsize y stride
      return out ++ (← indexRange l start (← addUsize start len))) []) =
        .ok (rows l stride len n).flatten := by
  rw [foldlM_append_ok (g := fun y => window l (y * stride) len)]
  · rfl
  · intro y hy out
    have hend := row_end_le hlen (List.mem_range.mp hy)
    rw [mulUsize_of_lt (by omega), ok_bind, addUsize_of_lt (by omega), ok_bind,
      indexRange_window (by omega)]
    rfl

/-- Rows without padding are a prefix of the buffer. -/
theorem flatten_rows_tight (l : List α) (len n : Nat) :
    (rows l len len n).flatten = l.take (n * len) := by
  induction n with
  | zero => simp [rows]
  | succ n ih =>
    have h : rows l len len (n + 1) = rows l len len n ++ [window l (n * len) len] := by
      simp [rows, List.range_succ]
    rw [h, List.flatten_append, ih, Nat.succ_mul, List.take_add]
    simp [window]

end Rows

/-! ## Whole chunks -/

theorem chunksExact_eq_rows (n : Nat) (l : List α) :
    chunksExact n l = rows l n n (l.length / n) := by
  unfold chunksExact rows
  simp only [Nat.mul_comm]

/-- Whole chunks put together again. -/
theorem flatten_chunksExact {n : Nat} {l : List α} (h : n ∣ l.length) :
    (chunksExact n l).flatten = l := by
  rw [chunksExact_eq_rows, flatten_rows_tight, Nat.div_mul_cancel h, List.take_length]

/-- The chunks of a window that is a whole number of chunks. -/
theorem chunksExact_window {l : List α} {o n b : Nat} (hb : 0 < b)
    (hroom : o + n * b ≤ l.length) :
    chunksExact b (window l o (n * b)) = (List.range n).map fun x => window l (o + x * b) b := by
  unfold chunksExact
  rw [window_length hroom, Nat.mul_div_cancel _ hb]
  apply List.map_congr_left
  intro x hx
  have hle := Nat.mul_le_mul_right b (List.mem_range.mp hx)
  rw [Nat.succ_mul] at hle
  rw [Nat.mul_comm b x, window_window l hle]

/-- Chunks of a concatenation of whole chunks. -/
theorem chunksExact_append {n : Nat} {l l' : List α} (hn : 0 < n) (h : n ∣ l.length) :
    chunksExact n (l ++ l') = chunksExact n l ++ chunksExact n l' := by
  obtain ⟨k, hk⟩ := h
  have hdiv : (l ++ l').length / n = k + l'.length / n := by
    rw [List.length_append, hk, Nat.mul_add_div hn]
  have hdiv' : l.length / n = k := by rw [hk, Nat.mul_div_cancel_left _ hn]
  unfold chunksExact
  rw [hdiv, hdiv', List.range_add, List.map_append, List.map_map]
  congr 1
  · apply List.map_congr_left
    intro i hi
    have hle := Nat.mul_le_mul_left n (List.mem_range.mp hi)
    rw [Nat.mul_succ] at hle
    exact window_append_left (by omega)
  · apply List.map_congr_left
    intro i _
    unfold window
    rw [Function.comp_apply, Nat.mul_add, ← hk, List.drop_append, List.drop_eq_nil_of_le (by omega),
      List.nil_append, Nat.add_sub_cancel_left]

theorem chunksExact_flatten {n : Nat} (hn : 0 < n) {ls : List (List α)}
    (h : ∀ l ∈ ls, n ∣ l.length) :
    chunksExact n ls.flatten = (ls.map (chunksExact n)).flatten := by
  induction ls with
  | nil => simp [chunksExact]
  | cons l ls ih =>
    rw [List.flatten_cons, chunksExact_append hn (h l (by simp)),
      ih fun l' hl' => h l' (by simp [hl'])]
    rfl

end RustSem
