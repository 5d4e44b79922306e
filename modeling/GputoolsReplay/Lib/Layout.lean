/-
  Laying parts out in a buffer, and finding them again: parts one after the other, parts of one
  length, and parts copied over a buffer at places that do not meet. Nothing here names the code
  that is verified.

  * `window_of_mem_placed`: a part stands where the lengths before it end.
  * `chunksExact_of_parts`: parts of one length are the chunks of their concatenation.
  * `window_plant`: of the parts copied over a buffer, each is found at its own place.
-/
import GputoolsReplay.Lib.Strided

namespace RustSem

variable {α : Type}

/-! ## Parts one after the other -/

/-- The parts with the places they start at, the first at `o`. -/
def placed : Nat → List (List α) → List (Nat × List α)
  | _, [] => []
  | o, part :: parts => (o, part) :: placed (o + part.length) parts

theorem length_placed (o : Nat) (parts : List (List α)) :
    (placed o parts).length = parts.length := by
  induction parts generalizing o with
  | nil => rfl
  | cons part parts ih => rw [placed, List.length_cons, List.length_cons, ih]

theorem getElem?_placed {o i : Nat} {parts : List (List α)} {part : List α}
    (h : parts[i]? = some part) : ∃ o', (placed o parts)[i]? = some (o', part) := by
  induction parts generalizing o i with
  | nil => cases h
  | cons first parts ih =>
    cases i with
    | zero =>
      cases h
      exact ⟨o, rfl⟩
    | succ i => exact ih h

theorem mem_placed_window (before : List α) {parts : List (List α)} {o : Nat} {part : List α}
    (h : (o, part) ∈ placed before.length parts) :
    o + part.length ≤ (before ++ parts.flatten).length ∧
      window (before ++ parts.flatten) o part.length = part := by
  induction parts generalizing before with
  | nil => cases h
  | cons first parts ih =>
    rw [List.flatten_cons, ← List.append_assoc]
    rcases List.mem_cons.mp h with h | h
    · cases h
      refine ⟨by simp only [List.length_append]; omega, ?_⟩
      rw [window_append_left (by rw [List.length_append])]
      simp [window]
    · apply ih
      rwa [List.length_append]

/-- A part stands where the lengths before it end. -/
theorem window_of_mem_placed {parts : List (List α)} {o : Nat} {part : List α}
    (h : (o, part) ∈ placed 0 parts) :
    o + part.length ≤ parts.flatten.length ∧ window parts.flatten o part.length = part :=
  mem_placed_window [] h

/-! ## Parts of one length -/

/-- Rows of one length are found again in their concatenation. -/
theorem rows_flatten {ls : List (List α)} {n : Nat} (h : ∀ l ∈ ls, l.length = n) :
    rows ls.flatten n n ls.length = ls := by
  apply List.ext_getElem length_rows
  intro i hi hi'
  simp only [rows, List.getElem_map, List.getElem_range]
  exact window_flatten h hi'

theorem chunksExact_of_parts {parts : List (List α)} {n : Nat} (hn : 0 < n)
    (h : ∀ part ∈ parts, part.length = n) : chunksExact n parts.flatten = parts := by
  have hlength : (chunksExact n parts.flatten).length = parts.length := by
    rw [chunksExact_length, length_flatten h, Nat.mul_div_cancel _ hn]
  apply List.ext_getElem hlength
  intro i hi hi'
  rw [chunksExact_getElem, Nat.mul_comm, window_flatten h hi']

/-! ## Parts copied over a buffer -/

/-- `l` with every part copied over it at its place, in order. -/
def plant (l : List α) (parts : List (Nat × List α)) : List α :=
  parts.foldl (fun l part => overwrite l part.1 part.2) l

/-- The places of two parts do not meet. -/
def Apart (p q : Nat × List α) : Prop := p.1 + p.2.length ≤ q.1 ∨ q.1 + q.2.length ≤ p.1

theorem length_plant {l : List α} {parts : List (Nat × List α)}
    (h : ∀ part ∈ parts, part.1 + part.2.length ≤ l.length) :
    (plant l parts).length = l.length := by
  induction parts generalizing l with
  | nil => rfl
  | cons part parts ih =>
    have hpart := length_overwrite (h part (by simp))
    have hrest := ih (l := overwrite l part.1 part.2) fun p hp => by
      rw [hpart]
      exact h p (by simp [hp])
    exact hrest.trans hpart

/-- A window that no part meets. -/
theorem window_plant_of_apart {l : List α} {parts : List (Nat × List α)} {o n : Nat}
    (h : ∀ part ∈ parts, part.1 + part.2.length ≤ l.length)
    (hd : ∀ part ∈ parts, o + n ≤ part.1 ∨ part.1 + part.2.length ≤ o) :
    window (plant l parts) o n = window l o n := by
  induction parts generalizing l with
  | nil => rfl
  | cons part parts ih =>
    have hpart := h part (by simp)
    have hrest := ih (l := overwrite l part.1 part.2)
      (fun p hp => by rw [length_overwrite hpart]; exact h p (by simp [hp]))
      (fun p hp => hd p (by simp [hp]))
    exact hrest.trans (window_overwrite_of_disjoint hpart (hd part (by simp)))

/-- Each part is found at its own place: the parts after it do not meet it. -/
theorem window_plant {l : List α} {parts : List (Nat × List α)} {part : Nat × List α}
    (h : ∀ p ∈ parts, p.1 + p.2.length ≤ l.length) (hd : parts.Pairwise Apart)
    (hmem : part ∈ parts) : window (plant l parts) part.1 part.2.length = part.2 := by
  induction parts generalizing l with
  | nil => cases hmem
  | cons first parts ih =>
    obtain ⟨hfirst, hd⟩ := List.pairwise_cons.mp hd
    have hroom := h first (by simp)
    have hrest : ∀ p ∈ parts, p.1 + p.2.length ≤ (overwrite l first.1 first.2).length := by
      intro p hp
      rw [length_overwrite hroom]
      exact h p (by simp [hp])
    rcases List.mem_cons.mp hmem with rfl | hmem
    · exact (window_plant_of_apart hrest hfirst).trans (window_overwrite hroom)
    · exact ih hrest hd hmem

end RustSem
