/-
  Writing a list of results back to given positions of an otherwise empty vector:
  `vec![None; n]`, then one assignment for each (position, value) pair.

  * `getElem?_scatter`: the pair's value stands at its position.
  * `scatter_perm`: nothing is lost and nothing is added.
  * `scatter_map`: scattering commutes with a map of the values that keeps the empty one.
-/
import Mathlib.Data.List.ReduceOption

namespace Scatter

variable {α β : Type}

/-- One assignment for each pair, in order. -/
def assign (acc : List (Option α)) (slots : List (Nat × Option α)) : List (Option α) :=
  slots.foldl (fun acc s => acc.set s.1 s.2) acc

/-- `vec![None; n]` with the given slots overwritten in order. -/
def scatter (n : Nat) (slots : List (Nat × Option α)) : List (Option α) :=
  assign (List.replicate n none) slots

theorem assign_cons (acc : List (Option α)) (s : Nat × Option α) (slots : List (Nat × Option α)) :
    assign acc (s :: slots) = assign (acc.set s.1 s.2) slots := rfl

theorem length_assign (acc : List (Option α)) (slots : List (Nat × Option α)) :
    (assign acc slots).length = acc.length := by
  induction slots generalizing acc with
  | nil => rfl
  | cons s slots ih => rw [assign_cons, ih, List.length_set]

theorem length_scatter (n : Nat) (slots : List (Nat × Option α)) :
    (scatter n slots).length = n := by
  rw [scatter, length_assign, List.length_replicate]

/-- A position no pair names is left alone. -/
theorem getElem?_assign_of_notMem (acc : List (Option α)) (slots : List (Nat × Option α)) (i : Nat)
    (h : i ∉ slots.map Prod.fst) : (assign acc slots)[i]? = acc[i]? := by
  induction slots generalizing acc with
  | nil => rfl
  | cons s slots ih =>
    rw [List.map_cons, List.mem_cons, not_or] at h
    rw [assign_cons, ih _ h.2, List.getElem?_set_ne (Ne.symm h.1)]

theorem getElem?_assign (acc : List (Option α)) (slots : List (Nat × Option α)) {i : Nat}
    {v : Option α} (hd : (slots.map Prod.fst).Nodup) (hi : i < acc.length) (h : (i, v) ∈ slots) :
    (assign acc slots)[i]? = some v := by
  induction slots generalizing acc with
  | nil => exact absurd h List.not_mem_nil
  | cons s slots ih =>
    rw [List.map_cons, List.nodup_cons] at hd
    rw [assign_cons]
    rcases List.mem_cons.mp h with h | h
    · subst h
      rw [getElem?_assign_of_notMem _ _ _ hd.1, List.getElem?_set_self hi]
    · exact ih _ hd.2 (by rwa [List.length_set]) h

/-- The pair's value stands at its position. -/
theorem getElem?_scatter (n : Nat) (slots : List (Nat × Option α)) {i : Nat} {v : Option α}
    (hd : (slots.map Prod.fst).Nodup) (hi : i < n) (h : (i, v) ∈ slots) :
    (scatter n slots)[i]? = some v :=
  getElem?_assign _ _ hd (by rwa [List.length_replicate]) h

/-- A value in the result was written there by a pair. -/
theorem mem_of_getElem?_scatter (n : Nat) (slots : List (Nat × Option α)) {i : Nat} {a : α}
    (hd : (slots.map Prod.fst).Nodup) (h : (scatter n slots)[i]? = some (some a)) :
    (i, some a) ∈ slots := by
  have hi : i < n := by
    have := (List.getElem?_eq_some_iff.mp h).1
    rwa [length_scatter] at this
  by_cases hm : i ∈ slots.map Prod.fst
  · obtain ⟨⟨i', v⟩, hs, rfl⟩ := List.mem_map.mp hm
    rw [getElem?_scatter n slots hd hi hs] at h
    rw [← Option.some.inj h]
    exact hs
  · rw [scatter, getElem?_assign_of_notMem _ _ _ hm, List.getElem?_replicate, if_pos hi] at h
    cases h

/-- Filling one empty slot adds the value. -/
theorem reduceOption_set_perm (acc : List (Option α)) (i : Nat) (v : Option α)
    (h : acc[i]? = some none) :
    (acc.set i v).reduceOption.Perm (v.toList ++ acc.reduceOption) := by
  induction acc generalizing i with
  | nil => cases h
  | cons o acc ih =>
    cases i with
    | zero =>
      obtain rfl : o = none := Option.some.inj h
      rw [List.set_cons_zero]
      cases v <;> exact List.Perm.refl _
    | succ i =>
      rw [List.set_cons_succ]
      cases o with
      | none => exact ih i h
      | some a =>
        rw [List.reduceOption_cons_of_some, List.reduceOption_cons_of_some]
        exact ((ih i h).cons a).trans List.perm_middle.symm

theorem assign_perm (acc : List (Option α)) (slots : List (Nat × Option α))
    (hd : (slots.map Prod.fst).Nodup) (h : ∀ s ∈ slots, acc[s.1]? = some none) :
    (assign acc slots).reduceOption.Perm
      ((slots.map Prod.snd).reduceOption ++ acc.reduceOption) := by
  induction slots generalizing acc with
  | nil => exact List.Perm.refl _
  | cons s slots ih =>
    rw [List.map_cons, List.nodup_cons] at hd
    have hne : ∀ s' ∈ slots, s.1 ≠ s'.1 := fun s' hs' he =>
      hd.1 (he ▸ List.mem_map_of_mem hs')
    have hrest := ih (acc.set s.1 s.2) hd.2 fun s' hs' => by
      rw [List.getElem?_set_ne (hne s' hs')]
      exact h s' (List.mem_cons_of_mem _ hs')
    have hset := reduceOption_set_perm acc s.1 s.2 (h s (List.mem_cons_self ..))
    have hcons : ((s :: slots).map Prod.snd).reduceOption =
        s.2.toList ++ (slots.map Prod.snd).reduceOption := by
      rw [List.map_cons]
      cases s.2 <;> rfl
    rw [assign_cons, hcons]
    refine hrest.trans ((hset.append_left _).trans ?_)
    rw [← List.append_assoc]
    exact List.perm_append_comm.append_right _

/-- Nothing is lost and nothing is added. -/
theorem scatter_perm (n : Nat) (slots : List (Nat × Option α)) (hd : (slots.map Prod.fst).Nodup)
    (hn : ∀ s ∈ slots, s.1 < n) :
    (scatter n slots).reduceOption.Perm (slots.map Prod.snd).reduceOption := by
  have h := assign_perm (List.replicate n none) slots hd fun s hs => by
    rw [List.getElem?_replicate, if_pos (hn s hs)]
  rwa [List.reduceOption_replicate_none, List.append_nil] at h

/-- Scattering commutes with a map of the values that keeps the empty one. -/
theorem scatter_map (f : Option α → Option β) (hf : f none = none) (n : Nat)
    (slots : List (Nat × Option α)) :
    scatter n (slots.map fun s => (s.1, f s.2)) = (scatter n slots).map f := by
  have hassign : ∀ acc : List (Option α),
      assign (acc.map f) (slots.map fun s => (s.1, f s.2)) = (assign acc slots).map f := by
    induction slots with
    | nil => exact fun _ => rfl
    | cons s slots ih =>
      intro acc
      rw [List.map_cons, assign_cons, assign_cons, ← List.map_set, ih]
  rw [scatter, scatter, ← hassign, List.map_replicate, hf]

theorem scatter_none (n : Nat) (slots : List (Nat × Option α)) (h : ∀ s ∈ slots, s.2 = none) :
    scatter n slots = List.replicate n none := by
  unfold scatter
  induction slots with
  | nil => rfl
  | cons s slots ih =>
    rw [assign_cons, h s (List.mem_cons_self ..), List.set_replicate_self]
    exact ih fun s' hs' => h s' (List.mem_cons_of_mem _ hs')

end Scatter
