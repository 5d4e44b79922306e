/-
  A flag that any number of parties test and set, once each, and that nobody clears.

  * `Step`: what one event does to the flag and to the phases of the parties.
  * `once_step`: the party that found the flag unset is the first one that swapped, and the
    only one that works behind it.
-/
import Mathlib.Logic.Function.Basic

namespace OneShot

/-- Where a party stands. -/
inductive Phase where
  /-- It has not swapped yet. -/
  | before
  /-- It went away without a swap. -/
  | away
  /-- It found the flag set. -/
  | refused
  /-- It found the flag unset. -/
  | inside
  deriving DecidableEq, Repr

inductive Label (τ : Type) where
  /-- Nobody swaps. -/
  | look
  | swap (t : τ)
  /-- A step behind the flag. -/
  | work (t : τ)

structure Machine (τ : Type) where
  flag : Bool
  phase : τ → Phase

variable {τ : Type}

inductive Step [DecidableEq τ] (m : Machine τ) : Label τ → Machine τ → Prop where
  | look : Step m .look m
  | leave {t : τ} : m.phase t = .before →
      Step m .look { m with phase := Function.update m.phase t .away }
  | swap {t : τ} : m.phase t = .before →
      Step m (.swap t)
        { flag := true
          phase := Function.update m.phase t (if m.flag then .refused else .inside) }
  | work {t : τ} : m.phase t = .inside → Step m (.work t) m

/-- The parties that swapped, in the order of their swaps. -/
def swaps (ls : List (Label τ)) : List τ :=
  ls.filterMap fun
    | .swap t => some t
    | _ => none

/-- What the events so far say of the flag and of every party. -/
structure Once (ls : List (Label τ)) (m : Machine τ) : Prop where
  flag : m.flag = true ↔ swaps ls ≠ []
  inside : ∀ t, m.phase t = .inside ↔ (swaps ls).head? = some t
  swapped : ∀ t, t ∈ swaps ls ↔ m.phase t = .refused ∨ m.phase t = .inside
  work : ∀ t, .work t ∈ ls → (swaps ls).head? = some t

theorem mem_swaps {ls : List (Label τ)} {t : τ} : t ∈ swaps ls ↔ .swap t ∈ ls := by
  unfold swaps
  rw [List.mem_filterMap]
  constructor
  · intro h'
    obtain ⟨l, hl, ht⟩ := h'
    cases l with
    | swap u =>
      cases ht
      exact hl
    | look | work => cases ht
  · exact fun h => ⟨_, h, rfl⟩

theorem once_init : Once ([] : List (Label τ)) { flag := false, phase := fun _ => .before } :=
  ⟨by simp [swaps], by simp [swaps], by simp [swaps], by simp⟩

variable {ls : List (Label τ)} {m m' : Machine τ} {l : Label τ}

theorem swaps_look : swaps (ls ++ [.look]) = swaps ls := by
  simp [swaps]

theorem swaps_work (t : τ) : swaps (ls ++ [.work t]) = swaps ls := by
  simp [swaps]

theorem swaps_swap (t : τ) : swaps (ls ++ [.swap t]) = swaps ls ++ [t] := by
  simp [swaps]

theorem Once.swaps_eq_nil (h : Once ls m) (hflag : m.flag = false) : swaps ls = [] := by
  by_contra hne
  rw [h.flag.mpr hne] at hflag
  cases hflag

/-- The first party to swap is the one that finds the flag unset. -/
theorem Once.head_swap (h : Once ls m) (t u : τ) :
    (swaps ls ++ [t]).head? = some u ↔ m.phase u = .inside ∨ m.flag = false ∧ t = u := by
  rw [h.inside u]
  cases hflag : m.flag with
  | false => simp [h.swaps_eq_nil hflag]
  | true =>
    obtain ⟨v, rest, hswaps⟩ := List.exists_cons_of_ne_nil (h.flag.mp hflag)
    simp [hswaps]

/-- The party inside is the only one, and nobody else works there. -/
theorem Once.inside_unique (h : Once ls m) {t u : τ} (ht : m.phase t = .inside)
    (hu : m.phase u = .inside ∨ .work u ∈ ls) : u = t := by
  have ht' := (h.inside t).mp ht
  have hu' := hu.elim (h.inside u).mp (h.work u)
  rw [ht'] at hu'
  exact (Option.some.inj hu').symm

/-- The flag is set as soon as a party is inside. -/
theorem Once.flag_of_inside (h : Once ls m) {t : τ} (ht : m.phase t = .inside) :
    m.flag = true := by
  have hhead := (h.inside t).mp ht
  refine h.flag.mpr fun hnil => ?_
  rw [hnil] at hhead
  cases hhead

variable [DecidableEq τ]

/-- A party that is not there yet swaps. -/
theorem Once.swap (h : Once ls m) {t : τ} (ht : m.phase t = .before) :
    Once (ls ++ [.swap t])
      { flag := true
        phase := Function.update m.phase t (if m.flag then .refused else .inside) } := by
  refine ⟨?_, fun u => ?_, fun u => ?_, fun u hu => ?_⟩
  · simp [swaps_swap]
  · rw [swaps_swap, h.head_swap t u]
    by_cases hu : u = t
    · subst hu
      cases hflag : m.flag <;> simp [ht]
    · simp [Function.update_of_ne hu, Ne.symm hu]
  · rw [swaps_swap, List.mem_append, h.swapped u]
    by_cases hu : u = t
    · subst hu
      cases hflag : m.flag <;> simp
    · simp [hu]
  · have hwork : .work u ∈ ls := by simpa using hu
    rw [swaps_swap, h.head_swap t u]
    exact Or.inl ((h.inside u).mpr (h.work u hwork))

/-- A party goes away without a swap. -/
theorem Once.leave (h : Once ls m) {t : τ} (ht : m.phase t = .before) :
    Once (ls ++ [.look]) { m with phase := Function.update m.phase t .away } := by
  refine ⟨?_, fun u => ?_, fun u => ?_, fun u hu => ?_⟩
  · rw [swaps_look]
    exact h.flag
  · rw [swaps_look, ← h.inside u]
    by_cases hu : u = t
    · subst hu
      simp [ht]
    · simp [Function.update_of_ne hu]
  · rw [swaps_look, h.swapped u]
    by_cases hu : u = t
    · subst hu
      simp [ht]
    · simp [Function.update_of_ne hu]
  · rw [swaps_look]
    exact h.work u (by simpa using hu)

/-- A step keeps what is known of the flag and of the parties. -/
theorem once_step (h : Once ls m) (hstep : Step m l m') : Once (ls ++ [l]) m' := by
  cases hstep with
  | look =>
    refine ⟨?_, ?_, ?_, fun u hu => ?_⟩ <;> rw [swaps_look]
    · exact h.flag
    · exact h.inside
    · exact h.swapped
    · exact h.work u (by simpa using hu)
  | leave ht => exact h.leave ht
  | swap ht => exact h.swap ht
  | @work t ht =>
    refine ⟨?_, ?_, ?_, fun u hu => ?_⟩ <;> rw [swaps_work]
    · exact h.flag
    · exact h.inside
    · exact h.swapped
    · have hu : .work u ∈ ls ∨ u = t := by simpa using hu
      rcases hu with hu | rfl
      · exact h.work u hu
      · exact (h.inside u).mp ht

end OneShot
