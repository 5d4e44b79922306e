/-
  Two computations that take the same course: both succeed with related values, or both fail
  with related errors. The relation goes through binds and loops, so two programs written step
  for step alike agree as soon as their steps do. Nothing here names the code that is verified.

  * `Agree.bind`, `Agree.foldlM`: sequencing, and a loop whose states stay related.
  * `Agree.exists_ok`, `Agree.exists_ok'`: a success of one is a success of the other.
-/
import GputoolsReplay.Lib.Rust

namespace RustSem

variable {ε ε' α β γ δ ι : Type} {E : ε → ε' → Prop} {R : α → β → Prop} {S : γ → δ → Prop}

/-- Values related by `R`, or errors related by `E`. -/
inductive Agree (E : ε → ε' → Prop) (R : α → β → Prop) : Except ε α → Except ε' β → Prop where
  | ok {a : α} {b : β} : R a b → Agree E R (.ok a) (.ok b)
  | error {e : ε} {e' : ε'} : E e e' → Agree E R (.error e) (.error e')

namespace Agree

theorem bind {x : Except ε α} {y : Except ε' β} {k : α → Except ε γ} {k' : β → Except ε' δ}
    (h : Agree E R x y) (hk : ∀ a b, R a b → Agree E S (k a) (k' b)) :
    Agree E S (x >>= k) (y >>= k') := by
  cases h with
  | ok hab => exact hk _ _ hab
  | error he => exact .error he

/-- The common case, where both computations find the same value. -/
theorem bind_eq {x : Except ε α} {y : Except ε' α} {k : α → Except ε γ} {k' : α → Except ε' δ}
    (h : Agree E Eq x y) (hk : ∀ a, Agree E S (k a) (k' a)) : Agree E S (x >>= k) (y >>= k') := by
  apply h.bind
  intro a b hab
  subst hab
  exact hk a

/-- Two loops over one list, whose turns keep the states related. -/
theorem foldlM {f : γ → ι → Except ε γ} {g : δ → ι → Except ε' δ}
    (hturn : ∀ s t i, S s t → Agree E S (f s i) (g t i)) (l : List ι) {s : γ} {t : δ}
    (hst : S s t) : Agree E S (l.foldlM f s) (l.foldlM g t) := by
  induction l generalizing s t with
  | nil => exact .ok hst
  | cons i l ih =>
    rw [List.foldlM_cons, List.foldlM_cons]
    apply (hturn s t i hst).bind
    intro s' t' hst'
    exact ih hst'

theorem exists_ok {x : Except ε α} {y : Except ε' β} {a : α} (h : Agree E R x y)
    (hx : x = .ok a) : ∃ b, y = .ok b ∧ R a b := by
  cases h with
  | ok hab =>
    cases hx
    exact ⟨_, rfl, hab⟩
  | error _ => cases hx

theorem exists_ok' {x : Except ε α} {y : Except ε' β} {b : β} (h : Agree E R x y)
    (hy : y = .ok b) : ∃ a, x = .ok a ∧ R a b := by
  cases h with
  | ok hab =>
    cases hy
    exact ⟨_, rfl, hab⟩
  | error _ => cases hy

end Agree

end RustSem
