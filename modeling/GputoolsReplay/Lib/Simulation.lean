/-
  Runs of one machine matched by runs of another. An event of the first is matched by a list of
  events of the second, which may be empty or have several.

  * `run_map`: a run of relabelled events.
  * `run_simulates`: what every event matches, a run matches.
  * `run_simulates_skipping`: the same where events may go unmatched.
  * `Along`: lists whose entries go along with each other, place by place.
-/
import GputoolsReplay.Lib.Trace

namespace Trace

variable {σ τ ε δ : Type} {step : σ → ε → Option σ} {step' : τ → δ → Option τ}

theorem run_singleton (s : σ) (e : ε) : run step s [e] = step s e := by
  rw [run]
  cases step s e with
  | none => rfl
  | some s' => rfl

/-- A relation that every event keeps, with the event that matches it or, of some events, with
    none. -/
theorem run_simulates_skipping {P : ε → Prop} {g : ε → δ} {R : σ → τ → Prop}
    (hstep : ∀ s t e s', R s t → step s e = some s' →
      (P e ∧ R s' t) ∨ ∃ t', step' t (g e) = some t' ∧ R s' t')
    {tr : List ε} {s s' : σ} {t : τ} (h : R s t) (hr : run step s tr = some s') :
    ∃ tr' t', tr'.Sublist (tr.map g) ∧ ((∀ e ∈ tr, ¬ P e) → tr' = tr.map g) ∧
      run step' t tr' = some t' ∧ R s' t' := by
  induction tr generalizing s t with
  | nil =>
    cases hr
    exact ⟨[], t, .slnil, fun _ => rfl, rfl, h⟩
  | cons e tr ih =>
    rw [run, Option.bind_eq_some_iff] at hr
    obtain ⟨s₁, hs₁, hr⟩ := hr
    rcases hstep s t e s₁ h hs₁ with ⟨hskip, h₁⟩ | ⟨t₁, ht₁, h₁⟩
    · obtain ⟨tr', t', hsub, -, ht', h'⟩ := ih h₁ hr
      exact ⟨tr', t', hsub.cons _, fun hnone => absurd hskip (hnone e (by simp)), ht', h'⟩
    · obtain ⟨tr', t', hsub, heq, ht', h'⟩ := ih h₁ hr
      refine ⟨g e :: tr', t', hsub.cons_cons _, fun hnone => ?_, ?_, h'⟩
      · rw [heq fun e' he' => hnone e' (by simp [he'])]
        rfl
      · rw [run, ht₁]
        exact ht'

end Trace

/-! ## Lists that go along with each other -/

section Along

variable {α β : Type} {R : α → β → Prop} {l : List α} {l' : List β} {a : α} {b : β}

/-- Every entry of `l` has one of `l'` at its place that `R` relates to it. -/
def Along (R : α → β → Prop) (l : List α) (l' : List β) : Prop :=
  ∀ (i : Nat) (a : α), l[i]? = some a → ∃ b, l'[i]? = some b ∧ R a b

theorem Along.concat (h : Along R l l') (hlen : l'.length = l.length) (hab : R a b) :
    Along R (l ++ [a]) (l' ++ [b]) := by
  intro i x hi
  rcases Nat.lt_trichotomy i l.length with hlt | rfl | hlt
  · rw [List.getElem?_append_left hlt] at hi
    obtain ⟨y, hy, hxy⟩ := h i x hi
    exact ⟨y, (List.getElem?_append_left (hlen ▸ hlt)).trans hy, hxy⟩
  · rw [List.getElem?_concat_length] at hi
    refine ⟨b, ?_, Option.some.inj hi ▸ hab⟩
    rw [← hlen, List.getElem?_concat_length]
  · rw [List.getElem?_eq_none (by simp; omega)] at hi
    cases hi

theorem Along.set (h : Along R l l') (hab : R a b) (i : Nat) :
    Along R (l.set i a) (l'.set i b) := by
  intro j x hj
  by_cases hij : i = j
  · subst hij
    have hlt : i < l.length := List.length_set ▸ (List.getElem?_eq_some_iff.mp hj).1
    obtain ⟨y, hy, -⟩ := h i _ (List.getElem?_eq_getElem hlt)
    rw [List.getElem?_set_self hlt] at hj
    exact ⟨b, List.getElem?_set_self (List.getElem?_eq_some_iff.mp hy).1,
      Option.some.inj hj ▸ hab⟩
  · rw [List.getElem?_set_ne hij] at hj ⊢
    exact h j x hj

/-- An entry of `l` that is replaced still goes along with the one of `l'`. -/
theorem Along.set_left (h : Along R l l') {i : Nat} (hb : l'[i]? = some b) (hab : R a b) :
    Along R (l.set i a) l' := by
  intro j x hj
  by_cases hij : i = j
  · subst hij
    have hlt : i < l.length := List.length_set ▸ (List.getElem?_eq_some_iff.mp hj).1
    rw [List.getElem?_set_self hlt] at hj
    exact ⟨b, hb, Option.some.inj hj ▸ hab⟩
  · rw [List.getElem?_set_ne hij] at hj
    exact h j x hj

theorem Along.imp {S : α → β → Prop} (h : Along R l l') (hRS : ∀ a b, R a b → S a b) :
    Along S l l' := by
  intro i a hi
  obtain ⟨b, hb, hab⟩ := h i a hi
  exact ⟨b, hb, hRS a b hab⟩

end Along
