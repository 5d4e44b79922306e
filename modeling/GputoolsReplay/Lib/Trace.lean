/-
  Runs of a machine with a partial step function.

  * `run_append`, `run_split`: a run over a concatenation is two runs.
  * `run_carries`, `run_induction`: what every event carries on, a run carries on.
  * `once_at`: an event of a kind that occurs once has one place in a run.
-/

namespace Trace

variable {σ ε : Type} {step : σ → ε → Option σ}

/-- The state after a list of events, when each of them can happen where it stands. -/
def run (step : σ → ε → Option σ) (s : σ) : List ε → Option σ
  | [] => some s
  | e :: tr => (step s e).bind fun s' => run step s' tr

theorem run_append (s : σ) (tr tr' : List ε) :
    run step s (tr ++ tr') = (run step s tr).bind fun s' => run step s' tr' := by
  induction tr generalizing s with
  | nil => rfl
  | cons e tr ih =>
    rw [List.cons_append, run, run]
    cases step s e with
    | none => rfl
    | some s' => exact ih s'

/-- A run through `e` has a state before `e`, a state after it, and the two runs around. -/
theorem run_split {s s' : σ} {tr tr' : List ε} {e : ε} (h : run step s (tr ++ e :: tr') = some s') :
    ∃ s₁ s₂, run step s tr = some s₁ ∧ step s₁ e = some s₂ ∧ run step s₂ tr' = some s' := by
  rw [run_append, Option.bind_eq_some_iff] at h
  obtain ⟨s₁, h₁, h⟩ := h
  rw [run, Option.bind_eq_some_iff] at h
  obtain ⟨s₂, h₂, h⟩ := h
  exact ⟨s₁, s₂, h₁, h₂, h⟩

/-- Induction along a run: what every event carries on, a run carries on. -/
theorem run_carries {P : List ε → σ → Prop}
    (hstep : ∀ tr s e s', P tr s → step s e = some s' → P (tr ++ [e]) s')
    {tr tr' : List ε} {s s' : σ} (h : P tr s) (hr : run step s tr' = some s') :
    P (tr ++ tr') s' := by
  induction tr' generalizing tr s with
  | nil =>
    cases hr
    rwa [List.append_nil]
  | cons e tr' ih =>
    rw [run, Option.bind_eq_some_iff] at hr
    obtain ⟨s₁, h₁, hr⟩ := hr
    have h' := ih (hstep tr s e s₁ h h₁) hr
    rwa [List.append_assoc] at h'

/-- The same from one state on, with the run so far at hand. -/
theorem run_induction {P : List ε → σ → Prop} {s₀ : σ} (hinit : P [] s₀)
    (hstep : ∀ tr s e s', run step s₀ tr = some s → P tr s → step s e = some s' → P (tr ++ [e]) s')
    {tr : List ε} {s : σ} (h : run step s₀ tr = some s) : P tr s := by
  have hcarry : ∀ tr s e s', run step s₀ tr = some s ∧ P tr s → step s e = some s' →
      run step s₀ (tr ++ [e]) = some s' ∧ P (tr ++ [e]) s' := by
    intro tr s e s' hs he
    refine ⟨?_, hstep tr s e s' hs.1 hs.2 he⟩
    rw [run_append, hs.1]
    simp [run, he]
  have hstart : run step s₀ [] = some s₀ ∧ P [] s₀ := ⟨rfl, hinit⟩
  exact (run_carries hcarry hstart h).2

/-! ## Events that occur once -/

section Once

variable {β : Type} {g : ε → Option β} {tr pre pre' post post' : List ε} {e e' : ε}

/-- Nothing of its kind stands before an event that occurs once. -/
theorem filterMap_before (hone : ((pre ++ e :: post).filterMap g).length ≤ 1)
    (he : (g e).isSome) : pre.filterMap g = [] := by
  obtain ⟨b, hb⟩ := Option.isSome_iff_exists.mp he
  rw [List.filterMap_append, List.filterMap_cons_some hb, List.length_append,
    List.length_cons] at hone
  exact List.length_eq_zero_iff.mp (by omega)

/-- An event does not stand in a list without events of its kind. -/
theorem filterMap_ne_nil (he : (g e).isSome) : (pre ++ e :: post).filterMap g ≠ [] := by
  obtain ⟨b, hb⟩ := Option.isSome_iff_exists.mp he
  rw [List.filterMap_append, List.filterMap_cons_some hb]
  exact List.append_ne_nil_of_right_ne_nil _ (List.cons_ne_nil b _)

/-- An event of a kind that occurs once has one place. -/
theorem once_at (hone : (tr.filterMap g).length ≤ 1) (h : tr = pre ++ e :: post)
    (he : (g e).isSome) (h' : tr = pre' ++ e' :: post') (he' : (g e').isSome) : pre = pre' := by
  have hpre : pre.filterMap g = [] := filterMap_before (h ▸ hone) he
  have hpre' : pre'.filterMap g = [] := filterMap_before (h' ▸ hone) he'
  rcases List.append_eq_append_iff.mp (h.symm.trans h') with ⟨l, rfl, hl⟩ | ⟨l, rfl, hl⟩
  · cases l with
    | nil => exact (List.append_nil pre).symm
    | cons x l =>
      obtain ⟨rfl, _⟩ := List.cons.inj hl
      exact absurd hpre' (filterMap_ne_nil he)
  · cases l with
    | nil => exact List.append_nil pre'
    | cons x l =>
      obtain ⟨rfl, _⟩ := List.cons.inj hl
      exact absurd hpre (filterMap_ne_nil he')

end Once

end Trace
