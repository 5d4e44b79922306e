/-
  Computations that read and write a state and may fail, with what they wrote before they
  failed kept. Nothing here names the code that is verified.

  * `Effect.run_bind_eq_ok`: a sequence succeeds when its parts do, one after the other.
  * `Effect.Within.mapM`: what holds of every pass of a loop, in success and in failure, holds
    of the loop.
-/
import Mathlib.Data.List.Basic
import Mathlib.Order.Defs.PartialOrder

namespace RustSem

/-- A computation over the state `σ` that may fail with an `ε`. -/
abbrev Effect (σ ε α : Type) : Type := ExceptT ε (StateM σ) α

namespace Effect

variable {σ ε α β : Type}

/-- The computation from the state `s`: its result, and the state it leaves. -/
def run (x : Effect σ ε α) (s : σ) : Except ε α × σ := StateT.run (ExceptT.run x) s

@[simp] theorem run_pure (a : α) (s : σ) : run (pure a : Effect σ ε α) s = (.ok a, s) := rfl

@[simp] theorem run_throw (e : ε) (s : σ) :
    run (throw e : Effect σ ε α) s = (.error e, s) := rfl

@[simp] theorem run_modify (f : σ → σ) (s : σ) :
    run (modify f : Effect σ ε PUnit) s = (.ok ⟨⟩, f s) := rfl

@[simp] theorem run_get (s : σ) : run (get : Effect σ ε σ) s = (.ok s, s) := rfl

theorem run_bind_of_ok {x : Effect σ ε α} {f : α → Effect σ ε β} {s s' : σ} {a : α}
    (h : run x s = (.ok a, s')) : run (x >>= f) s = run (f a) s' := by
  have hx : (x : StateM σ (Except ε α)) s = (.ok a, s') := h
  show (ExceptT.bindCont f ((x : StateM σ (Except ε α)) s).1) ((x : StateM σ (Except ε α)) s).2 = _
  rw [hx]
  rfl

theorem run_bind_of_error {x : Effect σ ε α} {f : α → Effect σ ε β} {s s' : σ} {e : ε}
    (h : run x s = (.error e, s')) : run (x >>= f) s = (.error e, s') := by
  have hx : (x : StateM σ (Except ε α)) s = (.error e, s') := h
  show (ExceptT.bindCont f ((x : StateM σ (Except ε α)) s).1) ((x : StateM σ (Except ε α)) s).2 = _
  rw [hx]
  rfl

@[simp] theorem run_get_bind {f : σ → Effect σ ε β} (s : σ) :
    run (get >>= f) s = run (f s) s := run_bind_of_ok (run_get s)

@[simp] theorem run_modify_bind {g : σ → σ} {f : PUnit → Effect σ ε β} (s : σ) :
    run (modify g >>= f) s = run (f ⟨⟩) (g s) := run_bind_of_ok (run_modify g s)

theorem run_bind_eq_ok {x : Effect σ ε α} {f : α → Effect σ ε β} {s s'' : σ} {b : β} :
    run (x >>= f) s = (.ok b, s'') ↔
      ∃ a s', run x s = (.ok a, s') ∧ run (f a) s' = (.ok b, s'') := by
  rcases hx : run x s with ⟨r, s'⟩
  cases r with
  | ok a =>
    rw [run_bind_of_ok hx]
    constructor
    · intro h
      exact ⟨a, s', rfl, h⟩
    · rintro ⟨_, _, h, h'⟩
      cases h
      exact h'
  | error e =>
    rw [run_bind_of_error hx]
    simp

/-! ## What every run keeps -/

/-- Every run of `x` goes along `R`, and fails only with an error in `E`. -/
def Within (R : σ → σ → Prop) (E : ε → Prop) (x : Effect σ ε α) : Prop :=
  ∀ s, R s (run x s).2 ∧ ∀ e, (run x s).1 = .error e → E e

namespace Within

variable {R : σ → σ → Prop} {E : ε → Prop} {x : Effect σ ε α}

theorem pure [Std.Refl R] (a : α) : Within R E (Pure.pure a : Effect σ ε α) := fun s =>
  ⟨refl_of R s, fun e h => by cases h⟩

theorem throw [Std.Refl R] {e : ε} (he : E e) :
    Within R E (MonadExcept.throw e : Effect σ ε α) := fun s =>
  ⟨refl_of R s, fun e' h => by cases h; exact he⟩

theorem bind [IsTrans σ R] {f : α → Effect σ ε β} (hx : Within R E x)
    (hf : ∀ a, Within R E (f a)) : Within R E (x >>= f) := by
  intro s
  obtain ⟨hR, hE⟩ := hx s
  rcases hrun : run x s with ⟨r, s'⟩
  rw [hrun] at hR hE
  cases r with
  | ok a =>
    rw [run_bind_of_ok hrun]
    exact ⟨trans_of R hR (hf a s').1, (hf a s').2⟩
  | error e =>
    rw [run_bind_of_error hrun]
    refine ⟨hR, ?_⟩
    intro e' h
    cases h
    exact hE e rfl

theorem mapM [Std.Refl R] [IsTrans σ R] {f : α → Effect σ ε β} {l : List α}
    (hf : ∀ a ∈ l, Within R E (f a)) : Within R E (l.mapM f) := by
  induction l with
  | nil => exact Within.pure []
  | cons a l ih =>
    rw [List.mapM_cons]
    apply (hf a (List.mem_cons_self ..)).bind
    intro b
    apply (ih fun a' ha' => hf a' (List.mem_cons_of_mem a ha')).bind
    intro bs
    exact Within.pure (b :: bs)

end Within

end Effect

end RustSem
