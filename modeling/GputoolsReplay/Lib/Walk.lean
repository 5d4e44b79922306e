/-
  Walks of a given number of steps along a relation.

  * `walk_unbounded_of_cycle`: where a cycle can be reached, walks are as long as one likes.
-/
import Mathlib.Logic.Relation

namespace Steps

variable {α : Type} {R : α → α → Prop}

/-- `b` is reached from `a` in exactly `n` steps. -/
inductive Walk (R : α → α → Prop) : Nat → α → α → Prop where
  | refl (a : α) : Walk R 0 a a
  | step {n : Nat} {a b c : α} : R a b → Walk R n b c → Walk R (n + 1) a c

theorem walk_trans {m n : Nat} {a b c : α} (h : Walk R m a b) (h' : Walk R n b c) :
    Walk R (m + n) a c := by
  induction h with
  | refl a => rwa [Nat.zero_add]
  | step hab _ ih =>
    rw [Nat.succ_add]
    exact .step hab (ih h')

theorem reflTransGen_iff {a b : α} : Relation.ReflTransGen R a b ↔ ∃ n, Walk R n a b := by
  constructor
  · intro h
    induction h using Relation.ReflTransGen.head_induction_on with
    | refl => exact ⟨0, .refl b⟩
    | head hab _ ih =>
      obtain ⟨n, hn⟩ := ih
      exact ⟨n + 1, .step hab hn⟩
  · intro h
    obtain ⟨n, h⟩ := h
    induction h with
    | refl a => exact .refl
    | step hab _ ih => exact .head hab ih

/-- Everything that can be reached has `P` when the start has it and so has everything
    reached from a next node. -/
theorem forall_reachable_iff {P : α → Prop} {a : α} :
    (∀ w, Relation.ReflTransGen R a w → P w) ↔
      P a ∧ ∀ b, R a b → ∀ w, Relation.ReflTransGen R b w → P w := by
  constructor
  · exact fun h => ⟨h a .refl, fun b hab w hw => h w (.head hab hw)⟩
  · intro h' w hw
    obtain ⟨ha, hnext⟩ := h'
    rcases Relation.ReflTransGen.cases_head hw with rfl | ⟨b, hab, hbw⟩
    · exact ha
    · exact hnext b hab w hbw

/-- Walks are bounded when those from every next node are. -/
theorem forall_length_iff {a : α} {k : Nat} :
    (∀ n w, Walk R n a w → n < k + 1) ↔ ∀ b, R a b → ∀ n w, Walk R n b w → n < k := by
  constructor
  · intro h b hab n w hw
    have := h (n + 1) w (.step hab hw)
    omega
  · intro h n w hw
    cases hw with
    | refl => omega
    | step hab hbw =>
      have := h _ hab _ w hbw
      omega

/-- Where a cycle can be reached, walks are as long as one likes. -/
theorem walk_unbounded_of_cycle {a b : α} {m : Nat} (h : Relation.ReflTransGen R a b)
    (hcycle : Walk R (m + 1) b b) (k : Nat) : ∃ n, k ≤ n ∧ Walk R n a b := by
  obtain ⟨j, hj⟩ := reflTransGen_iff.mp h
  induction k with
  | zero => exact ⟨j, Nat.zero_le _, hj⟩
  | succ k ih =>
    obtain ⟨n, hn, hw⟩ := ih
    exact ⟨n + (m + 1), by omega, walk_trans hw hcycle⟩

end Steps
