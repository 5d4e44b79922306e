/-
  Loops that fill an ordered map (`BTreeMap`), and the search for its greatest value.

  * `getElem?_insertAll`: of the values inserted under one key, the last one stays.
  * `getElem?_tally`, `mem_toList_tally`: an entry says how often its key came.
  * `maxByKey_spec`: of the members with the greatest key, the last one is found.
-/
import Mathlib.Data.List.Dedup
import Mathlib.Data.List.Induction

namespace RustSem

variable {α β γ : Type}

/-! ## Filling a map -/

section Maps

variable [Ord α] [Std.TransOrd α] [Std.LawfulEqOrd α]

/-- A loop of `BTreeMap::insert`. -/
def insertAll (key : γ → α) (value : γ → β) (t : Std.TreeMap α β) (l : List γ) :
    Std.TreeMap α β :=
  l.foldl (fun t x => t.insert (key x) (value x)) t

/-- A loop that counts: `*entry(a).or_default() += 1`. -/
def tally (t : Std.TreeMap α Nat) (l : List α) : Std.TreeMap α Nat :=
  l.foldl (fun t a => t.alter a fun n => some (n.getD 0 + 1)) t

/-- Of the values inserted under one key, the last one stays. -/
theorem getElem?_insertAll [DecidableEq α] (key : γ → α) (value : γ → β) (t : Std.TreeMap α β)
    (l : List γ) (k : α) :
    (insertAll key value t l)[k]? =
      (((l.filter fun x => key x = k).getLast?).map value).or t[k]? := by
  induction l generalizing t with
  | nil => rfl
  | cons x l ih =>
    have hstep : insertAll key value t (x :: l) =
        insertAll key value (t.insert (key x) (value x)) l := rfl
    rw [hstep, ih, Std.TreeMap.getElem?_insert]
    by_cases hx : key x = k
    · rw [List.filter_cons_of_pos (by simpa using hx), List.getLast?_cons,
        if_pos (Std.LawfulEqOrd.compare_eq_iff_eq.mpr hx)]
      cases (l.filter fun x => key x = k).getLast? <;> rfl
    · rw [List.filter_cons_of_neg (by simpa using hx),
        if_neg fun h => hx (Std.LawfulEqOrd.compare_eq_iff_eq.mp h)]

/-- An entry says how often its key came. -/
theorem getElem?_tally [BEq α] [LawfulBEq α] (t : Std.TreeMap α Nat) (l : List α) (k : α) :
    (tally t l)[k]? = if k ∈ l then some (t[k]?.getD 0 + l.count k) else t[k]? := by
  induction l generalizing t with
  | nil => rfl
  | cons a l ih =>
    have hstep : tally t (a :: l) = tally (t.alter a fun n => some (n.getD 0 + 1)) l := rfl
    rw [hstep, ih, Std.TreeMap.getElem?_alter]
    by_cases ha : a = k
    · subst ha
      by_cases hmem : a ∈ l
      · simp [hmem, Nat.add_assoc, Nat.add_comm]
      · simp [hmem, List.count_eq_zero_of_not_mem hmem]
    · have hk : k ≠ a := fun h => ha h.symm
      simp [ha, hk]

/-- The entries of a tally. -/
theorem mem_toList_tally [BEq α] [LawfulBEq α] {l : List α} {a : α} {n : Nat} :
    (a, n) ∈ (tally ∅ l).toList ↔ a ∈ l ∧ n = l.count a := by
  rw [Std.TreeMap.mem_toList_iff_getElem?_eq_some, getElem?_tally, Std.TreeMap.getElem?_emptyc]
  by_cases ha : a ∈ l
  · rw [if_pos ha, Option.getD_none, Nat.zero_add, Option.some.injEq, eq_comm]
    exact ⟨fun h => ⟨ha, h⟩, And.right⟩
  · simp [ha]

end Maps

/-! ## The greatest value -/

/-- The better one of the best so far and the next. -/
def laterMax (key : γ → Nat) : Option γ → γ → Option γ
  | none, x => some x
  | some b, x => some (if key b ≤ key x then x else b)

/-- `Iterator::max_by_key`. -/
def maxByKey (key : γ → Nat) (l : List γ) : Option γ := l.foldl (laterMax key) none

theorem maxByKey_append (key : γ → Nat) (l : List γ) (x : γ) :
    maxByKey key (l ++ [x]) = laterMax key (maxByKey key l) x := by
  rw [maxByKey, List.foldl_append]
  rfl

/-- Nothing is found in an empty list only; else a member, whose key no later member reaches and
    no earlier one exceeds. -/
theorem maxByKey_spec (key : γ → Nat) (l : List γ) :
    (l = [] ∧ maxByKey key l = none) ∨
      ∃ before b after, l = before ++ b :: after ∧ maxByKey key l = some b ∧
        (∀ x ∈ before, key x ≤ key b) ∧ ∀ x ∈ after, key x < key b := by
  induction l using List.reverseRecOn with
  | nil => exact .inl ⟨rfl, rfl⟩
  | append_singleton l x ih =>
    right
    rcases ih with ⟨rfl, -⟩ | ⟨before, b, after, rfl, hmax, hbefore, hafter⟩
    · exact ⟨[], x, [], rfl, rfl, by simp, by simp⟩
    · by_cases hx : key b ≤ key x
      · refine ⟨before ++ b :: after, x, [], rfl, ?_, ?_, by simp⟩
        · rw [maxByKey_append, hmax]
          exact congrArg some (if_pos hx)
        · intro y hy
          rcases List.mem_append.mp hy with hy | hy
          · exact Nat.le_trans (hbefore y hy) hx
          rcases List.mem_cons.mp hy with rfl | hy
          · exact hx
          · exact Nat.le_trans (Nat.le_of_lt (hafter y hy)) hx
      · refine ⟨before, b, after ++ [x], by simp, ?_, hbefore, ?_⟩
        · rw [maxByKey_append, hmax]
          exact congrArg some (if_neg hx)
        · intro y hy
          rcases List.mem_append.mp hy with hy | hy
          · exact hafter y hy
          · obtain rfl := List.mem_singleton.mp hy
            omega

end RustSem
