/-
  Insertion-ordered dictionaries, as lists of entries.

  A key is looked up at its first entry (`List.lookup`). `insert` overwrites the value of a
  key that is there, in its place, and appends a new key at the end.

  * `insertAll_eq_append`: distinct new keys are appended in order.
  * `mem_insertAll_nil`: of the values inserted under one key, the last one stays.
  * `lookup_insert`: a key is looked up as it was inserted last.
-/
import Mathlib.Data.List.Nodup

namespace Dict

variable {κ ν : Type} [DecidableEq κ]

/-- Overwrite the value of `k`, or append it. -/
def insert : List (κ × ν) → κ → ν → List (κ × ν)
  | [], k, v => [(k, v)]
  | (k', v') :: d, k, v => if k' = k then (k', v) :: d else (k', v') :: insert d k v

/-- Insert entries one after the other. -/
def insertAll (d : List (κ × ν)) (es : List (κ × ν)) : List (κ × ν) :=
  es.foldl (fun d e => insert d e.1 e.2) d

theorem insertAll_cons (d : List (κ × ν)) (e : κ × ν) (es : List (κ × ν)) :
    insertAll d (e :: es) = insertAll (insert d e.1 e.2) es := rfl

theorem insert_of_notMem (d : List (κ × ν)) (k : κ) (v : ν) (h : k ∉ d.map Prod.fst) :
    insert d k v = d ++ [(k, v)] := by
  induction d with
  | nil => rfl
  | cons e d ih =>
    rw [List.map_cons, List.mem_cons, not_or] at h
    rw [insert, if_neg (Ne.symm h.1), ih h.2, List.cons_append]

/-- Distinct new keys are appended in order. -/
theorem insertAll_eq_append (d es : List (κ × ν)) (h : ((d ++ es).map Prod.fst).Nodup) :
    insertAll d es = d ++ es := by
  induction es generalizing d with
  | nil => rw [List.append_nil]; rfl
  | cons e es ih =>
    have hnot : e.1 ∉ d.map Prod.fst := by
      intro hm
      rw [List.map_append, List.nodup_append] at h
      exact h.2.2 _ hm _ (List.mem_cons_self ..) rfl
    rw [insertAll_cons, insert_of_notMem d e.1 e.2 hnot, ih, List.append_assoc]
    · rfl
    · rw [List.append_assoc]
      exact h

theorem map_fst_insert (d : List (κ × ν)) (k : κ) (v : ν) :
    (insert d k v).map Prod.fst =
      if k ∈ d.map Prod.fst then d.map Prod.fst else d.map Prod.fst ++ [k] := by
  induction d with
  | nil => rfl
  | cons e d ih =>
    rw [insert]
    by_cases he : e.1 = k
    · rw [if_pos he, if_pos (by rw [List.map_cons, he]; exact List.mem_cons_self ..)]
      rfl
    · rw [if_neg he, List.map_cons, ih]
      by_cases hm : k ∈ d.map Prod.fst
      · have hn : k ∈ (e :: d).map Prod.fst := List.mem_cons_of_mem _ hm
        rw [if_pos hm, if_pos hn]
        rfl
      · have hn : k ∉ (e :: d).map Prod.fst := by
          rw [List.map_cons, List.mem_cons, not_or]
          exact ⟨Ne.symm he, hm⟩
        rw [if_neg hm, if_neg hn]
        rfl

theorem lookup_cons_eq (e : κ × ν) (d : List (κ × ν)) (k : κ) :
    (e :: d).lookup k = if k = e.1 then some e.2 else d.lookup k := by
  rw [List.lookup_cons]
  by_cases h : k = e.1
  · rw [if_pos h, beq_iff_eq.mpr h]
  · rw [if_neg h, beq_eq_false_iff_ne.mpr h]

/-- A key is looked up as it was inserted last. -/
theorem lookup_insert (d : List (κ × ν)) (k k' : κ) (v : ν) :
    (insert d k v).lookup k' = if k' = k then some v else d.lookup k' := by
  induction d with
  | nil => rw [insert, lookup_cons_eq]
  | cons e d ih =>
    rw [insert]
    by_cases he : e.1 = k
    · rw [if_pos he, lookup_cons_eq, lookup_cons_eq, he]
      by_cases h : k' = k
      · rw [if_pos h, if_pos h]
      · rw [if_neg h, if_neg h, if_neg h]
    · rw [if_neg he, lookup_cons_eq, lookup_cons_eq, ih]
      by_cases h : k' = e.1
      · rw [if_pos h, if_pos h, if_neg (h ▸ he)]
      · rw [if_neg h, if_neg h]

theorem nodup_insert (d : List (κ × ν)) (k : κ) (v : ν) (h : (d.map Prod.fst).Nodup) :
    ((insert d k v).map Prod.fst).Nodup := by
  rw [map_fst_insert]
  split
  · exact h
  · next hn =>
    rw [← List.concat_eq_append]
    exact h.concat hn

/-- The entries after an insertion: the new one and those of the other keys. -/
theorem mem_insert (d : List (κ × ν)) (k : κ) (v : ν) (h : (d.map Prod.fst).Nodup) (x : κ × ν) :
    x ∈ insert d k v ↔ x = (k, v) ∨ x ∈ d ∧ x.1 ≠ k := by
  induction d with
  | nil => simp [insert]
  | cons e d ih =>
    rw [List.map_cons, List.nodup_cons] at h
    rw [insert]
    by_cases he : e.1 = k
    · rw [if_pos he, List.mem_cons, List.mem_cons]
      constructor
      · rintro (rfl | hx)
        · exact Or.inl (Prod.ext he rfl)
        · exact Or.inr ⟨Or.inr hx, fun hk => h.1 (he ▸ hk ▸ List.mem_map_of_mem hx)⟩
      · rintro (rfl | ⟨rfl | hx, hk⟩)
        · exact Or.inl (Prod.ext he.symm rfl)
        · exact absurd he hk
        · exact Or.inr hx
    · rw [if_neg he, List.mem_cons, List.mem_cons, ih h.2]
      constructor
      · rintro (rfl | rfl | ⟨hx, hk⟩)
        · exact Or.inr ⟨Or.inl rfl, he⟩
        · exact Or.inl rfl
        · exact Or.inr ⟨Or.inr hx, hk⟩
      · rintro (rfl | ⟨rfl | hx, hk⟩)
        · exact Or.inr (Or.inl rfl)
        · exact Or.inl rfl
        · exact Or.inr (Or.inr ⟨hx, hk⟩)

theorem mem_insertAll (d es : List (κ × ν)) (h : (d.map Prod.fst).Nodup) (x : κ × ν) :
    x ∈ insertAll d es ↔
      (x ∈ d ∧ x.1 ∉ es.map Prod.fst) ∨
        ∃ pre post, es = pre ++ x :: post ∧ x.1 ∉ post.map Prod.fst := by
  induction es generalizing d with
  | nil => simp [insertAll]
  | cons e es ih =>
    rw [insertAll_cons, ih _ (nodup_insert d e.1 e.2 h), mem_insert d e.1 e.2 h, List.map_cons,
      List.mem_cons, not_or]
    constructor
    · rintro (⟨rfl | ⟨hx, hk⟩, hn⟩ | ⟨pre, post, rfl, hn⟩)
      · exact Or.inr ⟨[], es, rfl, hn⟩
      · exact Or.inl ⟨hx, hk, hn⟩
      · exact Or.inr ⟨e :: pre, post, rfl, hn⟩
    · rintro (⟨hx, hk, hn⟩ | ⟨pre, post, hes, hn⟩)
      · exact Or.inl ⟨Or.inr ⟨hx, hk⟩, hn⟩
      · cases pre with
        | nil =>
          obtain ⟨rfl, rfl⟩ := List.cons.inj hes
          exact Or.inl ⟨Or.inl rfl, hn⟩
        | cons e' pre =>
          obtain ⟨rfl, rfl⟩ := List.cons.inj hes
          exact Or.inr ⟨pre, post, rfl, hn⟩

/-- Of the values inserted under one key, the last one stays. -/
theorem mem_insertAll_nil (es : List (κ × ν)) (x : κ × ν) :
    x ∈ insertAll [] es ↔ ∃ pre post, es = pre ++ x :: post ∧ x.1 ∉ post.map Prod.fst := by
  rw [mem_insertAll [] es List.nodup_nil]
  exact or_iff_right fun h => List.not_mem_nil h.1

end Dict
