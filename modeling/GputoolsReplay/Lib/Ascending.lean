/-
  Strictly ascending lists: a sort of distinct keys, whatever order the keys came in.

  * `eq_of_mem_iff`: an ascending list is determined by its members.
  * `eq_of_key_eq`: it has one member for each key.
  * `IsGraph`: the ascending list of a finite partial function. Sorting its values over any
    list of keys that covers it gives it (`isGraph_insertionSort`), a search in it evaluates
    the function (`IsGraph.find_eq`), its keys are the sorted domain (`IsGraph.sorted_keys`).
-/
import Mathlib.Data.List.Sort

namespace Ascending

variable {α β : Type} [LT β] [Std.Asymm fun x y : β => x < y] {f : α → β}

/-- Strictly ascending by the key `f`. -/
def Asc (f : α → β) (l : List α) : Prop := l.Pairwise fun a b => f a < f b

theorem key_ne {a b : α} (h : f a < f b) : f a ≠ f b := fun heq => by
  rw [heq] at h
  exact Std.Asymm.asymm (r := fun x y : β => x < y) _ _ h h

theorem Asc.pairwise_ne {l : List α} (h : Asc f l) : l.Pairwise fun a b => f a ≠ f b :=
  List.Pairwise.imp key_ne h

theorem Asc.nodup {l : List α} (h : Asc f l) : l.Nodup :=
  h.pairwise_ne.imp fun hne heq => hne (congrArg f heq)

/-- An ascending list is determined by its members. -/
theorem eq_of_mem_iff {l l' : List α} (h : Asc f l) (h' : Asc f l')
    (hm : ∀ a, a ∈ l ↔ a ∈ l') : l = l' := by
  have hp : l.Perm l' := (List.perm_ext_iff_of_nodup h.nodup h'.nodup).mpr hm
  refine List.Perm.eq_of_pairwise (fun a b _ _ hab hba => ?_) h h' hp
  exact absurd hba (Std.Asymm.asymm (r := fun x y : β => x < y) _ _ hab)

/-- Two members of one key are the same. -/
theorem Asc.eq_of_key_eq {l : List α} (h : Asc f l) {a b : α} (ha : a ∈ l) (hb : b ∈ l)
    (hab : f a = f b) : a = b := by
  have hne : l.Pairwise fun a b => f a = f b → a = b :=
    h.pairwise_ne.imp fun hne heq => absurd heq hne
  have hflip : l.Pairwise (flip fun a b => f a = f b → a = b) :=
    h.pairwise_ne.imp fun hne heq => absurd heq.symm hne
  exact List.Pairwise.forall_of_forall_of_flip (fun _ _ _ => rfl) hne hflip ha hb hab

/-! ## Graphs -/

section Graph

variable {α β γ : Type} {f : α → β} {g : β → Option γ} {l : List (β × γ)} {ks : List β}

/-- The pairs of a list of keys, before the sort. -/
theorem map_fst_pairs (ks : List β) :
    (ks.filterMap fun k => (g k).map fun v => (k, v)).map Prod.fst =
      ks.filter fun k => (g k).isSome := by
  induction ks with
  | nil => rfl
  | cons k ks ih =>
    rw [List.filterMap_cons, List.filter_cons]
    cases hk : g k with
    | none => simpa using ih
    | some v => simpa using ih

variable [LT β]

/-- The graph of a partial function, in the order of its arguments. -/
structure IsGraph (g : β → Option γ) (l : List (β × γ)) : Prop where
  asc : Asc Prod.fst l
  mem_iff : ∀ k v, (k, v) ∈ l ↔ g k = some v

/-- A search in the graph evaluates the function. -/
theorem IsGraph.find_eq [DecidableEq β] (h : IsGraph g l)
    (k : β) : (l.find? fun e => e.1 = k).map Prod.snd = g k := by
  cases hfind : l.find? fun e => e.1 = k with
  | none =>
    have hnone := List.find?_eq_none.mp hfind
    cases hk : g k with
    | none => rfl
    | some v => exact absurd (decide_eq_true rfl) (hnone (k, v) ((h.mem_iff k v).mpr hk))
  | some e =>
    have hk : e.1 = k := by simpa using List.find?_some hfind
    have hmem := (h.mem_iff e.1 e.2).mp (List.mem_of_find?_eq_some hfind)
    rw [← hk, hmem]
    rfl

variable [LE β] [DecidableLE β] [Std.IsLinearOrder β] [Std.LawfulOrderLT β]

/-- A sort by distinct keys is strictly ascending. -/
theorem asc_insertionSort {l : List α} (h : (l.map f).Nodup) :
    Asc f (l.insertionSort fun a b => f a ≤ f b) := by
  have : Std.Total fun a b => f a ≤ f b := ⟨fun _ _ => Std.le_total⟩
  have : IsTrans α fun a b => f a ≤ f b := ⟨fun _ _ _ hab hbc => Std.le_trans hab hbc⟩
  have hle := List.pairwise_insertionSort (fun a b => f a ≤ f b) l
  have hp := (List.perm_insertionSort (fun a b => f a ≤ f b) l).map f
  have hne := List.pairwise_map.mp (hp.nodup_iff.mpr h)
  exact (hle.and hne).imp fun hab => Std.lt_of_le_of_ne hab.1 hab.2

/-- The values over distinct keys that cover the function, sorted. -/
theorem isGraph_insertionSort (hks : ks.Nodup) (hg : ∀ k, (g k).isSome → k ∈ ks) :
    IsGraph g ((ks.filterMap fun k => (g k).map fun v => (k, v)).insertionSort
      fun a b => a.1 ≤ b.1) where
  asc := by
    apply asc_insertionSort
    rw [map_fst_pairs]
    exact hks.filter _
  mem_iff k v := by
    rw [List.mem_insertionSort, List.mem_filterMap]
    constructor
    · intro h
      obtain ⟨k', -, hk'⟩ := h
      obtain ⟨v', hv', heq⟩ := Option.map_eq_some_iff.mp hk'
      cases heq
      exact hv'
    · intro h
      exact ⟨k, hg k (by rw [h]; rfl), by rw [h]; rfl⟩

/-- The keys of the graph are the domain of the function, sorted. -/
theorem IsGraph.sorted_keys (h : IsGraph g l) (hks : ks.Nodup)
    (hg : ∀ k, (g k).isSome → k ∈ ks) :
    (ks.filter fun k => (g k).isSome).insertionSort (· ≤ ·) = l.map Prod.fst := by
  have hsorted : Asc id ((ks.filter fun k => (g k).isSome).insertionSort (· ≤ ·)) :=
    asc_insertionSort (by rw [List.map_id]; exact hks.filter _)
  refine eq_of_mem_iff hsorted (List.pairwise_map.mpr h.asc) fun k => ?_
  rw [List.mem_insertionSort, List.mem_filter, List.mem_map]
  constructor
  · intro hk
    obtain ⟨v, hv⟩ := Option.isSome_iff_exists.mp hk.2
    exact ⟨(k, v), (h.mem_iff k v).mpr hv, rfl⟩
  · intro hk
    obtain ⟨e, he, rfl⟩ := hk
    have hsome : (g e.1).isSome := by rw [(h.mem_iff e.1 e.2).mp he]; rfl
    exact ⟨hg e.1 hsome, hsome⟩

end Graph

end Ascending
