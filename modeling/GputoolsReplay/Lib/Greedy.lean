/-
  Greedy in-order placement of a list of items onto a list of slots.

  Slots carry a key, items carry a key through `g`. `place g ks ds` walks the slots once
  with one cursor into the items: a slot takes the item under the cursor when the keys
  agree, and stays empty otherwise. `leftover g ks ds` are the items the walk never reached.

  * `placed_append_leftover`: placed and left-over items are the items, in order.
  * `prefix_placed`: the walk is maximal. Every prefix of the items whose keys are a
    subsequence of the slots' is placed.
  * `length_placed_append_eq_iff`: items after a point are placed exactly when the first of
    them can be reached.
  * `place_recovers`: a placement in which no empty slot has the key of the next placed
    item is the one the walk finds.
  * `length_placed_isGreatest`: how many items are placed, without the walk: the longest
    prefix whose keys are a subsequence of the slots'.
  * `slot_taken_iff`: which slots take an item, without the walk.
-/
import Mathlib.Data.List.ReduceOption
import Mathlib.Data.List.Infix
import Mathlib.Order.Bounds.Defs

namespace Greedy

variable {κ δ : Type} [DecidableEq κ]

/-- The item each slot takes. -/
def place (g : δ → κ) : List κ → List δ → List (Option δ)
  | [], _ => []
  | _ :: ks, [] => none :: place g ks []
  | k :: ks, d :: ds =>
      if g d = k then some d :: place g ks ds else none :: place g ks (d :: ds)

/-- The items no slot takes. -/
def leftover (g : δ → κ) : List κ → List δ → List δ
  | [], ds => ds
  | _ :: _, [] => []
  | k :: ks, d :: ds => if g d = k then leftover g ks ds else leftover g ks (d :: ds)

/-- The items some slot takes, in order. -/
def placed (g : δ → κ) (ks : List κ) (ds : List δ) : List δ := (place g ks ds).reduceOption

theorem leftover_nil (g : δ → κ) (ks : List κ) : leftover g ks [] = [] := by
  cases ks <;> rfl

theorem length_place (g : δ → κ) (ks : List κ) (ds : List δ) :
    (place g ks ds).length = ks.length := by
  induction ks generalizing ds with
  | nil => rfl
  | cons k ks ih =>
    cases ds with
    | nil => rw [place, List.length_cons, ih, List.length_cons]
    | cons d ds =>
      rw [place]
      split <;> rw [List.length_cons, ih, List.length_cons]

/-- Placed and left-over items are the items, in order. -/
theorem placed_append_leftover (g : δ → κ) (ks : List κ) (ds : List δ) :
    placed g ks ds ++ leftover g ks ds = ds := by
  unfold placed
  induction ks generalizing ds with
  | nil => rfl
  | cons k ks ih =>
    cases ds with
    | nil =>
      have h := ih []
      rw [leftover_nil] at h
      rw [place, List.reduceOption_cons_of_none, leftover, h]
    | cons d ds =>
      rw [place, leftover]
      split
      · rw [List.reduceOption_cons_of_some, List.cons_append, ih]
      · rw [List.reduceOption_cons_of_none, ih]

/-- A slot only takes an item of its own key. -/
theorem place_fits (g : δ → κ) (ks : List κ) (ds : List δ) {k : κ} {d : δ}
    (h : (k, some d) ∈ ks.zip (place g ks ds)) : g d = k := by
  induction ks generalizing ds with
  | nil => exact absurd h List.not_mem_nil
  | cons k' ks ih =>
    cases ds with
    | nil =>
      rw [place, List.zip_cons_cons, List.mem_cons] at h
      rcases h with h | h
      · cases h
      · exact ih _ h
    | cons d' ds =>
      rw [place] at h
      split at h
      · next hk =>
        rw [List.zip_cons_cons, List.mem_cons] at h
        rcases h with h | h
        · cases h; exact hk
        · exact ih _ h
      · rw [List.zip_cons_cons, List.mem_cons] at h
        rcases h with h | h
        · cases h
        · exact ih _ h

/-- Renaming the items renames the placement. -/
theorem place_map {δ' : Type} (g : δ → κ) (f : δ' → δ) (ks : List κ) (ds : List δ') :
    place g ks (ds.map f) = (place (g ∘ f) ks ds).map (Option.map f) := by
  induction ks generalizing ds with
  | nil => rfl
  | cons k ks ih =>
    cases ds with
    | nil =>
      have := ih []
      rw [List.map_nil] at this
      rw [List.map_nil, place, place, this]
      rfl
    | cons d ds =>
      rw [List.map_cons, place, place, Function.comp_apply, ih, ← List.map_cons, ih]
      split <;> rfl

theorem leftover_map {δ' : Type} (g : δ → κ) (f : δ' → δ) (ks : List κ) (ds : List δ') :
    leftover g ks (ds.map f) = (leftover (g ∘ f) ks ds).map f := by
  induction ks generalizing ds with
  | nil => rfl
  | cons k ks ih =>
    cases ds with
    | nil => rfl
    | cons d ds =>
      rw [List.map_cons, leftover, leftover, Function.comp_apply, ih, ← List.map_cons, ih]
      split <;> rfl

/-- The walk places every prefix of the items whose keys are a subsequence of the slots. -/
theorem prefix_placed (g : δ → κ) (ks : List κ) (ds p : List δ) (hp : p <+: ds)
    (hk : List.Sublist (p.map g) ks) : p <+: placed g ks ds := by
  unfold placed
  induction ks generalizing ds p with
  | nil =>
    rw [List.sublist_nil, List.map_eq_nil_iff] at hk
    exact hk ▸ List.nil_prefix
  | cons k ks ih =>
    cases p with
    | nil => exact List.nil_prefix
    | cons d p =>
      obtain ⟨t, rfl⟩ := hp
      rw [List.map_cons] at hk
      rw [List.cons_append, place]
      split
      · next hd =>
        have ht : List.Sublist (p.map g) ks := by
          rcases List.cons_sublist_cons'.mp hk with h | h
          · exact (List.sublist_cons_self _ _).trans h
          · exact h.2
        rw [List.reduceOption_cons_of_some, List.cons_prefix_cons]
        exact ⟨rfl, ih _ _ ⟨t, rfl⟩ ht⟩
      · next hd =>
        have hs : List.Sublist ((d :: p).map g) ks := by
          rcases List.cons_sublist_cons'.mp hk with h | h
          · exact h
          · exact absurd h.1 hd
        rw [List.reduceOption_cons_of_none]
        exact ih _ _ ⟨t, rfl⟩ hs

/-- Items that cannot be reached do not change the placement; they stay left over. -/
theorem place_append_of_stuck (g : δ → κ) (ks : List κ) (ds es : List δ)
    (h : ∀ e, es.head? = some e → ¬ List.Sublist (ds.map g ++ [g e]) ks) :
    place g ks (ds ++ es) = place g ks ds ∧ leftover g ks (ds ++ es) = leftover g ks ds ++ es := by
  induction ks generalizing ds with
  | nil => exact ⟨rfl, rfl⟩
  | cons k ks ih =>
    cases ds with
    | nil =>
      have hs := ih [] fun e he hs => h e he (hs.trans (List.sublist_cons_self _ _))
      cases es with
      | nil => simp [leftover]
      | cons e es =>
        have hk : g e ≠ k := by
          intro hk
          apply h e rfl
          rw [List.map_nil, List.nil_append, hk]
          exact List.singleton_sublist.mpr (List.mem_cons_self ..)
        rw [List.nil_append] at hs ⊢
        simp only [place, leftover, if_neg hk, hs.1, hs.2, leftover_nil, List.nil_append, and_self]
    | cons d ds =>
      rw [List.cons_append, place, place, leftover, leftover]
      split
      · next hd =>
        have hs := ih ds fun e he hs => h e he (by
          rw [List.map_cons, List.cons_append, hd]
          exact List.cons_sublist_cons.mpr hs)
        exact ⟨congrArg (some d :: ·) hs.1, hs.2⟩
      · have hs := ih (d :: ds) fun e he hs => h e he (hs.trans (List.sublist_cons_self _ _))
        exact ⟨congrArg (none :: ·) hs.1, hs.2⟩

theorem length_placed_le (g : δ → κ) (ks : List κ) (ds : List δ) :
    (placed g ks ds).length ≤ ds.length := by
  have h := congrArg List.length (placed_append_leftover g ks ds)
  rw [List.length_append] at h
  omega

/-- Items after a point change how many items are placed exactly when the first of them
    can be reached. -/
theorem length_placed_append_eq_iff (g : δ → κ) (ks : List κ) (ds es : List δ) :
    (placed g ks (ds ++ es)).length = (placed g ks ds).length ↔
      ∀ e, es.head? = some e → ¬ List.Sublist (ds.map g ++ [g e]) ks := by
  constructor
  · intro heq e he hs
    obtain ⟨es, rfl⟩ : ∃ es', es = e :: es' := by
      cases es with
      | nil => cases he
      | cons a es => exact ⟨es, by simpa using he⟩
    have hp : ds ++ [e] <+: ds ++ e :: es := ⟨es, by simp⟩
    have hl := (prefix_placed g ks _ _ hp (by simpa using hs)).length_le
    have := length_placed_le g ks ds
    rw [List.length_append, List.length_singleton] at hl
    omega
  · intro h
    unfold placed
    rw [(place_append_of_stuck g ks ds es h).1]

/-- A placement in which no empty slot has the key of the next placed item is the one the
    walk finds, and nothing is left over. -/
theorem place_recovers (g : δ → κ) (asg : List (κ × Option δ))
    (hfit : ∀ k d, (k, some d) ∈ asg → g d = k)
    (hskip : ∀ pre k post, asg = pre ++ (k, none) :: post →
      ∀ d, (post.map Prod.snd).reduceOption.head? = some d → g d ≠ k) :
    place g (asg.map Prod.fst) (asg.map Prod.snd).reduceOption = asg.map Prod.snd ∧
      leftover g (asg.map Prod.fst) (asg.map Prod.snd).reduceOption = [] := by
  induction asg with
  | nil => exact ⟨rfl, rfl⟩
  | cons p asg ih =>
    obtain ⟨k, o⟩ := p
    have hs := ih (fun k d h => hfit k d (List.mem_cons_of_mem _ h))
      fun pre k' post h => hskip ((k, o) :: pre) k' post (by rw [h]; rfl)
    simp only [List.map_cons]
    cases o with
    | some d =>
      have hd : g d = k := hfit k d (List.mem_cons_self ..)
      rw [List.reduceOption_cons_of_some, place, leftover, if_pos hd, if_pos hd, hs.1, hs.2]
      exact ⟨rfl, rfl⟩
    | none =>
      rw [List.reduceOption_cons_of_none]
      have hne := hskip [] k asg rfl
      cases hr : (asg.map Prod.snd).reduceOption with
      | nil =>
        rw [hr] at hs
        rw [place, leftover, hs.1]
        exact ⟨rfl, rfl⟩
      | cons d ds =>
        rw [hr] at hs hne
        have hd : g d ≠ k := hne d rfl
        rw [place, leftover, if_neg hd, if_neg hd, hs.1, hs.2]
        exact ⟨rfl, rfl⟩

/-! ## Which items and which slots, without the walk -/

/-- The walk goes on from the items it has not reached. -/
theorem place_append (g : δ → κ) (ks ks' : List κ) (ds : List δ) :
    place g (ks ++ ks') ds = place g ks ds ++ place g ks' (leftover g ks ds) := by
  induction ks generalizing ds with
  | nil => rfl
  | cons k ks ih =>
    cases ds with
    | nil =>
      have h := ih []
      rw [leftover_nil] at h
      rw [List.cons_append, place, place, leftover, h, List.cons_append]
    | cons d ds =>
      rw [List.cons_append, place, place, leftover]
      split <;> rw [ih, List.cons_append]

/-- The keys of the placed items are a subsequence of the slots. -/
theorem placed_keys_sublist (g : δ → κ) (ks : List κ) (ds : List δ) :
    List.Sublist ((placed g ks ds).map g) ks := by
  unfold placed
  induction ks generalizing ds with
  | nil => exact List.Sublist.refl _
  | cons k ks ih =>
    cases ds with
    | nil =>
      rw [place, List.reduceOption_cons_of_none]
      exact (ih []).cons _
    | cons d ds =>
      rw [place]
      split
      · next hk =>
        rw [List.reduceOption_cons_of_some, List.map_cons, hk]
        exact (ih ds).cons_cons _
      · rw [List.reduceOption_cons_of_none]
        exact (ih (d :: ds)).cons _

theorem placed_eq_take (g : δ → κ) (ks : List κ) (ds : List δ) :
    placed g ks ds = ds.take (placed g ks ds).length := by
  have h := congrArg (List.take (placed g ks ds).length) (placed_append_leftover g ks ds)
  rwa [List.take_left] at h

theorem leftover_eq_drop (g : δ → κ) (ks : List κ) (ds : List δ) :
    leftover g ks ds = ds.drop (placed g ks ds).length := by
  have h := congrArg (List.drop (placed g ks ds).length) (placed_append_leftover g ks ds)
  rwa [List.drop_left] at h

/-- Exactly the prefixes of what is placed have keys that are a subsequence of the slots. -/
theorem take_sublist_iff (g : δ → κ) (ks : List κ) (ds : List δ) {m : Nat} (hm : m ≤ ds.length) :
    List.Sublist ((ds.take m).map g) ks ↔ m ≤ (placed g ks ds).length := by
  constructor
  · intro hs
    have hp := (prefix_placed g ks ds (ds.take m) (List.take_prefix m ds) hs).length_le
    rwa [List.length_take, Nat.min_eq_left hm] at hp
  · intro hle
    have htake : ds.take m = (placed g ks ds).take m := by
      conv_rhs => rw [placed_eq_take, List.take_take, Nat.min_eq_left hle]
    rw [htake, List.map_take]
    exact (List.take_sublist _ _).trans (placed_keys_sublist g ks ds)

/-- As many items are placed as the longest prefix whose keys are a subsequence of the slots. -/
theorem length_placed_isGreatest (g : δ → κ) (ks : List κ) (ds : List δ) :
    IsGreatest {m | m ≤ ds.length ∧ List.Sublist ((ds.take m).map g) ks}
      (placed g ks ds).length := by
  have hle := length_placed_le g ks ds
  exact ⟨⟨hle, (take_sublist_iff g ks ds hle).mpr (Nat.le_refl _)⟩,
    fun m hm => (take_sublist_iff g ks ds hm.1).mp hm.2⟩

/-- Nothing is left over exactly when all the keys are a subsequence of the slots. -/
theorem leftover_eq_nil_iff (g : δ → κ) (ks : List κ) (ds : List δ) :
    leftover g ks ds = [] ↔ List.Sublist (ds.map g) ks := by
  have hall := take_sublist_iff g ks ds (Nat.le_refl ds.length)
  rw [List.take_length] at hall
  rw [hall, leftover_eq_drop, List.drop_eq_nil_iff]

/-- A slot takes an item exactly when some prefix of the items can be reached with the slot
    and not without it. -/
theorem slot_taken_iff (g : δ → κ) (ks : List κ) (k : κ) (ks' : List κ) (ds : List δ) :
    (∃ d, (place g (ks ++ k :: ks') ds)[ks.length]? = some (some d)) ↔
      ∃ p, p <+: ds.map g ∧ List.Sublist p (ks ++ [k]) ∧ ¬ List.Sublist p ks := by
  have hslot : (place g (ks ++ k :: ks') ds)[ks.length]? =
      (place g (k :: ks') (leftover g ks ds)).head? := by
    rw [place_append, List.getElem?_append_right (Nat.le_of_eq (length_place g ks ds)),
      length_place, Nat.sub_self, List.head?_eq_getElem?]
  have hcount : (placed g (ks ++ [k]) ds).length = (placed g ks ds).length +
      (placed g [k] (leftover g ks ds)).length := by
    unfold placed
    rw [place_append, List.reduceOption_append, List.length_append]
  have hhead : (∃ d, (place g (k :: ks') (leftover g ks ds)).head? = some (some d)) ↔
      0 < (placed g [k] (leftover g ks ds)).length := by
    unfold placed
    cases leftover g ks ds with
    | nil => simp [place, List.reduceOption_cons_of_none]
    | cons d rest =>
      by_cases hd : g d = k <;>
        simp [place, hd, List.reduceOption_cons_of_none, List.reduceOption_cons_of_some]
  rw [hslot, hhead]
  constructor
  · intro hpos
    have hle := length_placed_le g (ks ++ [k]) ds
    refine ⟨(ds.take (placed g (ks ++ [k]) ds).length).map g, (List.take_prefix _ _).map g,
      (take_sublist_iff g _ ds hle).mpr (Nat.le_refl _), fun hs => ?_⟩
    have := (take_sublist_iff g ks ds hle).mp hs
    omega
  · intro h
    obtain ⟨p, hp, hwith, hwithout⟩ := h
    have htake : p = (ds.take p.length).map g := by
      rw [List.map_take]
      exact List.prefix_iff_eq_take.mp hp
    have hm : p.length ≤ ds.length := by simpa using hp.length_le
    rw [htake] at hwith hwithout
    rw [take_sublist_iff g _ ds hm] at hwith hwithout
    omega

end Greedy
