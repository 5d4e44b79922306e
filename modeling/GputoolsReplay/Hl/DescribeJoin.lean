/-
  What the join returns, for every texture list and every descriptor list.

  * `describeTextures_eq`: the join in closed form. The non-combined descriptors, greedily
    placed on the textures in streamRef order, scattered back to the input positions.
  * `join_partitions`: the walk and the join partition the descriptors.
-/
import GputoolsReplay.Hl.Describe

namespace GputoolsReplay

/-! ## The textures in streamRef order -/

theorem firstOfRef_sublist (seen : List UInt64) (l : List (Texture × Nat)) :
    List.Sublist (firstOfRef seen l) l := by
  induction l generalizing seen with
  | nil => exact List.nil_sublist _
  | cons a l ih =>
    rw [firstOfRef]
    split
    · exact (ih _).trans (List.sublist_cons_self _ _)
    · exact (ih _).cons_cons _

theorem firstOfRef_notMem (seen : List UInt64) (l : List (Texture × Nat)) :
    ∀ e ∈ firstOfRef seen l, e.1.streamRef ∉ seen := by
  induction l generalizing seen with
  | nil => exact fun _ h => absurd h List.not_mem_nil
  | cons a l ih =>
    rw [firstOfRef]
    split
    · exact ih _
    · next hn =>
      intro e he
      rcases List.mem_cons.mp he with rfl | he
      · exact hn
      · exact fun h => ih _ e he (List.mem_cons_of_mem _ h)

theorem firstOfRef_pairwise_ne (seen : List UInt64) (l : List (Texture × Nat)) :
    (firstOfRef seen l).Pairwise fun a b => a.1.streamRef ≠ b.1.streamRef := by
  induction l generalizing seen with
  | nil => exact List.Pairwise.nil
  | cons a l ih =>
    rw [firstOfRef]
    split
    · exact ih _
    · refine List.Pairwise.cons (fun b hb he => ?_) (ih _)
      exact firstOfRef_notMem _ _ b hb (he ▸ List.mem_cons_self ..)

theorem firstOfRef_eq_self (seen : List UInt64) (l : List (Texture × Nat))
    (hs : ∀ e ∈ l, e.1.streamRef ∉ seen)
    (hd : l.Pairwise fun a b => a.1.streamRef ≠ b.1.streamRef) : firstOfRef seen l = l := by
  induction l generalizing seen with
  | nil => rfl
  | cons a l ih =>
    rw [List.pairwise_cons] at hd
    rw [firstOfRef, if_neg (hs a (List.mem_cons_self ..)), ih _ (fun e he hm => ?_) hd.2]
    rcases List.mem_cons.mp hm with h | h
    · exact hd.1 e he h.symm
    · exact hs e (List.mem_cons_of_mem _ he) h

/-- The kept textures stand in strictly ascending streamRef order. -/
theorem sortedRefs_pairwise (texs : List Texture) :
    (sortedRefs texs).Pairwise fun a b => a.1.streamRef < b.1.streamRef := by
  have hle : (sortedRefs texs).Pairwise fun a b => a.1.streamRef ≤ b.1.streamRef :=
    List.Pairwise.sublist (firstOfRef_sublist _ _) (List.pairwise_insertionSort _ _)
  exact (hle.and (firstOfRef_pairwise_ne _ _)).imp fun h => UInt64.lt_of_le_of_ne h.1 h.2

theorem sortedRefs_subperm (texs : List Texture) : (sortedRefs texs).Subperm texs.zipIdx :=
  (firstOfRef_sublist _ _).subperm.trans (List.perm_insertionSort _ _).subperm

theorem getElem?_of_mem_sortedRefs {texs : List Texture} {t : Texture} {i : Nat}
    (h : (t, i) ∈ sortedRefs texs) : texs[i]? = some t :=
  List.mem_zipIdx_iff_getElem?.mp ((sortedRefs_subperm texs).subset h)

theorem sortedRefs_nodup (texs : List Texture) : ((sortedRefs texs).map Prod.snd).Nodup := by
  have hz : (texs.zipIdx.map Prod.snd).Nodup := by
    rw [List.zipIdx_map_snd]
    exact List.nodup_range'
  have hs := (List.perm_insertionSort
    (fun a b : Texture × Nat => a.1.streamRef ≤ b.1.streamRef) texs.zipIdx).map Prod.snd
  exact (hs.nodup_iff.mpr hz).sublist ((firstOfRef_sublist _ _).map _)

/-- The positions that one value for each kept texture is written to. -/
theorem positions_zip {γ : Type} {texs : List Texture} {os : List γ}
    (h : os.length = (sortedRefs texs).length) :
    (((sortedRefs texs).zip os).map fun e => (e.1.2, e.2)).map Prod.fst =
      (sortedRefs texs).map Prod.snd := by
  have hfst := congrArg (List.map Prod.snd) (List.map_fst_zip (Nat.le_of_eq h.symm))
  rw [List.map_map] at hfst ⊢
  exact hfst

/-- With distinct streamRefs every texture is kept. -/
theorem sortedRefs_perm (texs : List Texture)
    (hd : texs.Pairwise fun a b => a.streamRef ≠ b.streamRef) :
    (sortedRefs texs).Perm texs.zipIdx := by
  have hz : texs.zipIdx.Pairwise fun a b => a.1.streamRef ≠ b.1.streamRef := by
    rw [← List.pairwise_map (f := Prod.fst) (R := fun a b => Texture.streamRef a ≠ b.streamRef),
      List.zipIdx_map_fst]
    exact hd
  have hp := List.perm_insertionSort
    (fun a b : Texture × Nat => a.1.streamRef ≤ b.1.streamRef) texs.zipIdx
  unfold sortedRefs
  rw [firstOfRef_eq_self _ _ (fun _ _ => List.not_mem_nil) (hp.symm.pairwise hz fun h => h.symm)]
  exact hp

/-! ## The join in closed form -/

/-- The keys of the walk: one for each kept texture. -/
def textureKeys (texs : List Texture) : List Key := (sortedRefs texs).map fun e => e.1.key

theorem textureKeys_eq (texs : List Texture) :
    textureKeys texs = ((sortedRefs texs).map Prod.fst).map Texture.key := by
  rw [List.map_map]
  rfl

/-- The descriptors the walk does not skip. -/
def plain (descs : List TextureDescriptor) : List TextureDescriptor :=
  descs.filter fun d => !combined d

/-- The item each kept texture takes. -/
def assigned (texs : List Texture) (descs : List TextureDescriptor) :
    List ((Texture × Nat) × Option (TextureDescriptor × Nat)) :=
  (sortedRefs texs).zip (Greedy.place itemKey (textureKeys texs) (items descs))

/-- The item each input texture takes. -/
def attribution (texs : List Texture) (descs : List TextureDescriptor) :
    List (Option (TextureDescriptor × Nat)) :=
  Scatter.scatter texs.length ((assigned texs descs).map fun e => (e.1.2, e.2))

theorem length_place_textureKeys {δ : Type} (g : δ → Key) (texs : List Texture) (ds : List δ) :
    (Greedy.place g (textureKeys texs) ds).length = (sortedRefs texs).length := by
  rw [Greedy.length_place, textureKeys, List.length_map]

theorem mem_items_of_assigned {texs : List Texture} {descs : List TextureDescriptor}
    {e : Texture × Nat} {x : TextureDescriptor × Nat} (h : (e, some x) ∈ assigned texs descs) :
    x ∈ items descs := by
  have hp : x ∈ Greedy.placed itemKey (textureKeys texs) (items descs) :=
    List.reduceOption_mem_iff.mpr (List.of_mem_zip h).2
  rw [← Greedy.placed_append_leftover itemKey (textureKeys texs) (items descs)]
  exact List.mem_append_left _ hp

theorem filterMap_leftover (ks : List Key) (descs : List TextureDescriptor) :
    ((Greedy.leftover itemKey ks (items descs)).map Prod.snd).filterMap (fun dj => descs[dj]?) =
      (Greedy.leftover itemKey ks (items descs)).map Prod.fst := by
  rw [List.filterMap_map, ← List.filterMap_eq_map]
  refine List.filterMap_congr fun e he => ?_
  have hi : e ∈ items descs := by
    rw [← Greedy.placed_append_leftover itemKey ks (items descs)]
    exact List.mem_append_right _ he
  exact (mem_items.mp hi).1

theorem filterMap_combined (descs : List TextureDescriptor) :
    ((descs.zipIdx.filter fun e => combined e.1).map Prod.snd).filterMap (fun dj => descs[dj]?) =
      descs.filter combined := by
  have h := List.filter_map (f := Prod.fst) (p := combined) (l := descs.zipIdx)
  rw [List.zipIdx_map_fst] at h
  rw [h, List.filterMap_map, ← List.filterMap_eq_map]
  refine List.filterMap_congr fun e he => ?_
  exact List.mem_zipIdx_iff_getElem?.mp (List.mem_filter.mp he).1

/-- The join, each descriptor with its index. -/
theorem describeTextures_attribution (texs : List Texture) (descs : List TextureDescriptor) :
    describeTextures texs descs =
      { perTexture := (attribution texs descs).map (Option.map Prod.fst)
        unplaced := (Greedy.leftover itemKey (textureKeys texs) (items descs)).map Prod.fst
        transparent := descs.filter combined } := by
  unfold describeTextures
  by_cases hd : descs = []
  · subst hd
    have hnone : attribution texs [] = List.replicate texs.length none := by
      refine Scatter.scatter_none _ _ fun s hs => ?_
      obtain ⟨⟨e, o⟩, he, rfl⟩ := List.mem_map.mp hs
      cases o with
      | none => rfl
      | some x => exact absurd (mem_items_of_assigned he) List.not_mem_nil
    rw [hnone, List.map_replicate]
    exact (congrArg (fun l => Descriptions.mk _ (l.map Prod.fst) _)
      (Greedy.leftover_nil itemKey (textureKeys texs)).symm)
  · rw [if_neg (by simpa using hd)]
    dsimp only
    rw [zipBestEffort_eq]
    dsimp only
    rw [filterMap_combined]
    have hslots : ((sortedRefs texs).zip ((Greedy.place itemKey (textureKeys texs)
          (items descs)).map (Option.map Prod.snd))).map
          (fun e => (e.1.2, e.2.bind fun dj => descs[dj]?)) =
        ((assigned texs descs).map fun e => (e.1.2, e.2)).map
          fun s => (s.1, Option.map Prod.fst s.2) := by
      rw [List.zip_map_right, List.map_map, List.map_map]
      refine List.map_congr_left fun e he => ?_
      obtain ⟨x, o⟩ := e
      cases o with
      | none => rfl
      | some y =>
        have hy := (mem_items.mp (mem_items_of_assigned he)).1
        simp [hy]
    have hper := congrArg (Scatter.scatter texs.length) hslots
    rw [Scatter.scatter_map _ rfl] at hper
    exact congr (congr (congrArg Descriptions.mk hper) (filterMap_leftover _ _)) rfl

/-- The join in closed form. -/
theorem describeTextures_eq (texs : List Texture) (descs : List TextureDescriptor) :
    describeTextures texs descs =
      { perTexture := Scatter.scatter texs.length
          (((sortedRefs texs).zip (Greedy.place TextureDescriptor.key (textureKeys texs)
            (plain descs))).map fun e => (e.1.2, e.2))
        unplaced := Greedy.leftover TextureDescriptor.key (textureKeys texs) (plain descs)
        transparent := descs.filter combined } := by
  have hplain : plain descs = (items descs).map Prod.fst := (items_map_fst descs).symm
  rw [describeTextures_attribution, hplain, Greedy.place_map, Greedy.leftover_map]
  congr 1
  unfold attribution assigned
  rw [← Scatter.scatter_map _ rfl, List.zip_map_right, List.map_map, List.map_map]
  rfl

/-! ## Partition and soundness -/

/-- The three outputs of `zip_best_effort` partition the descriptors, and every pairing
    agrees in width, height and format. -/
structure ZipPartition (keys : List Key) (descs : List TextureDescriptor)
    (out : List (Option Nat)) (unplaced transparent : List Nat) : Prop where
  length : out.length = keys.length
  partition : (out.reduceOption ++ unplaced ++ transparent).Perm (List.range descs.length)
  increasing : out.reduceOption.Pairwise (· < ·)
  agrees : ∀ (i : Nat) (w h f : UInt32) (j : Nat), keys[i]? = some (w, h, f) → out[i]? = some (some j) →
    ∃ d : TextureDescriptor, descs[j]? = some d ∧ d.width = w ∧ d.height = h ∧ d.format = f ∧
      combined d = false
  skipped : ∀ j : Nat, j ∈ transparent ↔ ∃ d, descs[j]? = some d ∧ combined d = true

/-- What `describe_textures` returns, given the index of the descriptor each texture gets. -/
structure JoinPartition (texs : List Texture) (descs : List TextureDescriptor) (r : Descriptions)
    (idx : List (Option Nat)) : Prop where
  length : r.perTexture.length = texs.length
  indexed : r.perTexture = idx.map fun o => o.bind fun j => descs[j]?
  agrees : ∀ (i : Nat) (t : Texture) (d : TextureDescriptor), texs[i]? = some t →
    r.perTexture[i]? = some (some d) →
    d.width = t.width ∧ d.height = t.height ∧ d.format = t.format ∧ combined d = false
  ordered : ∀ (i j : Nat) (ti tj : Texture) (a b : Nat), texs[i]? = some ti →
    texs[j]? = some tj → idx[i]? = some (some a) → idx[j]? = some (some b) →
    (ti.streamRef < tj.streamRef ↔ a < b)
  partition : ∃ unplaced transparent : List Nat,
    (idx.reduceOption ++ unplaced ++ transparent).Perm (List.range descs.length) ∧
      r.unplaced = unplaced.filterMap (fun j => descs[j]?) ∧
      r.transparent = transparent.filterMap fun j => descs[j]?
  count : r.perTexture.countP Option.isSome + r.unplaced.length + r.transparent.length =
    descs.length

theorem items_pairwise (descs : List TextureDescriptor) :
    ((items descs).map Prod.snd).Pairwise (· < ·) := by
  have h : (descs.zipIdx.map Prod.snd).Pairwise (· < ·) := by
    rw [List.zipIdx_map_snd]
    exact List.pairwise_lt_range'
  exact h.sublist (List.filter_sublist.map _)

/-- Items and combined descriptors are all the descriptors. -/
theorem items_perm (descs : List TextureDescriptor) :
    ((items descs).map Prod.snd ++ (descs.zipIdx.filter fun e => combined e.1).map Prod.snd).Perm
      (List.range descs.length) := by
  have h := (List.filter_append_perm (fun e : TextureDescriptor × Nat => !combined e.1)
    descs.zipIdx).map Prod.snd
  rw [List.map_append, List.zipIdx_map_snd, ← List.range_eq_range'] at h
  simpa [items, itemsFrom] using h

theorem placed_partition (ks : List Key) (descs : List TextureDescriptor) :
    ((Greedy.placed itemKey ks (items descs)).map Prod.snd ++
      (Greedy.leftover itemKey ks (items descs)).map Prod.snd ++
      (descs.zipIdx.filter fun e => combined e.1).map Prod.snd).Perm
        (List.range descs.length) := by
  rw [← List.map_append, Greedy.placed_append_leftover]
  exact items_perm descs

theorem placed_pairwise (ks : List Key) (descs : List TextureDescriptor) :
    ((Greedy.placed itemKey ks (items descs)).map Prod.snd).Pairwise (· < ·) := by
  have h := items_pairwise descs
  rw [← Greedy.placed_append_leftover itemKey ks (items descs), List.map_append] at h
  exact (List.pairwise_append.mp h).1

theorem zipBestEffort_partition (keys : List Key) (descs : List TextureDescriptor) :
    ZipPartition keys descs (zipBestEffort keys descs).1 (zipBestEffort keys descs).2.1
      (zipBestEffort keys descs).2.2 := by
  rw [zipBestEffort_eq]
  constructor
  · rw [List.length_map, Greedy.length_place]
  · rw [List.reduceOption_map]
    exact placed_partition keys descs
  · rw [List.reduceOption_map]
    exact placed_pairwise keys descs
  · intro i w h f j hk hj
    rw [List.getElem?_map, Option.map_eq_some_iff] at hj
    obtain ⟨o, ho, hoj⟩ := hj
    obtain ⟨⟨d, j'⟩, rfl, rfl⟩ := Option.map_eq_some_iff.mp hoj
    have hmem : ((w, h, f), some (d, j')) ∈ keys.zip (Greedy.place itemKey keys (items descs)) :=
      List.mem_of_getElem? (List.getElem?_zip_eq_some.mpr ⟨hk, ho⟩)
    have hfit := Greedy.place_fits itemKey keys (items descs) hmem
    have hplaced : (d, j') ∈ Greedy.placed itemKey keys (items descs) :=
      List.reduceOption_mem_iff.mpr (List.mem_of_getElem? ho)
    have hitem : (d, j') ∈ items descs := by
      rw [← Greedy.placed_append_leftover itemKey keys (items descs)]
      exact List.mem_append_left _ hplaced
    simp only [itemKey, TextureDescriptor.key, Prod.mk.injEq] at hfit
    exact ⟨d, (mem_items.mp hitem).1, hfit.1, hfit.2.1, hfit.2.2, (mem_items.mp hitem).2⟩
  · intro j
    rw [List.mem_map]
    constructor
    · intro h'
      obtain ⟨⟨d, j'⟩, he, rfl⟩ := h'
      obtain ⟨hm, hc⟩ := List.mem_filter.mp he
      exact ⟨d, List.mem_zipIdx_iff_getElem?.mp hm, hc⟩
    · intro h'
      obtain ⟨d, hd, hc⟩ := h'
      exact ⟨(d, j), List.mem_filter.mpr ⟨List.mem_zipIdx_iff_getElem?.mpr hd, hc⟩, rfl⟩

theorem assigned_positions (texs : List Texture) (descs : List TextureDescriptor) :
    ((assigned texs descs).map fun e => (e.1.2, e.2)).map Prod.fst =
      (sortedRefs texs).map Prod.snd :=
  positions_zip (length_place_textureKeys itemKey texs (items descs))

theorem assigned_values (texs : List Texture) (descs : List TextureDescriptor) :
    ((assigned texs descs).map fun e => (e.1.2, e.2)).map Prod.snd =
      Greedy.place itemKey (textureKeys texs) (items descs) := by
  rw [List.map_map]
  exact List.map_snd_zip (Nat.le_of_eq (length_place_textureKeys itemKey texs (items descs)))

theorem assigned_positions_nodup (texs : List Texture) (descs : List TextureDescriptor) :
    (((assigned texs descs).map fun e => (e.1.2, e.2)).map Prod.fst).Nodup := by
  rw [assigned_positions]
  exact sortedRefs_nodup texs

/-- An attributed texture was kept and took the item in the walk. -/
theorem mem_assigned_of_attribution {texs : List Texture} {descs : List TextureDescriptor}
    {i : Nat} {x : TextureDescriptor × Nat}
    (h : (attribution texs descs)[i]? = some (some x)) :
    ∃ t, texs[i]? = some t ∧ ((t, i), some x) ∈ assigned texs descs := by
  have hm := Scatter.mem_of_getElem?_scatter _ _ (assigned_positions_nodup texs descs) h
  obtain ⟨⟨⟨t, i'⟩, o⟩, he, heq⟩ := List.mem_map.mp hm
  cases heq
  exact ⟨t, getElem?_of_mem_sortedRefs (List.of_mem_zip he).1, he⟩

theorem attribution_perm (texs : List Texture) (descs : List TextureDescriptor) :
    (attribution texs descs).reduceOption.Perm
      (Greedy.placed itemKey (textureKeys texs) (items descs)) := by
  have h := Scatter.scatter_perm texs.length _ (assigned_positions_nodup texs descs)
    fun s hs => by
      obtain ⟨⟨⟨t, i⟩, o⟩, he, rfl⟩ := List.mem_map.mp hs
      exact (List.getElem?_eq_some_iff.mp
        (getElem?_of_mem_sortedRefs (List.of_mem_zip he).1)).1
  rw [assigned_values] at h
  exact h

/-- Keys in one order and the values beside them in another. -/
theorem pairwise_zip {α β : Type} {R : α → α → Prop} {S : β → β → Prop} (as : List α)
    (os : List (Option β)) (ha : as.Pairwise R) (ho : os.reduceOption.Pairwise S) :
    (as.zip os).Pairwise fun e e' =>
      R e.1 e'.1 ∧ ∀ a b, e.2 = some a → e'.2 = some b → S a b := by
  induction as generalizing os with
  | nil => exact List.Pairwise.nil
  | cons a as ih =>
    cases os with
    | nil => exact List.Pairwise.nil
    | cons o os =>
      rw [List.pairwise_cons] at ha
      have hos : os.reduceOption.Pairwise S := by
        cases o with
        | none => exact ho
        | some b => exact (List.pairwise_cons.mp ho).2
      refine List.Pairwise.cons (fun e he => ⟨ha.1 _ (List.of_mem_zip he).1, ?_⟩) (ih os ha.2 hos)
      intro b c hb hc
      dsimp only at hb
      subst hb
      exact (List.pairwise_cons.mp ho).1 c
        (List.reduceOption_mem_iff.mpr (hc ▸ (List.of_mem_zip he).2))

/-- The order of two attributed textures is the order of their descriptors. -/
theorem assigned_ordered {texs : List Texture} {descs : List TextureDescriptor}
    {e e' : Texture × Nat} {x x' : TextureDescriptor × Nat}
    (h : (e, some x) ∈ assigned texs descs) (h' : (e', some x') ∈ assigned texs descs) :
    e.1.streamRef < e'.1.streamRef ↔ x.2 < x'.2 := by
  have hp := pairwise_zip (S := fun a b : TextureDescriptor × Nat => a.2 < b.2)
    (sortedRefs texs) (Greedy.place itemKey (textureKeys texs) (items descs))
    (sortedRefs_pairwise texs) (List.pairwise_map.mp (placed_pairwise _ _))
  let R : ((Texture × Nat) × Option (TextureDescriptor × Nat)) →
      ((Texture × Nat) × Option (TextureDescriptor × Nat)) → Prop := fun p q =>
    ∀ a b, p.2 = some a → q.2 = some b → (p.1.1.streamRef < q.1.1.streamRef ↔ a.2 < b.2)
  -- the two orders agree on a pair of equals, and whichever of the two comes first
  have hrefl : ∀ p ∈ assigned texs descs, R p p := fun p _ a b ha hb => by
    obtain rfl : a = b := Option.some.inj (ha.symm.trans hb)
    exact iff_of_false (UInt64.lt_irrefl _) (Nat.lt_irrefl _)
  have hlt : (assigned texs descs).Pairwise R := hp.imp fun hpq a b ha hb =>
    iff_of_true hpq.1 (hpq.2 a b ha hb)
  have hgt : (assigned texs descs).Pairwise (flip R) := hp.imp fun hpq a b ha hb =>
    iff_of_false (UInt64.lt_asymm hpq.1) (Nat.lt_asymm (hpq.2 b a hb ha))
  exact List.Pairwise.forall_of_forall_of_flip hrefl hlt hgt h h' x x' rfl rfl

/-- A value read off the attribution at position `i` comes from an assigned item. -/
theorem exists_assigned_of_map {γ : Type} {f : TextureDescriptor × Nat → γ} {texs : List Texture}
    {descs : List TextureDescriptor} {i : Nat} {c : γ}
    (h : ((attribution texs descs).map (Option.map f))[i]? = some (some c)) :
    ∃ t x, texs[i]? = some t ∧ ((t, i), some x) ∈ assigned texs descs ∧ f x = c := by
  rw [List.getElem?_map, Option.map_eq_some_iff] at h
  obtain ⟨o, ho, hoc⟩ := h
  obtain ⟨x, rfl, hx⟩ := Option.map_eq_some_iff.mp hoc
  obtain ⟨t, ht, hm⟩ := mem_assigned_of_attribution ho
  exact ⟨t, x, ht, hm, hx⟩

/-- An item has the key of the texture that takes it. -/
theorem key_of_assigned {texs : List Texture} {descs : List TextureDescriptor}
    {e : Texture × Nat} {x : TextureDescriptor × Nat} (h : (e, some x) ∈ assigned texs descs) :
    itemKey x = e.1.key := by
  refine Greedy.place_fits itemKey (textureKeys texs) (items descs) ?_
  unfold textureKeys
  rw [List.zip_map_left, List.mem_map]
  exact ⟨_, h, rfl⟩

/-- The indices that are taken, left over and combined are all indices. -/
theorem attribution_partition (texs : List Texture) (descs : List TextureDescriptor) :
    (((attribution texs descs).map (Option.map Prod.snd)).reduceOption ++
      (Greedy.leftover itemKey (textureKeys texs) (items descs)).map Prod.snd ++
      (descs.zipIdx.filter fun e => combined e.1).map Prod.snd).Perm
        (List.range descs.length) := by
  rw [List.reduceOption_map]
  refine List.Perm.trans ?_ (placed_partition (textureKeys texs) descs)
  exact (((attribution_perm texs descs).map Prod.snd).append_right _).append_right _

theorem length_filter_combined (descs : List TextureDescriptor) :
    (descs.filter combined).length = (descs.zipIdx.filter fun e => combined e.1).length := by
  have h := List.filter_map (f := Prod.fst) (p := combined) (l := descs.zipIdx)
  rw [List.zipIdx_map_fst] at h
  rw [h, List.length_map]
  rfl

theorem describeTextures_partition (texs : List Texture) (descs : List TextureDescriptor) :
    JoinPartition texs descs (describeTextures texs descs)
      ((attribution texs descs).map (Option.map Prod.snd)) := by
  rw [describeTextures_attribution]
  constructor
  · dsimp only
    rw [List.length_map, attribution, Scatter.length_scatter]
  · dsimp only
    rw [List.map_map]
    refine List.map_congr_left fun o ho => ?_
    cases o with
    | none => rfl
    | some x =>
      obtain ⟨i, hi⟩ := List.getElem?_of_mem ho
      obtain ⟨t, -, hm⟩ := mem_assigned_of_attribution hi
      exact (mem_items.mp (mem_items_of_assigned hm)).1.symm
  · intro i t d ht hd
    obtain ⟨t', x, ht', hm, rfl⟩ := exists_assigned_of_map hd
    obtain rfl : t' = t := Option.some.inj (ht'.symm.trans ht)
    have hfit := key_of_assigned hm
    simp only [itemKey, TextureDescriptor.key, Texture.key, Prod.mk.injEq] at hfit
    exact ⟨hfit.1, hfit.2.1, hfit.2.2, (mem_items.mp (mem_items_of_assigned hm)).2⟩
  · intro i j ti tj a b hti htj ha hb
    obtain ⟨t, x, ht, hx, rfl⟩ := exists_assigned_of_map ha
    obtain ⟨t', y, ht', hy, rfl⟩ := exists_assigned_of_map hb
    obtain rfl : t = ti := Option.some.inj (ht.symm.trans hti)
    obtain rfl : t' = tj := Option.some.inj (ht'.symm.trans htj)
    exact assigned_ordered hx hy
  · exact ⟨_, _, attribution_partition texs descs, (filterMap_leftover _ _).symm,
      (filterMap_combined _).symm⟩
  · have hlen := (attribution_partition texs descs).length_eq
    rw [List.length_append, List.length_append, List.reduceOption_map, List.length_map,
      List.length_map, List.length_map, List.length_range, List.reduceOption_length_eq] at hlen
    dsimp only
    rw [List.length_map, length_filter_combined, List.countP_map, List.countP_eq_length_filter,
      ← hlen]
    refine congrArg (fun n => n + _ + _) (congrArg List.length ?_)
    exact List.filter_congr fun o _ => Option.isSome_map

/-- The walk and the join partition the descriptors, for every list of keys, every texture
    list and every descriptor list. -/
theorem join_partitions :
    (∀ (keys : List Key) (descs : List TextureDescriptor),
      ZipPartition keys descs (zipBestEffort keys descs).1 (zipBestEffort keys descs).2.1
        (zipBestEffort keys descs).2.2) ∧
    ∀ (texs : List Texture) (descs : List TextureDescriptor),
      ∃ idx : List (Option Nat), JoinPartition texs descs (describeTextures texs descs) idx :=
  ⟨zipBestEffort_partition, fun texs descs => ⟨_, describeTextures_partition texs descs⟩⟩

end GputoolsReplay
