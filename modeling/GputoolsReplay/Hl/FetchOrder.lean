/-
  What the join does not depend on, and what it does.

  * `placement_maximal`: the walk places the longest prefix of the non-combined descriptors
    whose geometries are a subsequence of the keys.
  * `fetch_order`: the join does not depend on the order in which the textures were fetched.
  * `repeats_agree_iff`: of a streamRef the reply repeats, only the entry the walk kept can
    obtain a descriptor, so the repeats agree exactly when none does (`repeat_loses_descriptor`).
-/
import GputoolsReplay.Lib.Ascending
import GputoolsReplay.Hl.Attribution

namespace GputoolsReplay

/-! ## The walk is maximal -/

/-- What `zip_best_effort` places and what it leaves, for every list of keys and every
    descriptor list: the first `n` of the non-combined descriptors, in list order, and the
    others. `n` is the largest number of them whose geometries are a subsequence of the keys. -/
theorem placement_maximal (keys : List Key) (descs : List TextureDescriptor) :
    let geometry := (descs.filter fun d => !combined d).map fun d => (d.width, d.height, d.format)
    let indices := (descs.zipIdx.filter fun e => !combined e.1).map Prod.snd
    let placed := (zipBestEffort keys descs).1.reduceOption
    let unplaced := (zipBestEffort keys descs).2.1
    (∃ n, IsGreatest {m | m ≤ indices.length ∧ List.Sublist (geometry.take m) keys} n ∧
      placed = indices.take n ∧ unplaced = indices.drop n) ∧
    (unplaced = [] ↔ List.Sublist geometry keys) := by
  intro geometry indices placed unplaced
  have hitems : (items descs).map Prod.snd = indices := by
    simp only [items, itemsFrom, List.drop_zero, indices]
  have hgeometry : (items descs).map itemKey = geometry := by
    rw [show geometry = (descs.filter fun d => !combined d).map TextureDescriptor.key from rfl,
      ← items_map_fst, List.map_map]
    rfl
  have hplaced : placed = (Greedy.placed itemKey keys (items descs)).map Prod.snd := by
    simp only [placed, zipBestEffort_eq, List.reduceOption_map, Greedy.placed]
  have hunplaced : unplaced = (Greedy.leftover itemKey keys (items descs)).map Prod.snd := by
    simp only [unplaced, zipBestEffort_eq]
  have hlen : indices.length = (items descs).length := by rw [← hitems, List.length_map]
  rw [hplaced, hunplaced]
  refine ⟨⟨(Greedy.placed itemKey keys (items descs)).length, ?_, ?_, ?_⟩, ?_⟩
  · have hgreatest := Greedy.length_placed_isGreatest itemKey keys (items descs)
    simp only [List.map_take, hgeometry, ← hlen] at hgreatest
    exact hgreatest
  · rw [← hitems, ← List.map_take, ← Greedy.placed_eq_take]
  · rw [← hitems, ← List.map_drop, ← Greedy.leftover_eq_drop]
  · rw [List.map_eq_nil_iff, Greedy.leftover_eq_nil_iff, hgeometry]

/-! ## The descriptor of a streamRef -/

/-- The entry at position `i` has the streamRef `r` and obtains the descriptor `d`. -/
def Obtains (texs : List Texture) (descs : List TextureDescriptor) (r : UInt64) (i : Nat)
    (d : TextureDescriptor) : Prop :=
  ∃ t, texs[i]? = some t ∧ t.streamRef = r ∧
    (describeTextures texs descs).perTexture[i]? = some (some d)

theorem length_perTexture (texs : List Texture) (descs : List TextureDescriptor) :
    (describeTextures texs descs).perTexture.length = texs.length :=
  (describeTextures_partition texs descs).length

theorem exists_perTexture {texs : List Texture} (descs : List TextureDescriptor) {i : Nat}
    {t : Texture} (ht : texs[i]? = some t) :
    ∃ o, (describeTextures texs descs).perTexture[i]? = some o := by
  have hi := (List.getElem?_eq_some_iff.mp ht).1
  rw [← length_perTexture texs descs] at hi
  exact ⟨_, List.getElem?_eq_getElem hi⟩

/-- The kept textures, each as its streamRef and its geometry. -/
def refKeys (texs : List Texture) : List (UInt64 × Key) :=
  (sortedRefs texs).map fun e => (e.1.streamRef, e.1.key)

/-- The walk over the kept textures: the descriptor each streamRef takes. -/
def refPlacement (ks : List (UInt64 × Key)) (descs : List TextureDescriptor) :
    List (UInt64 × Option TextureDescriptor) :=
  (ks.map Prod.fst).zip (Greedy.place TextureDescriptor.key (ks.map Prod.snd) (plain descs))

theorem refKeys_map_fst (texs : List Texture) :
    (refKeys texs).map Prod.fst = (sortedRefs texs).map fun e => e.1.streamRef := by
  rw [refKeys, List.map_map]
  rfl

theorem refKeys_map_snd (texs : List Texture) :
    (refKeys texs).map Prod.snd = textureKeys texs := by
  rw [refKeys, List.map_map]
  rfl

theorem sortedRefs_asc (texs : List Texture) :
    Ascending.Asc (fun e : Texture × Nat => e.1.streamRef) (sortedRefs texs) :=
  sortedRefs_pairwise texs

theorem refKeys_asc (texs : List Texture) : Ascending.Asc Prod.fst (refKeys texs) :=
  List.pairwise_map.mpr (sortedRefs_pairwise texs)

/-- An entry obtains a descriptor exactly when the walk kept it and placed the descriptor on it. -/
theorem perTexture_eq_some_iff (texs : List Texture) (descs : List TextureDescriptor) (i : Nat)
    (d : TextureDescriptor) :
    (describeTextures texs descs).perTexture[i]? = some (some d) ↔
      ∃ t, ((t, i), some d) ∈ (sortedRefs texs).zip
        (Greedy.place TextureDescriptor.key (textureKeys texs) (plain descs)) := by
  have hpos : ((((sortedRefs texs).zip (Greedy.place TextureDescriptor.key (textureKeys texs)
      (plain descs))).map fun e => (e.1.2, e.2)).map Prod.fst).Nodup := by
    rw [positions_zip (length_place_textureKeys TextureDescriptor.key texs (plain descs))]
    exact sortedRefs_nodup texs
  rw [describeTextures_eq]
  dsimp only
  constructor
  · intro h
    obtain ⟨⟨⟨t, i'⟩, o⟩, he, heq⟩ := List.mem_map.mp (Scatter.mem_of_getElem?_scatter _ _ hpos h)
    cases heq
    exact ⟨t, he⟩
  · intro h
    obtain ⟨t, ht⟩ := h
    have hi := getElem?_of_mem_sortedRefs (List.of_mem_zip ht).1
    exact Scatter.getElem?_scatter _ _ hpos (List.getElem?_eq_some_iff.mp hi).1
      (List.mem_map.mpr ⟨_, ht, rfl⟩)

/-- What a streamRef obtains is what the walk placed on it. -/
theorem obtained_iff (texs : List Texture) (descs : List TextureDescriptor) (r : UInt64)
    (d : TextureDescriptor) :
    (∃ i, Obtains texs descs r i d) ↔ (r, some d) ∈ refPlacement (refKeys texs) descs := by
  unfold refPlacement
  rw [refKeys_map_fst, refKeys_map_snd, List.zip_map_left, List.mem_map]
  constructor
  · intro h
    obtain ⟨i, t, ht, rfl, hd⟩ := h
    obtain ⟨t', hm⟩ := (perTexture_eq_some_iff texs descs i d).mp hd
    have ht' := getElem?_of_mem_sortedRefs (List.of_mem_zip hm).1
    obtain rfl : t = t' := Option.some.inj (ht.symm.trans ht')
    exact ⟨_, hm, rfl⟩
  · intro h
    obtain ⟨⟨⟨t, i⟩, o⟩, hm, heq⟩ := h
    cases heq
    exact ⟨i, t, getElem?_of_mem_sortedRefs (List.of_mem_zip hm).1, rfl,
      (perTexture_eq_some_iff texs descs i d).mpr ⟨t, hm⟩⟩

/-- At most one entry of a streamRef obtains a descriptor. -/
theorem Obtains.unique {texs : List Texture} {descs : List TextureDescriptor} {r : UInt64}
    {i j : Nat} {d e : TextureDescriptor} (hi : Obtains texs descs r i d)
    (hj : Obtains texs descs r j e) : i = j ∧ d = e := by
  obtain ⟨t, ht, hr, hd⟩ := hi
  obtain ⟨u, hu, hr', he⟩ := hj
  obtain ⟨t', hmt⟩ := (perTexture_eq_some_iff texs descs i d).mp hd
  obtain ⟨u', hmu⟩ := (perTexture_eq_some_iff texs descs j e).mp he
  have ht' := getElem?_of_mem_sortedRefs (List.of_mem_zip hmt).1
  have hu' := getElem?_of_mem_sortedRefs (List.of_mem_zip hmu).1
  obtain rfl : t = t' := Option.some.inj (ht.symm.trans ht')
  obtain rfl : u = u' := Option.some.inj (hu.symm.trans hu')
  have hsame : (t, i) = (u, j) := (sortedRefs_asc texs).eq_of_key_eq (List.of_mem_zip hmt).1
    (List.of_mem_zip hmu).1 (hr.trans hr'.symm)
  cases hsame
  exact ⟨rfl, Option.some.inj (Option.some.inj (hd.symm.trans he))⟩

/-! ## The order of the fetch -/

/-- Textures that share a streamRef share width, height and format. -/
def SameGeometry (texs : List Texture) : Prop :=
  ∀ a ∈ texs, ∀ b ∈ texs, a.streamRef = b.streamRef →
    a.width = b.width ∧ a.height = b.height ∧ a.format = b.format

instance (texs : List Texture) : Decidable (SameGeometry texs) :=
  inferInstanceAs (Decidable (∀ a ∈ texs, ∀ b ∈ texs, a.streamRef = b.streamRef →
    a.width = b.width ∧ a.height = b.height ∧ a.format = b.format))

/-- The dedupe keeps one entry of every streamRef. -/
theorem exists_mem_firstOfRef (seen : List UInt64) (l : List (Texture × Nat)) {a : Texture × Nat}
    (ha : a ∈ l) (hs : a.1.streamRef ∉ seen) :
    ∃ e ∈ firstOfRef seen l, e.1.streamRef = a.1.streamRef := by
  induction l generalizing seen with
  | nil => exact absurd ha List.not_mem_nil
  | cons b l ih =>
    obtain ⟨t, i⟩ := b
    rw [firstOfRef]
    rcases List.mem_cons.mp ha with rfl | ha
    · rw [if_neg hs]
      exact ⟨_, List.mem_cons_self .., rfl⟩
    · split
      · exact ih seen ha hs
      · by_cases hr : t.streamRef = a.1.streamRef
        · exact ⟨_, List.mem_cons_self .., hr⟩
        · have hs' : a.1.streamRef ∉ t.streamRef :: seen := fun h =>
            (List.mem_cons.mp h).elim (fun h => hr h.symm) hs
          obtain ⟨e, he, heq⟩ := ih _ ha hs'
          exact ⟨e, List.mem_cons_of_mem _ he, heq⟩

theorem exists_mem_sortedRefs {texs : List Texture} {t : Texture} (ht : t ∈ texs) :
    ∃ e ∈ sortedRefs texs, e.1.streamRef = t.streamRef := by
  obtain ⟨i, hi⟩ := List.getElem?_of_mem ht
  have hm : (t, i) ∈ texs.zipIdx.insertionSort fun a b => a.1.streamRef ≤ b.1.streamRef :=
    (List.perm_insertionSort _ _).mem_iff.mpr (List.mem_zipIdx_iff_getElem?.mpr hi)
  exact exists_mem_firstOfRef [] _ hm List.not_mem_nil

/-- Which entry of a streamRef the dedupe keeps does not matter for its geometry. -/
theorem mem_refKeys {texs : List Texture} (hg : SameGeometry texs) (p : UInt64 × Key) :
    p ∈ refKeys texs ↔ ∃ t ∈ texs, (t.streamRef, t.key) = p := by
  unfold refKeys
  rw [List.mem_map]
  constructor
  · intro h
    obtain ⟨⟨t, i⟩, he, hp⟩ := h
    exact ⟨t, List.mem_of_getElem? (getElem?_of_mem_sortedRefs he), hp⟩
  · intro h
    obtain ⟨t, ht, hp⟩ := h
    obtain ⟨⟨u, i⟩, he, hr⟩ := exists_mem_sortedRefs ht
    have hu := List.mem_of_getElem? (getElem?_of_mem_sortedRefs he)
    have hkey : u.key = t.key := by
      obtain ⟨hw, hh, hf⟩ := hg u hu t ht hr
      simp only [Texture.key, hw, hh, hf]
    refine ⟨(u, i), he, ?_⟩
    rw [← hp, ← hkey, ← hr]

theorem SameGeometry.perm {texs texs' : List Texture} (hp : texs'.Perm texs)
    (hg : SameGeometry texs) : SameGeometry texs' := fun a ha b hb =>
  hg a (hp.mem_iff.mp ha) b (hp.mem_iff.mp hb)

theorem refKeys_perm {texs texs' : List Texture} (hp : texs'.Perm texs)
    (hg : SameGeometry texs) : refKeys texs' = refKeys texs := by
  refine Ascending.eq_of_mem_iff (refKeys_asc texs') (refKeys_asc texs) fun p => ?_
  rw [mem_refKeys (hg.perm hp), mem_refKeys hg]
  simp only [hp.mem_iff]

/-- With distinct streamRefs the entry at a position obtains what its streamRef obtains. -/
theorem obtains_of_distinct {texs : List Texture} {descs : List TextureDescriptor}
    (hd : texs.Pairwise fun a b => a.streamRef ≠ b.streamRef) {i : Nat} {t : Texture}
    (ht : texs[i]? = some t) (d : TextureDescriptor) :
    (describeTextures texs descs).perTexture[i]? = some (some d) ↔
      ∃ j, Obtains texs descs t.streamRef j d := by
  constructor
  · exact fun h => ⟨i, t, ht, rfl, h⟩
  · intro h
    obtain ⟨j, u, hu, hr, hc⟩ := h
    have hmem : ∀ {k : Nat} {v : Texture}, texs[k]? = some v → (v, k) ∈ sortedRefs texs :=
      fun hv => (sortedRefs_perm texs hd).mem_iff.mpr (List.mem_zipIdx_iff_getElem?.mpr hv)
    have hsame : (u, j) = (t, i) := (sortedRefs_asc texs).eq_of_key_eq (hmem hu) (hmem ht) hr
    cases hsame
    exact hc

/-- The join does not depend on the order of the fetch: for every permutation of the
    textures, each streamRef gets the descriptor it got (that of whichever of its entries
    obtains one), and `unplaced` and `transparent` are the same. With distinct streamRefs
    the descriptors move with their textures. -/
theorem fetch_order (texs texs' : List Texture) (descs : List TextureDescriptor)
    (hg : SameGeometry texs) (hp : texs'.Perm texs) :
    (∀ (r : UInt64) (i j : Nat) (d e : TextureDescriptor),
      Obtains texs descs r i d → Obtains texs descs r j e → i = j ∧ d = e) ∧
    (∀ (r : UInt64) (d : TextureDescriptor),
      (∃ i, Obtains texs' descs r i d) ↔ ∃ i, Obtains texs descs r i d) ∧
    (describeTextures texs' descs).unplaced = (describeTextures texs descs).unplaced ∧
    (describeTextures texs' descs).transparent = (describeTextures texs descs).transparent ∧
    (texs.Pairwise (fun a b => a.streamRef ≠ b.streamRef) →
      (describeTextures texs' descs).perTexture.length = texs'.length ∧
      ∀ (i j : Nat) (t : Texture), texs'[i]? = some t → texs[j]? = some t →
        (describeTextures texs' descs).perTexture[i]? =
          (describeTextures texs descs).perTexture[j]?) := by
  have hrefs : refKeys texs' = refKeys texs := refKeys_perm hp hg
  have hkeys : textureKeys texs' = textureKeys texs := by
    rw [← refKeys_map_snd, hrefs, refKeys_map_snd]
  have hobtained : ∀ (r : UInt64) (d : TextureDescriptor),
      (∃ i, Obtains texs' descs r i d) ↔ ∃ i, Obtains texs descs r i d := fun r d => by
    rw [obtained_iff, obtained_iff, hrefs]
  refine ⟨fun r i j d e hi hj => hi.unique hj, hobtained, ?_, ?_, fun hd => ⟨?_, ?_⟩⟩
  · rw [describeTextures_eq, describeTextures_eq, hkeys]
  · rw [describeTextures_eq, describeTextures_eq]
  · exact length_perTexture texs' descs
  · intro i j t ht' ht
    have hd' : texs'.Pairwise fun a b => a.streamRef ≠ b.streamRef :=
      hp.symm.pairwise hd fun h => h.symm
    -- both entries exist, and each is some descriptor exactly when the streamRef obtains it
    obtain ⟨o', ho'⟩ := exists_perTexture descs ht'
    obtain ⟨o, ho⟩ := exists_perTexture descs ht
    rw [ho', ho]
    refine congrArg some (Option.ext fun d => ?_)
    have hleft := @obtains_of_distinct texs' descs hd' i t ht' d
    have hright := @obtains_of_distinct texs descs hd j t ht d
    rw [ho', Option.some.injEq] at hleft
    rw [ho, Option.some.injEq] at hright
    rw [hleft, hright, hobtained]

/-- A reply that repeats the streamRef 9, and the same textures the other way round. -/
theorem fetch_order_repeated :
    let texs := [srTex 9 64 64, srTex 5 16 16, srTex 9 64 64]
    let texs' := [srTex 5 16 16, srTex 9 64 64, srTex 9 64 64]
    let descs := [testDescriptor 1 16 16 80 1, testDescriptor 2 64 64 80 1]
    (∃ i, Obtains texs' descs 9 i (testDescriptor 2 64 64 80 1)) ∧
      (describeTextures texs' descs).unplaced = (describeTextures texs descs).unplaced := by
  intro texs texs' descs
  have h := fetch_order texs texs' descs (by decide) (by decide)
  exact ⟨(h.2.1 9 _).mpr ⟨0, srTex 9 64 64, by decide, by decide, by decide⟩, h.2.2.1⟩

/-! ## Repeated streamRefs -/

/-- Entries of one streamRef and geometry get the same descriptor, and an entry gets none
    only when no entry of its streamRef obtains one. -/
structure RepeatsAgree (texs : List Texture) (descs : List TextureDescriptor) : Prop where
  same : ∀ (i j : Nat) (t u : Texture), texs[i]? = some t → texs[j]? = some u →
    t.streamRef = u.streamRef → t.width = u.width → t.height = u.height → t.format = u.format →
    (describeTextures texs descs).perTexture[i]? = (describeTextures texs descs).perTexture[j]?
  none_only : ∀ (i : Nat) (t : Texture), texs[i]? = some t →
    (describeTextures texs descs).perTexture[i]? = some none →
    ∀ (j : Nat) (d : TextureDescriptor), ¬ Obtains texs descs t.streamRef j d

/-- The geometries of the kept textures with a streamRef below `r`. -/
def keysBelow (texs : List Texture) (r : UInt64) : List Key :=
  ((sortedRefs texs).filter fun e => e.1.streamRef < r).map fun e => e.1.key

/-- The geometries of the kept textures with a streamRef up to `r`. -/
def keysUpTo (texs : List Texture) (r : UInt64) : List Key :=
  ((sortedRefs texs).filter fun e => e.1.streamRef ≤ r).map fun e => e.1.key

/-- An ascending list around one of its members. -/
theorem keys_split {texs : List Texture} {pre post : List (Texture × Nat)} {e : Texture × Nat}
    (h : sortedRefs texs = pre ++ e :: post) :
    keysBelow texs e.1.streamRef = pre.map (fun e => e.1.key) ∧
      keysUpTo texs e.1.streamRef = pre.map (fun e => e.1.key) ++ [e.1.key] := by
  have hasc := sortedRefs_pairwise texs
  rw [h, List.pairwise_append, List.pairwise_cons] at hasc
  obtain ⟨-, ⟨hpost, -⟩, hpre⟩ := hasc
  have hlow : ∀ a ∈ pre, a.1.streamRef < e.1.streamRef := fun a ha =>
    hpre a ha e (List.mem_cons_self ..)
  unfold keysBelow keysUpTo
  rw [h, List.filter_append, List.filter_append, List.filter_cons, List.filter_cons]
  have hnotLt : ¬ e.1.streamRef < e.1.streamRef := UInt64.lt_irrefl _
  have hpre' : pre.filter (fun a => decide (a.1.streamRef < e.1.streamRef)) = pre :=
    List.filter_eq_self.mpr fun a ha => decide_eq_true (hlow a ha)
  have hpreLe : pre.filter (fun a => decide (a.1.streamRef ≤ e.1.streamRef)) = pre :=
    List.filter_eq_self.mpr fun a ha => decide_eq_true (UInt64.le_of_lt (hlow a ha))
  have hpost' : post.filter (fun a => decide (a.1.streamRef < e.1.streamRef)) = [] :=
    List.filter_eq_nil_iff.mpr fun a ha => by simpa using UInt64.le_of_lt (hpost a ha)
  have hpostLe : post.filter (fun a => decide (a.1.streamRef ≤ e.1.streamRef)) = [] :=
    List.filter_eq_nil_iff.mpr fun a ha => by simpa using hpost a ha
  simp [hnotLt, hpre', hpreLe, hpost', hpostLe]

/-- In a list without repetition an entry is zipped with what stands at its place. -/
theorem mem_zip_iff_of_nodup {α β : Type} {l pre post : List α} {e : α} {l' : List β}
    (h : l = pre ++ e :: post) (hnodup : l.Nodup) (b : β) :
    (e, b) ∈ l.zip l' ↔ l'[pre.length]? = some b := by
  have he : l[pre.length]? = some e := by
    rw [h, List.getElem?_append_right (Nat.le_refl _), Nat.sub_self]
    rfl
  constructor
  · intro hm
    obtain ⟨n, hn⟩ := List.getElem?_of_mem hm
    obtain ⟨hn, hb⟩ := List.getElem?_zip_eq_some.mp hn
    have hlen := (List.getElem?_eq_some_iff.mp hn).1
    have hidx : n = pre.length := (List.getElem?_inj hlen hnodup).mp (hn.trans he.symm)
    exact hidx ▸ hb
  · intro hb
    exact List.mem_of_getElem? (i := pre.length) (List.getElem?_zip_eq_some.mpr ⟨he, hb⟩)

/-- What a streamRef obtains stands next to its kept entry. -/
theorem exists_obtains_iff_kept {texs : List Texture} (descs : List TextureDescriptor)
    {e : Texture × Nat} (he : e ∈ sortedRefs texs) :
    (∃ i d, Obtains texs descs e.1.streamRef i d) ↔
      ∃ d, (e, some d) ∈ (sortedRefs texs).zip
        (Greedy.place TextureDescriptor.key (textureKeys texs) (plain descs)) := by
  constructor
  · intro h
    obtain ⟨i, d, t, ht, hr, hd⟩ := h
    obtain ⟨u, hm⟩ := (perTexture_eq_some_iff texs descs i d).mp hd
    have hu := getElem?_of_mem_sortedRefs (List.of_mem_zip hm).1
    obtain rfl : t = u := Option.some.inj (ht.symm.trans hu)
    have hsame : (t, i) = e :=
      (sortedRefs_asc texs).eq_of_key_eq (List.of_mem_zip hm).1 he hr
    exact ⟨d, hsame ▸ hm⟩
  · intro h
    obtain ⟨d, hm⟩ := h
    exact ⟨e.2, d, e.1, getElem?_of_mem_sortedRefs he, rfl,
      (perTexture_eq_some_iff texs descs e.2 d).mpr ⟨e.1, hm⟩⟩

/-- Some entry of a streamRef obtains a descriptor exactly when some prefix of the
    descriptors can be reached up to the streamRef and not below it. -/
theorem exists_obtains_iff {texs : List Texture} (descs : List TextureDescriptor) {t : Texture}
    (ht : t ∈ texs) :
    (∃ i d, Obtains texs descs t.streamRef i d) ↔
      ∃ p, p <+: (plain descs).map TextureDescriptor.key ∧
        List.Sublist p (keysUpTo texs t.streamRef) ∧
        ¬ List.Sublist p (keysBelow texs t.streamRef) := by
  obtain ⟨e, he, hr⟩ := exists_mem_sortedRefs ht
  obtain ⟨pre, post, hsplit⟩ := List.append_of_mem he
  obtain ⟨hbelow, hupTo⟩ := keys_split hsplit
  have hkeys : textureKeys texs =
      pre.map (fun e => e.1.key) ++ e.1.key :: post.map fun e => e.1.key := by
    rw [textureKeys, hsplit, List.map_append, List.map_cons]
  rw [← hr, exists_obtains_iff_kept descs he, hbelow, hupTo,
    ← Greedy.slot_taken_iff TextureDescriptor.key _ _ (post.map fun e => e.1.key), ← hkeys,
    List.length_map]
  simp only [mem_zip_iff_of_nodup hsplit (sortedRefs_asc texs).nodup]

/-- No entry of a streamRef obtains a descriptor exactly when what can be reached up to the
    streamRef can be reached below it. -/
theorem not_obtains_iff {texs : List Texture} (descs : List TextureDescriptor) {t : Texture}
    (ht : t ∈ texs) :
    (∀ i d, ¬ Obtains texs descs t.streamRef i d) ↔
      ∀ p, p <+: (descs.filter fun d => !combined d).map TextureDescriptor.key →
        List.Sublist p (keysUpTo texs t.streamRef) →
        List.Sublist p (keysBelow texs t.streamRef) := by
  have h := not_congr (exists_obtains_iff descs ht)
  simp only [not_exists, not_and, not_not, plain] at h
  exact h

/-- Every entry but the one that obtains a descriptor has none. -/
theorem perTexture_eq_none {texs : List Texture} {descs : List TextureDescriptor} {i : Nat}
    {t : Texture} (ht : texs[i]? = some t) (h : ∀ d, ¬ Obtains texs descs t.streamRef i d) :
    (describeTextures texs descs).perTexture[i]? = some none := by
  obtain ⟨o, ho⟩ := exists_perTexture descs ht
  cases o with
  | none => exact ho
  | some d => exact absurd ⟨t, ht, rfl, ho⟩ (h d)

/-- Entries of one streamRef agree exactly when no streamRef that stands at two positions is
    given a descriptor: each prefix of the descriptors' geometries that is a subsequence of
    the textures' up to that streamRef is one of those below it already. -/
theorem repeats_agree_iff (texs : List Texture) (descs : List TextureDescriptor) :
    RepeatsAgree texs descs ↔
      ∀ (i j : Nat) (t u : Texture), i ≠ j → texs[i]? = some t → texs[j]? = some u →
        t.streamRef = u.streamRef →
        ∀ p, p <+: (descs.filter fun d => !combined d).map TextureDescriptor.key →
          List.Sublist p (keysUpTo texs t.streamRef) →
          List.Sublist p (keysBelow texs t.streamRef) := by
  constructor
  · intro hagree i j t u hij ht hu hr
    refine (not_obtains_iff descs (List.mem_of_getElem? ht)).mp fun k d hk => ?_
    -- one of the two positions is not the one that obtains the descriptor
    have hnone : ∀ {m : Nat} {v : Texture}, texs[m]? = some v → v.streamRef = t.streamRef →
        m ≠ k → False := fun {m v} hv hvr hmk => by
      refine hagree.none_only m v hv (perTexture_eq_none hv fun e he => ?_) k d (hvr ▸ hk)
      exact hmk (Obtains.unique (hvr ▸ he) hk).1
    by_cases hik : i = k
    · exact hnone hu hr.symm fun hjk => hij (hik.trans hjk.symm)
    · exact hnone ht rfl hik
  · intro hcond
    have hnone : ∀ {i j : Nat} {t u : Texture}, i ≠ j → texs[i]? = some t → texs[j]? = some u →
        t.streamRef = u.streamRef →
        (describeTextures texs descs).perTexture[i]? = some none := fun {i j t u} hij ht hu hr =>
      perTexture_eq_none ht fun d =>
        (not_obtains_iff descs (List.mem_of_getElem? ht)).mpr (hcond i j t u hij ht hu hr) i d
    constructor
    · intro i j t u ht hu hr _ _ _
      by_cases hij : i = j
      · rw [hij]
      · rw [hnone hij ht hu hr, hnone (Ne.symm hij) hu ht hr.symm]
    · intro i t ht hi j d hj
      obtain ⟨u, hu, hr, hd⟩ := hj
      have hij : i ≠ j := fun h => by
        rw [h, hd] at hi
        cases hi
      have := hnone (Ne.symm hij) hu ht hr
      rw [hd] at this
      cases this

/-- One resource answered twice: the first answer obtains the descriptor, the second none. -/
theorem repeat_loses_descriptor :
    ¬ ∀ (texs : List Texture) (descs : List TextureDescriptor), RepeatsAgree texs descs := by
  intro h
  have hsame := (h [srTex 1 64 64, srTex 1 64 64] [testDescriptor 1 64 64 80 1]).same 0 1 _ _ rfl rfl
    rfl rfl rfl rfl
  revert hsame
  decide

end GputoolsReplay
