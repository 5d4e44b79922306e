/-
  When the join can be trusted.

  * `describeTextures_recovers`: the join is the true attribution when no texture without a
    descriptor has the geometry of the next described one.
  * `insertion_kept_iff`: when one more descriptor that fits no texture is merely unplaced.
    The cursor never gets past such a descriptor, so this is not always so
    (`insertion_loses_attribution`).
-/
import GputoolsReplay.Hl.DescribeJoin

namespace GputoolsReplay

/-! ## When the join is the true attribution -/

/-- Any strictly ascending arrangement of the textures is the order of the walk. -/
theorem sortedRefs_map_fst {texs T : List Texture} (hT : T.Perm texs)
    (hlt : T.Pairwise fun a b => a.streamRef < b.streamRef) :
    (sortedRefs texs).map Prod.fst = T := by
  have hne : texs.Pairwise fun a b => a.streamRef ≠ b.streamRef :=
    hT.pairwise (hlt.imp fun h => UInt64.ne_of_lt h) fun h => h.symm
  have hperm : ((sortedRefs texs).map Prod.fst).Perm T := by
    have h := (sortedRefs_perm texs hne).map Prod.fst
    rw [List.zipIdx_map_fst] at h
    exact h.trans hT.symm
  have hsorted : ((sortedRefs texs).map Prod.fst).Pairwise fun a b => a.streamRef < b.streamRef :=
    List.pairwise_map.mpr (sortedRefs_pairwise texs)
  exact hperm.eq_of_pairwise (fun a b _ _ hab hba => absurd hba (UInt64.lt_asymm hab)) hsorted hlt

/-- The true assignment `asg` of the non-combined descriptors to the textures in streamRef
    order is the join's, when no texture it leaves out has the geometry of the next
    descriptor assigned after it. -/
theorem describeTextures_recovers (texs T : List Texture) (descs : List TextureDescriptor)
    (asg : List (Texture × Option TextureDescriptor)) (hT : T.Perm texs)
    (hlt : T.Pairwise fun a b => a.streamRef < b.streamRef) (hasg : asg.map Prod.fst = T)
    (honto : (asg.map Prod.snd).reduceOption = descs.filter fun d => !combined d)
    (hfit : ∀ t d, (t, some d) ∈ asg →
      (d.width, d.height, d.format) = (t.width, t.height, t.format))
    (hskip : ∀ pre t post d, asg = pre ++ (t, none) :: post →
      (post.map Prod.snd).reduceOption.head? = some d →
      (d.width, d.height, d.format) ≠ (t.width, t.height, t.format)) :
    (describeTextures texs descs).perTexture.length = texs.length ∧
      (∀ (i : Nat) (t : Texture), texs[i]? = some t →
        ∃ o, (describeTextures texs descs).perTexture[i]? = some o ∧ (t, o) ∈ asg) ∧
      (describeTextures texs descs).unplaced = [] := by
  have hfst := sortedRefs_map_fst hT hlt
  have hkeys : textureKeys texs = (asg.map fun e => (e.1.key, e.2)).map Prod.fst := by
    rw [textureKeys_eq, hfst, ← hasg, List.map_map, List.map_map]
    rfl
  have hvals : plain descs = ((asg.map fun e => (e.1.key, e.2)).map Prod.snd).reduceOption := by
    rw [List.map_map]
    exact honto.symm
  have hrec := Greedy.place_recovers TextureDescriptor.key (asg.map fun e => (e.1.key, e.2))
    (fun k d h => by
      obtain ⟨⟨t, o⟩, he, heq⟩ := List.mem_map.mp h
      cases heq
      exact hfit t d he)
    (fun pre k post h d hd => by
      obtain ⟨pre', rest, rfl, rfl, hrest⟩ := List.map_eq_append_iff.mp h
      obtain ⟨⟨t, o⟩, post', rfl, heq, rfl⟩ := List.map_eq_cons_iff.mp hrest
      cases heq
      rw [List.map_map] at hd
      exact hskip pre' t post' d rfl hd)
  rw [← hkeys, ← hvals, List.map_map] at hrec
  rw [describeTextures_eq]
  dsimp only
  refine ⟨Scatter.length_scatter _ _, fun i t ht => ?_, hrec.2⟩
  -- position `i` was kept, at some place of the walk; the assignment has the same place
  have hne : texs.Pairwise fun a b => a.streamRef ≠ b.streamRef :=
    hT.pairwise (hlt.imp fun h => UInt64.ne_of_lt h) fun h => h.symm
  have hmem : (t, i) ∈ sortedRefs texs :=
    (sortedRefs_perm texs hne).mem_iff.mpr (List.mem_zipIdx_iff_getElem?.mpr ht)
  obtain ⟨n, hn⟩ := List.getElem?_of_mem hmem
  have htn : (asg.map Prod.fst)[n]? = some t := by
    rw [hasg, ← hfst, List.getElem?_map, hn]
    rfl
  rw [List.getElem?_map, Option.map_eq_some_iff] at htn
  obtain ⟨⟨t', o⟩, hasgn, rfl⟩ := htn
  refine ⟨o, ?_, List.mem_of_getElem? hasgn⟩
  rw [hrec.1]
  have hlen : (asg.map (Prod.snd ∘ fun e => (e.1.key, e.2))).length =
      (sortedRefs texs).length := by
    have hmap := congrArg List.length (hfst.trans hasg.symm)
    rw [List.length_map, List.length_map] at hmap
    rw [List.length_map, hmap]
  refine Scatter.getElem?_scatter _ _ (by rw [positions_zip hlen]; exact sortedRefs_nodup texs)
    (List.getElem?_eq_some_iff.mp ht).1 (List.mem_map.mpr ⟨((t', i), o), ?_, rfl⟩)
  refine List.mem_of_getElem? (i := n) (List.getElem?_zip_eq_some.mpr ⟨hn, ?_⟩)
  rw [List.getElem?_map, hasgn]
  rfl

/-- Three textures out of order, the one in the middle undescribed, and a combined
    descriptor between the two plain ones. -/
theorem describeTextures_recovers_three :
    let texs := [srTex 9 64 64, srTex 5 16 16, srTex 2 64 64]
    let first := testDescriptor 1 64 64 80 1
    let last := testDescriptor 3 64 64 80 7
    let r := describeTextures texs [first, testDescriptor 2 64 64 260 1, last]
    r.perTexture.length = 3 ∧
      (∀ (i : Nat) (t : Texture), texs[i]? = some t → ∃ o, r.perTexture[i]? = some o ∧
        (t, o) ∈ [(srTex 2 64 64, some first), (srTex 5 16 16, none),
          (srTex 9 64 64, some last)]) ∧
      r.unplaced = [] := by
  intro texs first last r
  refine describeTextures_recovers texs [srTex 2 64 64, srTex 5 16 16, srTex 9 64 64] _
    [(srTex 2 64 64, some first), (srTex 5 16 16, none), (srTex 9 64 64, some last)]
    (by decide) (by decide) rfl (by decide) ?_ ?_
  · intro t d h
    simp only [List.mem_cons, Prod.mk.injEq, reduceCtorEq, and_false, List.not_mem_nil, or_false,
      false_or, Option.some.injEq] at h
    rcases h with ⟨rfl, rfl⟩ | ⟨rfl, rfl⟩ <;> decide
  · intro pre t post d h hd
    match pre with
    | [] => cases h
    | [_] =>
      simp only [List.cons_append, List.nil_append, List.cons.injEq, Prod.mk.injEq] at h
      obtain ⟨_, ⟨rfl, _⟩, rfl⟩ := h
      cases hd
      decide
    | [_, _] => cases h
    | [_, _, _] => cases h
    | _ :: _ :: _ :: _ :: _ => cases h

/-! ## One more descriptor -/

/-- Inserting `x` between `l` and `r` changes no attribution and adds exactly `x` to
    `unplaced`. -/
def MerelyUnplaced (texs : List Texture) (l r : List TextureDescriptor) (x : TextureDescriptor) :
    Prop :=
  (describeTextures texs (l ++ x :: r)).perTexture = (describeTextures texs (l ++ r)).perTexture ∧
    (describeTextures texs (l ++ x :: r)).unplaced.Perm
      (x :: (describeTextures texs (l ++ r)).unplaced)

/-- The walk never gets past a descriptor no texture fits: the descriptors after it are
    placed nowhere. -/
theorem place_insert (texs : List Texture) (l r : List TextureDescriptor) (x : TextureDescriptor)
    (hc : combined x = false) (hx : ∀ t ∈ texs, x.key ≠ t.key) :
    Greedy.place TextureDescriptor.key (textureKeys texs) (plain (l ++ x :: r)) =
        Greedy.place TextureDescriptor.key (textureKeys texs) (plain l) ∧
      Greedy.leftover TextureDescriptor.key (textureKeys texs) (plain (l ++ x :: r)) =
        Greedy.leftover TextureDescriptor.key (textureKeys texs) (plain l) ++ x :: plain r := by
  have hsplit : plain (l ++ x :: r) = plain l ++ x :: plain r := by
    unfold plain
    rw [List.filter_append, List.filter_cons_of_pos (by rw [hc]; rfl)]
  rw [hsplit]
  refine Greedy.place_append_of_stuck _ _ _ _ fun e he hs => ?_
  obtain rfl : x = e := Option.some.inj he
  have hmem : x.key ∈ textureKeys texs :=
    hs.subset (List.mem_append_right _ (List.mem_singleton.mpr rfl))
  obtain ⟨⟨t, i⟩, ht, hk⟩ := List.mem_map.mp hmem
  exact hx t (List.mem_of_getElem? (getElem?_of_mem_sortedRefs ht)) hk.symm

/-- How many textures are attributed is how many descriptors are placed. -/
theorem count_perTexture (texs : List Texture) (descs : List TextureDescriptor) :
    (describeTextures texs descs).perTexture.reduceOption.length =
      (Greedy.placed TextureDescriptor.key (textureKeys texs) (plain descs)).length := by
  rw [describeTextures_attribution]
  have hplain : plain descs = (items descs).map Prod.fst := (items_map_fst descs).symm
  unfold Greedy.placed
  rw [hplain, Greedy.place_map, List.reduceOption_map, List.reduceOption_map, List.length_map,
    List.length_map]
  exact (attribution_perm texs descs).length_eq

/-- A descriptor that fits no texture is merely unplaced exactly when the first plain
    descriptor after it could not be reached anyway: the geometries up to and including that
    one are not a subsequence of the textures', in streamRef order. -/
theorem insertion_kept_iff (texs : List Texture) (l r : List TextureDescriptor)
    (x : TextureDescriptor) (hc : combined x = false)
    (hx : ∀ t ∈ texs, (x.width, x.height, x.format) ≠ (t.width, t.height, t.format)) :
    MerelyUnplaced texs l r x ↔
      ∀ d, (r.filter fun d => !combined d).head? = some d →
        ¬ List.Sublist ((l.filter fun d => !combined d).map TextureDescriptor.key ++ [d.key])
          ((sortedRefs texs).map fun e => e.1.key) := by
  have hins := place_insert texs l r x hc hx
  have hsplit : plain (l ++ r) = plain l ++ plain r := List.filter_append ..
  constructor
  · intro hkept
    refine (Greedy.length_placed_append_eq_iff TextureDescriptor.key (textureKeys texs) (plain l)
      (plain r)).mp ?_
    have hcount := congrArg (fun p => (List.reduceOption p).length) hkept.1
    rw [count_perTexture, count_perTexture, hsplit] at hcount
    rw [← hcount]
    unfold Greedy.placed
    rw [hins.1]
  · intro hstuck
    have hstay := Greedy.place_append_of_stuck TextureDescriptor.key (textureKeys texs) (plain l)
      (plain r) hstuck
    unfold MerelyUnplaced
    rw [describeTextures_eq, describeTextures_eq]
    dsimp only
    rw [hins.1, hins.2, hsplit, hstay.1, hstay.2]
    exact ⟨rfl, List.perm_middle⟩

/-- One texture, its descriptor, one of another size, and one more the walk never reaches. -/
theorem insertion_kept_behind :
    MerelyUnplaced [srTex 1 64 64] [testDescriptor 1 64 64 80 1] [testDescriptor 3 64 64 80 7]
      (testDescriptor 2 32 32 80 1) := by
  refine (insertion_kept_iff _ _ _ _ (by decide) (by decide)).mpr fun d hd => ?_
  obtain rfl : testDescriptor 3 64 64 80 7 = d := Option.some.inj hd
  decide

/-- The same descriptor in front of the texture's own takes the attribution away. -/
theorem insertion_loses_attribution :
    ¬ ∀ (texs : List Texture) (l r : List TextureDescriptor) (x : TextureDescriptor),
      combined x = false →
      (∀ t ∈ texs, (x.width, x.height, x.format) ≠ (t.width, t.height, t.format)) →
      MerelyUnplaced texs l r x := by
  intro h
  have hkept := h [srTex 1 64 64] [] [testDescriptor 2 64 64 80 1] (testDescriptor 1 32 32 80 1)
    (by decide) (by decide)
  have hlost : (describeTextures [srTex 1 64 64]
      [testDescriptor 1 32 32 80 1, testDescriptor 2 64 64 80 1]).perTexture ≠
      (describeTextures [srTex 1 64 64] [testDescriptor 2 64 64 80 1]).perTexture := by decide
  exact hlost hkept.1

end GputoolsReplay
