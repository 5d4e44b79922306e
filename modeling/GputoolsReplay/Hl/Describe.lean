/-
  The descriptor join (`describe.rs`): fetched textures in streamRef order against manifest
  descriptors in list order, with one cursor into the descriptors.

  * `zipBestEffort`, `describeTextures`: the walk and the join as the source computes them.
  * `zipBestEffort_eq`: the walk is the greedy placement (`Greedy.place`) of the
    non-combined descriptors, each with its index, onto the keys.
  * `describeTextures_eq`: the join scatters that placement back to the input positions.
-/
import Mathlib.Data.List.Sort
import GputoolsReplay.Lib.Greedy
import GputoolsReplay.Lib.Scatter
import GputoolsReplay.Hl.Image

namespace GputoolsReplay

/-- `gputrace_bundle::TextureDescriptor`, with the fields the join's callers build. -/
structure TextureDescriptor where
  store0Offset : UInt64
  format : UInt32
  textureType : UInt32
  width : UInt32
  height : UInt32
  depth : UInt32
  mipLevels : UInt32
  arrayLength : UInt32
  sampleCount : UInt32
  usage : UInt64
  textureId : UInt64
  deriving DecidableEq, Repr

/-- A `(width, height, format)` key. -/
abbrev Key := UInt32 × UInt32 × UInt32

def TextureDescriptor.key (d : TextureDescriptor) : Key := (d.width, d.height, d.format)

def Texture.key (t : Texture) : Key := (t.width, t.height, t.format)

/-- The closure `combined` of `zip_best_effort`. -/
def combined (d : TextureDescriptor) : Bool := (formatKind d.format).isCombinedDepthStencil

/-! ## `zip_best_effort` -/

/-- The variables of the walk: the result, the `placed` flags and the cursor. -/
structure ZipState where
  out : List (Option Nat)
  placed : List Bool
  j : Nat

/-- The inner `while`: the cursor moves past combined descriptors. `rest` is `descs` from
    the cursor on. -/
def skipCombined : List TextureDescriptor → Nat → Nat
  | [], j => j
  | d :: rest, j => if combined d then skipCombined rest (j + 1) else j

/-- One turn of the walk: key `i` against the descriptor under the cursor. -/
def zipStep (descs : List TextureDescriptor) (s : ZipState) : Key × Nat → ZipState
  | ((w, h, f), i) =>
    let j := skipCombined (descs.drop s.j) s.j
    match descs[j]? with
    | some d =>
      if d.width = w ∧ d.height = h ∧ d.format = f then
        { out := s.out.set i (some j), placed := s.placed.set j true, j := j + 1 }
      else { s with j := j }
    | none => { s with j := j }

/-- `zip_best_effort`. -/
def zipBestEffort (keys : List Key) (descs : List TextureDescriptor) :
    List (Option Nat) × List Nat × List Nat :=
  let s := keys.zipIdx.foldl (zipStep descs)
    { out := List.replicate keys.length none, placed := List.replicate descs.length false, j := 0 }
  let unplaced := descs.zipIdx.filter fun (d, idx) => !combined d && !s.placed.getD idx false
  let transparent := descs.zipIdx.filter fun (d, _) => combined d
  (s.out, unplaced.map Prod.snd, transparent.map Prod.snd)

/-! ## `describe_textures` -/

/-- `Descriptions`. -/
structure Descriptions where
  perTexture : List (Option TextureDescriptor)
  unplaced : List TextureDescriptor
  transparent : List TextureDescriptor
  deriving DecidableEq

/-- `order.filter(|&i| seen.insert(stream_ref))`: the first of every streamRef. -/
def firstOfRef (seen : List UInt64) : List (Texture × Nat) → List (Texture × Nat)
  | [] => []
  | (t, i) :: rest =>
    if t.streamRef ∈ seen then firstOfRef seen rest
    else (t, i) :: firstOfRef (t.streamRef :: seen) rest

/-- `sorted`: the input positions by streamRef, one for each streamRef. A position travels
    with the texture it names. -/
def sortedRefs (texs : List Texture) : List (Texture × Nat) :=
  firstOfRef [] (texs.zipIdx.insertionSort fun a b => a.1.streamRef ≤ b.1.streamRef)

/-- `describe_textures`. -/
def describeTextures (texs : List Texture) (descs : List TextureDescriptor) : Descriptions :=
  if descs.isEmpty then
    { perTexture := List.replicate texs.length none, unplaced := [], transparent := [] }
  else
    let sorted := sortedRefs texs
    let keys := sorted.map fun (t, _) => t.key
    let (matched, unplacedIdx, transparentIdx) := zipBestEffort keys descs
    let descFor := Scatter.scatter texs.length
      ((sorted.zip matched).map fun ((_, ti), m) => (ti, m.bind fun dj => descs[dj]?))
    { perTexture := descFor
      unplaced := unplacedIdx.filterMap fun dj => descs[dj]?
      transparent := transparentIdx.filterMap fun dj => descs[dj]? }

/-- `sr_tex` of the join's tests. -/
def srTex (streamRef : UInt64) (width : UInt32) (height : UInt16) : Texture :=
  Texture.forTest streamRef width height 4 80
    { buf := AlignedBuf.fromBytes [0, 0, 0, 0], off := 0, len := 4 }

/-- `d` of the join's tests. -/
def testDescriptor (off : UInt64) (w h fmt mip : UInt32) : TextureDescriptor where
  store0Offset := off
  format := fmt
  textureType := 2
  width := w
  height := h
  depth := 1
  mipLevels := mip
  arrayLength := 1
  sampleCount := 1
  usage := 0
  textureId := 0

/-! ## The walk is a greedy placement -/

/-- The non-combined descriptors from `j` on, each with its index. -/
def itemsFrom (descs : List TextureDescriptor) (j : Nat) : List (TextureDescriptor × Nat) :=
  ((descs.drop j).zipIdx j).filter fun e => !combined e.1

/-- The non-combined descriptors, each with its index. -/
def items (descs : List TextureDescriptor) : List (TextureDescriptor × Nat) := itemsFrom descs 0

def itemKey (e : TextureDescriptor × Nat) : Key := e.1.key

/-- Where the `while` stops: past the last descriptor, or at the next item. -/
theorem itemsFrom_skipCombined (descs : List TextureDescriptor) (j : Nat) :
    let j' := skipCombined (descs.drop j) j
    (descs[j']? = none ∧ itemsFrom descs j = [] ∧ itemsFrom descs j' = []) ∨
    ∃ d, descs[j']? = some d ∧ itemsFrom descs j = (d, j') :: itemsFrom descs (j' + 1) ∧
      itemsFrom descs j' = itemsFrom descs j := by
  generalize hr : descs.drop j = rest
  induction rest generalizing j with
  | nil =>
    left
    have hi : itemsFrom descs j = [] := by simp [itemsFrom, hr]
    dsimp only [skipCombined]
    exact ⟨by simpa [List.drop_eq_nil_iff] using hr, hi, hi⟩
  | cons d rest ih =>
    have hd : descs[j]? = some d := by
      have := congrArg List.head? hr
      simpa [List.head?_drop] using this
    have hr' : descs.drop (j + 1) = rest := by
      rw [← List.drop_drop, hr]
      rfl
    have hi : itemsFrom descs j =
        if combined d then itemsFrom descs (j + 1) else (d, j) :: itemsFrom descs (j + 1) := by
      unfold itemsFrom
      rw [hr, hr', List.zipIdx_cons, List.filter_cons]
      by_cases hc : combined d <;> simp [hc]
    dsimp only [skipCombined]
    by_cases hc : combined d
    · rw [if_pos hc] at hi ⊢
      rw [hi]
      exact ih (j + 1) hr'
    · rw [if_neg hc] at hi ⊢
      right
      exact ⟨d, hd, hi, rfl⟩

/-- The walk over the keys `ks`, from any cursor: the result gains the placement of the
    remaining items, and their indices are flagged. -/
theorem zipLoop_eq (descs : List TextureDescriptor) (ks : List Key) (done : List (Option Nat))
    (placed : List Bool) (j : Nat) (hp : placed.length = descs.length) :
    let s := (ks.zipIdx done.length).foldl (zipStep descs)
      { out := done ++ List.replicate ks.length none, placed, j }
    s.out = done ++ (Greedy.place itemKey ks (itemsFrom descs j)).map (Option.map Prod.snd) ∧
      ∀ x, s.placed.getD x false = true ↔ placed.getD x false = true ∨
        x ∈ (Greedy.placed itemKey ks (itemsFrom descs j)).map Prod.snd := by
  induction ks generalizing done placed j with
  | nil => simp [Greedy.place, Greedy.placed]
  | cons k ks ih =>
    obtain ⟨w, h, f⟩ := k
    have hskip := itemsFrom_skipCombined descs j
    dsimp only at hskip ⊢
    rw [List.zipIdx_cons, List.foldl_cons, zipStep]
    dsimp only
    rcases hskip with ⟨hnone, hj, hj'⟩ | ⟨d, hsome, hj, hj'⟩
    · -- no descriptor is left: the slot stays empty
      have := ih (done ++ [none]) placed (skipCombined (descs.drop j) j) hp
      rw [hnone, hj]
      rw [hj'] at this
      simpa [Greedy.place, Greedy.placed, List.replicate_succ] using this
    · rw [hsome, hj]
      have hkey : itemKey (d, skipCombined (descs.drop j) j) = (w, h, f) ↔
          d.width = w ∧ d.height = h ∧ d.format = f := by
        simp [itemKey, TextureDescriptor.key]
      by_cases hfit : d.width = w ∧ d.height = h ∧ d.format = f
      · -- the slot takes the descriptor under the cursor
        have hlt : skipCombined (descs.drop j) j < placed.length := by
          rw [hp]
          exact (List.getElem?_eq_some_iff.mp hsome).1
        have := ih (done ++ [some (skipCombined (descs.drop j) j)])
          (placed.set (skipCombined (descs.drop j) j) true)
          (skipCombined (descs.drop j) j + 1) (by rw [List.length_set, hp])
        have hset : (done ++ List.replicate (ks.length + 1) none).set done.length
            (some (skipCombined (descs.drop j) j)) =
            done ++ [some (skipCombined (descs.drop j) j)] ++ List.replicate ks.length none := by
          rw [List.set_append_right _ _ (Nat.le_refl _), Nat.sub_self, List.replicate_succ,
            List.set_cons_zero, List.append_assoc]
          rfl
        dsimp only
        rw [if_pos hfit, List.length_cons, hset]
        rw [List.length_append, List.length_singleton] at this
        have hplace : ∀ ds, Greedy.place itemKey ((w, h, f) :: ks)
            ((d, skipCombined (descs.drop j) j) :: ds) =
            some (d, skipCombined (descs.drop j) j) :: Greedy.place itemKey ks ds := fun ds => by
          rw [Greedy.place, if_pos (hkey.mpr hfit)]
        refine ⟨?_, fun x => ?_⟩
        · rw [this.1, hplace]
          simp
        · rw [this.2 x, Greedy.placed, Greedy.placed, hplace,
            List.reduceOption_cons_of_some, List.map_cons, List.mem_cons,
            List.getD_eq_getElem?_getD, List.getD_eq_getElem?_getD, List.getElem?_set]
          by_cases hx : skipCombined (descs.drop j) j = x
          · subst hx
            simp [hlt]
          · have hx' : x ≠ skipCombined (descs.drop j) j := fun e => hx e.symm
            simp [hx, hx']
      · -- keys differ: the slot stays empty and the cursor stays on the item
        have := ih (done ++ [none]) placed (skipCombined (descs.drop j) j) hp
        rw [hj', hj] at this
        simpa [hfit, Greedy.placed, Greedy.place, mt hkey.mp hfit, List.replicate_succ] using this

/-! ## What the walk returns -/

theorem items_nodup (descs : List TextureDescriptor) : ((items descs).map Prod.snd).Nodup := by
  have h : ((descs.zipIdx).map Prod.snd).Nodup := by
    rw [List.zipIdx_map_snd]
    exact List.nodup_range'
  exact h.sublist (List.filter_sublist.map _)

theorem mem_items {descs : List TextureDescriptor} {d : TextureDescriptor} {j : Nat} :
    (d, j) ∈ items descs ↔ descs[j]? = some d ∧ combined d = false := by
  unfold items itemsFrom
  rw [List.drop_zero, List.mem_filter, List.mem_zipIdx_iff_getElem?]
  simp

theorem items_map_fst (descs : List TextureDescriptor) :
    (items descs).map Prod.fst = descs.filter fun d => !combined d := by
  unfold items itemsFrom
  rw [List.drop_zero]
  have h := List.filter_map (f := Prod.fst) (p := fun d => !combined d) (l := descs.zipIdx)
  rw [List.zipIdx_map_fst] at h
  exact h.symm

/-- Of a list with distinct names, what is not named in the front part is the back part. -/
theorem filter_append_of_nodup {α : Type} (f : α → Nat) (p q : List α) (b : α → Bool)
    (hd : ((p ++ q).map f).Nodup) (hb : ∀ x ∈ p ++ q, b x = false ↔ f x ∈ p.map f) :
    (p ++ q).filter b = q := by
  rw [List.filter_append, List.filter_eq_nil_iff.mpr, List.filter_eq_self.mpr, List.nil_append]
  · intro x hx
    rw [List.map_append] at hd
    have hx' : f x ∉ p.map f := fun h =>
      (List.nodup_append.mp hd).2.2 (f x) h (f x) (List.mem_map_of_mem hx) rfl
    have := mt (hb x (List.mem_append_right _ hx)).mp hx'
    simpa using this
  · intro x hx
    rw [(hb x (List.mem_append_left _ hx)).mpr (List.mem_map_of_mem hx)]
    exact Bool.false_ne_true

/-- `zip_best_effort` is the greedy placement of the items onto the keys. -/
theorem zipBestEffort_eq (keys : List Key) (descs : List TextureDescriptor) :
    zipBestEffort keys descs =
      ((Greedy.place itemKey keys (items descs)).map (Option.map Prod.snd),
        (Greedy.leftover itemKey keys (items descs)).map Prod.snd,
        (descs.zipIdx.filter fun e => combined e.1).map Prod.snd) := by
  have hloop := zipLoop_eq descs keys [] (List.replicate descs.length false) 0
    List.length_replicate
  rw [List.length_nil, List.nil_append, List.nil_append] at hloop
  obtain ⟨hout, hplaced⟩ := hloop
  unfold zipBestEffort
  dsimp only
  rw [hout]
  generalize keys.zipIdx.foldl (zipStep descs)
    { out := List.replicate keys.length none, placed := List.replicate descs.length false,
      j := 0 } = s at hplaced ⊢
  have hsplit := Greedy.placed_append_leftover itemKey keys (items descs)
  have hfilter : (descs.zipIdx.filter fun e => !combined e.1 && !s.placed.getD e.2 false) =
      Greedy.leftover itemKey keys (items descs) := by
    have hitems : (descs.zipIdx.filter fun e => !combined e.1 && !s.placed.getD e.2 false) =
        (items descs).filter fun e => !s.placed.getD e.2 false := by
      unfold items itemsFrom
      rw [List.drop_zero, List.filter_filter]
      exact List.filter_congr fun e _ => Bool.and_comm ..
    rw [hitems]
    conv_lhs => rw [← hsplit]
    refine filter_append_of_nodup Prod.snd _ _ _ (by rw [hsplit]; exact items_nodup descs)
      fun x _ => ?_
    have hnone : (List.replicate descs.length false).getD x.2 false ≠ true := by
      rw [List.getD_eq_getElem?_getD, List.getElem?_replicate]
      split <;> exact Bool.false_ne_true
    rw [Bool.not_eq_false', hplaced, or_iff_right hnone]
    rfl
  exact congrArg (fun l => ((Greedy.place itemKey keys (items descs)).map (Option.map Prod.snd),
    l.map Prod.snd, (descs.zipIdx.filter fun e => combined e.1).map Prod.snd)) hfilter

end GputoolsReplay
