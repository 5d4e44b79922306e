/-
  How large the dictionary can be that `unarchive_root` makes of an archive. The decoder resolves an
  object again for every uid that names it, so shared objects are copied; what bounds the copies is
  the depth at which it stops.

  Weight counts the values of a plist, the characters of its strings and keys and the bytes of its
  data.

  * `unarchiveWithin_weight`: two levels of the decoder multiply the weight by that of an object.
  * `archive_weight`: the bound for a whole archive, and archives that come close to it.
-/
import GputoolsReplay.Hl.PipelineStats

namespace GputoolsReplay

open RustSem

namespace Value

mutual

def weight : Value → Nat
  | .array elems => 1 + weightElems elems
  | .boolean _ => 1
  | .data bytes => 1 + bytes.length
  | .date _ => 1
  | .dictionary entries => 1 + weightEntries entries
  | .integer _ => 1
  | .real _ => 1
  | .string s => 1 + s.length
  | .uid _ => 1

def weightElems : List Value → Nat
  | [] => 0
  | v :: elems => weight v + weightElems elems

def weightEntries : List (String × Value) → Nat
  | [] => 0
  | (k, v) :: entries => 1 + k.length + weight v + weightEntries entries

end

end Value

open Value

/-! ## One level -/

/-- An inserted entry adds its weight at most: it may replace another one. -/
theorem weightEntries_insert (d : Dictionary) (k : String) (v : Value) :
    weightEntries (Dict.insert d k v) ≤ weightEntries d + (1 + k.length + v.weight) := by
  induction d with
  | nil =>
    simp only [Dict.insert, weightEntries]
    omega
  | cons e d ih =>
    obtain ⟨k', v'⟩ := e
    rw [Dict.insert]
    split
    · simp only [weightEntries]
      omega
    · simp only [weightEntries]
      omega

theorem weightEntries_insertAll (d es : Dictionary) :
    weightEntries (Dict.insertAll d es) ≤ weightEntries d + weightEntries es := by
  induction es generalizing d with
  | nil =>
    simp only [Dict.insertAll, List.foldl_nil, weightEntries]
    omega
  | cons e es ih =>
    obtain ⟨k, v⟩ := e
    have hinsert := weightEntries_insert d k v
    have hrest := ih (Dict.insert d k v)
    rw [Dict.insertAll_cons]
    simp only [weightEntries]
    omega

/-- An entry weighs no more than its dictionary. -/
theorem weight_of_lookup {d : Dictionary} {key : String} {v : Value}
    (h : d.lookup key = some v) : 1 + key.length + v.weight ≤ weightEntries d := by
  induction d with
  | nil => cases h
  | cons e d ih =>
    obtain ⟨k', v'⟩ := e
    rw [List.lookup_cons] at h
    simp only [weightEntries]
    by_cases hkey : key = k'
    · subst hkey
      rw [beq_self_eq_true] at h
      obtain rfl := Option.some.inj h
      omega
    · rw [beq_eq_false_iff_ne.mpr hkey] at h
      have := ih h
      omega

/-- Two entries weigh no more than their dictionary. -/
theorem weight_of_lookups {d : Dictionary} {key key' : String} {v v' : Value} (hne : key ≠ key')
    (h : d.lookup key = some v) (h' : d.lookup key' = some v') :
    v.weight + v'.weight ≤ weightEntries d := by
  induction d with
  | nil => cases h
  | cons e d ih =>
    obtain ⟨k, w⟩ := e
    simp only [weightEntries]
    rw [List.lookup_cons] at h h'
    by_cases hk : key = k
    · have hk' : key' ≠ k := fun hk' => hne (hk.trans hk'.symm)
      rw [beq_iff_eq.mpr hk] at h
      rw [beq_eq_false_iff_ne.mpr hk'] at h'
      obtain rfl := Option.some.inj h
      have := weight_of_lookup h'
      omega
    · rw [beq_eq_false_iff_ne.mpr hk] at h
      by_cases hk' : key' = k
      · rw [beq_iff_eq.mpr hk'] at h'
        obtain rfl := Option.some.inj h'
        have := weight_of_lookup h
        omega
      · rw [beq_eq_false_iff_ne.mpr hk'] at h'
        have := ih h h'
        omega

section Levels

variable {objects : List Value} {R : Value → Value → Prop} {B : Nat}

theorem weightElems_le (hR : ∀ v r, R v r → r.weight ≤ v.weight * B) {vals out : List Value}
    (h : List.Forall₂ R vals out) : weightElems out ≤ weightElems vals * B := by
  induction h with
  | nil => exact Nat.zero_le _
  | @cons v r _ _ hvr _ ih =>
    have hv := hR _ _ hvr
    simp only [weightElems]
    calc r.weight + _ ≤ v.weight * B + _ := Nat.add_le_add hv ih
      _ = _ := (Nat.add_mul ..).symm

theorem weightEntries_le (hR : ∀ v r, R v r → r.weight ≤ v.weight * B) {keys vals : List Value}
    {out : List (String × Value)} (hlen : keys.length = vals.length)
    (h : List.Forall₂ (fun e kv => R e.1 (.string kv.1) ∧ R e.2 kv.2) (keys.zip vals) out) :
    weightEntries out ≤ (weightElems keys + weightElems vals) * B := by
  induction keys generalizing vals out with
  | nil =>
    obtain rfl : out = [] := by simpa using h
    exact Nat.zero_le _
  | cons key keys ih =>
    cases vals with
    | nil => cases hlen
    | cons val vals =>
      obtain ⟨⟨k, v⟩, out', ⟨hk, hv⟩, hrest, rfl⟩ := List.forall₂_cons_left_iff.mp h
      have hkey : 1 + k.length ≤ key.weight * B := hR _ _ hk
      have hval : v.weight ≤ val.weight * B := hR _ _ hv
      have hentries := ih (Nat.succ.inj hlen) hrest
      simp only [weightElems, weightEntries]
      calc 1 + k.length + v.weight + weightEntries out'
          ≤ key.weight * B + val.weight * B + (weightElems keys + weightElems vals) * B := by omega
        _ = _ := by ring

/-- A node that is no uid is resolved to what its children are resolved to. -/
theorem Resolves.weight_le (hB : 0 < B) (hR : ∀ v r, R v r → r.weight ≤ v.weight * B)
    {v r : Value} (h : Resolves objects R v r) (hv : ∀ u, v ≠ .uid u) :
    r.weight ≤ v.weight * B := by
  cases h with
  | uid => exact absurd rfl (hv _)
  | @dict d keys vals out hvals hkeys hlen hout =>
    obtain ⟨vs, hvs, hvals⟩ := Option.bind_eq_some_iff.mp hvals
    obtain ⟨ks, hks, hkeys⟩ := Option.bind_eq_some_iff.mp hkeys
    obtain rfl := asArray_eq_some.mp hvals
    obtain rfl := asArray_eq_some.mp hkeys
    have hroom := weight_of_lookups (by decide) hks hvs
    have hinsert := weightEntries_insertAll [] out
    have hentries := weightEntries_le hR hlen hout
    simp only [weight, weightEntries] at hroom hinsert ⊢
    calc 1 + weightEntries (Dict.insertAll [] out)
        ≤ B + (weightElems keys + weightElems vals) * B := by omega
      _ = (1 + (weightElems keys + weightElems vals)) * B := by ring
      _ ≤ (1 + weightEntries d) * B := Nat.mul_le_mul_right _ (by omega)
  | @array d vals out hvals hkeys hout =>
    obtain ⟨vs, hvs, hvals⟩ := Option.bind_eq_some_iff.mp hvals
    obtain rfl := asArray_eq_some.mp hvals
    have hroom := weight_of_lookup hvs
    have helems := weightElems_le hR hout
    simp only [weight] at hroom ⊢
    calc 1 + weightElems out ≤ B + weightElems vals * B := by omega
      _ = (1 + weightElems vals) * B := by ring
      _ ≤ (1 + weightEntries d) * B := Nat.mul_le_mul_right _ (by omega)
  | passed => exact Nat.le_mul_of_pos_right _ hB

/-- With `n` levels, a node that is no uid is multiplied by an object's weight at every second
    level below it, and a uid stands for one object more. -/
theorem unarchiveWithin_weight {w : Nat} (hw : 0 < w) (hobjects : ∀ t ∈ objects, t.weight ≤ w)
    (n : Nat) :
    (∀ v r, (∀ u, v ≠ .uid u) → unarchiveWithin objects n v = .ok r →
      r.weight ≤ v.weight * w ^ ((n - 1) / 2)) ∧
    ∀ u r, unarchiveWithin objects n (.uid u) = .ok r → r.weight ≤ w ^ (n / 2) := by
  induction n with
  | zero =>
    constructor
    · intro v r _ h
      cases h
    · intro u r h
      cases h
  | succ n ih =>
    obtain ⟨hnode, huid⟩ := ih
    have hmono : w ^ ((n - 1) / 2) ≤ w ^ (n / 2) := Nat.pow_le_pow_right hw (by omega)
    constructor
    · intro v r hv h
      apply (unarchiveWithin_succ_eq_ok_iff.mp h).weight_le (Nat.pow_pos hw) _ hv
      intro v r h
      by_cases hv : ∃ u, v = .uid u
      · obtain ⟨u, rfl⟩ := hv
        rw [weight, Nat.one_mul]
        exact huid u r h
      · exact (hnode v r (fun u hu => hv ⟨u, hu⟩) h).trans (Nat.mul_le_mul_left _ hmono)
    · intro u r h
      obtain @⟨_, t, _, ht, hr⟩ | _ | _ | hpassed := unarchiveWithin_succ_eq_ok_iff.mp h
      · by_cases huid' : ∃ u, t = .uid u
        · obtain ⟨u', rfl⟩ := huid'
          exact (huid u' r hr).trans (Nat.pow_le_pow_right hw (by omega))
        · cases n with
          | zero => cases hr
          | succ n =>
            have hr := hnode t r (fun u hu => huid' ⟨u, hu⟩) hr
            calc r.weight ≤ t.weight * w ^ (n / 2) := hr
              _ ≤ w * w ^ (n / 2) :=
                Nat.mul_le_mul_right _ (hobjects t (List.mem_of_getElem? ht))
              _ = w ^ (n / 2 + 1) := (Nat.pow_succ' ..).symm
              _ = w ^ ((n + 1 + 1) / 2) := by congr 1; omega
      · exact absurd hpassed id

end Levels

/-- The dictionary of an archive weighs at most 32 objects multiplied, for each value of its
    root. -/
theorem unarchiveEnvelope_weight {root : Value} {d : Dictionary} {w : Nat} (hw : 0 < w)
    (h : unarchiveEnvelope root = .ok d) :
    ∃ objects rootRef, archiveParts root = .ok (objects, rootRef) ∧
      ((∀ t ∈ objects, t.weight ≤ w) → (Value.dictionary d).weight ≤ rootRef.weight * w ^ 32) := by
  unfold unarchiveEnvelope at h
  obtain ⟨⟨objects, rootRef⟩, hparts, h⟩ := bind_eq_ok.mp h
  obtain ⟨r, hr, h⟩ := bind_eq_ok.mp h
  refine ⟨objects, rootRef, hparts, fun hobjects => ?_⟩
  obtain rfl : r = .dictionary d := by
    cases r with
    | dictionary d' =>
      cases h
      rfl
    | _ => cases h
  obtain ⟨hnode, huid⟩ := unarchiveWithin_weight hw hobjects (maxArchiveDepth + 1)
  by_cases hv : ∃ u, rootRef = .uid u
  · obtain ⟨u, rfl⟩ := hv
    show _ ≤ 1 * w ^ 32
    rw [Nat.one_mul]
    exact huid u _ hr
  · exact hnode rootRef _ (fun u hu => hv ⟨u, hu⟩) hr

/-! ## Archives that are multiplied -/

/-- The layer whose elements are `k` references to slot `i`. -/
def layer (k i : Nat) : Value :=
  .dictionary [("NS.objects", .array ((List.replicate k (UInt64.ofNat i)).map .uid))]

/-- The dictionary of one entry `x`, its key, `n` layers from slot 2 on, each of `k` references to
    the next slot, and a number. -/
def layered (k n : Nat) : List Value :=
  .dictionary [("NS.keys", .array [.uid 1]), ("NS.objects", .array [.uid 2])] :: .string "x" ::
    ((List.range n).map fun j => layer k (j + 3)) ++ [.integer 0]

/-- The archive of an object table. -/
def archiveOf (objects : List Value) : Value :=
  .dictionary [("$objects", .array objects), ("$top", .dictionary [("root", .uid 0)])]

/-- What the layers stand for. -/
def nest (k : Nat) : Nat → ArchiveTree
  | 0 => .leaf (.integer 0)
  | m + 1 => .arr (List.replicate k (nest k m))

section Layers

variable {k n : Nat}

theorem length_layered : (layered k n).length = n + 3 := by simp [layered]

theorem weight_layered : ∀ t ∈ layered k n, t.weight ≤ k + 24 := by
  have hrefs : ∀ u : UInt64, weightElems ((List.replicate k u).map .uid) = k := by
    intro u
    induction k with
    | zero => rfl
    | succ k ih =>
      rw [List.replicate_succ, List.map_cons, weightElems, ih, weight]
      omega
  intro t ht
  simp only [layered, List.mem_append, List.mem_cons, List.mem_map, List.not_mem_nil,
    or_false] at ht
  rcases ht with (rfl | rfl | ⟨j, -, rfl⟩) | rfl
  · exact Nat.le_add_left 24 k
  · exact Nat.le_add_left_of_le (by decide)
  · have hname : "NS.objects".length = 10 := rfl
    simp only [layer, weight, weightEntries, hrefs, hname]
    omega
  · exact Nat.le_add_left_of_le (by decide)

theorem getElem?_layer {j : Nat} (hj : j < n) :
    (layered k n)[j + 2]? = some (layer k (j + 3)) := by
  simp [layered, List.getElem?_append_left, hj]

theorem getElem?_bottom : (layered k n)[n + 2]? = some (.integer 0) := by
  simp [layered]

theorem toNat_ofNat_small {i : Nat} (hi : i < 2 ^ 63) : (UInt64.ofNat i).toNat = i := by
  rw [UInt64.toNat_ofNat']
  exact Nat.mod_eq_of_lt (by omega)

/-! ### Archives that are decoded -/

theorem archived_layer (hn : n < 2 ^ 62) (m j : Nat) (hj : j + m = n) :
    Archived (layered k n) (UInt64.ofNat (j + 2)) (nest k m) := by
  induction m generalizing j with
  | zero =>
    obtain rfl : j = n := by omega
    apply Archived.leaf
    rw [toNat_ofNat_small (by omega)]
    exact getElem?_bottom
  | succ m ih =>
    have hslot : (layered k n)[(UInt64.ofNat (j + 2)).toNat]? = some (layer k (j + 3)) := by
      rw [toNat_ofNat_small (by omega)]
      exact getElem?_layer (by omega)
    apply Archived.arr hslot rfl rfl (by simp)
    intro p hp
    obtain ⟨href, htree⟩ := List.of_mem_zip hp
    rw [List.eq_of_mem_replicate href, List.eq_of_mem_replicate htree]
    exact ih (j + 1) (by omega)

theorem archived_layered (hn : n < 2 ^ 62) :
    Archived (layered k n) 0 (.dict [("x", nest k n)]) :=
  @Archived.dict_one _ 0 1 2 _ _ rfl rfl rfl rfl (archived_layer hn n 0 (by omega))

/-- Without references only the first layer is reached. -/
theorem archived_noReferences (hn : 0 < n) :
    Archived (layered 0 n) 0 (.dict [("x", nest 0 n)]) := by
  obtain ⟨m, rfl⟩ : ∃ m, n = m + 1 := ⟨n - 1, by omega⟩
  apply @Archived.dict_one _ 0 1 2 _ _ rfl rfl rfl rfl
  exact @Archived.arr _ 2 _ [] [] (@getElem?_layer 0 (m + 1) 0 hn) rfl rfl rfl
    fun p hp => absurd hp List.not_mem_nil

theorem height_nest (k m : Nat) : (nest k m).height ≤ m := by
  induction m with
  | zero => exact Nat.le_refl 0
  | succ m ih =>
    show ArchiveTree.heightElems (List.replicate k (nest k m)) ≤ m + 1
    generalize nest k m = t at ih
    induction k with
    | zero => exact Nat.zero_le _
    | succ k ihk =>
      rw [List.replicate_succ, ArchiveTree.heightElems]
      omega

theorem height_nest_zero (m : Nat) : (nest 0 m).height = 0 := by
  cases m <;> rfl

theorem keysDistinct_nest (k m : Nat) : (nest k m).KeysDistinct := by
  induction m with
  | zero => exact .leaf _
  | succ m ih =>
    apply ArchiveTree.KeysDistinct.arr
    intro t ht
    rw [List.eq_of_mem_replicate ht]
    exact ih

/-- The numbers in a nest. -/
theorem weight_nest (k m : Nat) : k ^ m ≤ (nest k m).toValue.weight := by
  induction m with
  | zero => exact Nat.le_refl 1
  | succ m ih =>
    have helems : ∀ t : ArchiveTree, k * t.toValue.weight ≤
        weightElems ((List.replicate k t).map ArchiveTree.toValue) := by
      clear ih
      intro t
      induction k with
      | zero => exact Nat.le_of_eq (Nat.zero_mul _)
      | succ k ihk =>
        rw [List.replicate_succ, List.map_cons, weightElems, Nat.succ_mul]
        omega
    show _ ≤ (ArchiveTree.arr (List.replicate k (nest k m))).toValue.weight
    rw [ArchiveTree.toValue, ArchiveTree.toValues_eq_map, weight]
    calc k ^ (m + 1) = k * k ^ m := Nat.pow_succ'
      _ ≤ k * (nest k m).toValue.weight := Nat.mul_le_mul_left _ ih
      _ ≤ weightElems ((List.replicate k (nest k m)).map ArchiveTree.toValue) := helems _
      _ ≤ _ := Nat.le_add_left ..

/-! ### Archives that are refused -/

theorem layered_hop (hj : j < 2 ^ 62) {t : Value} (ht : (layered k n)[j + 2]? = some t)
    (visit : Value → Except Error Value) :
    unarchiveStep (layered k n) visit (.uid (UInt64.ofNat (j + 2))) = visit t := by
  have hslot : (UInt64.ofNat (j + 2)).toNat = j + 2 := toNat_ofNat_small (by omega)
  rw [unarchiveStep, uidTarget_eq_ok_iff.mpr (by rw [hslot]; exact ht), ok_bind]

/-- A layer is not resolved unless there are two levels for it and for each one below. -/
theorem unarchiveWithin_layer (hk : 0 < k) (b j : Nat) (hj : j ≤ n) (hsmall : j + b < 2 ^ 62)
    (hb : b < 2 * (n - j) + 2) :
    unarchiveWithin (layered k n) b (.uid (UInt64.ofNat (j + 2))) = .error archiveTooDeep := by
  induction b using Nat.twoStepInduction generalizing j with
  | zero => rfl
  | one =>
    by_cases hlast : j = n
    · subst hlast
      exact layered_hop (by omega) getElem?_bottom _
    · exact layered_hop (by omega) (getElem?_layer (by omega)) _
  | more b ih =>
    have hlast : j < n := by omega
    obtain ⟨k, rfl⟩ : ∃ k', k = k' + 1 := ⟨k - 1, by omega⟩
    have hnext := ih (j + 1) (by omega) (by omega) (by omega)
    show unarchiveStep (layered (k + 1) n) (unarchiveWithin (layered (k + 1) n) (b + 1)) _ = _
    rw [layered_hop (by omega) (getElem?_layer hlast)]
    show (unarchiveElems (unarchiveWithin (layered (k + 1) n) b)
      ((List.replicate (k + 1) (UInt64.ofNat (j + 3))).map .uid) >>= _) = _
    rw [List.replicate_succ, List.map_cons, unarchiveElems, hnext]
    rfl

end Layers

/-- Resolving an archive. When no object of the table weighs more than `w`, which is at least one,
    the dictionary weighs at most `w ^ 32` for each value of the root, which is one value when the
    root is named by a uid. And archives come close: the one with `n` layers of `k` references has
    `n + 3` objects of weight `k + 24` at most, and is decoded exactly up to 30 layers (or when its
    layers are empty), to a dictionary with `k ^ n` numbers; with more layers it is refused. -/
theorem archive_weight :
    (∀ (root : Value) (d : Dictionary), unarchiveEnvelope root = .ok d →
      ∃ objects rootRef, archiveParts root = .ok (objects, rootRef) ∧
        ∀ w, 0 < w → (∀ t ∈ objects, t.weight ≤ w) →
          (Value.dictionary d).weight ≤ rootRef.weight * w ^ 32) ∧
    ∀ k n, (layered k n).length = n + 3 ∧ (∀ t ∈ layered k n, t.weight ≤ k + 24) ∧
      (n ≤ 30 ∨ k = 0 → ∃ d, unarchiveEnvelope (archiveOf (layered k n)) = .ok d ∧
        k ^ n ≤ (Value.dictionary d).weight) ∧
      (30 < n → 0 < k → unarchiveEnvelope (archiveOf (layered k n)) = .error archiveTooDeep) := by
  refine ⟨?_, fun k n => ⟨length_layered, weight_layered, ?_, ?_⟩⟩
  · intro root d h
    obtain ⟨objects, rootRef, hparts, -⟩ := unarchiveEnvelope_weight (by decide : 0 < 1) h
    refine ⟨objects, rootRef, hparts, fun w hw hobjects => ?_⟩
    obtain ⟨objects', rootRef', hparts', hweight⟩ := unarchiveEnvelope_weight hw h
    obtain ⟨rfl, rfl⟩ := Prod.mk.inj (Except.ok.inj (hparts.symm.trans hparts'))
    exact hweight hobjects
  · intro hn
    have harchived : Archived (layered k n) 0 (.dict [("x", nest k n)]) ∧
        (nest k n).height ≤ 30 := by
      by_cases hlayers : n ≤ 30
      · exact ⟨archived_layered (by omega), Nat.le_trans (height_nest k n) hlayers⟩
      · obtain rfl := hn.resolve_left hlayers
        exact ⟨archived_noReferences (by omega), by rw [height_nest_zero]; omega⟩
    have hfile : ArchivedFile (fun _ => .ok (archiveOf (layered k n))) [] [("x", nest k n)] := by
      refine ⟨⟨_, _, _, 0, rfl, rfl, rfl, rfl, harchived.1⟩, ?_, ?_⟩
      · exact .dict_one (keysDistinct_nest k n)
      · have hheight := harchived.2
        simp only [ArchiveTree.height, ArchiveTree.heightEntries]
        omega
    refine ⟨_, unarchiveRoot_of_file hfile, ?_⟩
    have hnest := weight_nest k n
    simp only [ArchiveTree.toEntries, weight, weightEntries]
    omega
  · intro hn hk
    -- the root's uid, its dictionary and the key are resolved, with 63 levels left for the layers
    have hkey : unarchiveWithin (layered k n) 63 (.uid 1) = .ok (.string "x") := rfl
    have hlayer : unarchiveWithin (layered k n) 63 (.uid 2) = .error archiveTooDeep :=
      unarchiveWithin_layer hk 63 0 (Nat.zero_le n) (by decide) (by omega)
    have hvalue : unarchiveValue (layered k n) (.uid 0) 0 = .error archiveTooDeep := by
      show (unarchiveEntries (unarchiveWithin (layered k n) 63) [(.uid 1, .uid 2)] [] >>= _) = _
      rw [unarchiveEntries, hkey, ok_bind]
      dsimp only [asString]
      rw [hlayer]
      rfl
    show (unarchiveValue (layered k n) (.uid 0) 0 >>= _) = _
    rw [hvalue]
    rfl

/-- An archive of 33 small objects that is decoded to a billion numbers, one of 34 that is
    refused, and an empty layer before a thousand others. -/
theorem archive_weight_thirtyLayers :
    ((layered 2 30).length = 33 ∧ (∀ t ∈ layered 2 30, t.weight ≤ 26) ∧
      ∃ d, unarchiveEnvelope (archiveOf (layered 2 30)) = .ok d ∧
        1000000000 ≤ (Value.dictionary d).weight) ∧
    unarchiveEnvelope (archiveOf (layered 2 31)) = .error archiveTooDeep ∧
    ∃ d, unarchiveEnvelope (archiveOf (layered 0 1000)) = .ok d := by
  obtain ⟨hlength, hobjects, hdecoded, -⟩ := archive_weight.2 2 30
  obtain ⟨d, hd, hweight⟩ := hdecoded (.inl (Nat.le_refl 30))
  obtain ⟨-, -, -, hrefused⟩ := archive_weight.2 2 31
  obtain ⟨-, -, hempty, -⟩ := archive_weight.2 0 1000
  obtain ⟨d', hd', -⟩ := hempty (.inr rfl)
  exact ⟨⟨hlength, hobjects, d, hd, Nat.le_trans (by decide) hweight⟩,
    hrefused (by decide) (by decide), d', hd'⟩

end GputoolsReplay
