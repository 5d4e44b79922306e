/-
  The decoder against the trees an archive is made from.

  * `ArchiveTree`: dictionaries, arrays and scalar leaves.
  * `Archived`: a slot of an object table holds a tree. Slots may come in any order and be
    shared, and objects may have more fields than the decoder reads.
  * `unarchiveWithin_archived`: a level of the tree costs two levels of the decoder, a uid
    hop and the container.
  * `unarchiveRoot_archived`: the decoder gives the tree back.
-/
import GputoolsReplay.Hl.Unarchive

namespace GputoolsReplay

open RustSem

/-- A scalar value. -/
inductive Scalar where
  | data (bytes : Bytes)
  | string (s : String)
  | integer (n : Int)
  | real (bits : UInt64)
  | boolean (b : Bool)
  | date (ticks : Int)

def Scalar.toValue : Scalar → Value
  | .data bytes => .data bytes
  | .string s => .string s
  | .integer n => .integer n
  | .real bits => .real bits
  | .boolean b => .boolean b
  | .date ticks => .date ticks

/-- What is archived: dictionaries, arrays and scalar leaves. -/
inductive ArchiveTree where
  | leaf (x : Scalar)
  | arr (elems : List ArchiveTree)
  | dict (entries : List (String × ArchiveTree))

namespace ArchiveTree

mutual

/-- The value the tree stands for. -/
def toValue : ArchiveTree → Value
  | .leaf x => x.toValue
  | .arr elems => .array (toValues elems)
  | .dict entries => .dictionary (toEntries entries)

def toValues : List ArchiveTree → List Value
  | [] => []
  | t :: elems => toValue t :: toValues elems

def toEntries : List (String × ArchiveTree) → Dictionary
  | [] => []
  | (k, t) :: entries => (k, toValue t) :: toEntries entries

end

mutual

/-- The number of edges, from a container to a key or to an element, on the longest path. -/
def height : ArchiveTree → Nat
  | .leaf _ => 0
  | .arr elems => heightElems elems
  | .dict entries => heightEntries entries

def heightElems : List ArchiveTree → Nat
  | [] => 0
  | t :: elems => max (1 + height t) (heightElems elems)

/-- The edge to a key is no longer than the path through its value. -/
def heightEntries : List (String × ArchiveTree) → Nat
  | [] => 0
  | (_, t) :: entries => max (max 1 (1 + height t)) (heightEntries entries)

end

/-- Every dictionary has distinct keys. -/
inductive KeysDistinct : ArchiveTree → Prop where
  | leaf (x : Scalar) : KeysDistinct (.leaf x)
  | arr {elems : List ArchiveTree} : (∀ t ∈ elems, KeysDistinct t) → KeysDistinct (.arr elems)
  | dict {entries : List (String × ArchiveTree)} : (entries.map Prod.fst).Nodup →
      (∀ e ∈ entries, KeysDistinct e.2) → KeysDistinct (.dict entries)

theorem KeysDistinct.arr_one {t : ArchiveTree} (h : t.KeysDistinct) :
    (ArchiveTree.arr [t]).KeysDistinct :=
  .arr (by simpa using h)

theorem KeysDistinct.dict_one {e : String × ArchiveTree} (h : e.2.KeysDistinct) :
    (ArchiveTree.dict [e]).KeysDistinct :=
  .dict (by simp) (by simpa using h)

theorem KeysDistinct.dict_two {e e' : String × ArchiveTree} (hne : e.1 ≠ e'.1)
    (h : e.2.KeysDistinct) (h' : e'.2.KeysDistinct) : (ArchiveTree.dict [e, e']).KeysDistinct :=
  .dict (by simpa using hne) (by simpa using ⟨h, h'⟩)

theorem toValues_eq_map (elems : List ArchiveTree) : toValues elems = elems.map toValue := by
  induction elems with
  | nil => rfl
  | cons t elems ih => rw [toValues, ih, List.map_cons]

theorem toEntries_eq_map (entries : List (String × ArchiveTree)) :
    toEntries entries = entries.map fun e => (e.1, e.2.toValue) := by
  induction entries with
  | nil => rfl
  | cons e entries ih => rw [toEntries, ih, List.map_cons]

theorem height_lt_heightElems {t : ArchiveTree} {elems : List ArchiveTree} (h : t ∈ elems) :
    t.height < heightElems elems := by
  induction elems with
  | nil => exact absurd h List.not_mem_nil
  | cons t' elems ih =>
    rw [heightElems]
    rcases List.mem_cons.mp h with rfl | h
    · omega
    · have := ih h
      omega

theorem height_lt_heightEntries {e : String × ArchiveTree} {entries : List (String × ArchiveTree)}
    (h : e ∈ entries) : e.2.height < heightEntries entries := by
  induction entries with
  | nil => exact absurd h List.not_mem_nil
  | cons e' entries ih =>
    rw [heightEntries]
    rcases List.mem_cons.mp h with rfl | h
    · omega
    · have := ih h
      omega

end ArchiveTree

/-! ## Object tables -/

/-- Slot `u` of the table holds the tree: a leaf as the scalar itself, an array as an
    object with `NS.objects` only, a dictionary as one with `NS.keys` and `NS.objects`,
    every key and element by a uid. -/
inductive Archived (objects : List Value) : UInt64 → ArchiveTree → Prop where
  | leaf {u : UInt64} {x : Scalar} :
      objects[u.toNat]? = some x.toValue → Archived objects u (.leaf x)
  | arr {u : UInt64} {d : Dictionary} {refs : List UInt64} {elems : List ArchiveTree} :
      objects[u.toNat]? = some (.dictionary d) → d.lookup "NS.keys" = none →
      d.lookup "NS.objects" = some (.array (refs.map .uid)) → refs.length = elems.length →
      (∀ p ∈ refs.zip elems, Archived objects p.1 p.2) → Archived objects u (.arr elems)
  | dict {u : UInt64} {d : Dictionary} {keyRefs refs : List UInt64}
      {entries : List (String × ArchiveTree)} :
      objects[u.toNat]? = some (.dictionary d) →
      d.lookup "NS.keys" = some (.array (keyRefs.map .uid)) →
      d.lookup "NS.objects" = some (.array (refs.map .uid)) →
      keyRefs.length = entries.length → refs.length = entries.length →
      (∀ p ∈ keyRefs.zip entries, objects[p.1.toNat]? = some (.string p.2.1)) →
      (∀ p ∈ refs.zip entries, Archived objects p.1 p.2.2) → Archived objects u (.dict entries)

section Small

variable {objects : List Value} {u k k' r r' : UInt64} {d : Dictionary} {t : ArchiveTree}
variable {e e' : String × ArchiveTree}

theorem Archived.arr_one (hv : objects[u.toNat]? = some (.dictionary d))
    (hkeys : d.lookup "NS.keys" = none)
    (hobjs : d.lookup "NS.objects" = some (.array [.uid r])) (h : Archived objects r t) :
    Archived objects u (.arr [t]) :=
  @Archived.arr _ _ _ [r] _ hv hkeys hobjs rfl (by simpa using h)

theorem Archived.dict_one (hv : objects[u.toNat]? = some (.dictionary d))
    (hkeys : d.lookup "NS.keys" = some (.array [.uid k]))
    (hobjs : d.lookup "NS.objects" = some (.array [.uid r]))
    (hk : objects[k.toNat]? = some (.string e.1)) (h : Archived objects r e.2) :
    Archived objects u (.dict [e]) :=
  @Archived.dict _ _ _ [k] [r] _ hv hkeys hobjs rfl rfl (by simpa using hk) (by simpa using h)

theorem Archived.dict_two (hv : objects[u.toNat]? = some (.dictionary d))
    (hkeys : d.lookup "NS.keys" = some (.array [.uid k, .uid k']))
    (hobjs : d.lookup "NS.objects" = some (.array [.uid r, .uid r']))
    (hk : objects[k.toNat]? = some (.string e.1)) (hk' : objects[k'.toNat]? = some (.string e'.1))
    (h : Archived objects r e.2) (h' : Archived objects r' e'.2) :
    Archived objects u (.dict [e, e']) :=
  @Archived.dict _ _ _ [k, k'] [r, r'] _ hv hkeys hobjs rfl rfl (by simpa using ⟨hk, hk'⟩)
    (by simpa using ⟨h, h'⟩)

end Small

/-- An archive: a file whose `$top.root` names the slot of a dictionary of at most 31 levels with
    distinct keys. -/
structure ArchivedFile (fromBytes : Bytes → Except String Value) (bytes : Bytes)
    (entries : List (String × ArchiveTree)) : Prop where
  archived : ∃ envelope top objects u, fromBytes bytes = .ok (.dictionary envelope) ∧
    envelope.lookup "$objects" = some (.array objects) ∧
    envelope.lookup "$top" = some (.dictionary top) ∧ top.lookup "root" = some (.uid u) ∧
    Archived objects u (.dict entries)
  distinct : (ArchiveTree.dict entries).KeysDistinct
  height : (ArchiveTree.dict entries).height ≤ 31

/-! ## The round trip -/

theorem Scalar.passedThrough (x : Scalar) : PassedThrough x.toValue := by
  cases x <;> trivial

/-- A slot with a node that is returned as it is. -/
theorem unarchiveWithin_uid_passed {objects : List Value} {u : UInt64} {v : Value} {n : Nat}
    (hv : objects[u.toNat]? = some v) (hp : PassedThrough v) (hn : 2 ≤ n) :
    unarchiveWithin objects n (.uid u) = .ok v := by
  obtain ⟨m, rfl⟩ : ∃ m, n = m + 2 := ⟨n - 2, by omega⟩
  exact unarchiveWithin_succ_eq_ok_iff.mpr
    (.uid hv (unarchiveWithin_succ_eq_ok_iff.mpr (.passed hp)))

theorem forall₂_zip_left {α β γ : Type} {P : α → γ → Prop} {Q : β → γ → Prop} {as : List α}
    {bs : List β} {cs : List γ} (h : List.Forall₂ P as cs) (h' : List.Forall₂ Q bs cs) :
    List.Forall₂ (fun e c => P e.1 c ∧ Q e.2 c) (as.zip bs) cs := by
  induction h generalizing bs with
  | nil =>
    cases h'
    exact .nil
  | cons hac _ ih =>
    obtain ⟨b, bs', hbc, hrest, rfl⟩ := List.forall₂_cons_right_iff.mp h'
    exact .cons ⟨hac, hbc⟩ (ih hrest)

/-- Two levels of the decoder for a slot, and two more for every level of the tree. -/
theorem unarchiveWithin_archived {objects : List Value} {u : UInt64} {t : ArchiveTree}
    (h : Archived objects u t) (hd : t.KeysDistinct) {n : Nat} (hn : 2 * t.height + 2 ≤ n) :
    unarchiveWithin objects n (.uid u) = .ok t.toValue := by
  induction h generalizing n with
  | leaf hv => exact unarchiveWithin_uid_passed hv (Scalar.passedThrough _) (by omega)
  | @arr u d refs elems hv hkeys hobjs hlen _ ih =>
    obtain ⟨m, rfl⟩ : ∃ m, n = m + 2 := ⟨n - 2, by omega⟩
    rw [ArchiveTree.height] at hn
    obtain _ | hdist := hd
    have hvals : nsObjects d = some (refs.map .uid) := by unfold nsObjects; rw [hobjs]; rfl
    have hnone : nsKeys d = none := by unfold nsKeys; rw [hkeys]; rfl
    have helems : List.Forall₂ (fun v r => unarchiveWithin objects m v = .ok r)
        (refs.map .uid) (elems.map ArchiveTree.toValue) := by
      rw [List.forall₂_map_left_iff, List.forall₂_map_right_iff, List.forall₂_iff_zip]
      refine ⟨hlen, fun {a b} hab => ?_⟩
      have hb := (List.of_mem_zip hab).2
      have := ArchiveTree.height_lt_heightElems hb
      exact ih (a, b) hab (hdist b hb) (by dsimp only; omega)
    rw [ArchiveTree.toValue, ArchiveTree.toValues_eq_map]
    exact unarchiveWithin_succ_eq_ok_iff.mpr
      (.uid hv (unarchiveWithin_succ_eq_ok_iff.mpr (.array hvals hnone helems)))
  | @dict u d keyRefs refs entries hv hkeys hobjs hklen hlen hstr _ ih =>
    obtain ⟨m, rfl⟩ : ∃ m, n = m + 2 := ⟨n - 2, by omega⟩
    rw [ArchiveTree.height] at hn
    obtain _ | _ | ⟨hnodup, hdist⟩ := hd
    have hvals : nsObjects d = some (refs.map .uid) := by unfold nsObjects; rw [hobjs]; rfl
    have hks : nsKeys d = some (keyRefs.map .uid) := by unfold nsKeys; rw [hkeys]; rfl
    have hkey : List.Forall₂ (fun k e =>
        unarchiveWithin objects m (.uid k) = .ok (.string e.1)) keyRefs entries := by
      rw [List.forall₂_iff_zip]
      refine ⟨hklen, fun {a b} hab => ?_⟩
      have := ArchiveTree.height_lt_heightEntries (List.of_mem_zip hab).2
      exact unarchiveWithin_uid_passed (hstr _ hab) trivial (by omega)
    have hval : List.Forall₂ (fun r e =>
        unarchiveWithin objects m (.uid r) = .ok e.2.toValue) refs entries := by
      rw [List.forall₂_iff_zip]
      refine ⟨hlen, fun {a b} hab => ?_⟩
      have hb := (List.of_mem_zip hab).2
      have := ArchiveTree.height_lt_heightEntries hb
      exact ih (a, b) hab (hdist b hb) (by dsimp only; omega)
    have hentries : List.Forall₂ (fun e kv =>
        unarchiveWithin objects m e.1 = .ok (.string kv.1) ∧
          unarchiveWithin objects m e.2 = .ok kv.2)
        ((keyRefs.map Value.uid).zip (refs.map .uid))
        (entries.map fun e => (e.1, e.2.toValue)) := by
      rw [List.zip_map, List.forall₂_map_left_iff, List.forall₂_map_right_iff]
      exact forall₂_zip_left hkey hval
    have hout : Dict.insertAll [] (entries.map fun e => (e.1, e.2.toValue)) =
        entries.map fun e => (e.1, e.2.toValue) := by
      refine Dict.insertAll_eq_append [] _ ?_
      rw [List.nil_append, List.map_map]
      exact hnodup
    have hdict : Resolves objects (fun v r => unarchiveWithin objects m v = .ok r)
        (.dictionary d)
        (.dictionary (Dict.insertAll [] (entries.map fun e => (e.1, e.2.toValue)))) :=
      .dict hvals hks (by rw [List.length_map, List.length_map, hklen, hlen]) hentries
    rw [hout] at hdict
    rw [ArchiveTree.toValue, ArchiveTree.toEntries_eq_map]
    exact unarchiveWithin_succ_eq_ok_iff.mpr
      (.uid hv (unarchiveWithin_succ_eq_ok_iff.mpr hdict))

/-- The decoder gives the entries back. -/
theorem unarchiveRoot_of_file {fromBytes : Bytes → Except String Value} {bytes : Bytes}
    {entries : List (String × ArchiveTree)} (h : ArchivedFile fromBytes bytes entries) :
    unarchiveRoot fromBytes bytes = .ok (ArchiveTree.toEntries entries) := by
  obtain ⟨⟨envelope, top, objects, u, hbytes, hobjects, htop, hroot, harchived⟩, hdistinct,
    hheight⟩ := h
  have hparts : archiveParts (.dictionary envelope) = .ok (objects, .uid u) := by
    unfold archiveParts
    simp only [Value.asDictionary, hobjects, htop, hroot, Option.bind_some, Value.asArray]
  have hvalue : unarchiveValue objects (.uid u) 0 =
      .ok (ArchiveTree.dict entries).toValue :=
    unarchiveWithin_archived harchived hdistinct (by unfold maxArchiveDepth; omega)
  rw [unarchiveRoot_of_decoded hbytes, unarchiveEnvelope, hparts, ok_bind]
  dsimp only
  rw [hvalue, ArchiveTree.toValue]
  rfl

/-- A tree of at most 31 levels comes back from any table that holds it, under any envelope
    whose `$top.root` names its slot. -/
theorem unarchiveRoot_archived (fromBytes : Bytes → Except String Value) (bytes : Bytes)
    (envelope top : Dictionary) (objects : List Value) (u : UInt64)
    (entries : List (String × ArchiveTree))
    (hbytes : fromBytes bytes = .ok (.dictionary envelope))
    (hobjects : envelope.lookup "$objects" = some (.array objects))
    (htop : envelope.lookup "$top" = some (.dictionary top))
    (hroot : top.lookup "root" = some (.uid u))
    (harchived : Archived objects u (.dict entries))
    (hdistinct : (ArchiveTree.dict entries).KeysDistinct)
    (hheight : (ArchiveTree.dict entries).height ≤ 31) :
    ∃ d, unarchiveRoot fromBytes bytes = .ok d ∧
      (ArchiveTree.dict entries).toValue = .dictionary d := by
  have hfile : ArchivedFile fromBytes bytes entries :=
    ⟨⟨envelope, top, objects, u, hbytes, hobjects, htop, hroot, harchived⟩, hdistinct, hheight⟩
  exact ⟨_, unarchiveRoot_of_file hfile, by rw [ArchiveTree.toValue]⟩

/-- The envelope of `compute: [7]`. -/
theorem unarchiveRoot_archived_compute :
    ∃ d, unarchiveRoot (decodesTo computeBytes computeEnvelope) computeBytes = .ok d ∧
      (ArchiveTree.dict [("compute", .arr [.leaf (.integer 7)])]).toValue = .dictionary d := by
  refine unarchiveRoot_archived _ computeBytes _ _ _ 0 _ (if_pos rfl) rfl rfl rfl ?_
    (.dict_one (.arr_one (.leaf _))) (by decide)
  apply @Archived.dict_one _ 0 1 2 _ _ rfl rfl rfl rfl
  exact @Archived.arr_one _ 2 3 _ _ rfl rfl rfl (.leaf rfl)

end GputoolsReplay
