/-
  The keyed-archive decoder (`pipeline.rs`): `unarchive_value` resolves one node of the
  archived object graph, `unarchive_root` an envelope.

  * `unarchiveValue`: the recursion of the source, by the depth that is left.
  * `unarchiveValue_eq`: the same recursion in the source's terms, by the depth reached.
  * `unarchiveStep_eq_ok_iff`: one level of the recursion succeeds exactly by one of the
    rules of `Resolves`.
  * `unarchiveWithin_string`: what resolves to a string is a string behind uids.
-/
import Mathlib.Data.List.Forall2
import GputoolsReplay.Hl.Error
import GputoolsReplay.Lib.Rust
import GputoolsReplay.Substrate.Plist

namespace GputoolsReplay

open RustSem

/-- `MAX_ARCHIVE_DEPTH`. -/
def maxArchiveDepth : Nat := 64

/-- The `Value::Uid` arm up to the recursive call: the `$objects` entry the uid names. -/
def uidTarget (objects : List Value) (uid : UInt64) : Except Error Value :=
  match usizeTryFrom uid with
  | none => .error (.badPipeline "UID out of range")
  | some idx =>
    match objects[idx]? with
    | none => .error (.badPipeline s!"UID {idx} out of bounds")
    | some target => .ok target

/-- `d.get("NS.objects").and_then(Value::as_array)`. -/
def nsObjects (d : Dictionary) : Option (List Value) := (d.lookup "NS.objects").bind Value.asArray

/-- `d.get("NS.keys").and_then(Value::as_array)`. -/
def nsKeys (d : Dictionary) : Option (List Value) := (d.lookup "NS.keys").bind Value.asArray

/-- The loop over `NS.keys` and `NS.objects`. `visit` is the recursive call. -/
def unarchiveEntries (visit : Value → Except Error Value) :
    List (Value × Value) → Dictionary → Except Error Dictionary
  | [], out => .ok out
  | (k, val) :: rest, out => do
    let key ← visit k
    match key.asString with
    | none => .error (.badPipeline "a dictionary key is not a string")
    | some key => unarchiveEntries visit rest (Dict.insert out key (← visit val))

/-- The loop over the `NS.objects` of an array. -/
def unarchiveElems (visit : Value → Except Error Value) : List Value → Except Error (List Value)
  | [] => .ok []
  | val :: rest => do
    let v ← visit val
    let vs ← unarchiveElems visit rest
    return v :: vs

/-- The body of `unarchive_value` under the depth check. `visit` is the recursive call. -/
def unarchiveStep (objects : List Value) (visit : Value → Except Error Value) :
    Value → Except Error Value
  | .uid uid => do
    let target ← uidTarget objects uid
    visit target
  | .dictionary d =>
    match nsObjects d with
    | none => .ok (.dictionary d)
    | some vals =>
      match nsKeys d with
      | some keys =>
        if keys.length ≠ vals.length then
          .error (.badPipeline "NS.keys/NS.objects length mismatch")
        else do
          let out ← unarchiveEntries visit (keys.zip vals) []
          return .dictionary out
      | none => do
        let out ← unarchiveElems visit vals
        return .array out
  | other => .ok other

def archiveTooDeep : Error := .badPipeline "archived object graph too deep (possible cycle)"

/-- The recursion with `budget` levels left. -/
def unarchiveWithin (objects : List Value) : Nat → Value → Except Error Value
  | 0, _ => .error archiveTooDeep
  | budget + 1, v => unarchiveStep objects (unarchiveWithin objects budget) v

/-- `unarchive_value`. Depth `MAX_ARCHIVE_DEPTH` is the last that is let in. -/
def unarchiveValue (objects : List Value) (v : Value) (depth : Nat) : Except Error Value :=
  unarchiveWithin objects (maxArchiveDepth + 1 - depth) v

/-- The recursion as the source writes it. -/
theorem unarchiveValue_eq (objects : List Value) (v : Value) (depth : Nat) :
    unarchiveValue objects v depth =
      if depth > maxArchiveDepth then .error archiveTooDeep
      else unarchiveStep objects (fun w => unarchiveValue objects w (depth + 1)) v := by
  unfold unarchiveValue
  by_cases h : depth > maxArchiveDepth
  · rw [if_pos h, Nat.sub_eq_zero_of_le h]
    rfl
  · rw [if_neg h, show maxArchiveDepth + 1 - depth = maxArchiveDepth + 1 - (depth + 1) + 1 by omega]
    rfl

/-- The lookups of `unarchive_root`: `$objects` and `$top.root`. -/
def archiveParts (root : Value) : Except Error (List Value × Value) :=
  match root.asDictionary with
  | none => .error (.badPipeline "root is not a dictionary")
  | some envelope =>
    match (envelope.lookup "$objects").bind Value.asArray with
    | none => .error (.badPipeline "no $objects array")
    | some objects =>
      match (envelope.lookup "$top").bind Value.asDictionary with
      | none => .error (.badPipeline "no $top dictionary")
      | some top =>
        match top.lookup "root" with
        | none => .error (.badPipeline "no $top.root")
        | some rootRef => .ok (objects, rootRef)

/-- `unarchive_root` on the decoded envelope. -/
def unarchiveEnvelope (root : Value) : Except Error Dictionary := do
  let (objects, rootRef) ← archiveParts root
  match ← unarchiveValue objects rootRef 0 with
  | .dictionary d => return d
  | _ => .error (.badPipeline "archived root is not a dictionary")

/-- `unarchive_root`. `fromBytes` is `plist::from_bytes`, with the text of its error. -/
def unarchiveRoot (fromBytes : Bytes → Except String Value) (bytes : Bytes) :
    Except Error Dictionary :=
  match fromBytes bytes with
  | .error e => .error (.badPipeline e)
  | .ok root => unarchiveEnvelope root

theorem unarchiveRoot_of_decoded {fromBytes : Bytes → Except String Value} {bytes : Bytes}
    {root : Value} (h : fromBytes bytes = .ok root) :
    unarchiveRoot fromBytes bytes = unarchiveEnvelope root := by
  unfold unarchiveRoot
  rw [h]

/-- The binary plist of the envelope of the dictionary `compute: [7]`. -/
def computeBytes : Bytes :=
  [0x62, 0x70, 0x6c, 0x69, 0x73, 0x74, 0x30, 0x30, 0xd2, 0x01, 0x02, 0x03, 0x10, 0x58, 0x24,
    0x6f, 0x62, 0x6a, 0x65, 0x63, 0x74, 0x73, 0x54, 0x24, 0x74, 0x6f, 0x70, 0xa4, 0x04, 0x0b,
    0x0c, 0x0f, 0xd2, 0x05, 0x06, 0x07, 0x09, 0x57, 0x4e, 0x53, 0x2e, 0x6b, 0x65, 0x79, 0x73,
    0x5a, 0x4e, 0x53, 0x2e, 0x6f, 0x62, 0x6a, 0x65, 0x63, 0x74, 0x73, 0xa1, 0x08, 0x80, 0x01,
    0xa1, 0x0a, 0x80, 0x02, 0x57, 0x63, 0x6f, 0x6d, 0x70, 0x75, 0x74, 0x65, 0xd1, 0x06, 0x0d,
    0xa1, 0x0e, 0x80, 0x03, 0x10, 0x07, 0xd1, 0x11, 0x12, 0x54, 0x72, 0x6f, 0x6f, 0x74, 0x80,
    0x00, 0x08, 0x0d, 0x16, 0x1b, 0x20, 0x25, 0x2d, 0x38, 0x3a, 0x3c, 0x3e, 0x40, 0x48, 0x4b,
    0x4d, 0x4f, 0x51, 0x54, 0x59, 0x00, 0x00, 0x00, 0x00, 0x00, 0x00, 0x01, 0x01, 0x00, 0x00,
    0x00, 0x00, 0x00, 0x00, 0x00, 0x13, 0x00, 0x00, 0x00, 0x00, 0x00, 0x00, 0x00, 0x00, 0x00,
    0x00, 0x00, 0x00, 0x00, 0x00, 0x00, 0x5b]

def computeEnvelope : Value :=
  .dictionary [
    ("$objects", .array [
      .dictionary [("NS.keys", .array [.uid 1]), ("NS.objects", .array [.uid 2])],
      .string "compute",
      .dictionary [("NS.objects", .array [.uid 3])],
      .integer 7]),
    ("$top", .dictionary [("root", .uid 0)])]

example : unarchiveEnvelope computeEnvelope = .ok [("compute", .array [.integer 7])] := rfl

/-! ## One level -/

/-- A node that is returned as it is: no uid, no archived collection. -/
def PassedThrough : Value → Prop
  | .uid _ => False
  | .dictionary d => nsObjects d = none
  | _ => True

/-- Every node has one of the four shapes. -/
theorem node_cases (v : Value) :
    (∃ u, v = .uid u) ∨
    (∃ d vals keys, v = .dictionary d ∧ nsObjects d = some vals ∧ nsKeys d = some keys) ∨
    (∃ d vals, v = .dictionary d ∧ nsObjects d = some vals ∧ nsKeys d = none) ∨
    PassedThrough v := by
  cases v with
  | uid u => exact Or.inl ⟨u, rfl⟩
  | dictionary d =>
    cases hv : nsObjects d with
    | none => exact Or.inr (Or.inr (Or.inr hv))
    | some vals =>
      cases hk : nsKeys d with
      | none => exact Or.inr (Or.inr (Or.inl ⟨d, vals, rfl, hv, hk⟩))
      | some keys => exact Or.inr (Or.inl ⟨d, vals, keys, rfl, hv, hk⟩)
  | _ => exact Or.inr (Or.inr (Or.inr trivial))

/-- One level of resolution, by the shape of the node. `R` resolves its children. -/
inductive Resolves (objects : List Value) (R : Value → Value → Prop) : Value → Value → Prop where
  | uid {u : UInt64} {t r : Value} :
      objects[u.toNat]? = some t → R t r → Resolves objects R (.uid u) r
  | dict {d : Dictionary} {keys vals : List Value} {out : List (String × Value)} :
      nsObjects d = some vals → nsKeys d = some keys → keys.length = vals.length →
      List.Forall₂ (fun e kv => R e.1 (.string kv.1) ∧ R e.2 kv.2) (keys.zip vals) out →
      Resolves objects R (.dictionary d) (.dictionary (Dict.insertAll [] out))
  | array {d : Dictionary} {vals out : List Value} :
      nsObjects d = some vals → nsKeys d = none → List.Forall₂ R vals out →
      Resolves objects R (.dictionary d) (.array out)
  | passed {v : Value} : PassedThrough v → Resolves objects R v v

theorem uidTarget_eq_ok_iff {objects : List Value} {u : UInt64} {t : Value} :
    uidTarget objects u = .ok t ↔ objects[u.toNat]? = some t := by
  unfold uidTarget
  rw [usizeTryFrom_eq]
  dsimp only
  cases objects[u.toNat]? with
  | none => simp
  | some t' => simp

theorem unarchiveEntries_eq_ok_iff (visit : Value → Except Error Value)
    (es : List (Value × Value)) (acc r : Dictionary) :
    unarchiveEntries visit es acc = .ok r ↔
      ∃ out, List.Forall₂ (fun e kv => visit e.1 = .ok (.string kv.1) ∧ visit e.2 = .ok kv.2)
        es out ∧ r = Dict.insertAll acc out := by
  induction es generalizing acc with
  | nil =>
    simp only [unarchiveEntries, List.forall₂_nil_left_iff, exists_eq_left, Except.ok.injEq]
    exact eq_comm
  | cons e es ih =>
    obtain ⟨k, val⟩ := e
    simp only [List.forall₂_cons_left_iff]
    constructor
    · intro h
      rw [unarchiveEntries, bind_eq_ok] at h
      obtain ⟨key, hkey, h⟩ := h
      cases hs : key.asString with
      | none => rw [hs] at h; cases h
      | some s =>
        rw [hs] at h
        obtain rfl := Value.asString_eq_some.mp hs
        dsimp only at h
        rw [bind_eq_ok] at h
        obtain ⟨v, hv, h⟩ := h
        obtain ⟨out, hout, rfl⟩ := (ih _).mp h
        exact ⟨(s, v) :: out, ⟨(s, v), out, ⟨hkey, hv⟩, hout, rfl⟩, rfl⟩
    · intro h'
      obtain ⟨_, ⟨⟨s, v⟩, out, ⟨hkey, hv⟩, hout, rfl⟩, rfl⟩ := h'
      dsimp only at hkey hv
      rw [unarchiveEntries, hkey, ok_bind]
      dsimp only [Value.asString]
      rw [hv, ok_bind]
      exact (ih _).mpr ⟨out, hout, rfl⟩

theorem unarchiveElems_eq_ok_iff (visit : Value → Except Error Value) (vals out : List Value) :
    unarchiveElems visit vals = .ok out ↔ List.Forall₂ (fun v r => visit v = .ok r) vals out := by
  induction vals generalizing out with
  | nil =>
    rw [List.forall₂_nil_left_iff, unarchiveElems, Except.ok.injEq]
    exact eq_comm
  | cons v vals ih =>
    simp only [unarchiveElems, bind_eq_ok, List.forall₂_cons_left_iff, ih, pure_eq_ok,
      Except.ok.injEq]
    constructor
    · intro h
      obtain ⟨r, hr, rs, hrs, rfl⟩ := h
      exact ⟨r, rs, hr, hrs, rfl⟩
    · intro h
      obtain ⟨r, rs, hr, hrs, rfl⟩ := h
      exact ⟨r, hr, rs, hrs, rfl⟩

theorem unarchiveStep_passed {objects : List Value} {visit : Value → Except Error Value}
    {v : Value} (hp : PassedThrough v) : unarchiveStep objects visit v = .ok v := by
  cases v with
  | uid u => exact absurd hp id
  | dictionary d => rw [unarchiveStep, show nsObjects d = none from hp]
  | _ => rfl

/-- One level of the recursion succeeds exactly by one of the rules. -/
theorem unarchiveStep_eq_ok_iff {objects : List Value} {visit : Value → Except Error Value}
    {v r : Value} :
    unarchiveStep objects visit v = .ok r ↔
      Resolves objects (fun v r => visit v = .ok r) v r := by
  constructor
  · intro h
    rcases node_cases v with ⟨u, rfl⟩ | ⟨d, vals, keys, rfl, hv, hk⟩ | ⟨d, vals, rfl, hv, hk⟩ | hp
    · rw [unarchiveStep, bind_eq_ok] at h
      obtain ⟨t, ht, h⟩ := h
      exact .uid (uidTarget_eq_ok_iff.mp ht) h
    · rw [unarchiveStep, hv, hk] at h
      dsimp only at h
      by_cases hl : keys.length = vals.length
      · rw [if_neg (not_not_intro hl), bind_eq_ok] at h
        obtain ⟨d', hd', h⟩ := h
        cases h
        obtain ⟨out, hout, rfl⟩ := (unarchiveEntries_eq_ok_iff _ _ _ _).mp hd'
        exact .dict hv hk hl hout
      · rw [if_pos hl] at h
        cases h
    · rw [unarchiveStep, hv, hk] at h
      dsimp only at h
      rw [bind_eq_ok] at h
      obtain ⟨out, hout, h⟩ := h
      cases h
      exact .array hv hk ((unarchiveElems_eq_ok_iff _ _ _).mp hout)
    · rw [unarchiveStep_passed hp] at h
      cases h
      exact .passed hp
  · intro h
    cases h with
    | uid ht hr =>
      rw [unarchiveStep, uidTarget_eq_ok_iff.mpr ht, ok_bind]
      exact hr
    | dict hv hk hl hout =>
      rw [unarchiveStep, hv, hk]
      dsimp only
      rw [if_neg (not_not_intro hl), (unarchiveEntries_eq_ok_iff _ _ _ _).mpr ⟨_, hout, rfl⟩]
      rfl
    | array hv hk hout =>
      rw [unarchiveStep, hv, hk]
      dsimp only
      rw [(unarchiveElems_eq_ok_iff _ _ _).mpr hout]
      rfl
    | passed hp => exact unarchiveStep_passed hp

theorem unarchiveWithin_succ_eq_ok_iff {objects : List Value} {n : Nat} {v r : Value} :
    unarchiveWithin objects (n + 1) v = .ok r ↔
      Resolves objects (fun v r => unarchiveWithin objects n v = .ok r) v r :=
  unarchiveStep_eq_ok_iff

/-! ## Keys -/

/-- A string, or uids that lead to one. -/
inductive KeyString (objects : List Value) : Value → String → Prop where
  | string (s : String) : KeyString objects (.string s) s
  | hop {u : UInt64} {t : Value} {s : String} :
      objects[u.toNat]? = some t → KeyString objects t s → KeyString objects (.uid u) s

/-- What resolves to a string is a string behind uids. -/
theorem unarchiveWithin_string {objects : List Value} {n : Nat} {v r : Value}
    (h : unarchiveWithin objects n v = .ok r) (s : String) :
    r = .string s ↔ KeyString objects v s := by
  induction n generalizing v with
  | zero => cases h
  | succ n ih =>
    cases unarchiveWithin_succ_eq_ok_iff.mp h with
    | uid ht hr =>
      rw [ih hr]
      constructor
      · exact fun hs => .hop ht hs
      · rintro (_ | ⟨ht', hs⟩)
        obtain rfl := Option.some.inj (ht.symm.trans ht')
        exact hs
    | dict => exact iff_of_false (by rintro ⟨⟩) (by rintro ⟨⟩)
    | array => exact iff_of_false (by rintro ⟨⟩) (by rintro ⟨⟩)
    | passed hp =>
      constructor
      · rintro rfl
        exact .string s
      · rintro (_ | _)
        · rfl
        · exact absurd hp id

end GputoolsReplay
