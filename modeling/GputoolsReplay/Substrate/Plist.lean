/-
  Property lists: the values `plist::from_bytes` decodes a binary plist to.
-/
import GputoolsReplay.Lib.Dict
import GputoolsReplay.Lib.Words

namespace GputoolsReplay

open RustSem

/-- `plist::Value`. A dictionary keeps its entries in insertion order; a real is its
    bit pattern. -/
inductive Value where
  | array (elems : List Value)
  | boolean (b : Bool)
  | data (bytes : Bytes)
  | date (ticks : Int)
  | dictionary (entries : List (String × Value))
  | integer (n : Int)
  | real (bits : UInt64)
  | string (s : String)
  | uid (uid : UInt64)

/-- `plist::Dictionary`. -/
abbrev Dictionary := List (String × Value)

namespace Value

/-- `as_array`. -/
def asArray : Value → Option (List Value)
  | .array elems => some elems
  | _ => none

/-- `as_dictionary`. -/
def asDictionary : Value → Option Dictionary
  | .dictionary entries => some entries
  | _ => none

/-- `as_string`. -/
def asString : Value → Option String
  | .string s => some s
  | _ => none

/-- `as_data`. -/
def asData : Value → Option Bytes
  | .data bytes => some bytes
  | _ => none

theorem asArray_eq_some {v : Value} {elems : List Value} :
    v.asArray = some elems ↔ v = .array elems := by
  cases v <;> simp [asArray]

theorem asDictionary_eq_some {v : Value} {entries : Dictionary} :
    v.asDictionary = some entries ↔ v = .dictionary entries := by
  cases v <;> simp [asDictionary]

theorem asString_eq_some {v : Value} {s : String} : v.asString = some s ↔ v = .string s := by
  cases v <;> simp [asString]

theorem asData_eq_some {v : Value} {bytes : Bytes} : v.asData = some bytes ↔ v = .data bytes := by
  cases v <;> simp [asData]

/-- A `Value::Uid` occurs in the value, at some depth. -/
inductive HasUid : Value → Prop where
  | uid (u : UInt64) : HasUid (.uid u)
  | elem {elems : List Value} {v : Value} : v ∈ elems → HasUid v → HasUid (.array elems)
  | entry {entries : Dictionary} {k : String} {v : Value} :
      (k, v) ∈ entries → HasUid v → HasUid (.dictionary entries)

theorem hasUid_array {elems : List Value} :
    HasUid (.array elems) ↔ ∃ v ∈ elems, HasUid v := by
  constructor
  · rintro (_ | ⟨hm, hu⟩)
    exact ⟨_, hm, hu⟩
  · intro h
    obtain ⟨v, hm, hu⟩ := h
    exact .elem hm hu

theorem hasUid_dictionary {entries : Dictionary} :
    HasUid (.dictionary entries) ↔ ∃ e ∈ entries, HasUid e.2 := by
  constructor
  · rintro (_ | _ | ⟨hm, hu⟩)
    exact ⟨_, hm, hu⟩
  · intro h
    obtain ⟨⟨k, v⟩, hm, hu⟩ := h
    exact .entry hm hu

end Value

/-- A decoder of one file. -/
def decodesTo (file : Bytes) (root : Value) (bytes : Bytes) : Except String Value :=
  if bytes = file then .ok root else .error "InvalidMagic"

end GputoolsReplay
