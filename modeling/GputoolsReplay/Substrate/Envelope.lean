/-
  The envelope of a fetch reply (`reply.rs`): a keyed archive whose root is a dictionary
  with the keys `unknown`, `info` and `data`.

  * `RawReply.parse`: the parser.
  * `RawReply.parse_error`: every error of the parser is a `Parse` error.
-/
import GputoolsReplay.Lib.Rust
import GputoolsReplay.Substrate.Plist
import GputoolsReplay.Substrate.Reply

namespace GputoolsReplay

open RustSem

/-- `shape`. -/
def shape {α : Type} (message : String) : Except FetchError α := .error (.parse message)

/-- `resolve`: one `$objects` entry, behind at most one uid. -/
def resolve (objects : List Value) : Value → Except FetchError Value
  | .uid uid =>
    match usizeTryFrom uid with
    | none => shape "UID out of range"
    | some idx =>
      match objects[idx]? with
      | none => shape s!"UID {idx} out of bounds"
      | some v => .ok v
  | other => .ok other

/-- `opt.ok_or_else(|| shape(message))`. -/
def orShape {α : Type} (message : String) : Option α → Except FetchError α
  | some a => .ok a
  | none => shape message

/-- The three locals that the loop of `RawReply::parse` fills. -/
structure EnvelopeParts where
  unknownLen : Option Nat
  info : Option Bytes
  data : Option Bytes

/-- One turn of the loop: a key and its value. -/
def parseEntry (objects : List Value) (parts : EnvelopeParts) (k v : Value) :
    Except FetchError EnvelopeParts := do
  let key ← resolve objects k
  let name ← orShape "a payload key is not a string" key.asString
  let value ← resolve objects v
  match name with
  | "unknown" =>
    let arr ← orShape "`unknown` is not an NSArray"
      ((value.asDictionary.bind fun d => d.lookup "NS.objects").bind Value.asArray)
    return { parts with unknownLen := some arr.length }
  | "info" =>
    let info ← orShape "`info` is not data" value.asData
    return { parts with info := some info }
  | "data" =>
    let data ← orShape "`data` is not data" value.asData
    return { parts with data := some data }
  | _ => return parts

/-- `RawReply::parse` on the decoded envelope. -/
def RawReply.parseValue (root : Value) : Except FetchError RawReply := do
  let dict ← orShape "root is not a dictionary" root.asDictionary
  let objects ← orShape "no $objects array" ((dict.lookup "$objects").bind Value.asArray)
  let top ← orShape "no $top dictionary" ((dict.lookup "$top").bind Value.asDictionary)
  let rootRef ← orShape "no $top.root" (top.lookup "root")
  let target ← resolve objects rootRef
  let payload ← orShape "$top.root is not a dictionary" target.asDictionary
  let keys ← orShape "payload has no NS.keys" ((payload.lookup "NS.keys").bind Value.asArray)
  let vals ← orShape "payload has no NS.objects" ((payload.lookup "NS.objects").bind Value.asArray)
  if keys.length ≠ vals.length then
    shape "NS.keys and NS.objects differ in length"
  let parts ← (keys.zip vals).foldlM (fun parts (k, v) => parseEntry objects parts k v)
    { unknownLen := none, info := none, data := none }
  return {
    unknownLen := ← orShape "missing key `unknown`" parts.unknownLen
    info := ← orShape "missing key `info`" parts.info
    data := ← orShape "missing key `data`" parts.data }

/-- `RawReply::parse`. `fromBytes` is `plist::from_bytes`, with the text of its error. -/
def RawReply.parse (fromBytes : Bytes → Except String Value) (bytes : Bytes) :
    Except FetchError RawReply :=
  match fromBytes bytes with
  | .error e => shape e
  | .ok root => RawReply.parseValue root

/-! ## The errors of the parser -/

/-- Every error is a `Parse` error. -/
def ParseOnly {α : Type} (x : Except FetchError α) : Prop :=
  ∀ e, x = .error e → ∃ message, e = .parse message

theorem parseOnly_ok {α : Type} (a : α) : ParseOnly (.ok a) := by rintro _ ⟨⟩

theorem parseOnly_shape {α : Type} (message : String) : ParseOnly (shape message : Except _ α) := by
  rintro _ ⟨⟩
  exact ⟨message, rfl⟩

theorem parseOnly_orShape {α : Type} (message : String) (o : Option α) :
    ParseOnly (orShape message o) := by
  cases o with
  | none => exact parseOnly_shape message
  | some a => exact parseOnly_ok a

theorem ParseOnly.bind {α β : Type} {x : Except FetchError α} {k : α → Except FetchError β}
    (hx : ParseOnly x) (hk : ∀ a, ParseOnly (k a)) : ParseOnly (x >>= k) := by
  cases x with
  | error e' =>
    rintro e ⟨⟩
    exact hx _ rfl
  | ok a => exact hk a

theorem parseOnly_foldlM {α β : Type} {k : β → α → Except FetchError β}
    (hk : ∀ b a, ParseOnly (k b a)) (l : List α) (b : β) : ParseOnly (l.foldlM k b) := by
  induction l generalizing b with
  | nil => exact parseOnly_ok b
  | cons a l ih =>
    rw [List.foldlM_cons]
    exact (hk b a).bind ih

theorem parseOnly_resolve (objects : List Value) (v : Value) : ParseOnly (resolve objects v) := by
  cases v with
  | uid u =>
    unfold resolve
    dsimp only
    rw [usizeTryFrom_eq]
    dsimp only
    cases objects[u.toNat]? with
    | none => exact parseOnly_shape _
    | some v => exact parseOnly_ok v
  | _ => exact parseOnly_ok _

theorem parseOnly_parseEntry (objects : List Value) (parts : EnvelopeParts) (k v : Value) :
    ParseOnly (parseEntry objects parts k v) := by
  unfold parseEntry
  refine (parseOnly_resolve objects k).bind fun key => ?_
  refine (parseOnly_orShape _ _).bind fun name => ?_
  refine (parseOnly_resolve objects v).bind fun value => ?_
  split
  · exact (parseOnly_orShape _ _).bind fun _ => parseOnly_ok _
  · exact (parseOnly_orShape _ _).bind fun _ => parseOnly_ok _
  · exact (parseOnly_orShape _ _).bind fun _ => parseOnly_ok _
  · exact parseOnly_ok _

theorem parseOnly_parseValue (root : Value) : ParseOnly (RawReply.parseValue root) := by
  unfold RawReply.parseValue
  refine (parseOnly_orShape _ _).bind fun dict => ?_
  refine (parseOnly_orShape _ _).bind fun objects => ?_
  refine (parseOnly_orShape _ _).bind fun top => ?_
  refine (parseOnly_orShape _ _).bind fun rootRef => ?_
  refine (parseOnly_resolve _ _).bind fun target => ?_
  refine (parseOnly_orShape _ _).bind fun payload => ?_
  refine (parseOnly_orShape _ _).bind fun keys => ?_
  refine (parseOnly_orShape _ _).bind fun vals => ?_
  split
  · exact parseOnly_shape _
  · refine ParseOnly.bind (parseOnly_foldlM ?_ _ _) fun parts => ?_
    · exact fun parts kv => parseOnly_parseEntry objects parts kv.1 kv.2
    · refine (parseOnly_orShape _ _).bind fun unknownLen => ?_
      refine (parseOnly_orShape _ _).bind fun info => ?_
      exact (parseOnly_orShape _ _).bind fun data => parseOnly_ok _

/-- Every error of the envelope parser is a `Parse` error. -/
theorem RawReply.parse_error (fromBytes : Bytes → Except String Value) (bytes : Bytes) :
    ParseOnly (RawReply.parse fromBytes bytes) := by
  unfold RawReply.parse
  split
  · exact parseOnly_shape _
  · exact parseOnly_parseValue _

end GputoolsReplay
