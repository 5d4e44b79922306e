/-
  The reply decoder of the probes (`probes/src/reply.rs`), which was written and validated
  first, and the decoder of the crate against it. The probes' decoder reports a read that leaves
  its chunk; the crate's panics there.

  * `Probe.parseReply_agree`: the two envelope parsers accept the same archives with the same
    parts, and reject the others with the same text.
  * `Probe.parseRecords_eq`: the probes' table decoder.
  * `Probe.decoders_refine`: the two decoders side by side, on any archive and any table.
-/
import GputoolsReplay.Lib.Agree
import GputoolsReplay.Substrate.Envelope

namespace GputoolsReplay.Probe

open RustSem

/-- `Reply`. -/
structure Reply where
  unknownCount : Nat
  info : Bytes
  data : Bytes
  deriving DecidableEq

/-- `ReplyError`. Of the plist error, its text. -/
inductive ReplyError where
  | plist (text : String)
  | unexpectedShape (msg : String)
  | trailingBytes (len stride : Nat)
  | shortRecord (offset : Nat)
  deriving DecidableEq, Repr

/-- `shape`. -/
def shape (msg : String) : ReplyError := .unexpectedShape msg

/-- `RECORD_LEN`. -/
def recordLen : Nat := 80

/-- `UNMAPPED_OFFSETS`. -/
def unmappedOffsets : List Nat :=
  [0x04, 0x0c, 0x10, 0x14, 0x20, 0x24, 0x28, 0x2c, 0x3c, 0x48, 0x4c]

/-- `InfoRecord`. -/
structure InfoRecord where
  requestOrdinal : UInt32
  streamRef : UInt32
  dataOffset : UInt32
  size : UInt32
  width : UInt32
  height : UInt16
  depth : UInt16
  pixelFormat : UInt32
  bytesPerRow : UInt32
  bytesPerImage : UInt32
  unmapped : Unmapped
  deriving DecidableEq

/-! ## The info table -/

/-- `buf.get(off..off + n)` as an array of `n` bytes. -/
def arrayAt (buf : Bytes) (off n : Nat) : Except ReplyError Bytes :=
  match getRange buf off (off + n) with
  | none => .error (.shortRecord off)
  | some slice => if slice.length = n then .ok slice else .error (.shortRecord off)

/-- `u32_at`. -/
def u32At (buf : Bytes) (off : Nat) : Except ReplyError UInt32 :=
  return UInt32.ofNat (leNat (← arrayAt buf off 4))

/-- `u16_at`. -/
def u16At (buf : Bytes) (off : Nat) : Except ReplyError UInt16 :=
  return UInt16.ofNat (leNat (← arrayAt buf off 2))

/-- The name that `parse_records` gives to an offset. -/
def unmappedName : Nat → String
  | 0x04 => "0x04"
  | 0x0c => "0x0c"
  | 0x10 => "0x10"
  | 0x14 => "0x14"
  | 0x20 => "0x20"
  | 0x24 => "0x24"
  | 0x28 => "0x28"
  | 0x2c => "0x2c"
  | 0x3c => "0x3c"
  | 0x48 => "0x48"
  | _ => "0x4c"

/-- One turn of the loop of `parse_records`. -/
def parseRecord (chunk : Bytes) : Except ReplyError InfoRecord := do
  let unmapped ← unmappedOffsets.foldlM
    (fun unmapped off => return unmapped.insert (unmappedName off) (← u32At chunk off)) ∅
  return {
    requestOrdinal := ← u32At chunk 0x00
    streamRef := ← u32At chunk 0x08
    dataOffset := ← u32At chunk 0x18
    size := ← u32At chunk 0x1c
    width := ← u32At chunk 0x30
    height := ← u16At chunk 0x34
    depth := ← u16At chunk 0x36
    pixelFormat := ← u32At chunk 0x38
    bytesPerRow := ← u32At chunk 0x40
    bytesPerImage := ← u32At chunk 0x44
    unmapped }

/-- `parse_records`. -/
def parseRecords (info : Bytes) : Except ReplyError (List InfoRecord) :=
  if info.length % recordLen ≠ 0 then .error (.trailingBytes info.length recordLen)
  else (chunksExact recordLen info).foldlM (fun out chunk => return out ++ [← parseRecord chunk]) []

/-! ## The envelope -/

/-- `resolve`. -/
def resolve (objects : List Value) : Value → Except ReplyError Value
  | .uid uid =>
    match usizeTryFrom uid with
    | none => .error (shape "UID out of range")
    | some idx =>
      match objects[idx]? with
      | none => .error (shape s!"UID {idx} out of bounds")
      | some v => .ok v
  | other => .ok other

/-- `opt.ok_or_else(|| e)`. -/
def okOr {α : Type} (e : ReplyError) : Option α → Except ReplyError α
  | some a => .ok a
  | none => .error e

/-- The locals of `parse_reply` that its loop fills. -/
structure ReplyParts where
  unknownCount : Option Nat
  info : Option Bytes
  data : Option Bytes

/-- One turn of the loop of `parse_reply`. -/
def parseEntry (objects : List Value) (parts : ReplyParts) (k v : Value) :
    Except ReplyError ReplyParts := do
  let name ← okOr (shape "a payload key is not a string") (← resolve objects k).asString
  let value ← resolve objects v
  match name with
  | "unknown" =>
    let arr ← okOr (shape "`unknown` is not an NSArray")
      ((value.asDictionary.bind fun d => d.lookup "NS.objects").bind Value.asArray)
    return { parts with unknownCount := some arr.length }
  | "info" =>
    return { parts with info := some (← okOr (shape "`info` is not data") value.asData) }
  | "data" =>
    return { parts with data := some (← okOr (shape "`data` is not data") value.asData) }
  | _ => return parts

/-- `parse_reply` after `plist::from_bytes`. -/
def parseRoot (root : Value) : Except ReplyError Reply := do
  let dict ← okOr (shape "root is not a dictionary") root.asDictionary
  let objects ← okOr (shape "no $objects array") ((dict.lookup "$objects").bind Value.asArray)
  let top ← okOr (shape "no $top dictionary") ((dict.lookup "$top").bind Value.asDictionary)
  let rootRef ← okOr (shape "no $top.root") (top.lookup "root")
  let payload ← okOr (shape "$top.root is not a dictionary")
    (← resolve objects rootRef).asDictionary
  let keys ← okOr (shape "payload has no NS.keys")
    ((payload.lookup "NS.keys").bind Value.asArray)
  let vals ← okOr (shape "payload has no NS.objects")
    ((payload.lookup "NS.objects").bind Value.asArray)
  if keys.length ≠ vals.length then
    .error (shape "NS.keys and NS.objects differ in length")
  let parts ← (keys.zip vals).foldlM (fun parts (k, v) => parseEntry objects parts k v)
    { unknownCount := none, info := none, data := none }
  return {
    unknownCount := ← okOr (shape "missing key `unknown`") parts.unknownCount
    info := ← okOr (shape "missing key `info`") parts.info
    data := ← okOr (shape "missing key `data`") parts.data }

/-- `parse_reply`. `fromBytes` is `plist::from_bytes`, with the text of its error. -/
def parseReply (fromBytes : Bytes → Except String Value) (bytes : Bytes) :
    Except ReplyError Reply :=
  match fromBytes bytes with
  | .error e => .error (.plist e)
  | .ok root => parseRoot root

/-! ## What the table decoder returns -/

/-- The info record of an 80-byte chunk. -/
def InfoRecord.ofChunk (c : Bytes) : InfoRecord where
  requestOrdinal := le32 c 0x00
  streamRef := le32 c 0x08
  dataOffset := le32 c 0x18
  size := le32 c 0x1c
  width := le32 c 0x30
  height := le16 c 0x34
  depth := le16 c 0x36
  pixelFormat := le32 c 0x38
  bytesPerRow := le32 c 0x40
  bytesPerImage := le32 c 0x44
  unmapped := unmappedWords c unmappedOffsets ∅

section Reads

variable {buf : Bytes} {off : Nat}

theorem arrayAt_eq {n : Nat} (h : off + n ≤ buf.length) :
    arrayAt buf off n = .ok (window buf off n) := by
  unfold arrayAt
  rw [getRange_window h]
  exact if_pos (window_length h)

theorem u32At_eq (h : off + 4 ≤ buf.length) : u32At buf off = .ok (le32 buf off) := by
  unfold u32At
  rw [arrayAt_eq h, ok_bind]
  rfl

theorem u16At_eq (h : off + 2 ≤ buf.length) : u16At buf off = .ok (le16 buf off) := by
  unfold u16At
  rw [arrayAt_eq h, ok_bind]
  rfl

end Reads

/-- The probes name an offset as the crate does. -/
theorem unmappedName_eq : ∀ o ∈ unmappedOffsets, unmappedName o = offsetName o := by decide

theorem unmapped_loop_eq {c : Bytes} {offsets : List Nat}
    (hname : ∀ o ∈ offsets, unmappedName o = offsetName o)
    (hfit : ∀ o ∈ offsets, o + 4 ≤ c.length) (start : Unmapped) :
    offsets.foldlM (fun unmapped off => return unmapped.insert (unmappedName off) (← u32At c off))
      start = Except.ok (unmappedWords c offsets start) := by
  induction offsets generalizing start with
  | nil => rfl
  | cons o os ih =>
    rw [List.foldlM_cons, u32At_eq (hfit o (by simp)), ok_bind, pure_eq_ok, ok_bind,
      hname o (by simp)]
    exact ih (fun x hx => hname x (by simp [hx])) (fun x hx => hfit x (by simp [hx])) _

/-- No read leaves an 80-byte chunk. -/
theorem parseRecord_eq {c : Bytes} (h : c.length = 80) :
    parseRecord c = .ok (InfoRecord.ofChunk c) := by
  have hfit : ∀ o ∈ unmappedOffsets, o + 4 ≤ c.length := by rw [h]; decide
  unfold parseRecord
  rw [unmapped_loop_eq unmappedName_eq hfit, ok_bind]
  simp (disch := rw [h]; decide) only [u32At_eq, u16At_eq, ok_bind]
  rfl

/-- A table is refused for its length alone. -/
theorem parseRecords_eq (info : Bytes) :
    parseRecords info =
      if 80 ∣ info.length then .ok ((chunksExact 80 info).map InfoRecord.ofChunk)
      else .error (.trailingBytes info.length 80) := by
  unfold parseRecords
  rw [show recordLen = 80 from rfl]
  by_cases h : 80 ∣ info.length
  · rw [if_neg (by omega), if_pos h, foldlM_append_ok (g := fun c => [InfoRecord.ofChunk c])]
    · rw [List.nil_append, ← List.flatMap_def, ← List.map_eq_flatMap]
    · intro c hc out
      rw [parseRecord_eq (length_of_mem_chunksExact hc)]
      rfl
  · rw [if_pos (by omega), if_neg h]

/-! ## The records of the two decoders -/

/-- The two readings of one chunk. The words that the crate reads as slice, plane and level are
    still words of their offsets for the probes. -/
structure InfoRecord.Agrees (r : InfoRecord) (t : TextureRecord) : Prop where
  requestOrdinal : r.requestOrdinal = t.requestOrdinal
  streamRef : r.streamRef = t.streamRef
  dataOffset : r.dataOffset = t.dataOffset
  size : r.size = t.size
  width : r.width = t.width
  height : r.height = t.height
  depth : r.depth = t.depth
  pixelFormat : r.pixelFormat = t.pixelFormat
  bytesPerRow : r.bytesPerRow = t.bytesPerRow
  bytesPerImage : r.bytesPerImage = t.bytesPerImage
  unmapped : ∀ o ∈ textureUnmapped, ∃ w,
    r.unmapped.lookup (offsetName o) = some w ∧ t.unmapped.lookup (offsetName o) = some w
  slice : ∃ w, r.unmapped.lookup "0x48" = some w ∧ t.slice = w >>> 16
  planeLevel : ∃ w, r.unmapped.lookup "0x4c" = some w ∧
    t.plane = (w >>> 8) &&& 0xff ∧ t.level = w &&& 0xff

theorem ofChunk_agrees (c : Bytes) : (InfoRecord.ofChunk c).Agrees (TextureRecord.ofChunk c) := by
  have hlookup : ∀ o ∈ unmappedOffsets,
      (InfoRecord.ofChunk c).unmapped.lookup (offsetName o) = some (le32 c o) := by
    intro o ho
    exact lookup_unmappedWords (by decide) ho
  refine ⟨rfl, rfl, rfl, rfl, rfl, rfl, rfl, rfl, rfl, rfl, ?_, ?_, ?_⟩
  · intro o ho
    have hshared : ∀ o ∈ textureUnmapped, o ∈ unmappedOffsets := by decide
    exact ⟨le32 c o, hlookup o (hshared o ho), lookup_unmappedWords (by decide) ho⟩
  · exact ⟨le32 c 0x48, hlookup 0x48 (by decide), rfl⟩
  · exact ⟨le32 c 0x4c, hlookup 0x4c (by decide), rfl, rfl⟩

/-! ## The envelopes of the two decoders -/

/-- An error of the probes and one of the crate with the same text. -/
inductive SameText : ReplyError → FetchError → Prop where
  | plist (text : String) : SameText (.plist text) (.parse text)
  | unexpectedShape (msg : String) : SameText (.unexpectedShape msg) (.parse msg)

/-- The same three parts. -/
def SameReply (reply : Reply) (raw : RawReply) : Prop :=
  reply.unknownCount = raw.unknownLen ∧ reply.info = raw.info ∧ reply.data = raw.data

/-- The same parts so far. -/
def SameParts (parts : ReplyParts) (parts' : EnvelopeParts) : Prop :=
  parts.unknownCount = parts'.unknownLen ∧ parts.info = parts'.info ∧ parts.data = parts'.data

theorem okOr_agree {α : Type} (msg : String) (o : Option α) :
    Agree SameText Eq (okOr (shape msg) o) (orShape msg o) := by
  cases o with
  | none => exact .error (.unexpectedShape msg)
  | some a => exact .ok rfl

theorem resolve_agree (objects : List Value) (v : Value) :
    Agree SameText Eq (resolve objects v) (GputoolsReplay.resolve objects v) := by
  cases v with
  | uid uid =>
    unfold resolve GputoolsReplay.resolve
    dsimp only
    rw [usizeTryFrom_eq]
    dsimp only
    cases objects[uid.toNat]? with
    | none => exact .error (.unexpectedShape _)
    | some v => exact .ok rfl
  | _ => exact .ok rfl

theorem parseEntry_agree (objects : List Value) (k v : Value) {parts : ReplyParts}
    {parts' : EnvelopeParts} (h : SameParts parts parts') :
    Agree SameText SameParts (parseEntry objects parts k v)
      (GputoolsReplay.parseEntry objects parts' k v) := by
  have ⟨hunknown, hinfo, hdata⟩ := h
  unfold parseEntry GputoolsReplay.parseEntry
  apply (resolve_agree objects k).bind_eq
  intro key
  apply (okOr_agree _ key.asString).bind_eq
  intro name
  apply (resolve_agree objects v).bind_eq
  intro value
  by_cases hname : name = "unknown"
  · subst hname
    apply (okOr_agree _ _).bind_eq
    intro arr
    exact .ok ⟨rfl, hinfo, hdata⟩
  by_cases hname' : name = "info"
  · subst hname'
    apply (okOr_agree _ _).bind_eq
    intro info
    exact .ok ⟨hunknown, rfl, hdata⟩
  by_cases hname'' : name = "data"
  · subst hname''
    apply (okOr_agree _ _).bind_eq
    intro data
    exact .ok ⟨hunknown, hinfo, rfl⟩
  -- neither parser has a use for another name
  simp only
  exact .ok h

theorem parseRoot_agree (root : Value) :
    Agree SameText SameReply (parseRoot root) (RawReply.parseValue root) := by
  unfold parseRoot RawReply.parseValue
  apply (okOr_agree _ root.asDictionary).bind_eq
  intro dict
  apply (okOr_agree _ _).bind_eq
  intro objects
  apply (okOr_agree _ _).bind_eq
  intro top
  apply (okOr_agree _ _).bind_eq
  intro rootRef
  apply (resolve_agree objects rootRef).bind_eq
  intro target
  apply (okOr_agree _ target.asDictionary).bind_eq
  intro payload
  apply (okOr_agree _ _).bind_eq
  intro keys
  apply (okOr_agree _ _).bind_eq
  intro vals
  split
  · exact .error (.unexpectedShape _)
  · refine Agree.bind (R := SameParts) (Agree.foldlM ?_ _ ⟨rfl, rfl, rfl⟩) ?_
    · intro parts parts' kv h
      exact parseEntry_agree objects kv.1 kv.2 h
    · intro parts parts' h
      obtain ⟨hunknown, hinfo, hdata⟩ := h
      rw [hunknown, hinfo, hdata]
      apply (okOr_agree _ parts'.unknownLen).bind_eq
      intro unknownLen
      apply (okOr_agree _ parts'.info).bind_eq
      intro info
      apply (okOr_agree _ parts'.data).bind_eq
      intro data
      exact .ok ⟨rfl, rfl, rfl⟩

/-- The two envelope parsers take the same course on any bytes. -/
theorem parseReply_agree (fromBytes : Bytes → Except String Value) (bytes : Bytes) :
    Agree SameText SameReply (parseReply fromBytes bytes) (RawReply.parse fromBytes bytes) := by
  unfold parseReply RawReply.parse
  cases fromBytes bytes with
  | error text => exact .error (.plist text)
  | ok root => exact parseRoot_agree root

theorem parseReply_eq_ok_iff (fromBytes : Bytes → Except String Value) (bytes : Bytes) (n : Nat)
    (info data : Bytes) :
    parseReply fromBytes bytes = .ok ⟨n, info, data⟩ ↔
      RawReply.parse fromBytes bytes = .ok ⟨n, info, data⟩ := by
  have hagree := parseReply_agree fromBytes bytes
  constructor
  · intro h
    obtain ⟨raw, hraw, rfl, rfl, rfl⟩ := hagree.exists_ok h
    exact hraw
  · intro h
    obtain ⟨reply, hreply, hn, hinfo, hdata⟩ := hagree.exists_ok' h
    cases reply
    subst hn hinfo hdata
    exact hreply

/-- The crate's decoder against the probes'. On any archive the envelope parsers succeed together
    and with the same parts. On any table the probes' decoder succeeds exactly when the table is
    a whole number of records, no read leaving its chunk, and record `i` is what the crate reads
    in chunk `i`. -/
theorem decoders_refine (fromBytes : Bytes → Except String Value) (bytes info : Bytes) :
    (∀ n i d, parseReply fromBytes bytes = .ok ⟨n, i, d⟩ ↔
      RawReply.parse fromBytes bytes = .ok ⟨n, i, d⟩) ∧
    ((∃ records, parseRecords info = .ok records) ↔ 80 ∣ info.length) ∧
    (∀ off, parseRecords info ≠ .error (.shortRecord off)) ∧
    ∀ records, parseRecords info = .ok records →
      records.length = info.length / 80 ∧
      ∀ i r, records[i]? = some r →
        ∃ t : TextureRecord, Record.decode (window info (80 * i) 80) = .ok t ∧ r.Agrees t := by
  refine ⟨parseReply_eq_ok_iff fromBytes bytes, ?_, ?_, ?_⟩
  · rw [parseRecords_eq]
    by_cases h : 80 ∣ info.length <;> simp [h]
  · intro off
    rw [parseRecords_eq]
    by_cases h : 80 ∣ info.length <;> simp [h]
  · intro records h
    rw [parseRecords_eq] at h
    split at h
    · cases h
      refine ⟨by rw [List.length_map, chunksExact_length], ?_⟩
      intro i r hr
      rw [List.getElem?_map, Option.map_eq_some_iff] at hr
      obtain ⟨c, hc, rfl⟩ := hr
      have hlen : c.length = 80 := length_of_mem_chunksExact (List.mem_of_getElem? hc)
      obtain ⟨hi, hget⟩ := List.getElem?_eq_some_iff.mp hc
      rw [chunksExact_getElem 80 info i hi] at hget
      subst hget
      exact ⟨_, TextureRecord.decode_eq hlen, ofChunk_agrees _⟩
    · cases h

end GputoolsReplay.Probe
