/-
  The wire form of a reply, written and read back. A producer writes one 80-byte chunk per item,
  with the item's words and the place of its payload planted in it, and the payloads one after
  the other. The archive around the two blobs may be any that `RawReply::parse` accepts.

  * `RecordClass.ofWords`: the record of a class from the words of its chunk.
  * `laidOut_round_trip`: for each of the six classes, what is laid out is read back.
-/
import GputoolsReplay.Lib.Layout
import GputoolsReplay.Substrate.EnvelopeGrammar

namespace GputoolsReplay

open RustSem

/-! ## Records by their words -/

/-- The words at `offsets`, each under its own name. -/
def keptWords (w : Nat → UInt32) (offsets : List Nat) : Unmapped :=
  offsets.foldl (fun unmapped o => unmapped.insert (offsetName o) (w o)) ∅

/-- The texture record of a chunk with the word `w o` at each offset `o`. -/
def TextureRecord.ofWords (w : Nat → UInt32) : TextureRecord where
  requestOrdinal := w requestOrdinalOff
  streamRef := w streamRefOff
  dataOffset := w dataOffsetOff
  size := w sizeOff
  width := w widthOff
  height := (w heightOff).toUInt16
  depth := (w heightOff >>> 16).toUInt16
  pixelFormat := w pixelFormatOff
  bytesPerRow := w bytesPerRowOff
  bytesPerImage := w bytesPerImageOff
  slice := w sliceOff >>> 16
  plane := (w planeLevelOff >>> 8) &&& 0xff
  level := w planeLevelOff &&& 0xff
  unmapped := keptWords w textureUnmapped

def IdentityRecord.ofWords (w : Nat → UInt32) : IdentityRecord where
  streamRef := w streamRefOff
  dataOffset := w dataOffsetOff
  size := w sizeOff
  unmapped := keptWords w identityUnmapped

def PipelineRecord.ofWords (w : Nat → UInt32) : PipelineRecord where
  pipelineId := w pipelineIdOff
  handle := (w pipelineHandleOff).toUInt64 + (w (pipelineHandleOff + 4)).toUInt64 <<< 32
  dataOffset := w dataOffsetOff
  size := w sizeOff
  unmapped := keptWords w pipelineUnmapped

def WireframeRecord.ofWords (w : Nat → UInt32) : WireframeRecord where
  dispatchUid := w wireframeDispatchUidOff
  width := w widthOff
  height := (w heightOff).toUInt16
  pixelFormat := w pixelFormatOff
  dataOffset := w dataOffsetOff
  size := w sizeOff
  unmapped := keptWords w wireframeUnmapped

/-- The record of each class. -/
def RecordClass.ofWords : (k : RecordClass) → (Nat → UInt32) → k.Rec
  | .texture, w => TextureRecord.ofWords w
  | .buffer, w | .heap, w | .accel, w => IdentityRecord.ofWords w
  | .pipeline, w => PipelineRecord.ofWords w
  | .wireframe, w => WireframeRecord.ofWords w

/-- A decoded record is the one of the words of its chunk. -/
theorem ofChunk_eq_ofWords (k : RecordClass) {c : Bytes} (h : c.length = 80) :
    (LawfulRecord.ofChunk c : k.Rec) = k.ofWords (le32 c) := by
  have hheight := le16_eq_low c 0x34 (by omega)
  have hdepth := le16_eq_high c 0x34 (by omega)
  have hhandle := le64_eq_halves c 0x08 (by omega)
  have htexture : TextureRecord.ofChunk c = TextureRecord.ofWords (le32 c) := by
    rw [TextureRecord.ofChunk, hheight, show le16 c 0x36 = _ from hdepth]
    rfl
  have hpipeline : PipelineRecord.ofChunk c = PipelineRecord.ofWords (le32 c) := by
    rw [PipelineRecord.ofChunk, hhandle]
    rfl
  have hwireframe : WireframeRecord.ofChunk c = WireframeRecord.ofWords (le32 c) := by
    rw [WireframeRecord.ofChunk, hheight]
    rfl
  cases k with
  | texture => exact htexture
  | buffer => rfl
  | heap => rfl
  | accel => rfl
  | pipeline => exact hpipeline
  | wireframe => exact hwireframe

theorem keptWords_congr {w w' : Nat → UInt32} {offsets : List Nat}
    (h : ∀ o ∈ offsets, w o = w' o) : keptWords w offsets = keptWords w' offsets := by
  unfold keptWords
  generalize (∅ : Unmapped) = start
  induction offsets generalizing start with
  | nil => rfl
  | cons o offsets ih =>
    rw [List.foldl_cons, List.foldl_cons, h o (List.mem_cons_self ..)]
    exact ih (fun x hx => h x (List.mem_cons_of_mem _ hx)) _

/-- Only the twenty slots of a chunk count. -/
theorem ofWords_congr (k : RecordClass) {w w' : Nat → UInt32}
    (h : ∀ o, 4 ∣ o → o < 80 → w o = w' o) : k.ofWords w = k.ofWords w' := by
  have hkept : ∀ offsets : List Nat, (∀ o ∈ offsets, 4 ∣ o ∧ o < 80) →
      keptWords w offsets = keptWords w' offsets := by
    intro offsets hin
    exact keptWords_congr fun o ho => h o (hin o ho).1 (hin o ho).2
  have hidentity : IdentityRecord.ofWords w = IdentityRecord.ofWords w' := by
    simp (disch := decide) only [IdentityRecord.ofWords, h, hkept identityUnmapped]
  cases k with
  | texture =>
    show TextureRecord.ofWords w = TextureRecord.ofWords w'
    simp (disch := decide) only [TextureRecord.ofWords, h, hkept textureUnmapped]
  | buffer => exact hidentity
  | heap => exact hidentity
  | accel => exact hidentity
  | pipeline =>
    show PipelineRecord.ofWords w = PipelineRecord.ofWords w'
    simp (disch := decide) only [PipelineRecord.ofWords, h, hkept pipelineUnmapped]
  | wireframe =>
    show WireframeRecord.ofWords w = WireframeRecord.ofWords w'
    simp (disch := decide) only [WireframeRecord.ofWords, h, hkept wireframeUnmapped]

/-! ## Writing -/

/-- A word planted in a chunk, and its offset. -/
abbrev Field := Nat × UInt32

/-- The bytes of a field at their place. -/
def Field.bytes (f : Field) : Nat × Bytes := (f.1, leBytes 4 f.2.toNat)

/-- `chunk`, the helper of the decoder's tests: 80 bytes with `u32`s planted in them. -/
def chunk (fields : List Field) : Bytes := plant (List.replicate 80 0) (fields.map Field.bytes)

/-- An item of a reply: the words of its record, without its payload's place, and its payload. -/
structure Item where
  fields : List Field
  payload : Bytes
  deriving DecidableEq, Repr

/-- The words planted for an item whose payload starts at `o`. -/
def Item.words (item : Item) (o : Nat) : List Field :=
  (dataOffsetOff, UInt32.ofNat o) :: (sizeOff, UInt32.ofNat item.payload.length) :: item.fields

/-- The word of such an item at an offset, zero where none is planted. -/
def Item.word (item : Item) (o : Nat) (offset : Nat) : UInt32 :=
  ((item.words o).lookup offset).getD 0

/-- The items with the places of their payloads. -/
def placedItems (items : List Item) : List (Nat × Item) :=
  ((placed 0 (items.map Item.payload)).map Prod.fst).zip items

/-- The two blobs of a reply with these items. -/
def laidOut (unknownLen : Nat) (items : List Item) : RawReply where
  unknownLen := unknownLen
  info := ((placedItems items).map fun p => chunk (p.2.words p.1)).flatten
  data := (items.map Item.payload).flatten

/-- The words stand in slots of the chunk, each in one of its own, and the payload's place in
    none of them. -/
def Item.WellFormed (item : Item) : Prop :=
  (∀ f ∈ item.fields, 4 ∣ f.1 ∧ f.1 < 80) ∧ ((item.words 0).map Prod.fst).Nodup

instance (item : Item) : Decidable item.WellFormed := inferInstanceAs (Decidable (_ ∧ _))

/-! ## One chunk -/

theorem slots_words {item : Item} (h : item.WellFormed) (o : Nat) :
    ∀ f ∈ item.words o, 4 ∣ f.1 ∧ f.1 < 80 := by
  intro f hf
  simp only [Item.words, List.mem_cons] at hf
  rcases hf with rfl | rfl | hf
  · show 4 ∣ 0x18 ∧ 0x18 < 80
    decide
  · show 4 ∣ 0x1c ∧ 0x1c < 80
    decide
  · exact h.1 f hf

theorem inside_words {item : Item} (h : item.WellFormed) (o : Nat) :
    ∀ part ∈ (item.words o).map Field.bytes, part.1 + part.2.length ≤ 80 := by
  intro part hpart
  obtain ⟨f, hf, rfl⟩ := List.mem_map.mp hpart
  have := slots_words h o f hf
  rw [Field.bytes, length_leBytes]
  omega

/-- Two slots are the same or apart. -/
theorem apart_of_ne {f g : Field} (hf : 4 ∣ f.1) (hg : 4 ∣ g.1) (hne : f.1 ≠ g.1) :
    Apart f.bytes g.bytes := by
  unfold Apart Field.bytes
  rw [length_leBytes, length_leBytes]
  omega

/-- Where the payload starts does not move a word. -/
theorem apart_words {item : Item} (h : item.WellFormed) (o : Nat) :
    ((item.words o).map Field.bytes).Pairwise Apart := by
  have hnodup : ((item.words o).map Prod.fst).Nodup := h.2
  rw [List.Nodup, List.pairwise_map] at hnodup
  rw [List.pairwise_map]
  refine hnodup.imp_of_mem fun {f g} hf hg hne => ?_
  exact apart_of_ne (slots_words h o f hf).1 (slots_words h o g hg).1 hne

theorem length_chunk {item : Item} (h : item.WellFormed) (o : Nat) :
    (chunk (item.words o)).length = 80 := by
  unfold chunk
  rw [length_plant (by simpa using inside_words h o), List.length_replicate]

/-- Every planted word reads back. -/
theorem le32_chunk {item : Item} (h : item.WellFormed) {o : Nat} {f : Field}
    (hf : f ∈ item.words o) : le32 (chunk (item.words o)) f.1 = f.2 := by
  apply le32_of_window
  have hplant : window (chunk (item.words o)) f.bytes.1 f.bytes.2.length = f.bytes.2 :=
    window_plant (by simpa using inside_words h o) (apart_words h o) (List.mem_map_of_mem hf)
  rw [Field.bytes, length_leBytes] at hplant
  exact hplant

/-- A slot in which no word is planted is zero. -/
theorem le32_chunk_of_notMem {item : Item} (h : item.WellFormed) {o offset : Nat}
    (hdvd : 4 ∣ offset) (hlt : offset < 80) (hnone : ∀ f ∈ item.words o, f.1 ≠ offset) :
    le32 (chunk (item.words o)) offset = 0 := by
  apply le32_of_window
  have hplant : window (chunk (item.words o)) offset 4 =
      window (List.replicate 80 0) offset 4 := by
    refine window_plant_of_apart (by simpa using inside_words h o) fun part hpart => ?_
    obtain ⟨f, hf, rfl⟩ := List.mem_map.mp hpart
    have := (slots_words h o f hf).1
    have := hnone f hf
    rw [Field.bytes, length_leBytes]
    omega
  rw [hplant, window, List.drop_replicate, List.take_replicate, Nat.min_eq_left (by omega)]
  rfl

/-- The words of the chunk of an item. -/
theorem le32_chunk_eq_word {item : Item} (h : item.WellFormed) {o offset : Nat}
    (hdvd : 4 ∣ offset) (hlt : offset < 80) :
    le32 (chunk (item.words o)) offset = item.word o offset := by
  unfold Item.word
  cases hlookup : (item.words o).lookup offset with
  | none =>
    refine le32_chunk_of_notMem h hdvd hlt fun f hf heq => ?_
    exact bne_iff_ne.mp (List.lookup_eq_none_iff.mp hlookup f hf) heq.symm
  | some x =>
    obtain ⟨before, after, hwords, -⟩ := List.lookup_eq_some_iff.mp hlookup
    exact le32_chunk (f := (offset, x)) h (by rw [hwords]; simp)

/-- A word of the item is the word at its offset. -/
theorem word_of_mem {item : Item} (h : item.WellFormed) {o : Nat} {f : Field}
    (hf : f ∈ item.fields) : item.word o f.1 = f.2 := by
  have hmem : f ∈ item.words o := List.mem_cons_of_mem _ (List.mem_cons_of_mem _ hf)
  obtain ⟨hdvd, hlt⟩ := slots_words h o f hmem
  rw [← le32_chunk_eq_word h hdvd hlt, le32_chunk h hmem]

/-- The record of the chunk of an item. -/
theorem ofChunk_chunk (k : RecordClass) {item : Item} (h : item.WellFormed) (o : Nat) :
    (LawfulRecord.ofChunk (chunk (item.words o)) : k.Rec) = k.ofWords (item.word o) := by
  rw [ofChunk_eq_ofWords k (length_chunk h o)]
  exact ofWords_congr k fun offset hdvd hlt => le32_chunk_eq_word h hdvd hlt

/-! ## The whole reply -/

theorem length_placedItems (items : List Item) : (placedItems items).length = items.length := by
  simp [placedItems, length_placed]

theorem getElem?_placedItems {items : List Item} {i : Nat} {item : Item}
    (h : items[i]? = some item) : ∃ o, (placedItems items)[i]? = some (o, item) := by
  obtain ⟨hlt, -⟩ := List.getElem?_eq_some_iff.mp h
  have hlt' : i < (placedItems items).length := by rwa [length_placedItems]
  obtain ⟨p, hp⟩ : ∃ p, (placedItems items)[i]? = some p := ⟨_, List.getElem?_eq_getElem hlt'⟩
  obtain ⟨-, hitem⟩ := List.getElem?_zip_eq_some.mp hp
  rw [h, Option.some.injEq] at hitem
  exact ⟨p.1, by rw [hp, hitem]⟩

theorem mem_of_mem_placedItems {items : List Item} {p : Nat × Item} (h : p ∈ placedItems items) :
    p.2 ∈ items := (List.of_mem_zip h).2

/-- A payload is in `data` at the place its item is given. -/
theorem window_payload {items : List Item} {p : Nat × Item} (h : p ∈ placedItems items) :
    p.1 + p.2.payload.length ≤ (items.map Item.payload).flatten.length ∧
      window (items.map Item.payload).flatten p.1 p.2.payload.length = p.2.payload := by
  obtain ⟨i, hi⟩ := List.getElem?_of_mem h
  obtain ⟨hplace, hitem⟩ := List.getElem?_zip_eq_some.mp hi
  have hpayload : (items.map Item.payload)[i]? = some p.2.payload := by
    rw [List.getElem?_map, hitem]
    rfl
  obtain ⟨o, ho⟩ := getElem?_placed (o := 0) hpayload
  rw [List.getElem?_map, ho, Option.map_some, Option.some.injEq] at hplace
  apply window_of_mem_placed
  rw [← hplace]
  exact List.mem_of_getElem? ho

theorem chunksExact_laidOut {items : List Item} (hitems : ∀ item ∈ items, item.WellFormed)
    (unknownLen : Nat) :
    chunksExact 80 (laidOut unknownLen items).info =
      (placedItems items).map fun p => chunk (p.2.words p.1) := by
  apply chunksExact_of_parts (by decide)
  intro part hpart
  obtain ⟨p, hp, rfl⟩ := List.mem_map.mp hpart
  exact length_chunk (hitems _ (mem_of_mem_placedItems hp)) p.1

theorem dvd_length_laidOut {items : List Item} (hitems : ∀ item ∈ items, item.WellFormed)
    (unknownLen : Nat) :
    (laidOut unknownLen items).info.length % 80 = 0 := by
  have hlength : (laidOut unknownLen items).info.length = (placedItems items).length * 80 := by
    unfold laidOut
    rw [length_flatten (n := 80), List.length_map]
    intro part hpart
    obtain ⟨p, hp, rfl⟩ := List.mem_map.mp hpart
    exact length_chunk (hitems _ (mem_of_mem_placedItems hp)) p.1
  rw [hlength, Nat.mul_mod_left]

/-- The payload range that the chunk of an item names. -/
theorem range_chunk {items : List Item} (hitems : ∀ item ∈ items, item.WellFormed)
    (hsize : (items.map Item.payload).flatten.length < 2 ^ 32) {p : Nat × Item}
    (hp : p ∈ placedItems items) :
    (le32 (chunk (p.2.words p.1)) 0x18).toNat = p.1 ∧
      (le32 (chunk (p.2.words p.1)) 0x1c).toNat = p.2.payload.length := by
  have hwell := hitems _ (mem_of_mem_placedItems hp)
  have hroom := (window_payload hp).1
  have hoffset := le32_chunk hwell (o := p.1) (f := (dataOffsetOff, UInt32.ofNat p.1))
    (List.mem_cons_self ..)
  have hlength := le32_chunk hwell (o := p.1)
    (f := (sizeOff, UInt32.ofNat p.2.payload.length))
    (List.mem_cons_of_mem _ (List.mem_cons_self ..))
  constructor
  · rw [show le32 (chunk (p.2.words p.1)) 0x18 = UInt32.ofNat p.1 from hoffset,
      UInt32.toNat_ofNat']
    exact Nat.mod_eq_of_lt (by omega)
  · rw [show le32 (chunk (p.2.words p.1)) 0x1c = UInt32.ofNat p.2.payload.length from hlength,
      UInt32.toNat_ofNat']
    exact Nat.mod_eq_of_lt (by omega)

/-- An archive with the two blobs is accepted. -/
theorem parse_laidOut {items : List Item} {fromBytes : Bytes → Except String Value}
    {bytes : Bytes} {root : Value} {e : Envelope} {unknownLen : Nat}
    (hroot : fromBytes bytes = .ok root) (he : Envelope.Of root e)
    (hok : ∀ p ∈ e.pairs, PairOk p) (hlast : LastValues e.pairs (laidOut unknownLen items)) :
    RawReply.parse fromBytes bytes = .ok (laidOut unknownLen items) :=
  parse_eq_ok_iff.mpr ⟨root, hroot, (parseValue_eq_ok_iff he).mpr ⟨hok, hlast⟩⟩

/-- The blobs decode to the records of the words of the items. -/
theorem decode_laidOut (k : RecordClass) {items : List Item}
    (hitems : ∀ item ∈ items, item.WellFormed)
    (hsize : (items.map Item.payload).flatten.length < 2 ^ 32) (unknownLen : Nat) :
    ∃ reply, Reply.decode k.Rec (laidOut unknownLen items) = .ok (.ok reply) ∧
      reply.records.length = items.length ∧
      ∀ (i : Nat) (item : Item), items[i]? = some item →
        ∃ o, (placedItems items)[i]? = some (o, item) ∧
          reply.records[i]? = some (k.ofWords (item.word o)) ∧
          reply.payload (k.ofWords (item.word o)) = .ok item.payload := by
  have hchunks := chunksExact_laidOut hitems unknownLen
  have hfits : ∀ p ∈ placedItems items,
      RangeFits (laidOut unknownLen items).data (chunk (p.2.words p.1)) := by
    intro p hp
    obtain ⟨hoffset, hlength⟩ := range_chunk hitems hsize hp
    unfold RangeFits
    rw [hoffset, hlength]
    exact (window_payload hp).1
  have hdec := (Reply.decode_eq_ok_iff (T := k.Rec) (laidOut unknownLen items) _).mpr
    ⟨⟨dvd_length_laidOut hitems unknownLen, by rwa [hchunks, List.forall_mem_map]⟩, rfl⟩
  refine ⟨_, hdec, ?_, ?_⟩
  · simp [hchunks, length_placedItems]
  · intro i item hi
    obtain ⟨o, ho⟩ := getElem?_placedItems hi
    have hmem := List.mem_of_getElem? ho
    have hwell := hitems item (List.mem_of_getElem? hi)
    obtain ⟨hoffset, hlength⟩ := range_chunk hitems hsize hmem
    refine ⟨o, ho, ?_, ?_⟩
    · rw [hchunks, List.getElem?_map, List.getElem?_map, ho, Option.map_some, Option.map_some,
        ofChunk_chunk k hwell]
    · rw [← ofChunk_chunk k hwell, Reply.payload_ofChunk _ _ (hfits _ hmem), hoffset, hlength]
      exact congrArg _ (window_payload hmem).2

/-- For each of the six classes: an archive with the two blobs that are laid out for the items is
    accepted. It has one record per item, in order: the one whose fields are those of the words
    planted for the item, zero where none is planted, and whose payload is the item's. -/
theorem laidOut_round_trip (k : RecordClass) {items : List Item}
    (hitems : ∀ item ∈ items, item.WellFormed)
    (hsize : (items.map Item.payload).flatten.length < 2 ^ 32)
    {fromBytes : Bytes → Except String Value} {bytes : Bytes} {root : Value} {e : Envelope}
    {unknownLen : Nat} (hroot : fromBytes bytes = .ok root) (he : Envelope.Of root e)
    (hok : ∀ p ∈ e.pairs, PairOk p) (hlast : LastValues e.pairs (laidOut unknownLen items)) :
    ∃ raw reply, RawReply.parse fromBytes bytes = .ok raw ∧
      Reply.decode k.Rec raw = .ok (.ok reply) ∧ reply.records.length = items.length ∧
      ∀ (i : Nat) (item : Item), items[i]? = some item →
        ∃ o, (placedItems items)[i]? = some (o, item) ∧
          (∀ f ∈ item.fields, item.word o f.1 = f.2) ∧
          reply.records[i]? = some (k.ofWords (item.word o)) ∧
          reply.payload (k.ofWords (item.word o)) = .ok item.payload := by
  obtain ⟨reply, hdec, hlength, hreads⟩ := decode_laidOut k hitems hsize unknownLen
  refine ⟨_, reply, parse_laidOut hroot he hok hlast, hdec, hlength, fun i item hi => ?_⟩
  obtain ⟨o, ho, hread, hpayload⟩ := hreads i item hi
  have hwell := hitems item (List.mem_of_getElem? hi)
  exact ⟨o, ho, fun f hf => word_of_mem hwell hf, hread, hpayload⟩

/-! ## An archive of a reply -/

/-- The envelope of a reply whose `unknown` is empty. -/
def replyEnvelope (info data : Bytes) : Envelope :=
  let keys := [.uid 1, .uid 2, .uid 3]
  let values := [.uid 4, .uid 5, .uid 6]
  let unknown := .dictionary [("NS.objects", .array [])]
  let payload := [("NS.keys", .array keys), ("NS.objects", .array values)]
  let objects := [.dictionary payload, .string "unknown", .string "info", .string "data", unknown,
    .data info, .data data]
  let top := [("root", .uid 0)]
  { dict := [("$objects", .array objects), ("$top", .dictionary top)]
    objects := objects
    top := top
    rootRef := .uid 0
    payload := payload
    keys := keys
    values := values
    pairs := [("unknown", unknown), ("info", .data info), ("data", .data data)] }

/-- The data object of a binary plist, of fewer than `2 ^ 16` bytes. -/
def plistData (bytes : Bytes) : Bytes := [0x4f, 0x11] ++ (leBytes 2 bytes.length).reverse ++ bytes

/-- The binary plist of the envelope: its objects with the two blobs at the end, where each of them
    starts, and where this table starts. -/
def replyFile (info data : Bytes) : Bytes :=
  let objects : Bytes :=
    [0x62, 0x70, 0x6c, 0x69, 0x73, 0x74, 0x30, 0x30, 0xd2, 0x01, 0x02, 0x03, 0x04, 0x58, 0x24,
      0x6f, 0x62, 0x6a, 0x65, 0x63, 0x74, 0x73, 0x54, 0x24, 0x74, 0x6f, 0x70, 0xa7, 0x05, 0x06,
      0x07, 0x08, 0x09, 0x17, 0x18, 0xd1, 0x0f, 0x10, 0xd2, 0x0a, 0x0b, 0x0c, 0x0d, 0x57, 0x75,
      0x6e, 0x6b, 0x6e, 0x6f, 0x77, 0x6e, 0x54, 0x69, 0x6e, 0x66, 0x6f, 0x54, 0x64, 0x61, 0x74,
      0x61, 0xd1, 0x0b, 0x0e, 0x57, 0x4e, 0x53, 0x2e, 0x6b, 0x65, 0x79, 0x73, 0x5a, 0x4e, 0x53,
      0x2e, 0x6f, 0x62, 0x6a, 0x65, 0x63, 0x74, 0x73, 0xa3, 0x11, 0x12, 0x13, 0xa3, 0x14, 0x15,
      0x16, 0xa0, 0x54, 0x72, 0x6f, 0x6f, 0x74, 0x80, 0x00, 0x80, 0x01, 0x80, 0x02, 0x80, 0x03,
      0x80, 0x04, 0x80, 0x05, 0x80, 0x06]
  let starts : Bytes :=
    [0x00, 0x08, 0x00, 0x0d, 0x00, 0x16, 0x00, 0x1b, 0x00, 0x23, 0x00, 0x26, 0x00, 0x2b, 0x00,
      0x33, 0x00, 0x38, 0x00, 0x3d, 0x00, 0x40, 0x00, 0x48, 0x00, 0x53, 0x00, 0x57, 0x00, 0x5b,
      0x00, 0x5c, 0x00, 0x61, 0x00, 0x63, 0x00, 0x65, 0x00, 0x67, 0x00, 0x69, 0x00, 0x6b, 0x00,
      0x6d]
  let dataStart := objects.length + 4 + info.length
  objects ++ plistData info ++ plistData data ++ starts ++ (leBytes 2 objects.length).reverse ++
    (leBytes 2 dataStart).reverse ++ [0, 0, 0, 0, 0, 0, 2, 1] ++ (leBytes 8 25).reverse ++
    (leBytes 8 0).reverse ++ (leBytes 8 (dataStart + 4 + data.length)).reverse

/-- The decoder of the file of a reply. -/
def replyDecoder (info data : Bytes) : Bytes → Except String Value :=
  decodesTo (replyFile info data) (.dictionary (replyEnvelope info data).dict)

theorem replyDecoder_file (info data : Bytes) :
    replyDecoder info data (replyFile info data) =
      .ok (.dictionary (replyEnvelope info data).dict) := if_pos rfl

theorem replyEnvelope_of (info data : Bytes) :
    Envelope.Of (.dictionary (replyEnvelope info data).dict) (replyEnvelope info data) where
  dict := rfl
  objects := rfl
  top := rfl
  rootRef := rfl
  payload := rfl
  keys := rfl
  values := rfl
  sameLength := rfl
  names := .cons rfl (.cons rfl (.cons rfl .nil))
  behind := .cons rfl (.cons rfl (.cons rfl .nil))

theorem replyEnvelope_ok (info data : Bytes) :
    ∀ p ∈ (replyEnvelope info data).pairs, PairOk p := by
  simp only [replyEnvelope, List.forall_mem_cons]
  refine ⟨?_, ?_, ?_, by simp⟩
  · exact pairOk_iff.mpr ⟨fun _ => ⟨[], rfl⟩, by simp, by simp⟩
  · exact pairOk_iff.mpr ⟨by simp, fun _ => ⟨_, rfl⟩, by simp⟩
  · exact pairOk_iff.mpr ⟨by simp, by simp, fun _ => ⟨_, rfl⟩⟩

theorem replyEnvelope_last (info data : Bytes) :
    LastValues (replyEnvelope info data).pairs ⟨0, info, data⟩ :=
  ⟨⟨_, [], rfl, rfl, rfl⟩, rfl, rfl⟩

theorem parse_replyFile (info data : Bytes) :
    RawReply.parse (replyDecoder info data) (replyFile info data) = .ok ⟨0, info, data⟩ :=
  parse_eq_ok_iff.mpr ⟨_, replyDecoder_file info data,
    (parseValue_eq_ok_iff (replyEnvelope_of info data)).mpr
      ⟨replyEnvelope_ok info data, replyEnvelope_last info data⟩⟩

/-- A texture of 2 by 1 pixels and one without pixels. -/
def twoItems : List Item :=
  [⟨[(streamRefOff, 24), (widthOff, 2), (heightOff, 1 + 65536)], [1, 2]⟩, ⟨[(streamRefOff, 9)], []⟩]

theorem laidOut_round_trip_twoItems :
    let raw := laidOut 0 twoItems
    ∃ raw' reply,
      RawReply.parse (replyDecoder raw.info raw.data) (replyFile raw.info raw.data) = .ok raw' ∧
      Reply.decode TextureRecord raw' = .ok (.ok reply) ∧ reply.records.length = 2 ∧
      ∀ (i : Nat) (item : Item), twoItems[i]? = some item →
        ∃ o, (placedItems twoItems)[i]? = some (o, item) ∧
          (∀ f ∈ item.fields, item.word o f.1 = f.2) ∧
          reply.records[i]? = some (TextureRecord.ofWords (item.word o)) ∧
          reply.payload (TextureRecord.ofWords (item.word o)) = .ok item.payload :=
  @laidOut_round_trip .texture twoItems (by decide) (by decide) _ _ _ _ 0
    (replyDecoder_file _ _) (replyEnvelope_of _ _) (replyEnvelope_ok _ _) (replyEnvelope_last _ _)

end GputoolsReplay
