/-
  The six 80-byte info records of a fetch reply (`reply.rs`, the offset tables and the
  `Record` implementations). Every decoder reads words at fixed offsets of its chunk and
  keeps the words it does not interpret in `unmapped`, keyed by `offset_name`.

  * `LawfulRecord`: what every class shares. The stride is 80, no read leaves an 80-byte
    chunk, and the payload range is the `u32`s at 0x18 and 0x1c.
  * `TextureRecord.decode_eq` and its siblings: the record each decoder returns.
-/
import Mathlib.Data.Finmap
import GputoolsReplay.Lib.Words

namespace GputoolsReplay

open RustSem

/-! ## Named offsets -/

def requestOrdinalOff : Nat := 0x00
def streamRefOff : Nat := 0x08
def dataOffsetOff : Nat := 0x18
def sizeOff : Nat := 0x1c
def widthOff : Nat := 0x30
def heightOff : Nat := 0x34
def depthOff : Nat := 0x36
def pixelFormatOff : Nat := 0x38
def bytesPerRowOff : Nat := 0x40
def bytesPerImageOff : Nat := 0x44
def sliceOff : Nat := 0x48
def planeLevelOff : Nat := 0x4c
def pipelineIdOff : Nat := 0x00
def pipelineHandleOff : Nat := 0x08
def wireframeDispatchUidOff : Nat := 0x10

/-- Offsets a texture record keeps verbatim. -/
def textureUnmapped : List Nat := [0x04, 0x0c, 0x10, 0x14, 0x20, 0x24, 0x28, 0x2c, 0x3c]

/-- Offsets a buffer, heap or acceleration-structure record keeps verbatim. -/
def identityUnmapped : List Nat :=
  [0x00, 0x04, 0x0c, 0x10, 0x14, 0x20, 0x24, 0x28, 0x2c, 0x30, 0x34, 0x38, 0x3c, 0x40, 0x44, 0x48,
    0x4c]

/-- Offsets a pipeline record keeps verbatim. -/
def pipelineUnmapped : List Nat :=
  [0x04, 0x10, 0x14, 0x20, 0x24, 0x28, 0x2c, 0x30, 0x34, 0x38, 0x3c, 0x40, 0x44, 0x48, 0x4c]

/-- Offsets a wireframe record keeps verbatim. -/
def wireframeUnmapped : List Nat :=
  [0x00, 0x04, 0x08, 0x0c, 0x14, 0x20, 0x24, 0x28, 0x2c, 0x3c, 0x40, 0x44, 0x48, 0x4c]

/-- The `unmapped` key of an offset. -/
def offsetName : Nat → String
  | 0x00 => "0x00"
  | 0x04 => "0x04"
  | 0x08 => "0x08"
  | 0x0c => "0x0c"
  | 0x10 => "0x10"
  | 0x14 => "0x14"
  | 0x18 => "0x18"
  | 0x1c => "0x1c"
  | 0x20 => "0x20"
  | 0x24 => "0x24"
  | 0x28 => "0x28"
  | 0x2c => "0x2c"
  | 0x30 => "0x30"
  | 0x34 => "0x34"
  | 0x38 => "0x38"
  | 0x3c => "0x3c"
  | 0x40 => "0x40"
  | 0x44 => "0x44"
  | 0x48 => "0x48"
  | _ => "0x4c"

/-- `BTreeMap<&'static str, u32>`. -/
abbrev Unmapped := Finmap fun _ : String => UInt32

/-- `unmapped_of`: the words of `c` at `offsets`, each under its own name. -/
def unmappedOf (c : Bytes) (offsets : List Nat) : Rust Unmapped :=
  offsets.foldlM (fun unmapped o => return unmapped.insert (offsetName o) (← u32At c o)) ∅

/-- The map `unmapped_of` returns when no read leaves the chunk. -/
def unmappedWords (c : Bytes) (offsets : List Nat) (start : Unmapped) : Unmapped :=
  offsets.foldl (fun unmapped o => unmapped.insert (offsetName o) (le32 c o)) start

theorem unmappedOf_eq {c : Bytes} {offsets : List Nat} (h : ∀ o ∈ offsets, o + 4 ≤ c.length) :
    unmappedOf c offsets = .ok (unmappedWords c offsets ∅) := by
  unfold unmappedOf
  generalize (∅ : Unmapped) = start
  induction offsets generalizing start with
  | nil => rfl
  | cons o os ih =>
    rw [List.foldlM_cons, u32At_eq (h o (List.mem_cons_self ..)), ok_bind, pure_eq_ok, ok_bind]
    exact ih (fun x hx => h x (List.mem_cons_of_mem _ hx)) _

/-- A name none of `offsets` has is looked up in the map the loop starts from. -/
theorem lookup_unmappedWords_of_notMem {c : Bytes} {offsets : List Nat} {start : Unmapped}
    {name : String} (h : name ∉ offsets.map offsetName) :
    (unmappedWords c offsets start).lookup name = start.lookup name := by
  induction offsets generalizing start with
  | nil => rfl
  | cons o os ih =>
    rw [List.map_cons, List.mem_cons, not_or] at h
    refine (ih h.2).trans ?_
    exact Finmap.lookup_insert_of_ne start h.1

/-- With distinct names every word is found under its own name. -/
theorem lookup_unmappedWords {c : Bytes} {offsets : List Nat} {start : Unmapped} {o : Nat}
    (hd : (offsets.map offsetName).Nodup) (ho : o ∈ offsets) :
    (unmappedWords c offsets start).lookup (offsetName o) = some (le32 c o) := by
  induction offsets generalizing start with
  | nil => exact absurd ho List.not_mem_nil
  | cons p os ih =>
    rw [List.map_cons, List.nodup_cons] at hd
    rcases List.mem_cons.mp ho with rfl | ho
    · exact (lookup_unmappedWords_of_notMem hd.1).trans (Finmap.lookup_insert start)
    · exact ih hd.2 ho

/-- Two chunks leave the same map exactly when they agree on the words it keeps. -/
theorem unmappedWords_eq_iff {c c' : Bytes} {offsets : List Nat}
    (hd : (offsets.map offsetName).Nodup) :
    unmappedWords c offsets ∅ = unmappedWords c' offsets ∅ ↔
      ∀ o ∈ offsets, le32 c o = le32 c' o := by
  constructor
  · intro h o ho
    have hl := congrArg (Finmap.lookup (offsetName o)) h
    rw [lookup_unmappedWords hd ho, lookup_unmappedWords hd ho] at hl
    exact Option.some.inj hl
  · intro h
    unfold unmappedWords
    generalize (∅ : Unmapped) = start
    induction offsets generalizing start with
    | nil => rfl
    | cons o os ih =>
      simp only [List.foldl_cons, h o (List.mem_cons_self ..)]
      exact ih (List.nodup_cons.mp hd).2 (fun x hx => h x (List.mem_cons_of_mem _ hx)) _

/-! ## The `Record` trait -/

/-- `trait Record`. -/
class Record (T : Type) where
  /-- `STRIDE`: the record stride in the info table. -/
  stride : Nat := 80
  /-- Decode one record from a chunk. -/
  decode : Bytes → Rust T
  /-- The `(offset, len)` of the record's payload within the reply's `data`. -/
  dataRange : T → Nat × Nat

/-- What every record class has in common: a stride of 80, a decoder that reads inside any
    80-byte chunk, and a payload range taken from the `u32`s at 0x18 and 0x1c. `ofChunk` is
    the record without the checks of the reads. -/
class LawfulRecord (T : Type) [Record T] where
  ofChunk : Bytes → T
  stride_eq : Record.stride T = 80
  decode_eq : ∀ c : Bytes, c.length = 80 → Record.decode c = .ok (ofChunk c)
  dataRange_eq : ∀ c : Bytes,
    Record.dataRange (ofChunk c) = ((le32 c 0x18).toNat, (le32 c 0x1c).toNat)

/-! ## Texture records -/

structure TextureRecord where
  streamRef : UInt32
  requestOrdinal : UInt32
  dataOffset : UInt32
  size : UInt32
  width : UInt32
  height : UInt16
  depth : UInt16
  pixelFormat : UInt32
  bytesPerRow : UInt32
  bytesPerImage : UInt32
  slice : UInt32
  plane : UInt32
  level : UInt32
  unmapped : Unmapped
  deriving DecidableEq

instance : Record TextureRecord where
  decode c := do
    let planeLevel ← u32At c planeLevelOff
    return {
      requestOrdinal := ← u32At c requestOrdinalOff
      streamRef := ← u32At c streamRefOff
      dataOffset := ← u32At c dataOffsetOff
      size := ← u32At c sizeOff
      width := ← u32At c widthOff
      height := ← u16At c heightOff
      depth := ← u16At c depthOff
      pixelFormat := ← u32At c pixelFormatOff
      bytesPerRow := ← u32At c bytesPerRowOff
      bytesPerImage := ← u32At c bytesPerImageOff
      slice := (← u32At c sliceOff) >>> 16
      plane := (planeLevel >>> 8) &&& 0xff
      level := planeLevel &&& 0xff
      unmapped := ← unmappedOf c textureUnmapped }
  dataRange r := (r.dataOffset.toNat, r.size.toNat)

/-- The texture record of an 80-byte chunk. -/
def TextureRecord.ofChunk (c : Bytes) : TextureRecord where
  requestOrdinal := le32 c 0x00
  streamRef := le32 c 0x08
  dataOffset := le32 c 0x18
  size := le32 c 0x1c
  width := le32 c 0x30
  height := le16 c 0x34
  depth := le16 c 0x36
  pixelFormat := le32 c 0x38
  bytesPerRow := le32 c 0x40
  bytesPerImage := le32 c 0x44
  slice := le32 c 0x48 >>> 16
  plane := (le32 c 0x4c >>> 8) &&& 0xff
  level := le32 c 0x4c &&& 0xff
  unmapped := unmappedWords c textureUnmapped ∅

theorem TextureRecord.decode_eq {c : Bytes} (h : c.length = 80) :
    Record.decode c = .ok (TextureRecord.ofChunk c) := by
  have hu : ∀ o ∈ textureUnmapped, o + 4 ≤ c.length := by rw [h]; decide
  simp (disch := rw [h]; decide) only [Record.decode, u32At_eq, u16At_eq, unmappedOf_eq hu, ok_bind]
  rfl

instance : LawfulRecord TextureRecord where
  ofChunk := TextureRecord.ofChunk
  stride_eq := rfl
  decode_eq _ h := TextureRecord.decode_eq h
  dataRange_eq _ := rfl

/-! ## Buffer, heap and acceleration-structure records

  The three identity classes declare the same fields and read the same words. -/

structure IdentityRecord where
  streamRef : UInt32
  dataOffset : UInt32
  size : UInt32
  unmapped : Unmapped
  deriving DecidableEq

instance : Record IdentityRecord where
  decode c := do
    return {
      streamRef := ← u32At c streamRefOff
      dataOffset := ← u32At c dataOffsetOff
      size := ← u32At c sizeOff
      unmapped := ← unmappedOf c identityUnmapped }
  dataRange r := (r.dataOffset.toNat, r.size.toNat)

/-- The identity record of an 80-byte chunk. -/
def IdentityRecord.ofChunk (c : Bytes) : IdentityRecord where
  streamRef := le32 c 0x08
  dataOffset := le32 c 0x18
  size := le32 c 0x1c
  unmapped := unmappedWords c identityUnmapped ∅

theorem IdentityRecord.decode_eq {c : Bytes} (h : c.length = 80) :
    Record.decode c = .ok (IdentityRecord.ofChunk c) := by
  have hu : ∀ o ∈ identityUnmapped, o + 4 ≤ c.length := by rw [h]; decide
  simp (disch := rw [h]; decide) only [Record.decode, u32At_eq, unmappedOf_eq hu, ok_bind]
  rfl

instance : LawfulRecord IdentityRecord where
  ofChunk := IdentityRecord.ofChunk
  stride_eq := rfl
  decode_eq _ h := IdentityRecord.decode_eq h
  dataRange_eq _ := rfl

def BufferRecord : Type := IdentityRecord
def HeapRecord : Type := IdentityRecord
def AccelRecord : Type := IdentityRecord

instance : Record BufferRecord := inferInstanceAs (Record IdentityRecord)
instance : Record HeapRecord := inferInstanceAs (Record IdentityRecord)
instance : Record AccelRecord := inferInstanceAs (Record IdentityRecord)

instance : LawfulRecord BufferRecord := inferInstanceAs (LawfulRecord IdentityRecord)
instance : LawfulRecord HeapRecord := inferInstanceAs (LawfulRecord IdentityRecord)
instance : LawfulRecord AccelRecord := inferInstanceAs (LawfulRecord IdentityRecord)

/-! ## Pipeline records -/

structure PipelineRecord where
  pipelineId : UInt32
  handle : UInt64
  dataOffset : UInt32
  size : UInt32
  unmapped : Unmapped
  deriving DecidableEq

instance : Record PipelineRecord where
  decode c := do
    return {
      pipelineId := ← u32At c pipelineIdOff
      handle := ← u64At c pipelineHandleOff
      dataOffset := ← u32At c dataOffsetOff
      size := ← u32At c sizeOff
      unmapped := ← unmappedOf c pipelineUnmapped }
  dataRange r := (r.dataOffset.toNat, r.size.toNat)

/-- The pipeline record of an 80-byte chunk. -/
def PipelineRecord.ofChunk (c : Bytes) : PipelineRecord where
  pipelineId := le32 c 0x00
  handle := le64 c 0x08
  dataOffset := le32 c 0x18
  size := le32 c 0x1c
  unmapped := unmappedWords c pipelineUnmapped ∅

theorem PipelineRecord.decode_eq {c : Bytes} (h : c.length = 80) :
    Record.decode c = .ok (PipelineRecord.ofChunk c) := by
  have hu : ∀ o ∈ pipelineUnmapped, o + 4 ≤ c.length := by rw [h]; decide
  simp (disch := rw [h]; decide) only [Record.decode, u32At_eq, u64At_eq, unmappedOf_eq hu, ok_bind]
  rfl

instance : LawfulRecord PipelineRecord where
  ofChunk := PipelineRecord.ofChunk
  stride_eq := rfl
  decode_eq _ h := PipelineRecord.decode_eq h
  dataRange_eq _ := rfl

/-! ## Wireframe records -/

structure WireframeRecord where
  dispatchUid : UInt32
  width : UInt32
  height : UInt16
  pixelFormat : UInt32
  dataOffset : UInt32
  size : UInt32
  unmapped : Unmapped
  deriving DecidableEq

instance : Record WireframeRecord where
  decode c := do
    return {
      dispatchUid := ← u32At c wireframeDispatchUidOff
      width := ← u32At c widthOff
      height := ← u16At c heightOff
      pixelFormat := ← u32At c pixelFormatOff
      dataOffset := ← u32At c dataOffsetOff
      size := ← u32At c sizeOff
      unmapped := ← unmappedOf c wireframeUnmapped }
  dataRange r := (r.dataOffset.toNat, r.size.toNat)

/-- The wireframe record of an 80-byte chunk. -/
def WireframeRecord.ofChunk (c : Bytes) : WireframeRecord where
  dispatchUid := le32 c 0x10
  width := le32 c 0x30
  height := le16 c 0x34
  pixelFormat := le32 c 0x38
  dataOffset := le32 c 0x18
  size := le32 c 0x1c
  unmapped := unmappedWords c wireframeUnmapped ∅

theorem WireframeRecord.decode_eq {c : Bytes} (h : c.length = 80) :
    Record.decode c = .ok (WireframeRecord.ofChunk c) := by
  have hu : ∀ o ∈ wireframeUnmapped, o + 4 ≤ c.length := by rw [h]; decide
  simp (disch := rw [h]; decide) only [Record.decode, u32At_eq, u16At_eq, unmappedOf_eq hu, ok_bind]
  rfl

instance : LawfulRecord WireframeRecord where
  ofChunk := WireframeRecord.ofChunk
  stride_eq := rfl
  decode_eq _ h := WireframeRecord.decode_eq h
  dataRange_eq _ := rfl

/-! ## The six classes -/

/-- The fetch classes, one for each record type. -/
inductive RecordClass where
  | texture
  | buffer
  | heap
  | accel
  | pipeline
  | wireframe
  deriving DecidableEq, Repr

/-- The record type of a class. -/
def RecordClass.Rec : RecordClass → Type
  | .texture => TextureRecord
  | .buffer => BufferRecord
  | .heap => HeapRecord
  | .accel => AccelRecord
  | .pipeline => PipelineRecord
  | .wireframe => WireframeRecord

instance : (k : RecordClass) → Record k.Rec
  | .texture => inferInstanceAs (Record TextureRecord)
  | .buffer => inferInstanceAs (Record BufferRecord)
  | .heap => inferInstanceAs (Record HeapRecord)
  | .accel => inferInstanceAs (Record AccelRecord)
  | .pipeline => inferInstanceAs (Record PipelineRecord)
  | .wireframe => inferInstanceAs (Record WireframeRecord)

instance : (k : RecordClass) → LawfulRecord k.Rec
  | .texture => inferInstanceAs (LawfulRecord TextureRecord)
  | .buffer => inferInstanceAs (LawfulRecord BufferRecord)
  | .heap => inferInstanceAs (LawfulRecord HeapRecord)
  | .accel => inferInstanceAs (LawfulRecord AccelRecord)
  | .pipeline => inferInstanceAs (LawfulRecord PipelineRecord)
  | .wireframe => inferInstanceAs (LawfulRecord WireframeRecord)

end GputoolsReplay
