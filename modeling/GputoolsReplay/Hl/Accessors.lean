/-
  The typed views of buffers and heaps (`buffer.rs`), and the accessors of all handles.

  * `fetched_slices`: on any accepted reply, when the view of a fetched buffer or heap exists,
    and what it is.
  * `accessors_return`: no accessor of any handle of any accepted reply panics.
-/
import GputoolsReplay.Hl.Accel
import GputoolsReplay.Hl.Capture
import GputoolsReplay.Hl.PipelineStats

namespace GputoolsReplay

open RustSem

section Slices

-- `base` is the address of the payload's buffer
variable (cast : TryCastSlice) (base : Nat) (P : Pod)

/-- What `as_slice` does with the payload of a buffer or of a heap. -/
def Payload.asSlice (payload : Payload) : Rust (Except Error (List Bytes)) := do
  let bytes ← payload.bytes
  match cast P (base + payload.off) bytes with
  | some elems => return .ok elems
  | none => return .error (.formatMismatch P.size (← payload.bytes).length)

/-- `Buffer::as_slice`. -/
def Buffer.asSlice (b : Buffer) : Rust (Except Error (List Bytes)) := b.payload.asSlice cast base P

/-- `Heap::as_slice`. -/
def Heap.asSlice (h : Heap) : Rust (Except Error (List Bytes)) := h.payload.asSlice cast base P

end Slices

/-! ## The handles of an accepted reply -/

section Handles

variable {Req T H : Type} [Record T]

/-- The slice of the shared buffer that a record is given. -/
def Reply.slice (reply : Reply T) (r : T) : Payload :=
  ⟨shared reply.raw.data, (Record.dataRange r).1, (Record.dataRange r).2⟩

/-- Every handle is built from a record, over its slice. -/
theorem getElem?_fetchHandles {fetch : List Req → Except FetchError (Reply T)}
    {fromParts : T → Payload → Rust H} {reqs : List Req} {reply : Reply T} {handles : List H}
    (hreqs : reqs ≠ []) (hfetch : fetch reqs = .ok reply)
    (h : fetchHandles fetch fromParts reqs = .ok (.ok handles)) :
    List.Forall₂ (fun r handle => fromParts r (reply.slice r) = .ok handle) reply.records
      handles := by
  unfold fetchHandles at h
  rw [if_neg (by simpa using hreqs), hfetch] at h
  obtain ⟨handles', hmap, hok⟩ := bind_eq_ok.mp h
  cases hok
  exact mapM_eq_ok_iff.mp hmap

/-- The slice of a record reads as its payload. -/
theorem bytes_slice [LawfulRecord T] {raw : RawReply} {reply : Reply T}
    (hdec : Reply.decode T raw = .ok (.ok reply)) {r : T} (hr : r ∈ reply.records) :
    ∃ bytes, reply.payload r = .ok bytes ∧ (reply.slice r).bytes = .ok bytes := payload_eq hdec hr

end Handles

/-! ## Typed views -/

/-- The view of a payload that can be read. -/
theorem Payload.asSlice_eq {cast : TryCastSlice} (hcast : cast.Lawful) {base : Nat} {P : Pod}
    (hP : 0 < P.size) {payload : Payload} {bytes : Bytes} (hraw : payload.bytes = .ok bytes) :
    payload.asSlice cast base P = .ok (
      if P.align ∣ base + payload.off ∧ P.size ∣ bytes.length then .ok (chunksExact P.size bytes)
      else .error (.formatMismatch P.size bytes.length)) := by
  unfold asSlice
  rw [hraw, ok_bind, hcast P _ _ hP]
  split <;> simp_all [ok_bind, pure_eq_ok]

/-- The view of a record's bytes, when `as_slice` is asked for elements of `P` in a buffer at
    `base`: they are there exactly when the bytes start aligned and are a whole number of
    elements. -/
def SliceOf (P : Pod) (base : Nat) (reply : Reply IdentityRecord) (r : IdentityRecord)
    (result : Rust (Except Error (List Bytes))) : Prop :=
  ∃ bytes, reply.payload r = .ok bytes ∧ bytes.length = r.size.toNat ∧ result = .ok (
    if P.align ∣ base + r.dataOffset.toNat ∧ P.size ∣ bytes.length then
      .ok (chunksExact P.size bytes)
    else .error (.formatMismatch P.size bytes.length))

section Views

variable {cast : TryCastSlice} {base : Nat} {P : Pod} {raw : RawReply}
  {reply : Reply IdentityRecord}

theorem sliceOf_slice (hcast : cast.Lawful) (hP : 0 < P.size)
    (hdec : Reply.decode IdentityRecord raw = .ok (.ok reply)) {r : IdentityRecord}
    (hr : r ∈ reply.records) : SliceOf P base reply r ((reply.slice r).asSlice cast base P) := by
  obtain ⟨bytes, hpayload, hbytes⟩ := bytes_slice hdec hr
  exact ⟨bytes, hpayload, (Payload.length_of_bytes hbytes).1, Payload.asSlice_eq hcast hP hbytes⟩

/-- A method that gives every record a handle over its slice. -/
theorem forall₂_slices {H : Type} {fetch : List UInt64 → Except FetchError (Reply IdentityRecord)}
    (fromParts : IdentityRecord → Payload → H) (view : H → Rust (Except Error (List Bytes)))
    (hview : ∀ r p, view (fromParts r p) = p.asSlice cast base P) (hcast : cast.Lawful)
    (hP : 0 < P.size) (hdec : Reply.decode IdentityRecord raw = .ok (.ok reply))
    {refs : List UInt64} (hrefs : refs ≠ []) (hfetch : fetch refs = .ok reply) :
    ∃ handles, fetchHandles fetch (fun r p => return fromParts r p) refs = .ok (.ok handles) ∧
      List.Forall₂ (SliceOf P base reply) reply.records (handles.map view) := by
  have hloop : (reply.records.mapM fun r => (return fromParts r (reply.slice r) : Rust H)) =
      .ok (reply.records.map fun r => fromParts r (reply.slice r)) :=
    mapM_ok fun _ _ => rfl
  refine ⟨reply.records.map fun r => fromParts r (reply.slice r), ?_, ?_⟩
  · unfold fetchHandles
    rw [if_neg (by simpa using hrefs), hfetch]
    show (reply.records.mapM _ >>= _) = _
    rw [show (fun r : IdentityRecord => (return fromParts r ⟨shared reply.raw.data,
      (Record.dataRange r).1, (Record.dataRange r).2⟩ : Rust H)) =
        fun r => return fromParts r (reply.slice r) from rfl, hloop]
    rfl
  · rw [List.map_map, List.forall₂_map_right_iff, List.forall₂_same]
    intro r hr
    show SliceOf P base reply r (view (fromParts r (reply.slice r)))
    rw [hview]
    exact sliceOf_slice hcast hP hdec hr

end Views

/-- On every accepted reply of buffers or of heaps, the view of each handle as elements of a size
    exists exactly when the record's payload starts at an address that the alignment divides and
    is a whole number of elements long; it is then the payload, element by element, and else an
    error that names both sizes. In the 16-aligned buffer an address is as aligned as the offset
    that the reply gives the record, up to 16. -/
theorem fetched_slices {cast : TryCastSlice} (hcast : cast.Lawful) {base : Nat} (hbase : 16 ∣ base)
    {P : Pod} (hP : 0 < P.size) {refs : List UInt64} (hrefs : refs ≠ []) :
    (∀ (raw : RawReply) (reply : Reply BufferRecord),
      Reply.decode BufferRecord raw = .ok (.ok reply) → ∀ fetch, fetch refs = .ok reply →
      ∃ buffers, Capture.buffers fetch refs = .ok (.ok buffers) ∧ List.Forall₂
        (SliceOf P base reply) reply.records (buffers.map (Buffer.asSlice cast base P))) ∧
    (∀ (raw : RawReply) (reply : Reply HeapRecord),
      Reply.decode HeapRecord raw = .ok (.ok reply) → ∀ fetch, fetch refs = .ok reply →
      ∃ heaps, Capture.heaps fetch refs = .ok (.ok heaps) ∧ List.Forall₂
        (SliceOf P base reply) reply.records (heaps.map (Heap.asSlice cast base P))) ∧
    (P.align ∣ 16 → ∀ r : IdentityRecord,
      P.align ∣ base + r.dataOffset.toNat ↔ P.align ∣ r.dataOffset.toNat) := by
  refine ⟨?_, ?_, ?_⟩
  · intro raw reply hdec fetch hfetch
    exact forall₂_slices (fun r p => Buffer.fromParts r.streamRef.toUInt64 p)
      (Buffer.asSlice cast base P) (fun _ _ => rfl) hcast hP hdec hrefs hfetch
  · intro raw reply hdec fetch hfetch
    exact forall₂_slices (fun r p => Heap.fromParts r.streamRef.toUInt64 p)
      (Heap.asSlice cast base P) (fun _ _ => rfl) hcast hP hdec hrefs hfetch
  · intro halign r
    exact (Nat.dvd_add_iff_right (halign.trans hbase)).symm

/-- `u16`. -/
def wordPod : Pod where
  size := 2
  align := 2
  align_pos := by decide
  align_dvd_size := by decide

/-- A buffer of two words, and one of three bytes. -/
def twoBuffers : RawReply :=
  laidOut 0 [⟨[(streamRefOff, 7)], [1, 2, 3, 4]⟩, ⟨[(streamRefOff, 8)], [5, 6, 7]⟩]

def twoBuffersReply : Reply BufferRecord where
  raw := twoBuffers
  records := (chunksExact 80 twoBuffers.info).map LawfulRecord.ofChunk

theorem fetched_slices_twoBuffers :
    ∃ buffers : List Buffer, Reply.decode BufferRecord twoBuffers = .ok (.ok twoBuffersReply) ∧
      Capture.buffers (fun _ => .ok twoBuffersReply) [7, 8] = .ok (.ok buffers) ∧
      List.Forall₂ (SliceOf wordPod 32 twoBuffersReply) twoBuffersReply.records
        (buffers.map (Buffer.asSlice plainCast 32 wordPod)) := by
  have hdec : Reply.decode BufferRecord twoBuffers = .ok (.ok twoBuffersReply) :=
    (Reply.decode_eq_ok_iff (T := BufferRecord) _ _).mpr ⟨by decide +kernel, rfl⟩
  obtain ⟨buffers, hok, hslices⟩ := (@fetched_slices _ plainCast_lawful 32 (by decide) wordPod
    (by decide) _ (List.cons_ne_nil 7 [8])).1 _ _ hdec
    (fun _ => .ok twoBuffersReply) rfl
  exact ⟨buffers, hdec, hok, hslices⟩

/-! ## All accessors -/

theorem AccelStructure.exists_triangles (cast : TryCastSlice) (base : Nat) {a : AccelStructure}
    {bytes : Bytes} (hraw : a.rawBytes = .ok bytes) : ∃ r, a.triangles cast base = .ok r := by
  unfold triangles
  rw [hraw, ok_bind]
  split
  · exact ⟨_, rfl⟩
  · split
    · exact ⟨_, rfl⟩
    · split
      · exact ⟨_, rfl⟩
      · split
        · exact ⟨_, rfl⟩
        · split <;> exact ⟨_, rfl⟩

theorem Payload.exists_asSlice (cast : TryCastSlice) (base : Nat) (P : Pod) {payload : Payload}
    {bytes : Bytes} (hraw : payload.bytes = .ok bytes) :
    ∃ r, payload.asSlice cast base P = .ok r := by
  unfold asSlice
  rw [hraw, ok_bind]
  split <;> exact ⟨_, rfl⟩

/-- Every accessor of a handle returns, also those of the blocks of a texture. `cast` is the cast
    to elements, which may be any; `fromBytes` is `plist::from_bytes`. -/
def RecordClass.Returns (cast : TryCastSlice) (base : Nat) (P : Pod)
    (fromBytes : Bytes → Except String Value) : (k : RecordClass) → k.Handle → Prop
  | .texture, t => (∃ r, Texture.rawBytes t = .ok r) ∧ (∃ r, Texture.pixels cast base P t = .ok r) ∧
      (∃ r, Texture.rows cast base P t = .ok r) ∧ (∃ r, Texture.packedBytes t = .ok r) ∧
      ∃ r, Texture.blocks t = .ok r ∧ ∀ b, r = .ok b →
        (∃ n, b.expectedLen = .ok n) ∧ ∃ r, b.packedBlocks = .ok r
  | .buffer, b => (∃ r, Buffer.rawBytes b = .ok r) ∧ ∃ r, Buffer.asSlice cast base P b = .ok r
  | .heap, h => (∃ r, Heap.rawBytes h = .ok r) ∧ ∃ r, Heap.asSlice cast base P h = .ok r
  | .accel, a => (∃ r, AccelStructure.rawBytes a = .ok r) ∧
      (∃ r, AccelStructure.totalSize a = .ok r) ∧ (∃ r, AccelStructure.aabb a = .ok r) ∧
      ∃ r, AccelStructure.triangles cast base a = .ok r
  | .pipeline, p => (∃ r, Pipeline.rawBytes p = .ok r) ∧
      (∃ r, Pipeline.stages fromBytes p = .ok r) ∧
      ∃ r, Pipeline.performanceStats fromBytes p = .ok r
  | .wireframe, w => (∃ r, Wireframe.rawBytes w = .ok r) ∧
      (∃ r, Wireframe.pixels cast base P w = .ok r) ∧ ∃ r, Wireframe.rows cast base P w = .ok r

section Returns

variable {cast : TryCastSlice} {base : Nat} {P : Pod} {fromBytes : Bytes → Except String Value}

/-- A handle whose bytes can be read has accessors that return. -/
theorem returns_of_rawBytes (k : RecordClass) {handle : k.Handle} {bytes : Bytes}
    (hraw : k.rawBytes handle = .ok bytes) : k.Returns cast base P fromBytes handle := by
  cases k with
  | texture =>
    have hraw : Image.rawBytes (Texture.image handle) = .ok bytes := hraw
    obtain ⟨r, hr, hsane⟩ := Image.exists_blocks hraw
    exact ⟨⟨bytes, hraw⟩, Image.exists_pixels cast base P hraw, Image.exists_rows cast base P hraw,
      Image.exists_packedBytes hraw, r, hr, fun b hb =>
        ⟨⟨_, Blocks.expectedLen_eq (hsane b hb)⟩, ⟨_, Blocks.packedBlocks_eq (hsane b hb)⟩⟩⟩
  | buffer => exact ⟨⟨bytes, hraw⟩, Payload.exists_asSlice cast base P hraw⟩
  | heap => exact ⟨⟨bytes, hraw⟩, Payload.exists_asSlice cast base P hraw⟩
  | accel =>
    have hraw : AccelStructure.rawBytes handle = .ok bytes := hraw
    refine ⟨⟨bytes, hraw⟩, ⟨_, AccelStructure.totalSize_eq hraw⟩, ?_,
      AccelStructure.exists_triangles cast base hraw⟩
    unfold AccelStructure.aabb
    rw [hraw, ok_bind]
    exact ⟨_, rfl⟩
  | pipeline =>
    have hraw : Pipeline.rawBytes handle = .ok bytes := hraw
    refine ⟨⟨bytes, hraw⟩, ?_, ?_⟩
    · unfold Pipeline.stages
      rw [hraw, ok_bind]
      exact ⟨_, rfl⟩
    · unfold Pipeline.performanceStats
      rw [hraw, ok_bind]
      exact ⟨_, rfl⟩
  | wireframe =>
    have hraw : Image.rawBytes (Wireframe.image handle) = .ok bytes := hraw
    exact ⟨⟨bytes, hraw⟩, Image.exists_pixels cast base P hraw, Image.exists_rows cast base P hraw⟩

/-- The bytes of every handle that a method built can be read. -/
theorem exists_rawBytes_of_mem {Req T H : Type} [Record T] [LawfulRecord T] {raw : RawReply}
    {reply : Reply T} {fetch : List Req → Except FetchError (Reply T)}
    (fromParts : T → Payload → Rust H) {rawBytes : H → Rust Bytes} {reqs : List Req}
    {handles : List H} (hraw : ∀ r p handle, fromParts r p = .ok handle →
      rawBytes handle = p.bytes) (hdec : Reply.decode T raw = .ok (.ok reply))
    (hfetch : fetch reqs = .ok reply) (h : fetchHandles fetch fromParts reqs = .ok (.ok handles)) :
    ∀ handle ∈ handles, ∃ bytes, rawBytes handle = .ok bytes := by
  by_cases hreqs : reqs = []
  · subst hreqs
    cases h
    simp
  · intro handle hmem
    have hbuilt := getElem?_fetchHandles hreqs hfetch h
    obtain ⟨i, hi, rfl⟩ := List.getElem_of_mem hmem
    have hi' : i < reply.records.length := by rwa [hbuilt.length_eq]
    have hhandle := hbuilt.get hi' hi
    obtain ⟨bytes, -, hbytes⟩ := bytes_slice hdec (List.getElem_mem hi')
    exact ⟨bytes, (hraw _ _ _ hhandle).trans hbytes⟩

end Returns

/-- Whatever a reply says of its records, once it is accepted no accessor of a handle that a
    method builds from it panics: not of any of the six classes, whatever the handle is cast to
    and whatever its nested archive holds. -/
theorem accessors_return (overflowChecks : Bool) (k : RecordClass)
    {TextureRequest WireframeRequest : Type} {raw : RawReply} {reply : Reply k.Rec}
    (hdec : Reply.decode k.Rec raw = .ok (.ok reply))
    {fetch : List (k.Req TextureRequest WireframeRequest) → Except FetchError (Reply k.Rec)}
    {reqs : List (k.Req TextureRequest WireframeRequest)} (hfetch : fetch reqs = .ok reply)
    {handles : List k.Handle} (h : k.method overflowChecks fetch reqs = .ok (.ok handles))
    (cast : TryCastSlice) (base : Nat) (P : Pod) (fromBytes : Bytes → Except String Value) :
    ∀ handle ∈ handles, k.Returns cast base P fromBytes handle := by
  have hbytes : ∀ handle ∈ handles, ∃ bytes, k.rawBytes handle = .ok bytes := by
    cases k with
    | wireframe =>
      exact exists_rawBytes_of_mem (Wireframe.fromParts overflowChecks)
        (fun _ _ _ => Wireframe.rawBytes_of_fromParts) hdec hfetch h
    | texture =>
      exact exists_rawBytes_of_mem (fun r p => return Texture.fromParts r p)
        (fun _ _ _ h => by cases h; rfl) hdec hfetch h
    | buffer =>
      exact exists_rawBytes_of_mem
        (fun (r : BufferRecord) p => return Buffer.fromParts r.streamRef.toUInt64 p)
        (fun _ _ _ h => by cases h; rfl) hdec hfetch h
    | heap =>
      exact exists_rawBytes_of_mem
        (fun (r : HeapRecord) p => return Heap.fromParts r.streamRef.toUInt64 p)
        (fun _ _ _ h => by cases h; rfl) hdec hfetch h
    | accel =>
      exact exists_rawBytes_of_mem (fun _ p => return AccelStructure.fromParts p)
        (fun _ _ _ h => by cases h; rfl) hdec hfetch h
    | pipeline =>
      exact exists_rawBytes_of_mem
        (fun (r : PipelineRecord) p => return Pipeline.fromParts r.pipelineId r.handle p)
        (fun _ _ _ h => by cases h; rfl) hdec hfetch h
  intro handle hmem
  obtain ⟨bytes, hraw⟩ := hbytes handle hmem
  exact returns_of_rawBytes k hraw

/-- Also of the texture with the greatest geometry. -/
theorem accessors_return_wildTextures :
    ∃ handles : List Texture, Reply.decode TextureRecord wildTextures = .ok (.ok wildReply) ∧
      Capture.texturesWith (fun _ : List Unit => .ok wildReply) [()] = .ok (.ok handles) ∧
      ∀ handle ∈ handles, RecordClass.texture.Returns plainCast 0 pixelPod
        (fun _ => .error "InvalidMagic") handle := by
  obtain ⟨handles, hok, -⟩ := @texturesWith_rawBytes Unit _ _ (fun _ => .ok wildReply) [()]
    wildReply_decoded rfl
  exact ⟨handles, wildReply_decoded, hok, @accessors_return true .texture Unit Unit _ _
    wildReply_decoded (fun _ => .ok wildReply) [()] rfl _ hok plainCast 0 pixelPod _⟩

end GputoolsReplay
