/-
  The fetch methods of `Capture` (`capture.rs`). Each sends one batch, copies the `data` of
  the reply into one aligned buffer, and builds one handle for each record over its range of
  that buffer.

  * `fetchHandles_carry`: on an accepted reply, a method returns one handle per record, with
    the bytes of `Reply::payload`, as soon as its handles can be built at all.
  * `handles_carry_payload_iff`: the six methods.
  * `textures_never_panic`: no accessor of a fetched texture panics.
-/
import GputoolsReplay.Hl.Handles
import GputoolsReplay.Substrate.RoundTrip

namespace GputoolsReplay

open RustSem

/-- `shared`. -/
def shared (data : Bytes) : AlignedBuf := AlignedBuf.fromBytes data

section Methods

variable {Req T H : Type} [Record T]

/-- What the fetch methods share: without a request nothing is fetched, and else every record
    of the reply becomes a handle over one copy of the reply's `data`. -/
def fetchHandles (fetch : List Req → Except FetchError (Reply T))
    (fromParts : T → Payload → Rust H) (reqs : List Req) : Rust (Except Error (List H)) :=
  if reqs.isEmpty then return .ok []
  else
    match fetch reqs with
    | .error e => return .error (.fetch e)
    | .ok reply => do
      let buf := shared reply.raw.data
      let handles ← reply.records.mapM fun r =>
        let (o, n) := Record.dataRange r
        fromParts r ⟨buf, o, n⟩
      return .ok handles

end Methods

namespace Capture

-- what the method asks its session for, and how the session answers
variable {Req : Type}

/-- `Capture::textures_with`. -/
def texturesWith (fetchTextures : List Req → Except FetchError (Reply TextureRecord))
    (reqs : List Req) : Rust (Except Error (List Texture)) :=
  fetchHandles fetchTextures (fun r p => return Texture.fromParts r p) reqs

/-- `Capture::buffers`. -/
def buffers (fetchBuffers : List UInt64 → Except FetchError (Reply BufferRecord))
    (refs : List UInt64) : Rust (Except Error (List Buffer)) :=
  fetchHandles fetchBuffers (fun r p => return Buffer.fromParts r.streamRef.toUInt64 p) refs

/-- `Capture::heaps`. -/
def heaps (fetchHeaps : List UInt64 → Except FetchError (Reply HeapRecord))
    (refs : List UInt64) : Rust (Except Error (List Heap)) :=
  fetchHandles fetchHeaps (fun r p => return Heap.fromParts r.streamRef.toUInt64 p) refs

/-- `Capture::acceleration_structures`. -/
def accelerationStructures
    (fetchAccelerationStructures : List UInt64 → Except FetchError (Reply AccelRecord))
    (refs : List UInt64) : Rust (Except Error (List AccelStructure)) :=
  fetchHandles fetchAccelerationStructures (fun _ p => return AccelStructure.fromParts p) refs

/-- `Capture::pipeline_binaries`. -/
def pipelineBinaries
    (fetchPipelineBinaries : List UInt64 → Except FetchError (Reply PipelineRecord))
    (refs : List UInt64) : Rust (Except Error (List Pipeline)) :=
  fetchHandles fetchPipelineBinaries
    (fun r p => return Pipeline.fromParts r.pipelineId r.handle p) refs

/-- `Capture::wireframes_with`. -/
def wireframesWith (overflowChecks : Bool)
    (fetchWireframes : List Req → Except FetchError (Reply WireframeRecord))
    (reqs : List Req) : Rust (Except Error (List Wireframe)) :=
  fetchHandles fetchWireframes (Wireframe.fromParts overflowChecks) reqs

end Capture

/-! ## What a method returns -/

section Carry

variable {Req T H : Type} [Record T] [LawfulRecord T]

/-- The result of a method is one handle for each record of the reply, in order, with the
    bytes of the record's payload. -/
def Carries (rawBytes : H → Rust Bytes) (reply : Reply T)
    (result : Rust (Except Error (List H))) : Prop :=
  ∃ handles, result = .ok (.ok handles) ∧ handles.length = reply.records.length ∧
    ∀ (i : Nat) (r : T), reply.records[i]? = some r →
      ∃ handle bytes, handles[i]? = some handle ∧ rawBytes handle = .ok bytes ∧
        reply.payload r = .ok bytes

/-- The slice that a handle is given reads as the payload of its record. -/
theorem payload_eq {raw : RawReply} {reply : Reply T}
    (hdec : Reply.decode T raw = .ok (.ok reply)) {r : T} (hr : r ∈ reply.records) :
    ∃ bytes, reply.payload r = .ok bytes ∧
      Payload.bytes ⟨shared reply.raw.data, (Record.dataRange r).1, (Record.dataRange r).2⟩ =
        .ok bytes := by
  obtain ⟨⟨-, hfit⟩, rfl⟩ := (Reply.decode_eq_ok_iff raw reply).mp hdec
  obtain ⟨c, hc, rfl⟩ := List.mem_map.mp hr
  refine ⟨_, Reply.payload_ofChunk _ c (hfit c hc), ?_⟩
  rw [LawfulRecord.dataRange_eq]
  exact Payload.bytes_fromBytes (hfit c hc) (toNat_add_toNat_lt _ _)

/-- On an accepted reply a method returns a handle for each record exactly when each handle
    can be built, and they carry the payloads. -/
theorem fetchHandles_carry {raw : RawReply} {reply : Reply T}
    {fetch : List Req → Except FetchError (Reply T)} {fromParts : T → Payload → Rust H}
    {rawBytes : H → Rust Bytes} {reqs : List Req} {Fits : T → Prop}
    (hfits : ∀ r p, (∃ handle, fromParts r p = .ok handle) ↔ Fits r)
    (hraw : ∀ r p handle, fromParts r p = .ok handle → rawBytes handle = p.bytes)
    (hdec : Reply.decode T raw = .ok (.ok reply)) (hreqs : reqs ≠ [])
    (hfetch : fetch reqs = .ok reply) :
    Carries rawBytes reply (fetchHandles fetch fromParts reqs) ↔ ∀ r ∈ reply.records, Fits r := by
  have heq : fetchHandles fetch fromParts reqs =
      (reply.records.mapM fun r => fromParts r
        ⟨shared reply.raw.data, (Record.dataRange r).1, (Record.dataRange r).2⟩) >>=
        fun handles => return .ok handles := by
    unfold fetchHandles
    rw [if_neg (by simpa using hreqs), hfetch]
  rw [heq]
  constructor
  · intro h r hr
    obtain ⟨handles, hok, -, -⟩ := h
    obtain ⟨handles', hmap, -⟩ := bind_eq_ok.mp hok
    exact (hfits r _).mp (exists_mapM_ok_iff.mp ⟨handles', hmap⟩ r hr)
  · intro hall
    obtain ⟨handles, hmap⟩ := exists_mapM_ok_iff.mpr fun r hr =>
      (hfits r ⟨shared reply.raw.data, (Record.dataRange r).1, (Record.dataRange r).2⟩).mpr
        (hall r hr)
    have hforall := mapM_eq_ok_iff.mp hmap
    refine ⟨handles, bind_eq_ok.mpr ⟨handles, hmap, rfl⟩, hforall.length_eq.symm, ?_⟩
    intro i r hi
    obtain ⟨bytes, hpayload, hslice⟩ := payload_eq hdec (List.mem_of_getElem? hi)
    obtain ⟨hlt, rfl⟩ := List.getElem?_eq_some_iff.mp hi
    have hlt' : i < handles.length := by rwa [← hforall.length_eq]
    have hbuilt := hforall.get hlt hlt'
    exact ⟨handles[i], bytes, List.getElem?_eq_getElem hlt', (hraw _ _ _ hbuilt).trans hslice,
      hpayload⟩

/-- A method whose handles can always be built carries the payloads. -/
theorem fetchHandles_carries {raw : RawReply} {reply : Reply T}
    {fetch : List Req → Except FetchError (Reply T)} {fromParts : T → Payload → H}
    {rawBytes : H → Rust Bytes} {reqs : List Req}
    (hraw : ∀ r p, rawBytes (fromParts r p) = p.bytes)
    (hdec : Reply.decode T raw = .ok (.ok reply)) (hreqs : reqs ≠ [])
    (hfetch : fetch reqs = .ok reply) :
    Carries rawBytes reply (fetchHandles fetch (fun r p => return fromParts r p) reqs) := by
  have hfits : ∀ r p, (∃ handle, (return fromParts r p : Rust H) = .ok handle) ↔ True := by
    simp [pure_eq_ok]
  refine (fetchHandles_carry hfits (fun r p handle h => ?_) hdec hreqs hfetch).mpr
    fun _ _ => trivial
  cases h
  exact hraw r p

end Carry

/-- The wireframes are built exactly when no stride overflows, where that is checked. -/
theorem wireframesWith_carries_iff {Req : Type} {overflowChecks : Bool} {raw : RawReply}
    {reply : Reply WireframeRecord} {fetch : List Req → Except FetchError (Reply WireframeRecord)}
    {reqs : List Req} (hdec : Reply.decode WireframeRecord raw = .ok (.ok reply))
    (hreqs : reqs ≠ []) (hfetch : fetch reqs = .ok reply) :
    Carries Wireframe.rawBytes reply (Capture.wireframesWith overflowChecks fetch reqs) ↔
      (overflowChecks = true → ∀ r ∈ reply.records, r.StrideFits) := by
  have hfits : ∀ r p, (∃ handle, Wireframe.fromParts overflowChecks r p = .ok handle) ↔
      (overflowChecks = true → r.StrideFits) := Wireframe.exists_fromParts_iff overflowChecks
  have h := fetchHandles_carry hfits (fun _ _ _ => Wireframe.rawBytes_of_fromParts) hdec hreqs
    hfetch
  exact h.trans ⟨fun hall hchecks r hr => hall r hr hchecks,
    fun hall r hr hchecks => hall hchecks r hr⟩

/-! ## Textures -/

section Textures

variable {Req : Type} {raw : RawReply} {reply : Reply TextureRecord}
  {fetch : List Req → Except FetchError (Reply TextureRecord)} {reqs : List Req}

/-- Every texture of an accepted reply has a payload that can be read. -/
theorem texturesWith_rawBytes (hdec : Reply.decode TextureRecord raw = .ok (.ok reply))
    (hfetch : fetch reqs = .ok reply) :
    ∃ textures, Capture.texturesWith fetch reqs = .ok (.ok textures) ∧
      ∀ t ∈ textures, ∃ bytes, t.rawBytes = .ok bytes := by
  by_cases hreqs : reqs = []
  · exact ⟨[], by subst hreqs; rfl, by simp⟩
  obtain ⟨textures, hok, hlen, hcarry⟩ : Carries Texture.rawBytes reply
      (Capture.texturesWith fetch reqs) := fetchHandles_carries (fun _ _ => rfl) hdec hreqs hfetch
  refine ⟨textures, hok, fun t ht => ?_⟩
  obtain ⟨i, hi, rfl⟩ := List.getElem_of_mem ht
  obtain ⟨handle, bytes, hget, hbytes, -⟩ :=
    hcarry i reply.records[i] (List.getElem?_eq_getElem (by omega))
  rw [List.getElem?_eq_getElem hi, Option.some.injEq] at hget
  exact ⟨bytes, by rw [hget]; exact hbytes⟩

/-- No accessor of a fetched texture panics, whatever the reply says of its geometry, its
    format and its range, and whatever it is cast to. -/
theorem textures_never_panic (hdec : Reply.decode TextureRecord raw = .ok (.ok reply))
    (hfetch : fetch reqs = .ok reply) (cast : TryCastSlice) (base : Nat) (P : Pod) :
    ∃ textures, Capture.texturesWith fetch reqs = .ok (.ok textures) ∧
      ∀ t ∈ textures,
        (∃ r, t.rawBytes = .ok r) ∧ (∃ r, t.pixels cast base P = .ok r) ∧
        (∃ r, t.rows cast base P = .ok r) ∧ (∃ r, t.packedBytes = .ok r) ∧
        ∃ r, t.blocks = .ok r ∧ ∀ b, r = .ok b →
          (∃ n, b.expectedLen = .ok n) ∧ ∃ r, b.packedBlocks = .ok r := by
  obtain ⟨textures, hok, hraw⟩ := texturesWith_rawBytes hdec hfetch
  refine ⟨textures, hok, fun t ht => ?_⟩
  obtain ⟨bytes, hbytes⟩ := hraw t ht
  obtain ⟨r, hr, hsane⟩ := Image.exists_blocks (show t.image.payload.bytes = .ok bytes from hbytes)
  exact ⟨⟨bytes, hbytes⟩, Image.exists_pixels cast base P hbytes,
    Image.exists_rows cast base P hbytes, Image.exists_packedBytes hbytes, r, hr, fun b hb =>
    ⟨⟨_, Blocks.expectedLen_eq (hsane b hb)⟩, ⟨_, Blocks.packedBlocks_eq (hsane b hb)⟩⟩⟩

/-- `BGRA8Unorm` textures: one of 2 by 2 pixels with padded rows, and one that claims the greatest
    geometry there is over a payload of one pixel. -/
def wildTextures : RawReply :=
  laidOut 0 [⟨[(streamRefOff, 24), (widthOff, 2), (heightOff, 2), (pixelFormatOff, 80),
      (bytesPerRowOff, 10)], [1, 2, 3, 4, 5, 6, 7, 8, 0, 0, 9, 10, 11, 12, 13, 14, 15, 16, 0, 0]⟩,
    ⟨[(streamRefOff, 25), (widthOff, 0xffffffff), (heightOff, 0xffffffff), (pixelFormatOff, 80),
      (bytesPerRowOff, 0xffffffff)], [1, 2, 3, 4]⟩]

def wildReply : Reply TextureRecord where
  raw := wildTextures
  records := (chunksExact 80 wildTextures.info).map TextureRecord.ofChunk

theorem wildReply_decoded : Reply.decode TextureRecord wildTextures = .ok (.ok wildReply) :=
  (Reply.decode_eq_ok_iff (T := TextureRecord) _ _).mpr ⟨by decide +kernel, rfl⟩

/-- `[u8; 4]`. -/
def pixelPod : Pod where
  size := 4
  align := 1
  align_pos := by decide
  align_dvd_size := by decide

theorem textures_never_panic_wildTextures :
    ∃ textures, Reply.decode TextureRecord wildTextures = .ok (.ok wildReply) ∧
      Capture.texturesWith (fun _ : List Unit => .ok wildReply) [()] = .ok (.ok textures) ∧
      ∀ t ∈ textures, (∃ r, t.pixels plainCast 0 pixelPod = .ok r) ∧
        (∃ r, t.rows plainCast 0 pixelPod = .ok r) ∧ (∃ r, t.packedBytes = .ok r) ∧
        ∃ r, t.blocks = .ok r := by
  obtain ⟨textures, hok, htextures⟩ := @textures_never_panic Unit _ _
    (fun _ => .ok wildReply) [()] wildReply_decoded rfl plainCast 0 pixelPod
  refine ⟨textures, wildReply_decoded, hok, fun t ht => ?_⟩
  obtain ⟨-, hpixels, hrows, hpacked, r, hr, -⟩ := htextures t ht
  exact ⟨hpixels, hrows, hpacked, r, hr⟩

end Textures

/-! ## The six methods -/

/-- The handle of a class. -/
def RecordClass.Handle : RecordClass → Type
  | .texture => Texture
  | .buffer => Buffer
  | .heap => Heap
  | .accel => AccelStructure
  | .pipeline => Pipeline
  | .wireframe => Wireframe

/-- `raw_bytes` of a class. -/
def RecordClass.rawBytes : (k : RecordClass) → k.Handle → Rust Bytes
  | .texture => Texture.rawBytes
  | .buffer => Buffer.rawBytes
  | .heap => Heap.rawBytes
  | .accel => AccelStructure.rawBytes
  | .pipeline => Pipeline.rawBytes
  | .wireframe => Wireframe.rawBytes

/-- What the method of a class asks for. -/
def RecordClass.Req (TextureRequest WireframeRequest : Type) : RecordClass → Type
  | .texture => TextureRequest
  | .wireframe => WireframeRequest
  | _ => UInt64

section Classes

variable {TextureRequest WireframeRequest : Type}

/-- The method of a class. -/
def RecordClass.method (overflowChecks : Bool) :
    (k : RecordClass) →
      (List (k.Req TextureRequest WireframeRequest) → Except FetchError (Reply k.Rec)) →
      List (k.Req TextureRequest WireframeRequest) → Rust (Except Error (List k.Handle))
  | .texture => Capture.texturesWith
  | .buffer => Capture.buffers
  | .heap => Capture.heaps
  | .accel => Capture.accelerationStructures
  | .pipeline => Capture.pipelineBinaries
  | .wireframe => Capture.wireframesWith overflowChecks

/-- The stride of a wireframe fits a `u32`; the other classes compute none. -/
def RecordClass.StrideFits : (k : RecordClass) → k.Rec → Prop
  | .wireframe => WireframeRecord.StrideFits
  | _ => fun _ => True

/-- On every accepted reply, the method of a class builds one handle per record, in order, and
    the `raw_bytes` of each is the `Reply::payload` of its record, exactly when the build
    checks no overflow or every wireframe's `width * bpp` fits a `u32`. The buffer that the
    handles share reads back, at every range, as that range of the reply's `data`. -/
theorem handles_carry_payload_iff (overflowChecks : Bool) (k : RecordClass) {raw : RawReply}
    {reply : Reply k.Rec} (hdec : Reply.decode k.Rec raw = .ok (.ok reply))
    {fetch : List (k.Req TextureRequest WireframeRequest) → Except FetchError (Reply k.Rec)}
    {reqs : List (k.Req TextureRequest WireframeRequest)} (hreqs : reqs ≠ [])
    (hfetch : fetch reqs = .ok reply) :
    (Carries k.rawBytes reply (k.method overflowChecks fetch reqs) ↔
      (overflowChecks = true → ∀ r ∈ reply.records, k.StrideFits r)) ∧
    ∀ (src : Bytes) (o n : Nat) (bytes : Bytes),
      Payload.bytes ⟨AlignedBuf.fromBytes src, o, n⟩ = .ok bytes ↔
        o + n ≤ src.length ∧ o + n < usizeLimit ∧ bytes = window src o n := by
  refine ⟨?_, fun _ _ _ _ => Payload.bytes_fromBytes_iff⟩
  cases k with
  | wireframe => exact wireframesWith_carries_iff hdec hreqs hfetch
  | texture => exact ⟨fun _ _ _ _ => trivial, fun _ =>
      fetchHandles_carries (fun _ _ => rfl) hdec hreqs hfetch⟩
  | buffer => exact ⟨fun _ _ _ _ => trivial, fun _ =>
      fetchHandles_carries (fun _ _ => rfl) hdec hreqs hfetch⟩
  | heap => exact ⟨fun _ _ _ _ => trivial, fun _ =>
      fetchHandles_carries (fun _ _ => rfl) hdec hreqs hfetch⟩
  | accel => exact ⟨fun _ _ _ _ => trivial, fun _ =>
      fetchHandles_carries (fun _ _ => rfl) hdec hreqs
        hfetch⟩
  | pipeline => exact ⟨fun _ _ _ _ => trivial, fun _ =>
      fetchHandles_carries (fun _ _ => rfl) hdec hreqs hfetch⟩

/-- Wireframes of 1 by 1 and of 2 by 1 pixels. -/
def twoWireframes : RawReply :=
  laidOut 0 [⟨[(wireframeDispatchUidOff, 7), (widthOff, 1), (heightOff, 1), (pixelFormatOff, 80)],
      [1, 2, 3, 4]⟩,
    ⟨[(wireframeDispatchUidOff, 8), (widthOff, 2), (heightOff, 1), (pixelFormatOff, 80)],
      [5, 6, 7, 8, 9, 10, 11, 12]⟩]

def twoWireframesReply : Reply WireframeRecord where
  raw := twoWireframes
  records := (chunksExact 80 twoWireframes.info).map WireframeRecord.ofChunk

theorem handles_carry_payload_iff_twoWireframes :
    twoWireframesReply.records.map twoWireframesReply.payload =
        [.ok [1, 2, 3, 4], .ok [5, 6, 7, 8, 9, 10, 11, 12]] ∧
      Carries Wireframe.rawBytes twoWireframesReply
        (Capture.wireframesWith true (fun _ : List Unit => .ok twoWireframesReply) [()]) := by
  have hdec : Reply.decode WireframeRecord twoWireframes = .ok (.ok twoWireframesReply) :=
    (Reply.decode_eq_ok_iff (T := WireframeRecord) _ _).mpr ⟨by decide +kernel, rfl⟩
  have hfits : ∀ r ∈ twoWireframesReply.records, r.StrideFits := by decide +kernel
  have hpayloads : twoWireframesReply.records.map twoWireframesReply.payload =
      [.ok [1, 2, 3, 4], .ok [5, 6, 7, 8, 9, 10, 11, 12]] := by decide +kernel
  exact ⟨hpayloads, (@handles_carry_payload_iff Unit Unit true .wireframe _ _ hdec _ [()]
    (List.cons_ne_nil _ _) rfl).1.mpr fun _ => hfits⟩

/-- A table of one wireframe record, `RGBA32Float` and `2 ^ 31` pixels wide, without pixels. -/
def wideWireframe : RawReply where
  unknownLen := 0
  info := (List.replicate 80 0).set 0x33 0x80 |>.set 0x38 125
  data := []

/-- What it decodes to. -/
def wideReply : Reply WireframeRecord where
  raw := wideWireframe
  records := (chunksExact 80 wideWireframe.info).map WireframeRecord.ofChunk

theorem wideReply_decoded : Reply.decode WireframeRecord wideWireframe = .ok (.ok wideReply) :=
  (Reply.decode_eq_ok_iff (T := WireframeRecord) _ _).mpr ⟨by decide, rfl⟩

/-- With overflow checks the accepted reply has no handle: `2 ^ 31 * 16` panics. -/
theorem wireframesWith_overflows :
    Reply.decode WireframeRecord wideWireframe = .ok (.ok wideReply) ∧
      ¬ Carries Wireframe.rawBytes wideReply
        (Capture.wireframesWith true (fun _ : List Unit => .ok wideReply) [()]) := by
  refine ⟨wideReply_decoded, fun h => ?_⟩
  have hfits := (wireframesWith_carries_iff wideReply_decoded (List.cons_ne_nil _ _) rfl).mp h rfl
  exact absurd hfits (by decide +kernel)

end Classes

end GputoolsReplay
