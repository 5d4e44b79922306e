/-
  The handles of the high-level layer (`buffer.rs`, `accel.rs`, `pipeline.rs`, `image.rs`):
  what each is made of, and the bytes it gives access to.
-/
import GputoolsReplay.Hl.Blocks
import GputoolsReplay.Hl.Pixels

namespace GputoolsReplay

open RustSem

/-! ## Buffers, heaps, acceleration structures, pipelines -/

/-- `Buffer`. -/
structure Buffer where
  streamRef : UInt64
  payload : Payload
  deriving DecidableEq

/-- `Buffer::from_parts`. -/
def Buffer.fromParts (streamRef : UInt64) (payload : Payload) : Buffer := { streamRef, payload }

/-- `Buffer::raw_bytes`. -/
def Buffer.rawBytes (b : Buffer) : Rust Bytes := b.payload.bytes

/-- `Heap`. -/
structure Heap where
  streamRef : UInt64
  payload : Payload
  deriving DecidableEq

/-- `Heap::from_parts`. -/
def Heap.fromParts (streamRef : UInt64) (payload : Payload) : Heap := { streamRef, payload }

/-- `Heap::raw_bytes`. -/
def Heap.rawBytes (h : Heap) : Rust Bytes := h.payload.bytes

/-- `AccelStructure`. -/
structure AccelStructure where
  payload : Payload
  deriving DecidableEq

/-- `AccelStructure::from_parts`. -/
def AccelStructure.fromParts (payload : Payload) : AccelStructure := { payload }

/-- `AccelStructure::raw_bytes`. -/
def AccelStructure.rawBytes (a : AccelStructure) : Rust Bytes := a.payload.bytes

/-- `Pipeline`. -/
structure Pipeline where
  pipelineId : UInt32
  handle : UInt64
  payload : Payload
  deriving DecidableEq

/-- `Pipeline::from_parts`. -/
def Pipeline.fromParts (pipelineId : UInt32) (handle : UInt64) (payload : Payload) : Pipeline :=
  { pipelineId, handle, payload }

/-- `Pipeline::raw_bytes`. -/
def Pipeline.rawBytes (p : Pipeline) : Rust Bytes := p.payload.bytes

/-! ## Wireframes -/

/-- `Wireframe`. -/
structure Wireframe where
  dispatchUid : UInt32
  image : Image
  deriving DecidableEq

/-- `bytes_per_pixel().unwrap_or(0) as u32` of a wireframe's format. -/
def WireframeRecord.bpp (r : WireframeRecord) : UInt32 :=
  UInt32.ofNat ((formatKind r.pixelFormat).bytesPerPixel.getD 0)

/-- `Wireframe::from_parts`. The product `width * bpp` is a plain one on `u32`. -/
def Wireframe.fromParts (overflowChecks : Bool) (r : WireframeRecord) (payload : Payload) :
    Rust Wireframe := do
  let bytesPerRow ← mulU32 overflowChecks r.width r.bpp
  return {
    dispatchUid := r.dispatchUid
    image := {
      width := r.width
      height := r.height.toUInt32
      bytesPerRow
      pixelFormat := r.pixelFormat
      payload } }

/-- `Wireframe::raw_bytes`. -/
def Wireframe.rawBytes (w : Wireframe) : Rust Bytes := w.image.rawBytes

def Wireframe.width (w : Wireframe) : UInt32 := w.image.width
def Wireframe.height (w : Wireframe) : UInt32 := w.image.height
def Wireframe.bytesPerRow (w : Wireframe) : UInt32 := w.image.bytesPerRow

/-- `Wireframe::pixels`. -/
def Wireframe.pixels (cast : TryCastSlice) (base : Nat) (P : Pod) (w : Wireframe) :
    Rust (Except Error (List Bytes)) := w.image.pixels cast base P

/-- `Wireframe::rows`. -/
def Wireframe.rows (cast : TryCastSlice) (base : Nat) (P : Pod) (w : Wireframe) :
    Rust (Except Error (List (List Bytes))) := w.image.rows cast base P

/-- The stride of a wireframe fits its `u32`. -/
def WireframeRecord.StrideFits (r : WireframeRecord) : Prop :=
  r.width.toNat * r.bpp.toNat < 2 ^ 32

instance (r : WireframeRecord) : Decidable r.StrideFits := inferInstanceAs (Decidable (_ < _))

/-- A wireframe is built unless its stride overflows in a build that checks. -/
theorem Wireframe.exists_fromParts_iff (overflowChecks : Bool) (r : WireframeRecord)
    (payload : Payload) :
    (∃ w, Wireframe.fromParts overflowChecks r payload = .ok w) ↔
      (overflowChecks = true → r.StrideFits) := by
  unfold WireframeRecord.StrideFits
  rw [← exists_mulU32_iff]
  constructor
  · intro h
    obtain ⟨w, hw⟩ := h
    obtain ⟨bytesPerRow, hmul, -⟩ := bind_eq_ok.mp hw
    exact ⟨bytesPerRow, hmul⟩
  · intro h
    obtain ⟨bytesPerRow, hmul⟩ := h
    exact ⟨_, bind_eq_ok.mpr ⟨bytesPerRow, hmul, rfl⟩⟩

/-- Its payload is the one it was built from. -/
theorem Wireframe.rawBytes_of_fromParts {overflowChecks : Bool} {r : WireframeRecord}
    {payload : Payload} {w : Wireframe} (h : Wireframe.fromParts overflowChecks r payload = .ok w) :
    w.rawBytes = payload.bytes := by
  obtain ⟨bytesPerRow, -, hw⟩ := bind_eq_ok.mp h
  cases hw
  rfl

/-! ## Textures -/

namespace Texture

variable (cast : TryCastSlice) (base : Nat) (P : Pod)

/-- `Texture::raw_bytes`. -/
def rawBytes (t : Texture) : Rust Bytes := t.image.rawBytes

/-- `Texture::pixels`. -/
def pixels (t : Texture) : Rust (Except Error (List Bytes)) := t.image.pixels cast base P

/-- `Texture::rows`. -/
def rows (t : Texture) : Rust (Except Error (List (List Bytes))) := t.image.rows cast base P

/-- `Texture::blocks`. -/
def blocks (t : Texture) : Rust (Except Error Blocks) := t.image.blocks

/-- `Texture::packed_bytes`. -/
def packedBytes (t : Texture) : Rust (Except Error Cow) := t.image.packedBytes

end Texture

end GputoolsReplay
