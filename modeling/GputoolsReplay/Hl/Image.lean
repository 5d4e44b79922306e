/-
  Fetched images (`image.rs`): the geometry and payload of a texture.
-/
import GputoolsReplay.Hl.Bytes
import GputoolsReplay.Hl.Format
import GputoolsReplay.Substrate.Record

namespace GputoolsReplay

/-- `Image`. -/
structure Image where
  width : UInt32
  height : UInt32
  bytesPerRow : UInt32
  pixelFormat : UInt32
  payload : Payload
  deriving DecidableEq

/-- `Texture`. -/
structure Texture where
  streamRef : UInt64
  depth : UInt32
  bytesPerImage : UInt32
  plane : UInt32
  slice : UInt32
  level : UInt32
  image : Image
  deriving DecidableEq

/-- `Texture::from_parts`. -/
def Texture.fromParts (r : TextureRecord) (payload : Payload) : Texture where
  streamRef := r.streamRef.toUInt64
  depth := r.depth.toUInt32
  bytesPerImage := r.bytesPerImage
  plane := r.plane
  slice := r.slice
  level := r.level
  image := {
    width := r.width
    height := r.height.toUInt32
    bytesPerRow := r.bytesPerRow
    pixelFormat := r.pixelFormat
    payload := payload }

/-- `Texture::for_test`. -/
def Texture.forTest (streamRef : UInt64) (width : UInt32) (height : UInt16) (bpr fmt : UInt32)
    (payload : Payload) : Texture where
  streamRef := streamRef
  depth := 1
  bytesPerImage := 0
  plane := 0
  slice := 0
  level := 0
  image := { width, height := height.toUInt32, bytesPerRow := bpr, pixelFormat := fmt, payload }

def Texture.width (t : Texture) : UInt32 := t.image.width
def Texture.height (t : Texture) : UInt32 := t.image.height

/-- `texture.format().0 as u32`: the raw `MTLPixelFormat`. -/
def Texture.format (t : Texture) : UInt32 := t.image.pixelFormat

end GputoolsReplay
