/-
  What a fetch asks for (`request.rs`), and the structs that carry it to the framework
  (`GTSize`, `GTPoint3D`, `GTRegion` of the sys crate).

  * `Region.toGt`: the wire form of a region; its depth is 1.
-/

namespace GputoolsReplay

/-! ## The wire form -/

structure GTSize where
  width : UInt64
  height : UInt64
  depth : UInt64
  deriving DecidableEq, Repr, Inhabited

structure GTPoint3D where
  x : UInt64
  y : UInt64
  z : UInt64
  deriving DecidableEq, Repr, Inhabited

structure GTRegion where
  origin : GTPoint3D
  size : GTSize
  deriving DecidableEq, Repr, Inhabited

/-! ## The geometry of a request -/

structure Point3D where
  x : UInt64
  y : UInt64
  z : UInt64
  deriving DecidableEq, Repr

/-- `Size`; a request has no depth. -/
structure Size where
  width : UInt64
  height : UInt64
  deriving DecidableEq, Repr

structure Region where
  origin : Point3D
  size : Size
  deriving DecidableEq, Repr

/-- `Region::ZERO`: a texture's natural size. -/
def Region.zero : Region := ⟨⟨0, 0, 0⟩, ⟨0, 0⟩⟩

/-- `Region::to_gt`. -/
def Region.toGt (r : Region) : GTRegion where
  origin := ⟨r.origin.x, r.origin.y, r.origin.z⟩
  size := ⟨r.size.width, r.size.height, 1⟩

/-! ## Requests -/

structure TextureRequest where
  streamRef : UInt64
  region : Region
  plane : UInt32
  slice : UInt32
  level : UInt32
  deriving DecidableEq, Repr

namespace TextureRequest

/-- `TextureRequest::natural`. -/
def natural (streamRef : UInt64) : TextureRequest where
  streamRef := streamRef
  region := .zero
  plane := 0
  slice := 0
  level := 0

/-- `TextureRequest::new`. -/
def new (streamRef : UInt64) (region : Region) (plane : UInt32) : TextureRequest where
  streamRef := streamRef
  region := region
  plane := plane
  slice := 0
  level := 0

/-- `TextureRequest::with_slice_level`. -/
def withSliceLevel (r : TextureRequest) (slice level : UInt32) : TextureRequest :=
  { r with slice := slice, level := level }

end TextureRequest

/-- `DispatchUid`. -/
abbrev DispatchUid := UInt64

structure WireframeRequest where
  dispatchUid : DispatchUid
  solid : Bool
  deriving DecidableEq, Repr

end GputoolsReplay
