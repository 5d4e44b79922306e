/-
  The object map of a session (`session.rs`, `descriptor.rs`, `layout.rs`): the resources that
  the current load created, by streamRef. The framework owns it; a session reads it.

  * `Session.textureDescriptor`, `Session.loadedTextures`, `Session.loadedTextureRefs` and
    `Session.unusedResourceRefs`: the four reads.
  * `Session.loadedTextures_ok`: the loaded textures are the graph of the descriptors.
  * `Session.loadedTextureRefs_eq`: their streamRefs are its first components.
-/
import GputoolsReplay.Lib.Ascending
import GputoolsReplay.Lib.Rust

namespace GputoolsReplay

/-! ## The map -/

/-- `MTLTexture`: the properties that a descriptor is read off, each of the width of an
    `NSUInteger`. -/
structure MTLTexture where
  width : UInt64
  height : UInt64
  depth : UInt64
  pixelFormat : UInt64
  textureType : UInt64
  mipmapLevelCount : UInt64
  arrayLength : UInt64
  sampleCount : UInt64
  usage : UInt64
  deriving DecidableEq, Repr

/-- A loaded resource. -/
inductive Resource where
  | texture (tex : MTLTexture)
  /-- A buffer, an acceleration structure. -/
  | other
  deriving DecidableEq, Repr

/-- `GTMTLReplayObjectMap`: the loaded resources by streamRef, and the streamRefs of those that
    are not loaded. Both are collections without repetition. -/
structure ObjectMap where
  resources : List (UInt64 × Resource)
  unusedResourceKeys : List UInt64
  resources_nodup : (resources.map Prod.fst).Nodup
  unused_nodup : unusedResourceKeys.Nodup

/-- `try_get_texture`: no load is triggered by it. -/
def ObjectMap.tryGetTexture (map : ObjectMap) (streamRef : UInt64) : Option MTLTexture :=
  match map.resources.lookup streamRef with
  | some (.texture tex) => some tex
  | _ => none

/-- The order in which Foundation lists a collection, in `allKeys` and in `allObjects`. It is
    not specified: every listing may take another one. -/
structure Listing where
  list : List UInt64 → List UInt64
  perm : ∀ keys, (list keys).Perm keys

/-- `ObjectMapError`. -/
inductive ObjectMapError where
  | notHeapObject
  | wrongClass
  deriving DecidableEq, Repr

/-- The pointer at `controller + OBJECT_MAP_OFFSET`, as far as it is looked at: `malloc_size` of
    it, and the map when `object_getClass` is `GTMTLReplayObjectMap`. -/
structure MapPointer where
  isNull : Bool
  mallocSize : Nat
  map : Option ObjectMap

/-- `controller_object_map`. -/
def controllerObjectMap (ptr : MapPointer) : Except ObjectMapError ObjectMap :=
  if ptr.isNull ∨ ptr.mallocSize = 0 then .error .notHeapObject
  else match ptr.map with
    | none => .error .wrongClass
    | some map => .ok map

/-! ## The reads of a session -/

/-- `Session`, as far as the framework can change what it reads. -/
structure Session where
  mapPointer : MapPointer

/-- `TextureDescriptor`, read off a live texture. -/
structure Session.TextureDescriptor where
  streamRef : UInt64
  width : UInt32
  height : UInt32
  depth : UInt32
  pixelFormat : UInt32
  textureType : UInt32
  mipLevels : UInt32
  arrayLength : UInt32
  sampleCount : UInt32
  usage : UInt64
  deriving DecidableEq, Repr

/-- `TextureDescriptor::from_texture`: each `as u32` truncates. -/
def Session.TextureDescriptor.fromTexture (streamRef : UInt64) (tex : MTLTexture) :
    Session.TextureDescriptor where
  streamRef := streamRef
  width := tex.width.toUInt32
  height := tex.height.toUInt32
  depth := tex.depth.toUInt32
  pixelFormat := tex.pixelFormat.toUInt32
  textureType := tex.textureType.toUInt32
  mipLevels := tex.mipmapLevelCount.toUInt32
  arrayLength := tex.arrayLength.toUInt32
  sampleCount := tex.sampleCount.toUInt32
  usage := tex.usage

namespace Session

/-- `Session::object_map`. -/
def objectMap (s : Session) : Except ObjectMapError ObjectMap := controllerObjectMap s.mapPointer

/-- `Session::texture_descriptor`. -/
def textureDescriptor (s : Session) (streamRef : UInt64) :
    Except ObjectMapError (Option Session.TextureDescriptor) := do
  let map ← s.objectMap
  return (map.tryGetTexture streamRef).map (Session.TextureDescriptor.fromTexture streamRef)

/-- `Session::loaded_texture_refs`: a filter, then a sort. -/
def loadedTextureRefs (s : Session) (allKeys : Listing) : Except ObjectMapError (List UInt64) := do
  let map ← s.objectMap
  let keys := allKeys.list (map.resources.map Prod.fst)
  let refs := keys.filter fun r => (map.tryGetTexture r).isSome
  return refs.insertionSort (· ≤ ·)

/-- `Session::loaded_textures`: one lookup for each key, then a sort by streamRef. -/
def loadedTextures (s : Session) (allKeys : Listing) :
    Except ObjectMapError (List (UInt64 × Session.TextureDescriptor)) := do
  let map ← s.objectMap
  let keys := allKeys.list (map.resources.map Prod.fst)
  let out := keys.filterMap fun streamRef =>
    (map.tryGetTexture streamRef).map fun tex =>
      (streamRef, Session.TextureDescriptor.fromTexture streamRef tex)
  return out.insertionSort fun a b => a.1 ≤ b.1

/-- `Session::unused_resource_refs`. -/
def unusedResourceRefs (s : Session) (allObjects : Listing) :
    Except ObjectMapError (List UInt64) := do
  let map ← s.objectMap
  return (allObjects.list map.unusedResourceKeys).insertionSort (· ≤ ·)

end Session

/-! ## What the reads have in common -/

/-- The descriptors of the loaded textures. -/
def ObjectMap.descriptor (map : ObjectMap) (streamRef : UInt64) :
    Option Session.TextureDescriptor :=
  (map.tryGetTexture streamRef).map (Session.TextureDescriptor.fromTexture streamRef)

theorem ObjectMap.descriptor_isSome (map : ObjectMap) (streamRef : UInt64) :
    (map.descriptor streamRef).isSome = (map.tryGetTexture streamRef).isSome :=
  Option.isSome_map

/-- A streamRef with a descriptor is a key of the map. -/
theorem ObjectMap.mem_keys_of_descriptor {map : ObjectMap} {streamRef : UInt64}
    (h : (map.descriptor streamRef).isSome) : streamRef ∈ map.resources.map Prod.fst := by
  rw [ObjectMap.descriptor_isSome] at h
  have hlookup : (map.resources.lookup streamRef).isSome := by
    cases hlookup : map.resources.lookup streamRef with
    | none => simp [ObjectMap.tryGetTexture, hlookup] at h
    | some r => rfl
  obtain ⟨e, he, hkey⟩ := List.lookup_isSome_iff.mp hlookup
  exact List.mem_map.mpr ⟨e, he, (eq_of_beq hkey).symm⟩

theorem Listing.nodup {keys : List UInt64} (listing : Listing) (h : keys.Nodup) :
    (listing.list keys).Nodup :=
  (listing.perm keys).nodup_iff.mpr h

namespace Session

variable {s : Session} {map : ObjectMap}

theorem textureDescriptor_ok (h : s.objectMap = .ok map) (streamRef : UInt64) :
    s.textureDescriptor streamRef = .ok (map.descriptor streamRef) := by
  unfold textureDescriptor
  rw [h]
  rfl

/-- The loaded textures are the graph of the descriptors. -/
theorem loadedTextures_ok (h : s.objectMap = .ok map) (allKeys : Listing) :
    ∃ loaded, s.loadedTextures allKeys = .ok loaded ∧
      Ascending.IsGraph map.descriptor loaded := by
  have hgraph := Ascending.isGraph_insertionSort (allKeys.nodup map.resources_nodup)
    fun k hk => (allKeys.perm _).mem_iff.mpr (ObjectMap.mem_keys_of_descriptor hk)
  refine ⟨_, ?_, hgraph⟩
  unfold loadedTextures
  rw [h]
  simp only [ObjectMap.descriptor, Option.map_map]
  rfl

/-- On one state of the map, the streamRefs are the first components of the textures. -/
theorem loadedTextureRefs_eq (s : Session) (allKeys allKeys' : Listing) :
    s.loadedTextureRefs allKeys = (s.loadedTextures allKeys').map (List.map Prod.fst) := by
  cases hmap : s.objectMap with
  | error e => simp only [loadedTextureRefs, loadedTextures, hmap, Except.map]; rfl
  | ok map =>
    obtain ⟨loaded, hloaded, hgraph⟩ := loadedTextures_ok hmap allKeys'
    have hkeys := hgraph.sorted_keys (allKeys.nodup map.resources_nodup)
      fun k hk => (allKeys.perm _).mem_iff.mpr (ObjectMap.mem_keys_of_descriptor hk)
    simp only [ObjectMap.descriptor_isSome] at hkeys
    rw [hloaded, Except.map, ← hkeys, loadedTextureRefs, hmap]
    rfl

end Session

end GputoolsReplay
