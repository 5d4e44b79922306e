/-
  The snapshot of the object map that a capture takes when it opens (`capture.rs`).

  * `Capture.open`, `Capture.step`: the snapshot, and the calls after it, each of which the
    framework answers with any map.
  * `snapshot_coherent`: the accessors keep their answers over every run, and agree with each
    other and with the session at `open`.
-/
import GputoolsReplay.Substrate.Error
import GputoolsReplay.Substrate.ObjectMap
import GputoolsReplay.Substrate.Record

namespace GputoolsReplay

/-- `Capture`: the session and the snapshot. -/
structure Capture where
  session : Session
  loaded : Except ObjectMapError (List (UInt64 × Session.TextureDescriptor))
  unused : Except ObjectMapError (List UInt64)

/-- `Capture::open`, on what `Session::open` returned. Its error is `Error::Session`. -/
def Capture.open (opened : Except SessionError Session) (allKeys allObjects : Listing) :
    Except SessionError Capture := do
  let session ← opened
  let loaded := session.loadedTextures allKeys
  let unused := session.unusedResourceRefs allObjects
  return { session, loaded, unused }

namespace Capture

/-- `Capture::texture_descriptor`: a linear search of the snapshot. -/
def textureDescriptor (c : Capture) (streamRef : UInt64) :
    Except ObjectMapError (Option Session.TextureDescriptor) := do
  let loaded ← c.loaded
  return (loaded.find? fun e => e.1 = streamRef).map Prod.snd

/-- `Capture::loaded_textures`. -/
def loadedTextures (c : Capture) :
    Except ObjectMapError (List (UInt64 × Session.TextureDescriptor)) := c.loaded

/-- `Capture::loaded_texture_refs`. -/
def loadedTextureRefs (c : Capture) : Except ObjectMapError (List UInt64) := do
  let loaded ← c.loaded
  return loaded.map Prod.fst

/-- `Capture::unused_resource_refs`. -/
def unusedResourceRefs (c : Capture) : Except ObjectMapError (List UInt64) := c.unused

/-! ## Runs -/

/-- A call that goes through the session to the framework. -/
inductive Method where
  | playAll
  | playTo (index : UInt32)
  | rewind
  | fetch (k : RecordClass)
  deriving DecidableEq, Repr

/-- A call, and the pointer at `controller + OBJECT_MAP_OFFSET` that the framework leaves. What
    the framework does to its map is not known; any pointer may be left, by any call. -/
structure Event where
  method : Method
  left : MapPointer

def step (c : Capture) (e : Event) : Capture := { c with session := { mapPointer := e.left } }

/-- Two captures whose four accessors answer the same. -/
structure SameAnswers (c c' : Capture) : Prop where
  loadedTextures : c.loadedTextures = c'.loadedTextures
  loadedTextureRefs : c.loadedTextureRefs = c'.loadedTextureRefs
  textureDescriptor : ∀ r, c.textureDescriptor r = c'.textureDescriptor r
  unusedResourceRefs : c.unusedResourceRefs = c'.unusedResourceRefs

/-- The accessors agree with each other, and with a session. -/
structure Coherent (c : Capture) (s : Session) : Prop where
  ascending : ∀ refs, c.loadedTextureRefs = .ok refs → refs.Pairwise (· < ·)
  refs : c.loadedTextureRefs = c.loadedTextures.map (List.map Prod.fst)
  found : ∀ loaded, c.loadedTextures = .ok loaded → ∀ r d,
    c.textureDescriptor r = .ok (some d) ↔ (r, d) ∈ loaded
  absent : ∀ loaded, c.loadedTextures = .ok loaded → ∀ r,
    c.textureDescriptor r = .ok none ↔ ∀ d, (r, d) ∉ loaded
  agrees : ∀ r, c.textureDescriptor r = s.textureDescriptor r
  unreachable : ∀ e, s.objectMap = .error e →
    c.loadedTextures = .error e ∧ c.loadedTextureRefs = .error e ∧
      ∀ r, c.textureDescriptor r = .error e

variable {c : Capture} {s : Session}

/-- No call writes the snapshot. -/
theorem snapshot_run (c : Capture) (events : List Event) :
    (events.foldl step c).loaded = c.loaded ∧ (events.foldl step c).unused = c.unused := by
  induction events generalizing c with
  | nil => exact ⟨rfl, rfl⟩
  | cons e events ih => exact ih (step c e)

theorem sameAnswers_of_snapshot {c' : Capture} (h : c.loaded = c'.loaded ∧ c.unused = c'.unused) :
    SameAnswers c c' where
  loadedTextures := h.1
  loadedTextureRefs := by unfold Capture.loadedTextureRefs; rw [h.1]
  textureDescriptor r := by unfold Capture.textureDescriptor; rw [h.1]
  unusedResourceRefs := h.2

/-- The search answers as the session whose textures it searches. -/
theorem textureDescriptor_eq {allKeys : Listing} (h : c.loaded = s.loadedTextures allKeys)
    (r : UInt64) : c.textureDescriptor r = s.textureDescriptor r := by
  unfold Capture.textureDescriptor
  rw [h]
  cases hmap : s.objectMap with
  | error e => simp only [Session.loadedTextures, Session.textureDescriptor, hmap]; rfl
  | ok map =>
    obtain ⟨loaded, hloaded, hgraph⟩ := Session.loadedTextures_ok hmap allKeys
    rw [hloaded, Session.textureDescriptor_ok hmap, ← hgraph.find_eq]
    rfl

/-- A loaded list is the graph of the descriptors that the session gives. -/
theorem graph_of_loaded {allKeys : Listing} (h : c.loaded = s.loadedTextures allKeys)
    {loaded : List (UInt64 × Session.TextureDescriptor)} (hloaded : c.loaded = .ok loaded) :
    ∃ map, s.objectMap = .ok map ∧ Ascending.IsGraph map.descriptor loaded := by
  rw [h] at hloaded
  cases hmap : s.objectMap with
  | error e =>
    rw [Session.loadedTextures, hmap] at hloaded
    cases hloaded
  | ok map =>
    obtain ⟨loaded', hloaded', hgraph⟩ := Session.loadedTextures_ok hmap allKeys
    rw [hloaded'] at hloaded
    exact ⟨map, rfl, Except.ok.inj hloaded ▸ hgraph⟩

theorem coherent_of_loaded {allKeys : Listing} (h : c.loaded = s.loadedTextures allKeys) :
    Coherent c s where
  ascending refs hrefs := by
    obtain ⟨loaded, hloaded, hmap⟩ := RustSem.bind_eq_ok.mp hrefs
    obtain rfl := Except.ok.inj hmap
    obtain ⟨map, -, hgraph⟩ := graph_of_loaded h hloaded
    exact List.pairwise_map.mpr hgraph.asc
  refs := rfl
  found loaded hloaded r d := by
    obtain ⟨map, hmap, hgraph⟩ := graph_of_loaded h hloaded
    rw [textureDescriptor_eq h, Session.textureDescriptor_ok hmap, Except.ok.injEq, hgraph.mem_iff]
  absent loaded hloaded r := by
    obtain ⟨map, hmap, hgraph⟩ := graph_of_loaded h hloaded
    rw [textureDescriptor_eq h, Session.textureDescriptor_ok hmap, Except.ok.injEq]
    simp only [hgraph.mem_iff, Option.eq_none_iff_forall_ne_some]
  agrees := textureDescriptor_eq h
  unreachable e he := by
    have hloaded : c.loaded = .error e := by
      rw [h, Session.loadedTextures, he]
      rfl
    refine ⟨hloaded, ?_, fun r => ?_⟩
    · rw [loadedTextureRefs, hloaded]
      rfl
    · rw [textureDescriptor, hloaded]
      rfl

end Capture

/-- Whatever the framework does to its map after `open`, and whatever orders it lists it in, the
    four accessors keep the answers they gave right after `open`; these cohere, and agree with
    the session at `open`. -/
theorem snapshot_coherent {opened : Except SessionError Session} {allKeys allObjects : Listing}
    {c : Capture} (h : Capture.open opened allKeys allObjects = .ok c)
    (events : List Capture.Event) :
    (events.foldl Capture.step c).SameAnswers c ∧
    (∃ session, opened = .ok session ∧ (events.foldl Capture.step c).Coherent session) ∧
    ∀ (s : Session) (keys keys' : Listing),
      s.loadedTextureRefs keys = (s.loadedTextures keys').map (List.map Prod.fst) := by
  have hrun := Capture.snapshot_run c events
  refine ⟨Capture.sameAnswers_of_snapshot hrun, ?_, Session.loadedTextureRefs_eq⟩
  cases opened with
  | error e => cases h
  | ok session =>
    cases h
    exact ⟨session, rfl, Capture.coherent_of_loaded hrun.1⟩

/-! ## A capture of three textures -/

/-- A texture of the capture. -/
def knownTexture (width height : UInt64) : MTLTexture where
  width := width
  height := height
  depth := 1
  pixelFormat := 80
  textureType := 2
  mipmapLevelCount := 1
  arrayLength := 1
  sampleCount := 1
  usage := 5

/-- The map at `open`. -/
def knownMap : ObjectMap where
  resources := [(4, .texture (knownTexture 112 112)), (5, .other),
    (2, .texture (knownTexture 64 64)), (3, .texture (knownTexture 80 64))]
  unusedResourceKeys := [9, 6, 8, 7]
  resources_nodup := by decide
  unused_nodup := by decide

def knownSession : Session where
  mapPointer := { isNull := false, mallocSize := 48, map := some knownMap }

def inOrder : Listing := ⟨id, fun _ => .refl _⟩

def knownDescriptor (r : UInt64) (width height : UInt32) : UInt64 × Session.TextureDescriptor :=
  (r, { streamRef := r, width, height, depth := 1, pixelFormat := 80, textureType := 2,
        mipLevels := 1, arrayLength := 1, sampleCount := 1, usage := 5 })

/-- The capture after `open`. -/
def knownCapture : Capture where
  session := knownSession
  loaded := .ok [knownDescriptor 2 64 64, knownDescriptor 3 80 64, knownDescriptor 4 112 112]
  unused := .ok [6, 7, 8, 9]

/-- Playback to the end, which leaves no map. -/
def clearedRun : List Capture.Event :=
  [{ method := .playAll, left := { isNull := true, mallocSize := 0, map := none } }]

theorem snapshot_coherent_knownCapture :
    (clearedRun.foldl Capture.step knownCapture).SameAnswers knownCapture ∧
    (∃ session, Except.ok knownSession = (Except.ok session : Except SessionError Session) ∧
      (clearedRun.foldl Capture.step knownCapture).Coherent session) ∧
    ∀ (s : Session) (keys keys' : Listing),
      s.loadedTextureRefs keys = (s.loadedTextures keys').map (List.map Prod.fst) :=
  @snapshot_coherent (.ok knownSession) inOrder inOrder knownCapture rfl clearedRun

end GputoolsReplay
