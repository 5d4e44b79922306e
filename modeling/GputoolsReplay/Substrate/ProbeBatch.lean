/-
  The batch builders of the probes (`probes/src/session.rs`), which the crate's were ported from.
  They look both classes up before the first object is made, they name a failure in their own
  words, and a texture request has neither a slice nor a level.

  * `Probe.batches_agree`: on the same requests, the crate builds a batch exactly when the
    probes do, and the two leave the same memory.
-/
import GputoolsReplay.Substrate.Batch
import GputoolsReplay.Substrate.ProbeFetch

namespace GputoolsReplay.Probe

open RustSem

/-- A builder of the probes. -/
abbrev Builder (α : Type) := Effect Memory SessionError α

structure FetchRequest where
  streamRef : UInt64
  width : UInt64
  height : UInt64
  plane : UInt32
  deriving DecidableEq, Repr

/-- `AnyClass::get`, of a class that is called `label` when it is missing. -/
def getClass (rt : Runtime) (name label : String) : Builder Unit :=
  if rt.registered name then return else throw (.fetchClassMissing label)

/-- `+alloc` then `-init`, on a class that was found. -/
def allocInit (rt : Runtime) (name label : String) : Builder Nat := do
  let memory ← get
  modify fun m => { m with inits := m.inits + 1 }
  match rt.init memory.inits name with
  | none => throw (.fetchObjectInit label)
  | some object =>
    modify fun m => { m with objects := m.objects ++ [{ object with cls := name }] }
    return memory.objects.length

/-- What the three fetches share: `label` is what a failure calls the class `name`. -/
def buildObjects {Req : Type} (rt : Runtime) (name missing label : String)
    (fill : Req → Nat → Builder Unit) (requests : List Req) : Builder Nat := do
  getClass rt name missing
  getClass rt "GTReplayRequestBatch" "GTReplayRequestBatch"
  let objects ← requests.mapM fun request => do
    let object ← allocInit rt name label
    fill request object
    return object
  let batch ← allocInit rt "GTReplayRequestBatch" "GTReplayRequestBatch"
  setRequests batch objects
  return batch

/-- `build_batch`. -/
def buildBatch (rt : Runtime) (requests : List FetchRequest) : Builder Nat :=
  buildObjects rt "GTReplayFetchTexture" "GTReplayFetchTexture" "GTReplayFetchTexture"
    (fun request object => do
      let size : GTSize := ⟨request.width, request.height, 1⟩
      let region : GTRegion := ⟨⟨0, 0, 0⟩, size⟩
      setStreamRef object request.streamRef
      setSize object size
      setRegion object region
      setPlane object request.plane
      setDepth object 1)
    requests

/-- `fetch_textures`, up to its batch. -/
def texturesBatch (rt : Runtime) (requests : List FetchRequest) : Builder Nat :=
  if requests.isEmpty then throw .emptyBatch else buildBatch rt requests

/-- `fetch_raw`, up to its batch. `responds` is `-respondsToSelector:` of `-setStreamRef:`, by
    class. -/
def rawBatch (rt : Runtime) (responds : String → Bool) (className : String)
    (streamRefs : List UInt64) : Builder Nat :=
  if streamRefs.isEmpty then throw .emptyBatch
  else
    buildObjects rt className "generic fetch class" "generic fetch object"
      (fun streamRef object =>
        if !responds className then
          throw (.fetchObjectInit "class is not streamRef-keyed (dispatch-keyed fetch)")
        else setStreamRef object streamRef)
      streamRefs

/-- `fetch_wireframe`, up to its batch. -/
def wireframeBatch (rt : Runtime) (dispatchUids : List DispatchUid) : Builder Nat :=
  buildObjects rt "GTReplayFetchWireframe" "GTReplayFetchWireframe" "GTReplayFetchWireframe"
    (fun uid object => do
      setDispatchUid object uid
      setSolid object false)
    dispatchUids

/-! ## The requests of both -/

inductive Ask where
  | textures (requests : List FetchRequest)
  | raw (k : StreamRefFetch) (streamRefs : List UInt64)
  | wireframe (dispatchUids : List DispatchUid)
  deriving DecidableEq, Repr

def Ask.length : Ask → Nat
  | .textures requests => requests.length
  | .raw _ streamRefs => streamRefs.length
  | .wireframe dispatchUids => dispatchUids.length

def Ask.build (rt : Runtime) (responds : String → Bool) : Ask → Builder Nat
  | .textures requests => texturesBatch rt requests
  | .raw k streamRefs => rawBatch rt responds k.className streamRefs
  | .wireframe dispatchUids => wireframeBatch rt dispatchUids

/-- The request of the crate for the same texture. -/
def FetchRequest.ported (r : FetchRequest) : TextureRequest :=
  .new r.streamRef ⟨⟨0, 0, 0⟩, ⟨r.width, r.height⟩⟩ r.plane

/-- What the crate is asked in the probes' place. -/
def Ask.ported : Ask → GputoolsReplay.Ask
  | .textures requests => .textures (requests.map FetchRequest.ported)
  | .raw k streamRefs => .streamRefs k streamRefs
  | .wireframe dispatchUids => .wireframes (dispatchUids.map fun uid => ⟨uid, false⟩)

/-! ## What the probes make -/

theorem run_getClass_eq_ok {rt : Runtime} {name label : String} {m m' : Memory} {u : Unit} :
    (getClass rt name label).run m = (.ok u, m') ↔ rt.registered name = true ∧ m' = m := by
  unfold getClass
  split
  · simp [*, eq_comm]
  · simp [*]

theorem constructs_allocInit {rt : Runtime} {name : String} (label : String)
    (hreg : rt.registered name = true) : Constructs rt name (allocInit rt name label) := by
  intro m m' a
  unfold allocInit Runtime.object
  cases hinit : rt.init m.inits name with
  | none => simp [hreg, hinit]
  | some o =>
    simp only [hreg, if_true, hinit, Effect.run_get_bind, Effect.run_modify_bind, Effect.run_pure,
      Option.map_some, Option.some.injEq, Prod.mk.injEq, Except.ok.injEq, exists_eq_left',
      Memory.push]
    constructor
    · intro h
      exact ⟨h.1.symm, h.2.symm⟩
    · intro h
      exact ⟨h.1.symm, h.2.symm⟩

theorem registered_of_object {rt : Runtime} {n : Nat} {name : String} {o : Object}
    (h : rt.object n name = some o) : rt.registered name = true :=
  (makes_iff.mpr ⟨o, h⟩).1

section Objects

variable {Req : Type} {rt : Runtime} {name missing label : String}
  {fill : Req → Nat → Builder Unit} {put : Req → Object → Object}

/-- With a request, looking the classes up first changes nothing: both are needed later on. -/
theorem run_buildObjects_eq_ok (hfill : Fills fill put) {requests : List Req}
    (hne : requests ≠ []) {m m' : Memory} {a : Nat} :
    (buildObjects rt name missing label fill requests).run m = (.ok a, m') ↔
      ∃ objects batch, made rt name put m.inits requests = some objects ∧
        rt.batch (m.inits + objects.length)
          (List.range' m.objects.length requests.length) = some batch ∧
        a = m.objects.length + objects.length ∧ m' = (m.extend objects).push batch := by
  unfold buildObjects
  constructor
  · intro h
    obtain ⟨_, m₁, hclass, hrest⟩ := Effect.run_bind_eq_ok.mp h
    obtain ⟨hreg, rfl⟩ := run_getClass_eq_ok.mp hclass
    obtain ⟨_, m₂, hclass, hobjects⟩ := Effect.run_bind_eq_ok.mp hrest
    obtain ⟨hbatch, rfl⟩ := run_getClass_eq_ok.mp hclass
    exact (run_objects_eq_ok (constructs_allocInit label hreg)
      (constructs_allocInit "GTReplayRequestBatch" hbatch) hfill).mp hobjects
  · rintro ⟨objects, batch, hmade, hmake, h⟩
    have hreg : rt.registered name = true := by
      obtain ⟨r, rs, rfl⟩ := List.exists_cons_of_ne_nil hne
      exact (exists_made_iff.mp ⟨objects, hmade⟩ 0 (by simp)).1
    have hbatch : rt.registered "GTReplayRequestBatch" = true :=
      (exists_batch_iff.mp ⟨batch, hmake⟩).1
    rw [Effect.run_bind_of_ok (run_getClass_eq_ok (u := ⟨⟩).mpr ⟨hreg, rfl⟩),
      Effect.run_bind_of_ok (run_getClass_eq_ok (u := ⟨⟩).mpr ⟨hbatch, rfl⟩)]
    exact (run_objects_eq_ok (constructs_allocInit label hreg)
      (constructs_allocInit "GTReplayRequestBatch" hbatch) hfill).mpr ⟨objects, batch, hmade,
        hmake, h⟩

/-- A builder of the probes and one of the crate agree when they write the same objects. -/
theorem buildObjects_agrees {Req' : Type} {fill' : Req' → Nat → GputoolsReplay.Builder Unit}
    {put' : Req' → Object → Object} (hfill : Fills fill put) (hfill' : Fills fill' put')
    {f : Req → Req'} (hput : ∀ n o, rt.object n name = some o → ∀ r, put r o = put' (f r) o)
    {requests : List Req} (hne : requests ≠ []) {m m' : Memory} {a : Nat} :
    (buildObjects rt name missing label fill requests).run m = (.ok a, m') ↔
      (GputoolsReplay.buildBatch rt name fill' (requests.map f)).run m = (.ok a, m') := by
  rw [run_buildObjects_eq_ok hfill hne, buildBatch_eq_ok_iff hfill', made_map,
    ← made_congr hput, List.length_map]
  simp [hne]

end Objects

theorem fills_texture : Fills (fun (request : FetchRequest) object => (do
      let size : GTSize := ⟨request.width, request.height, 1⟩
      let region : GTRegion := ⟨⟨0, 0, 0⟩, size⟩
      setStreamRef object request.streamRef
      setSize object size
      setRegion object region
      setPlane object request.plane
      setDepth object 1 : Builder Unit))
    fun r o =>
      { o with
        streamRef := r.streamRef, size := ⟨r.width, r.height, 1⟩,
        region := ⟨⟨0, 0, 0⟩, ⟨r.width, r.height, 1⟩⟩, plane := r.plane, depth := 1 } := by
  intro r a m
  simp only [setStreamRef, setSize, setRegion, setPlane, setDepth, send, Effect.run_modify_bind,
    Effect.run_modify, List.modify_modify_eq]
  rfl

theorem fills_wireframe : Fills (fun (uid : DispatchUid) object => (do
      setDispatchUid object uid
      setSolid object false : Builder Unit))
    fun uid o => { o with dispatchUid := uid, solid := false } := by
  intro r a m
  simp only [setDispatchUid, setSolid, send, Effect.run_modify_bind, Effect.run_modify,
    List.modify_modify_eq]
  rfl

/-- What a new texture request holds before it is filled. -/
def FreshAtBase (rt : Runtime) : Prop :=
  ∀ n o, rt.init n "GTReplayFetchTexture" = some o → o.slice = 0 ∧ o.level = 0

/-- On the same requests, at least one, the crate and the probes build a batch from the same
    memory in the same cases, at the same address, and leave the same memory; without a request
    the crate refuses. -/
theorem batches_agree {rt : Runtime} {responds : String → Bool} (hfresh : FreshAtBase rt)
    (hresponds : ∀ k : StreamRefFetch, responds k.className = true) (p : Ask) (m : Memory) :
    (p.length ≠ 0 → ∀ b m', (p.build rt responds).run m = (.ok b, m') ↔
      (p.ported.build rt).run m = (.ok b, m')) ∧
    (p.length = 0 → (p.ported.build rt).run m = (.error .emptyBatch, m)) := by
  cases p with
  | textures requests =>
    constructor
    · intro hne b m'
      have hne : requests ≠ [] := by simpa [Ask.length] using hne
      show (texturesBatch rt requests).run m = _ ↔ (buildTextureBatch rt _).run m = _
      unfold texturesBatch buildBatch buildTextureBatch
      rw [if_neg (by simpa using hne)]
      apply buildObjects_agrees fills_texture GputoolsReplay.fills_texture _ hne
      intro n o ho r
      obtain ⟨new, hnew, rfl⟩ : ∃ new, rt.init n "GTReplayFetchTexture" = some new ∧
          { new with cls := "GTReplayFetchTexture" } = o := by
        simpa [Runtime.object, registered_of_object ho, Option.map_eq_some_iff] using ho
      obtain ⟨hslice, hlevel⟩ := hfresh n new hnew
      simp [TextureRequest.put, FetchRequest.ported, TextureRequest.new, Region.toGt, hslice,
        hlevel]
    · intro hzero
      obtain rfl : requests = [] := by simpa [Ask.length] using hzero
      rfl
  | raw k streamRefs =>
    have hbuild : (Ask.ported (.raw k streamRefs)).build rt =
        GputoolsReplay.buildBatch rt k.className
          (fun streamRef object => setStreamRef object streamRef) (streamRefs.map id) := by
      rw [List.map_id]
      cases k <;> rfl
    rw [hbuild]
    constructor
    · intro hne b m'
      have hne : streamRefs ≠ [] := by simpa [Ask.length] using hne
      show (rawBatch rt responds k.className streamRefs).run m = _ ↔ _
      unfold rawBatch
      rw [if_neg (by simpa using hne)]
      apply buildObjects_agrees _ fills_streamRef (fun _ _ _ _ => rfl) hne
      intro r a m
      rw [hresponds k]
      rfl
    · intro hzero
      obtain rfl : streamRefs = [] := by simpa [Ask.length] using hzero
      rfl
  | wireframe dispatchUids =>
    constructor
    · intro hne b m'
      have hne : dispatchUids ≠ [] := by simpa [Ask.length] using hne
      show (wireframeBatch rt dispatchUids).run m = _ ↔ (buildWireframeBatch rt _).run m = _
      exact buildObjects_agrees fills_wireframe GputoolsReplay.fills_wireframe
        (fun _ _ _ _ => rfl) hne
    · intro hzero
      obtain rfl : dispatchUids = [] := by simpa [Ask.length] using hzero
      rfl

theorem batches_agree_blankRuntime :
    ((Ask.textures [⟨7, 0, 0, 0⟩, ⟨9, 64, 64, 1⟩]).length ≠ 0 → ∀ b m',
      ((Ask.textures [⟨7, 0, 0, 0⟩, ⟨9, 64, 64, 1⟩]).build blankRuntime fun _ => true).run
          ⟨0, []⟩ = (.ok b, m') ↔
        ((Ask.textures [⟨7, 0, 0, 0⟩, ⟨9, 64, 64, 1⟩]).ported.build blankRuntime).run
          ⟨0, []⟩ = (.ok b, m')) ∧
    ((Ask.textures [⟨7, 0, 0, 0⟩, ⟨9, 64, 64, 1⟩]).length = 0 →
      ((Ask.textures [⟨7, 0, 0, 0⟩, ⟨9, 64, 64, 1⟩]).ported.build blankRuntime).run
        ⟨0, []⟩ = (.error .emptyBatch, ⟨0, []⟩)) :=
  batches_agree
    (fun _ _ h => by cases h; exact ⟨rfl, rfl⟩) (fun _ => rfl) _ _

/-- A zero size is what the crate calls natural. -/
example (streamRef : UInt64) :
    FetchRequest.ported ⟨streamRef, 0, 0, 0⟩ = TextureRequest.natural streamRef := rfl

end GputoolsReplay.Probe
