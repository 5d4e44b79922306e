/-
  The batch builders (`fetch.rs`): each turns requests into request objects of the framework's
  runtime, one per request, and a batch object that holds them. Objects are named by their
  address; the framework reads a batch through its addresses long after it is built.

  * `buildBatch_eq_ok_iff`: a builder succeeds exactly when the runtime knows both classes and
    constructs every object, and what it leaves in memory then.
  * `buildAsk_within`: it changes no object that was there before, and how it fails.
  * `batches_read_as_asked`: over any sequence of builds, what a batch holds in the end.
-/
import GputoolsReplay.Lib.Effect
import GputoolsReplay.Substrate.Error
import GputoolsReplay.Substrate.Request
import Mathlib.Data.List.Forall2

namespace GputoolsReplay

open RustSem

/-! ## Objects of the runtime -/

/-- An object: its class, and the properties that the builders set. -/
structure Object where
  cls : String
  streamRef : UInt64
  size : GTSize
  region : GTRegion
  plane : UInt32
  depth : UInt32
  slice : UInt32
  level : UInt32
  dispatchUid : DispatchUid
  solid : Bool
  /-- The addresses in the `requests` array of a batch. -/
  requests : List Nat
  deriving DecidableEq, Repr, Inhabited

/-- The runtime: the classes that are registered, and what the `n`-th `-init` answers when it
    is sent to a fresh object of a class. -/
structure Runtime where
  registered : String → Bool
  init : Nat → String → Option Object

/-- The objects by address, and how many `-init` were sent. -/
structure Memory where
  inits : Nat
  objects : List Object
  deriving DecidableEq, Repr

/-- A builder. -/
abbrev Builder (α : Type) := Effect Memory FetchError α

def notRegistered (name : String) : FetchError :=
  .setup s!"the {name} class is not registered; GPUToolsReplay did not load"

def notConstructed (name : String) : FetchError := .setup s!"{name} could not be constructed"

/-- `new_request`: the address of a new object of the class `name`. -/
def newRequest (rt : Runtime) (name : String) : Builder Nat := do
  if !rt.registered name then throw (notRegistered name)
  let memory ← get
  modify fun m => { m with inits := m.inits + 1 }
  match rt.init memory.inits name with
  | none => throw (notConstructed name)
  | some object =>
    modify fun m => { m with objects := m.objects ++ [{ object with cls := name }] }
    return memory.objects.length

/-! ### Setters, sent to an address -/

section Setters

variable {ε : Type} (a : Nat)

/-- What all setters do. -/
def send (f : Object → Object) : Effect Memory ε Unit :=
  modify fun m => { m with objects := m.objects.modify a f }

def setStreamRef (v : UInt64) : Effect Memory ε Unit := send a fun o => { o with streamRef := v }
def setSize (v : GTSize) : Effect Memory ε Unit := send a fun o => { o with size := v }
def setRegion (v : GTRegion) : Effect Memory ε Unit := send a fun o => { o with region := v }
def setPlane (v : UInt32) : Effect Memory ε Unit := send a fun o => { o with plane := v }
def setDepth (v : UInt32) : Effect Memory ε Unit := send a fun o => { o with depth := v }
def setSlice (v : UInt32) : Effect Memory ε Unit := send a fun o => { o with slice := v }
def setLevel (v : UInt32) : Effect Memory ε Unit := send a fun o => { o with level := v }
def setDispatchUid (v : DispatchUid) : Effect Memory ε Unit :=
  send a fun o => { o with dispatchUid := v }
def setSolid (v : Bool) : Effect Memory ε Unit := send a fun o => { o with solid := v }
def setRequests (v : List Nat) : Effect Memory ε Unit := send a fun o => { o with requests := v }

end Setters

/-! ## The builders -/

/-- `build_batch_from`. The batch is leaked, so its address stays good. -/
def buildBatchFrom (rt : Runtime) (objects : List Nat) : Builder Nat := do
  let batch ← newRequest rt "GTReplayRequestBatch"
  setRequests batch objects
  return batch

/-- What the builders share: an object of the class `name` for each request, in order. -/
def buildBatch {Req : Type} (rt : Runtime) (name : String) (fill : Req → Nat → Builder Unit)
    (requests : List Req) : Builder Nat := do
  if requests.isEmpty then throw .emptyBatch
  let objects ← requests.mapM fun request => do
    let object ← newRequest rt name
    fill request object
    return object
  buildBatchFrom rt objects

/-- `build_texture_batch`. -/
def buildTextureBatch (rt : Runtime) (requests : List TextureRequest) : Builder Nat :=
  buildBatch rt "GTReplayFetchTexture"
    (fun request object => do
      let wireRegion := request.region.toGt
      setStreamRef object request.streamRef
      setSize object wireRegion.size
      setRegion object wireRegion
      setPlane object request.plane
      -- never the region's: the replayer answers nothing for a depth of 0
      setDepth object 1
      setSlice object request.slice
      setLevel object request.level)
    requests

/-- `build_streamref_batch`. -/
def buildStreamrefBatch (rt : Runtime) (className : String) (streamRefs : List UInt64) :
    Builder Nat :=
  buildBatch rt className (fun streamRef object => setStreamRef object streamRef) streamRefs

/-- `build_buffer_batch`. -/
def buildBufferBatch (rt : Runtime) (streamRefs : List UInt64) : Builder Nat :=
  buildStreamrefBatch rt "GTReplayFetchBuffer" streamRefs

/-- `build_heap_batch`. -/
def buildHeapBatch (rt : Runtime) (streamRefs : List UInt64) : Builder Nat :=
  buildStreamrefBatch rt "GTReplayFetchHeap" streamRefs

/-- `build_accel_batch`. -/
def buildAccelBatch (rt : Runtime) (streamRefs : List UInt64) : Builder Nat :=
  buildStreamrefBatch rt "GTReplayFetchAccelerationStructure" streamRefs

/-- `build_pipeline_batch`. -/
def buildPipelineBatch (rt : Runtime) (streamRefs : List UInt64) : Builder Nat :=
  buildStreamrefBatch rt "GTReplayFetchPipelineBinaries" streamRefs

/-- `build_wireframe_batch`. -/
def buildWireframeBatch (rt : Runtime) (requests : List WireframeRequest) : Builder Nat :=
  buildBatch rt "GTReplayFetchWireframe"
    (fun request object => do
      setDispatchUid object request.dispatchUid
      setSolid object request.solid)
    requests

/-! ## What a new object is -/

/-- One more `-init`, which made `o`. -/
def Memory.push (m : Memory) (o : Object) : Memory where
  inits := m.inits + 1
  objects := m.objects ++ [o]

/-- The `n`-th object, when the class is registered and `-init` answers. -/
def Runtime.object (rt : Runtime) (n : Nat) (name : String) : Option Object :=
  if rt.registered name then (rt.init n name).map fun o => { o with cls := name } else none

/-- `new` makes one object of the class `name`, and answers its address. -/
def Constructs {ε : Type} (rt : Runtime) (name : String) (new : Effect Memory ε Nat) : Prop :=
  ∀ {m m' : Memory} {a : Nat}, new.run m = (.ok a, m') ↔
    ∃ o, rt.object m.inits name = some o ∧ a = m.objects.length ∧ m' = m.push o

theorem constructs_newRequest (rt : Runtime) (name : String) :
    Constructs rt name (newRequest rt name) := by
  intro m m' a
  unfold newRequest Runtime.object
  by_cases hreg : rt.registered name
  · cases hinit : rt.init m.inits name with
    | none => simp [hreg, hinit]
    | some o =>
      simp only [hreg, Bool.not_true, Bool.false_eq_true, if_false, if_true, hinit,
        Effect.run_get_bind, Effect.run_modify_bind, Effect.run_pure, Option.map_some,
        Option.some.injEq, Prod.mk.injEq, Except.ok.injEq, exists_eq_left', Memory.push]
      constructor
      · intro h
        exact ⟨h.1.symm, h.2.symm⟩
      · intro h
        exact ⟨h.1.symm, h.2.symm⟩
  · simp only [hreg, Bool.not_false, if_true, Bool.false_eq_true, if_false, reduceCtorEq,
      false_and, exists_false, iff_false]
    rw [Effect.run_bind_of_error (Effect.run_throw ..)]
    simp

/-- A failed construction leaves the objects as they were. -/
theorem run_newRequest_eq_error {rt : Runtime} {name : String} {m m' : Memory} {e : FetchError}
    (h : (newRequest rt name).run m = (.error e, m')) :
    m'.objects = m.objects ∧
      (e = notRegistered name ∧ rt.registered name = false ∨
        e = notConstructed name ∧ rt.registered name = true) := by
  unfold newRequest at h
  by_cases hreg : rt.registered name
  · cases hinit : rt.init m.inits name with
    | none =>
      simp only [hreg, Bool.not_true, Bool.false_eq_true, if_false, hinit,
        Effect.run_get_bind, Effect.run_modify_bind, Effect.run_throw, Prod.mk.injEq,
        Except.error.injEq] at h
      obtain ⟨rfl, rfl⟩ := h
      exact ⟨rfl, .inr ⟨rfl, hreg⟩⟩
    | some o =>
      simp only [hreg, Bool.not_true, Bool.false_eq_true, if_false, hinit, Effect.run_get_bind,
        Effect.run_modify_bind, Effect.run_pure] at h
      cases h
  · have hreg : rt.registered name = false := by simpa using hreg
    rw [hreg] at h
    simp only [Bool.not_false, if_true] at h
    rw [Effect.run_bind_of_error (Effect.run_throw ..)] at h
    cases h
    exact ⟨rfl, .inl ⟨rfl, hreg⟩⟩

/-! ## What a builder makes -/

/-- `fill` sets an object as `put` says, and touches no other. -/
def Fills {ε Req : Type} (fill : Req → Nat → Effect Memory ε Unit) (put : Req → Object → Object) :
    Prop :=
  ∀ r a m, (fill r a).run m = (.ok ⟨⟩, { m with objects := m.objects.modify a (put r) })

theorem modify_push (objects : List Object) (o : Object) (f : Object → Object) :
    (objects ++ [o]).modify objects.length f = objects ++ [f o] := by
  rw [List.modify_eq_take_cons_drop (by simp)]
  simp

/-- What a texture request is written as. -/
def TextureRequest.put (r : TextureRequest) (o : Object) : Object :=
  { o with
    streamRef := r.streamRef, size := r.region.toGt.size, region := r.region.toGt,
    plane := r.plane, depth := 1, slice := r.slice, level := r.level }

theorem fills_texture : Fills (ε := FetchError) (fun (request : TextureRequest) object => do
      let wireRegion := request.region.toGt
      setStreamRef object request.streamRef
      setSize object wireRegion.size
      setRegion object wireRegion
      setPlane object request.plane
      setDepth object 1
      setSlice object request.slice
      setLevel object request.level) TextureRequest.put := by
  intro r a m
  simp only [setStreamRef, setSize, setRegion, setPlane, setDepth, setSlice, setLevel, send,
    Effect.run_modify_bind, Effect.run_modify, List.modify_modify_eq]
  rfl

theorem fills_streamRef {ε : Type} :
    Fills (ε := ε) (fun (r : UInt64) a => setStreamRef a r) fun r o => { o with streamRef := r } :=
  fun _ _ _ => rfl

theorem fills_wireframe : Fills (ε := FetchError) (fun (request : WireframeRequest) object => do
      setDispatchUid object request.dispatchUid
      setSolid object request.solid)
    fun r o => { o with dispatchUid := r.dispatchUid, solid := r.solid } := by
  intro r a m
  simp only [setDispatchUid, setSolid, send, Effect.run_modify_bind, Effect.run_modify,
    List.modify_modify_eq]
  rfl

section Loop

variable {Req : Type} (rt : Runtime) (name : String) (put : Req → Object → Object)

/-- The objects made for `requests` by the `-init` from the `n`-th on. -/
def made : Nat → List Req → Option (List Object)
  | _, [] => some []
  | n, r :: rs => do
    let o ← rt.object n name
    let os ← made (n + 1) rs
    return put r o :: os

variable {rt name put}

/-- The memory after `k` more objects. -/
def Memory.extend (m : Memory) (objects : List Object) : Memory where
  inits := m.inits + objects.length
  objects := m.objects ++ objects

theorem extend_push (m : Memory) (o : Object) (objects : List Object) :
    (m.push o).extend objects = m.extend (o :: objects) := by
  simp [Memory.push, Memory.extend, Nat.add_assoc, Nat.add_comm 1]

variable {ε : Type} {new : Effect Memory ε Nat} {fill : Req → Nat → Effect Memory ε Unit}

theorem run_pass_eq_ok (hnew : Constructs rt name new) (hfill : Fills fill put) {r : Req}
    {m m' : Memory} {a : Nat} :
    Effect.run (do
        let object ← new
        fill r object
        return object) m = (.ok a, m') ↔
      ∃ o, rt.object m.inits name = some o ∧ a = m.objects.length ∧ m' = m.push (put r o) := by
  rw [Effect.run_bind_eq_ok]
  constructor
  · rintro ⟨b, m₁, hmade, hrest⟩
    obtain ⟨o, ho, rfl, rfl⟩ := hnew.mp hmade
    rw [Effect.run_bind_of_ok (hfill ..), Effect.run_pure] at hrest
    cases hrest
    exact ⟨o, ho, rfl, by simp [Memory.push, modify_push]⟩
  · rintro ⟨o, ho, rfl, rfl⟩
    refine ⟨_, _, hnew.mpr ⟨o, ho, rfl, rfl⟩, ?_⟩
    rw [Effect.run_bind_of_ok (hfill ..), Effect.run_pure]
    simp [Memory.push, modify_push]

/-- The loop of a builder: by induction on the requests, the memory extended by each pass. -/
theorem run_loop_eq_ok (hnew : Constructs rt name new) (hfill : Fills fill put)
    {requests : List Req} {m m' : Memory} {addresses : List Nat} :
    Effect.run (requests.mapM fun request => do
        let object ← new
        fill request object
        return object) m = (.ok addresses, m') ↔
      ∃ objects, made rt name put m.inits requests = some objects ∧
        addresses = List.range' m.objects.length requests.length ∧ m' = m.extend objects := by
  induction requests generalizing m m' addresses with
  | nil =>
    simp only [List.mapM_nil, Effect.run_pure, made, Memory.extend, Option.some.injEq,
      exists_eq_left', List.append_nil, List.length_nil, Nat.add_zero, List.range'_zero,
      Prod.mk.injEq, Except.ok.injEq]
    exact and_congr eq_comm eq_comm
  | cons r rs ih =>
    rw [List.mapM_cons, Effect.run_bind_eq_ok]
    constructor
    · rintro ⟨a, m₁, hpass, hrest⟩
      obtain ⟨o, ho, rfl, rfl⟩ := (run_pass_eq_ok hnew hfill).mp hpass
      obtain ⟨as, m₂, hloop, hpure⟩ := Effect.run_bind_eq_ok.mp hrest
      obtain ⟨objects, hmade, rfl, rfl⟩ := ih.mp hloop
      cases hpure
      refine ⟨put r o :: objects, ?_, ?_, extend_push ..⟩
      · simp only [made, ho]
        rw [show m.inits + 1 = (m.push (put r o)).inits from rfl, hmade]
        rfl
      · simp [Memory.push, List.range'_succ]
    · rintro ⟨objects, hmade, rfl, rfl⟩
      simp only [made, Option.bind_eq_bind, Option.bind_eq_some_iff, Option.pure_def,
        Option.some.injEq] at hmade
      obtain ⟨o, ho, os, hos, rfl⟩ := hmade
      refine ⟨_, _, (run_pass_eq_ok hnew hfill).mpr ⟨o, ho, rfl, rfl⟩, ?_⟩
      rw [Effect.run_bind_of_ok (ih.mpr ⟨os, hos, rfl, rfl⟩), Effect.run_pure, extend_push]
      simp [Memory.push, List.range'_succ]

/-- The batch object over `addresses`. -/
def Runtime.batch (rt : Runtime) (n : Nat) (addresses : List Nat) : Option Object :=
  (rt.object n "GTReplayRequestBatch").map fun o => { o with requests := addresses }

theorem fills_requests :
    Fills (ε := ε) (fun v a => setRequests a v) fun v o => { o with requests := v } :=
  fun _ _ _ => rfl

theorem run_batch_eq_ok (hnew : Constructs rt "GTReplayRequestBatch" new) {addresses : List Nat}
    {m m' : Memory} {a : Nat} :
    Effect.run (do
        let batch ← new
        setRequests batch addresses
        return batch) m = (.ok a, m') ↔
      ∃ o, rt.batch m.inits addresses = some o ∧ a = m.objects.length ∧ m' = m.push o := by
  rw [run_pass_eq_ok hnew fills_requests]
  simp only [Runtime.batch, Option.map_eq_some_iff]
  constructor
  · rintro ⟨o, ho, h⟩
    exact ⟨_, ⟨o, ho, rfl⟩, h⟩
  · rintro ⟨_, ⟨o, ho, rfl⟩, h⟩
    exact ⟨o, ho, h⟩

/-- The objects come one per request and in order, then the batch that holds their addresses. -/
theorem run_objects_eq_ok (hnew : Constructs rt name new) {newBatch : Effect Memory ε Nat}
    (hbatch : Constructs rt "GTReplayRequestBatch" newBatch) (hfill : Fills fill put)
    {requests : List Req} {m m' : Memory} {a : Nat} :
    Effect.run (do
        let objects ← requests.mapM fun request => do
          let object ← new
          fill request object
          return object
        let batch ← newBatch
        setRequests batch objects
        return batch) m = (.ok a, m') ↔
      ∃ objects batch, made rt name put m.inits requests = some objects ∧
        rt.batch (m.inits + objects.length)
          (List.range' m.objects.length requests.length) = some batch ∧
        a = m.objects.length + objects.length ∧ m' = (m.extend objects).push batch := by
  rw [Effect.run_bind_eq_ok]
  constructor
  · rintro ⟨addresses, m₁, hloop, hrest⟩
    obtain ⟨objects, hmade, rfl, rfl⟩ := (run_loop_eq_ok hnew hfill).mp hloop
    obtain ⟨batch, hmake, rfl, rfl⟩ := (run_batch_eq_ok hbatch).mp hrest
    exact ⟨objects, batch, hmade, hmake, by simp [Memory.extend], rfl⟩
  · rintro ⟨objects, batch, hmade, hmake, rfl, rfl⟩
    refine ⟨_, _, (run_loop_eq_ok hnew hfill).mpr ⟨objects, hmade, rfl, rfl⟩, ?_⟩
    exact (run_batch_eq_ok hbatch).mpr ⟨batch, hmake, by simp [Memory.extend], rfl⟩

/-- A builder succeeds exactly when there is a request and the runtime makes every object. -/
theorem buildBatch_eq_ok_iff {fill : Req → Nat → Builder Unit} (hfill : Fills fill put)
    {requests : List Req} {m m' : Memory} {a : Nat} :
    (buildBatch rt name fill requests).run m = (.ok a, m') ↔
      requests ≠ [] ∧ ∃ objects batch, made rt name put m.inits requests = some objects ∧
        rt.batch (m.inits + objects.length)
          (List.range' m.objects.length requests.length) = some batch ∧
        a = m.objects.length + objects.length ∧ m' = (m.extend objects).push batch := by
  unfold buildBatch
  cases requests with
  | nil => simp
  | cons r rs =>
    simp only [List.isEmpty_cons, Bool.false_eq_true, if_false, ne_eq, reduceCtorEq,
      not_false_eq_true, true_and]
    exact run_objects_eq_ok (constructs_newRequest rt name)
      (constructs_newRequest rt "GTReplayRequestBatch") hfill

theorem made_length {n : Nat} {requests : List Req} {objects : List Object}
    (h : made rt name put n requests = some objects) : objects.length = requests.length := by
  induction requests generalizing n objects with
  | nil => cases h; rfl
  | cons r rs ih =>
    simp only [made, Option.bind_eq_bind, Option.bind_eq_some_iff, Option.pure_def,
      Option.some.injEq] at h
    obtain ⟨_, -, os, hos, rfl⟩ := h
    simp [ih hos]

/-- Every object is a new one of the class, set as its request says. -/
theorem made_forall {n : Nat} {requests : List Req} {objects : List Object}
    (h : made rt name put n requests = some objects) :
    List.Forall₂ (fun r o => ∃ new : Object, new.cls = name ∧ o = put r new) requests objects := by
  induction requests generalizing n objects with
  | nil => cases h; exact .nil
  | cons r rs ih =>
    simp only [made, Option.bind_eq_bind, Option.bind_eq_some_iff, Option.pure_def,
      Option.some.injEq] at h
    obtain ⟨o, ho, os, hos, rfl⟩ := h
    refine .cons ⟨o, ?_, rfl⟩ (ih hos)
    unfold Runtime.object at ho
    split at ho
    · obtain ⟨new, -, rfl⟩ := Option.map_eq_some_iff.mp ho
      rfl
    · cases ho

theorem made_congr {put' : Req → Object → Object}
    (h : ∀ n o, rt.object n name = some o → ∀ r, put r o = put' r o) (n : Nat)
    (requests : List Req) : made rt name put n requests = made rt name put' n requests := by
  induction requests generalizing n with
  | nil => rfl
  | cons r rs ih =>
    unfold made
    rw [ih]
    apply Option.bind_congr
    intro o ho
    rw [h n o ho r]

theorem made_map {Req' : Type} (f : Req' → Req) (n : Nat) (requests : List Req') :
    made rt name put n (requests.map f) = made rt name (fun r o => put (f r) o) n requests := by
  induction requests generalizing n with
  | nil => rfl
  | cons r rs ih =>
    rw [List.map_cons]
    unfold made
    rw [ih]

/-- The runtime makes the `n`-th object, one of the class `name`. -/
def Runtime.Makes (rt : Runtime) (n : Nat) (name : String) : Prop :=
  rt.registered name = true ∧ rt.init n name ≠ none

theorem makes_iff {n : Nat} : rt.Makes n name ↔ ∃ o, rt.object n name = some o := by
  unfold Runtime.Makes Runtime.object
  by_cases hreg : rt.registered name
  · simp [hreg, Option.ne_none_iff_exists']
  · simp [hreg]

theorem exists_made_iff {n : Nat} {requests : List Req} :
    (∃ objects, made rt name put n requests = some objects) ↔
      ∀ j < requests.length, rt.Makes (n + j) name := by
  induction requests generalizing n with
  | nil => simp [made]
  | cons r rs ih =>
    simp only [made, Option.bind_eq_bind, Option.bind_eq_some_iff, Option.pure_def,
      Option.some.injEq, List.length_cons]
    constructor
    · rintro ⟨_, o, ho, os, hos, -⟩ j hj
      cases j with
      | zero => exact makes_iff.mpr ⟨o, ho⟩
      | succ j =>
        rw [show n + (j + 1) = n + 1 + j by omega]
        exact ih.mp ⟨os, hos⟩ j (by omega)
    · intro h
      obtain ⟨o, ho⟩ := makes_iff.mp (h 0 (by omega))
      obtain ⟨os, hos⟩ := ih.mpr fun j hj => by
        rw [show n + 1 + j = n + (j + 1) by omega]
        exact h (j + 1) (by omega)
      exact ⟨_, o, ho, os, hos, rfl⟩

theorem exists_batch_iff {n : Nat} {addresses : List Nat} :
    (∃ o, rt.batch n addresses = some o) ↔ rt.Makes n "GTReplayRequestBatch" := by
  rw [makes_iff]
  simp [Runtime.batch, Option.map_eq_some_iff]

theorem requests_of_batch {n : Nat} {addresses : List Nat} {o : Object}
    (h : rt.batch n addresses = some o) : o.requests = addresses := by
  obtain ⟨_, -, rfl⟩ := Option.map_eq_some_iff.mp h
  rfl

/-! ## What a builder keeps, and how it fails -/

/-- The objects that were there are as they were. -/
def Memory.Older (m m' : Memory) : Prop := m.objects <+: m'.objects

instance : Std.Refl Memory.Older := ⟨fun m => List.prefix_refl m.objects⟩

instance : IsTrans Memory Memory.Older := ⟨fun _ _ _ h h' => List.IsPrefix.trans h h'⟩

/-- The errors of `new_request` for the class `name`. -/
def Runtime.Refuses (rt : Runtime) (name : String) (e : FetchError) : Prop :=
  e = notRegistered name ∧ rt.registered name = false ∨
    e = notConstructed name ∧ rt.registered name = true

theorem pass_within {fill : Req → Nat → Builder Unit} {E : FetchError → Prop}
    (hfill : Fills fill put)
    (hE : ∀ e, rt.Refuses name e → E e) (r : Req) :
    Effect.Within Memory.Older E (do
      let object ← newRequest rt name
      fill r object
      return object) := by
  intro m
  rcases hrun : (newRequest rt name).run m with ⟨result, m₁⟩
  cases result with
  | ok a =>
    obtain ⟨o, ho, rfl, rfl⟩ := (constructs_newRequest rt name).mp hrun
    rw [(run_pass_eq_ok (r := r) (constructs_newRequest rt name) hfill).mpr ⟨o, ho, rfl, rfl⟩]
    exact ⟨List.prefix_append .., fun e h => by cases h⟩
  | error e =>
    obtain ⟨hobjects, hrefuses⟩ := run_newRequest_eq_error hrun
    rw [Effect.run_bind_of_error hrun]
    refine ⟨?_, ?_⟩
    · show m.objects <+: m₁.objects
      exact hobjects ▸ List.prefix_refl _
    · intro e' h
      cases h
      exact hE e hrefuses

/-- A builder changes no older object; it fails for want of a request, or as `new_request` does
    for its own class or for the batch's. -/
theorem buildBatch_within {fill : Req → Nat → Builder Unit} (hfill : Fills fill put)
    (requests : List Req) :
    Effect.Within Memory.Older
      (fun e => requests = [] ∧ e = .emptyBatch ∨
        requests ≠ [] ∧ (rt.Refuses name e ∨ rt.Refuses "GTReplayRequestBatch" e))
      (buildBatch rt name fill requests) := by
  unfold buildBatch
  cases requests with
  | nil =>
    intro m
    rw [show (List.isEmpty ([] : List Req)) = true from rfl, if_pos rfl,
      Effect.run_bind_of_error (Effect.run_throw ..)]
    exact ⟨List.prefix_refl _, fun e h => by cases h; exact .inl ⟨rfl, rfl⟩⟩
  | cons r rs =>
    simp only [List.isEmpty_cons, Bool.false_eq_true, if_false]
    apply Effect.Within.bind
    · apply Effect.Within.mapM
      intro r' _
      exact pass_within hfill (fun e he => .inr ⟨by simp, .inl he⟩) r'
    · intro addresses
      exact pass_within fills_requests (fun e he => .inr ⟨by simp, .inr he⟩) addresses

end Loop

/-! ## The requests of a fetch -/

/-- The four classes of `StreamRefFetch`. -/
inductive StreamRefFetch where
  | buffer
  | heap
  | accel
  | pipeline
  deriving DecidableEq, Repr

def StreamRefFetch.className : StreamRefFetch → String
  | .buffer => "GTReplayFetchBuffer"
  | .heap => "GTReplayFetchHeap"
  | .accel => "GTReplayFetchAccelerationStructure"
  | .pipeline => "GTReplayFetchPipelineBinaries"

/-- What a fetch asks for: the requests of one of the six classes. -/
inductive Ask where
  | textures (requests : List TextureRequest)
  | streamRefs (k : StreamRefFetch) (refs : List UInt64)
  | wireframes (requests : List WireframeRequest)
  deriving DecidableEq, Repr

namespace Ask

def className : Ask → String
  | .textures _ => "GTReplayFetchTexture"
  | .streamRefs k _ => k.className
  | .wireframes _ => "GTReplayFetchWireframe"

def length : Ask → Nat
  | .textures requests => requests.length
  | .streamRefs _ refs => refs.length
  | .wireframes requests => requests.length

/-- The builder of each class. -/
def build (rt : Runtime) : Ask → Builder Nat
  | .textures requests => buildTextureBatch rt requests
  | .streamRefs .buffer refs => buildBufferBatch rt refs
  | .streamRefs .heap refs => buildHeapBatch rt refs
  | .streamRefs .accel refs => buildAccelBatch rt refs
  | .streamRefs .pipeline refs => buildPipelineBatch rt refs
  | .wireframes requests => buildWireframeBatch rt requests

/-- The objects ask the replayer for what was asked: one object per request, in order. -/
def AskedBy (objects : List Object) : Ask → Prop
  | .textures requests => List.Forall₂ (fun r o =>
      o.cls = "GTReplayFetchTexture" ∧ o.streamRef = r.streamRef ∧
      o.size = ⟨r.region.size.width, r.region.size.height, 1⟩ ∧ o.region.size = o.size ∧
      o.region.origin = ⟨r.region.origin.x, r.region.origin.y, r.region.origin.z⟩ ∧
      o.plane = r.plane ∧ o.depth = 1 ∧ o.slice = r.slice ∧ o.level = r.level) requests objects
  | .streamRefs k refs =>
      List.Forall₂ (fun r o => o.cls = k.className ∧ o.streamRef = r) refs objects
  | .wireframes requests => List.Forall₂ (fun r o =>
      o.cls = "GTReplayFetchWireframe" ∧ o.dispatchUid = r.dispatchUid ∧ o.solid = r.solid)
      requests objects

end Ask

/-- What is in memory once a batch for `a` was built in `m`. -/
structure BuiltBatch (rt : Runtime) (a : Ask) (m : Memory) (b : Nat) (m' : Memory) : Prop where
  exists_objects : ∃ objects batch,
    a.AskedBy objects ∧ objects.length = a.length ∧
    batch.requests = List.range' m.objects.length a.length ∧
    b = m.objects.length + a.length ∧ m' = (m.extend objects).push batch

/-- The conditions of a build: a request, the classes, and every `-init` answered. -/
def Ask.Buildable (rt : Runtime) (n : Nat) (a : Ask) : Prop :=
  a.length ≠ 0 ∧ (∀ j < a.length, rt.Makes (n + j) a.className) ∧
    rt.Makes (n + a.length) "GTReplayRequestBatch"

/-- How a build fails. -/
def Ask.Fails (rt : Runtime) (a : Ask) (e : FetchError) : Prop :=
  a.length = 0 ∧ e = .emptyBatch ∨
    a.length ≠ 0 ∧ (rt.Refuses a.className e ∨ rt.Refuses "GTReplayRequestBatch" e)

section Build

variable {Req : Type} {rt : Runtime} {put : Req → Object → Object}
  {fill : Req → Nat → Builder Unit}

/-- What is shared: the builder of `a` is the general one. -/
theorem spec_of_fills (hfill : Fills fill put) {a : Ask} {requests : List Req} {m : Memory}
    (hlength : a.length = requests.length)
    (hbuild : a.build rt = buildBatch rt a.className fill requests)
    (hasked : ∀ objects, List.Forall₂
      (fun r o => ∃ new : Object, new.cls = a.className ∧ o = put r new) requests objects →
      a.AskedBy objects) :
    (∀ b m', (a.build rt).run m = (.ok b, m') → BuiltBatch rt a m b m') ∧
      ((∃ b m', (a.build rt).run m = (.ok b, m')) ↔ a.Buildable rt m.inits) ∧
      Effect.Within Memory.Older (a.Fails rt) (a.build rt) := by
  rw [hbuild]
  refine ⟨?_, ?_, ?_⟩
  · intro b m' hrun
    obtain ⟨-, objects, batch, hmade, hbatch, rfl, rfl⟩ := (buildBatch_eq_ok_iff hfill).mp hrun
    have hobjects := made_length hmade
    exact ⟨objects, batch, hasked objects (made_forall hmade), by rw [hobjects, hlength],
      by rw [requests_of_batch hbatch, hlength], by rw [hobjects, hlength], rfl⟩
  · have hmakes : (∃ objects, made rt a.className put m.inits requests = some objects) ↔
        ∀ j < requests.length, rt.Makes (m.inits + j) a.className := exists_made_iff
    rw [Ask.Buildable, hlength, ← hmakes]
    constructor
    · rintro ⟨b, m', hrun⟩
      obtain ⟨hne, objects, batch, hmade, hbatch, -, -⟩ := (buildBatch_eq_ok_iff hfill).mp hrun
      rw [made_length hmade] at hbatch
      exact ⟨by simpa using hne, ⟨objects, hmade⟩, exists_batch_iff.mp ⟨batch, hbatch⟩⟩
    · rintro ⟨hne, ⟨objects, hmade⟩, hmakes⟩
      rw [← made_length hmade] at hmakes
      obtain ⟨batch, hbatch⟩ := exists_batch_iff.mpr hmakes
      exact ⟨_, _, (buildBatch_eq_ok_iff hfill).mpr
        ⟨by simpa using hne, objects, batch, hmade, hbatch, rfl, rfl⟩⟩
  · intro s
    have hwithin : Effect.Within Memory.Older _ (buildBatch rt a.className fill requests) :=
      buildBatch_within hfill requests
    obtain ⟨holder, hfails⟩ := hwithin s
    refine ⟨holder, fun e he => ?_⟩
    simpa [Ask.Fails, hlength] using hfails e he

end Build

/-- The six builders. -/
theorem build_spec (rt : Runtime) (a : Ask) (m : Memory) :
    (∀ b m', (a.build rt).run m = (.ok b, m') → BuiltBatch rt a m b m') ∧
      ((∃ b m', (a.build rt).run m = (.ok b, m')) ↔ a.Buildable rt m.inits) ∧
      Effect.Within Memory.Older (a.Fails rt) (a.build rt) := by
  cases a with
  | textures requests =>
    apply spec_of_fills fills_texture rfl rfl
    intro objects h
    apply h.imp
    rintro r o ⟨new, hcls, rfl⟩
    exact ⟨hcls, rfl, rfl, rfl, rfl, rfl, rfl, rfl, rfl⟩
  | streamRefs k refs =>
    apply spec_of_fills (fills_streamRef) rfl (by cases k <;> rfl)
    intro objects h
    apply h.imp
    rintro r o ⟨new, hcls, rfl⟩
    exact ⟨hcls, rfl⟩
  | wireframes requests =>
    apply spec_of_fills fills_wireframe rfl rfl
    intro objects h
    apply h.imp
    rintro r o ⟨new, hcls, rfl⟩
    exact ⟨hcls, rfl, rfl⟩

/-! ## Reading a batch, long after -/

/-- What the framework finds in the batch at the address `b`. -/
def Memory.readBatch (m : Memory) (b : Nat) : Option (List Object) := do
  let batch ← m.objects[b]?
  batch.requests.mapM (m.objects[·]?)

theorem mapM_getElem?_range' (before objects after : List Object) :
    (List.range' before.length objects.length).mapM
      ((before ++ objects ++ after)[·]?) = some objects := by
  induction objects generalizing before with
  | nil => rfl
  | cons o os ih =>
    have h := ih (before ++ [o])
    simp only [List.length_append, List.length_cons, List.length_nil, List.append_assoc,
      List.cons_append, List.nil_append, Nat.zero_add] at h
    rw [List.length_cons, List.range'_succ, List.mapM_cons]
    simp [h]

/-- A batch still reads as asked however the memory has grown since. -/
theorem BuiltBatch.readBatch {rt : Runtime} {a : Ask} {m m' : Memory} {b : Nat}
    (h : BuiltBatch rt a m b m') :
    ∃ objects, a.AskedBy objects ∧
      ∀ m'' : Memory, m'.Older m'' → m''.readBatch b = some objects := by
  obtain ⟨objects, batch, hasked, hlength, hrequests, rfl, rfl⟩ := h
  refine ⟨objects, hasked, fun m'' holder => ?_⟩
  obtain ⟨after, hafter⟩ := holder
  have hgrown : m''.objects = m.objects ++ objects ++ (batch :: after) := by
    rw [← hafter]
    simp [Memory.push, Memory.extend]
  have hbatch : m''.objects[m.objects.length + a.length]? = some batch := by
    rw [hgrown, List.getElem?_append_right (by simp [hlength])]
    simp [hlength]
  show (m''.objects[m.objects.length + a.length]?).bind _ = _
  rw [hbatch, Option.bind_some, hrequests, hgrown, ← hlength]
  exact mapM_getElem?_range' ..

/-- Batches built one after the other. -/
def buildAll (rt : Runtime) : List Ask → Memory → List (Except FetchError Nat) × Memory
  | [], m => ([], m)
  | a :: as, m =>
    let (result, m') := (a.build rt).run m
    let (results, m'') := buildAll rt as m'
    (result :: results, m'')

theorem buildAll_older (rt : Runtime) (asks : List Ask) (m : Memory) :
    m.Older (buildAll rt asks m).2 := by
  induction asks generalizing m with
  | nil => exact List.prefix_refl _
  | cons a as ih => exact List.IsPrefix.trans ((build_spec rt a m).2.2 m).1 (ih _)

/-- The `i`-th build starts where the builds before it end, and those after it only add. -/
theorem buildAll_getElem? {rt : Runtime} {asks : List Ask} {m : Memory} {i : Nat} {a : Ask}
    (h : asks[i]? = some a) :
    ∃ m', (a.build rt).run (buildAll rt (asks.take i) m).2 =
        (((a.build rt).run (buildAll rt (asks.take i) m).2).1, m') ∧
      (buildAll rt asks m).1[i]? = some ((a.build rt).run (buildAll rt (asks.take i) m).2).1 ∧
      m'.Older (buildAll rt asks m).2 := by
  induction asks generalizing m i with
  | nil => cases h
  | cons a' as ih =>
    cases i with
    | zero =>
      cases h
      exact ⟨_, rfl, rfl, buildAll_older rt as _⟩
    | succ i => exact ih (m := ((a'.build rt).run m).2) h

/-- Over any sequence of builds: a build succeeds exactly when it has a request and the runtime
    knows its classes and makes its objects; in the end, after all later builds, its batch holds
    one object per request, in order, that asks for what the request says, with a depth of 1 for
    a texture; and a build that fails says why. -/
theorem batches_read_as_asked (rt : Runtime) (asks : List Ask) (m : Memory) (i : Nat) (a : Ask)
    (h : asks[i]? = some a) :
    ∃ result, (buildAll rt asks m).1[i]? = some result ∧
      ((∃ b, result = .ok b) ↔ a.Buildable rt (buildAll rt (asks.take i) m).2.inits) ∧
      (∀ b, result = .ok b →
        ∃ objects, (buildAll rt asks m).2.readBatch b = some objects ∧ a.AskedBy objects) ∧
      ∀ e, result = .error e → a.Fails rt e := by
  obtain ⟨m', hrun, hresult, holder⟩ := @buildAll_getElem? rt asks m i a h
  obtain ⟨hbuilt, hbuildable, hwithin⟩ := build_spec rt a (buildAll rt (asks.take i) m).2
  refine ⟨_, hresult, ?_, ?_, ?_⟩
  · rw [← hbuildable]
    constructor
    · rintro ⟨b, hb⟩
      rw [hb] at hrun
      exact ⟨b, m', hrun⟩
    · rintro ⟨b, m'', hb⟩
      exact ⟨b, by rw [hb]⟩
  · intro b hb
    rw [hb] at hrun
    obtain ⟨objects, hasked, hreads⟩ := (hbuilt b m' hrun).readBatch
    exact ⟨objects, hreads _ holder, hasked⟩
  · intro e he
    exact (hwithin _).2 e he

/-- A runtime that knows every class and makes every object. -/
def blankRuntime : Runtime where
  registered _ := true
  init _ _ := some default

/-- Two textures, no heap, and a wireframe. -/
def mixedAsks : List Ask :=
  [.textures [.natural 7, (TextureRequest.natural 9).withSliceLevel 1 3], .streamRefs .heap [],
    .wireframes [⟨325, true⟩]]

theorem batches_read_as_asked_mixedAsks :
    ∃ result, (buildAll blankRuntime mixedAsks ⟨0, []⟩).1[0]? = some result ∧
      ((∃ b, result = .ok b) ↔
        Ask.Buildable blankRuntime (buildAll blankRuntime (mixedAsks.take 0) ⟨0, []⟩).2.inits
          (.textures [.natural 7, (TextureRequest.natural 9).withSliceLevel 1 3])) ∧
      (∀ b, result = .ok b → ∃ objects,
        (buildAll blankRuntime mixedAsks ⟨0, []⟩).2.readBatch b = some objects ∧
        (Ask.textures [.natural 7, (TextureRequest.natural 9).withSliceLevel 1 3]).AskedBy
          objects) ∧
      ∀ e, result = .error e →
        (Ask.textures [.natural 7, (TextureRequest.natural 9).withSliceLevel 1 3]).Fails
          blankRuntime e :=
  batches_read_as_asked blankRuntime mixedAsks ⟨0, []⟩ 0 _ rfl

example : (buildAll blankRuntime mixedAsks ⟨0, []⟩).1 = [.ok 2, .error .emptyBatch, .ok 4] := rfl

end GputoolsReplay
