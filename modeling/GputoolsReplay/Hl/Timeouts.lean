/-
  The timeout of a capture (`capture.rs`), and how a caller's `Duration` reaches the wait of a
  fetch: through a method of the session, or through `set_timeout` and a method of the capture.

  * `timeouts_safe_iff`: with any timeout and in every run, the wait is safe exactly when its
    deadline is an instant.
-/
import GputoolsReplay.Hl.Snapshot
import GputoolsReplay.Substrate.Waits

namespace GputoolsReplay

/-- The fetch method of the session for each class of records. -/
def fetchMethod : RecordClass → Nat → Option String → Nat → Event
  | .texture => fetchTextures
  | .buffer => fetchBuffers
  | .heap => fetchHeaps
  | .accel => fetchAccelerationStructures
  | .pipeline => fetchPipelineBinaries
  | .wireframe => fetchWireframes

/-- `Capture`, with its timeout. -/
structure TimedCapture extends Capture where
  timeout : Duration

/-- `Capture::open`. -/
def TimedCapture.open (opened : Except SessionError Session) (allKeys allObjects : Listing) :
    Except SessionError TimedCapture := do
  let capture ← Capture.open opened allKeys allObjects
  return { toCapture := capture, timeout := .fromSecs 60 }

namespace TimedCapture

/-- `Capture::set_timeout`. -/
def setTimeout (c : TimedCapture) (t : Duration) : TimedCapture := { c with timeout := t }

/-! ### The fetch methods of a capture, up to the call of the session -/

/-- What they share: a batch without requests is not sent. -/
def unlessEmpty (requests : Nat) (e : Event) : Option Event := if requests = 0 then none else some e

section Methods

variable (c : TimedCapture) (requests : Nat) (setup : Option String)

/-- `Capture::textures_with`. -/
def texturesWith : Option Event :=
  unlessEmpty requests (fetchTextures requests setup c.timeout.toNanos)

/-- `Capture::buffers`. -/
def buffers : Option Event :=
  unlessEmpty requests (fetchBuffers requests setup c.timeout.toNanos)

/-- `Capture::heaps`. -/
def heaps : Option Event :=
  unlessEmpty requests (fetchHeaps requests setup c.timeout.toNanos)

/-- `Capture::acceleration_structures`. -/
def accelerationStructures : Option Event :=
  unlessEmpty requests (fetchAccelerationStructures requests setup c.timeout.toNanos)

/-- `Capture::pipeline_binaries`. -/
def pipelineBinaries : Option Event :=
  unlessEmpty requests (fetchPipelineBinaries requests setup c.timeout.toNanos)

/-- `Capture::wireframes_with`. -/
def wireframesWith : Option Event :=
  unlessEmpty requests (fetchWireframes requests setup c.timeout.toNanos)

/-- The method for each class of records. -/
def method (k : RecordClass) : Option Event :=
  match k with
  | .texture => c.texturesWith requests setup
  | .buffer => c.buffers requests setup
  | .heap => c.heaps requests setup
  | .accel => c.accelerationStructures requests setup
  | .pipeline => c.pipelineBinaries requests setup
  | .wireframe => c.wireframesWith requests setup

end Methods

/-- Every method passes the capture's timeout to the session's method of its class. -/
theorem method_eq_some {c : TimedCapture} {requests : Nat} {setup : Option String}
    {k : RecordClass} {e : Event} :
    c.method requests setup k = some e ↔
      requests ≠ 0 ∧ e = fetchMethod k requests setup c.timeout.toNanos := by
  cases k <;>
    simp [method, texturesWith, buffers, heaps, accelerationStructures, pipelineBinaries,
      wireframesWith, unlessEmpty, fetchMethod, eq_comm]

end TimedCapture

/-- A caller starts the fetch `e` with the timeout `d`. -/
inductive Starts (d : Duration) : Event → Prop where
  | session (k : RecordClass) (requests : Nat) (setup : Option String) :
      Starts d (fetchMethod k requests setup d.toNanos)
  | capture (c : TimedCapture) (k : RecordClass) (requests : Nat) (setup : Option String)
      {e : Event} : (c.setTimeout d).method requests setup k = some e → Starts d e

theorem fetchMethod_eq (k : RecordClass) (requests : Nat) (setup : Option String)
    (timeout : Nat) : fetchMethod k requests setup timeout = .begin k requests setup timeout := by
  cases k <;> rfl

/-- Either way, the fetch is called with `d`. -/
theorem Starts.eq_begin {d : Duration} {e : Event} (h : Starts d e) :
    ∃ k requests setup, e = .begin k requests setup d.toNanos := by
  cases h with
  | session k requests setup => exact ⟨k, requests, setup, fetchMethod_eq ..⟩
  | capture c k requests setup h =>
    obtain ⟨-, rfl⟩ := TimedCapture.method_eq_some.mp h
    exact ⟨k, requests, setup, fetchMethod_eq ..⟩

/-- A capture whose timeout was never set fetches with the default. -/
theorem starts_of_open {opened : Except SessionError Session} {allKeys allObjects : Listing}
    {c : TimedCapture} (h : TimedCapture.open opened allKeys allObjects = .ok c) {k : RecordClass}
    {requests : Nat} {setup : Option String} {e : Event} (he : c.method requests setup k = some e) :
    Starts (.fromSecs 60) e := by
  obtain ⟨capture, -, hc⟩ := RustSem.bind_eq_ok.mp h
  have hself : c.setTimeout (.fromSecs 60) = c := by
    cases hc
    rfl
  exact .capture c k requests setup (hself.symm ▸ he)

/-- Whatever timeout a caller passes to a fetch method or sets on its capture: in every run, at
    every clock reading and whatever the cell of the fetch holds, the wait of the fetch is safe
    exactly when the clock reading plus the timeout is an instant. -/
theorem timeouts_safe_iff {fromBytes : RustSem.Bytes → Except String Value}
    {errors : List String} {d : Duration} {e : Event} (he : Starts d e) {pre mid : List Event}
    {s : State}
    (h : Trace.run (step fromBytes) (State.init errors) (pre ++ e :: mid) = some s) {c : Call}
    (hc : s.calls[begins pre]? = some c) (hpc : c.pc = .granted) (now : Nat) :
    SafeWait fromBytes s (begins pre) now ↔ now + d.toNanos < instantLimit := by
  obtain ⟨cls, requests, setup, rfl⟩ := he.eq_begin
  rw [safeWait_iff h hc hpc now, timeout_of_begin h hc]

/-- A capture as it opens. -/
def openedCapture : TimedCapture := { toCapture := knownCapture, timeout := .fromSecs 60 }

/-- A fetch whose block answers before the wait of the fetch begins. -/
def answeredRun : List Event :=
  [.arm 0, .dispatch 0, .token 0 true, .invoke 0 0 none, .completionCheck 0 0, .take 0 0,
    .store 0 0]

theorem timeouts_safe_iff_openedCapture :
    ∃ e s, openedCapture.texturesWith 1 none = some e ∧
      Trace.run (step fun _ => .error "") (State.init []) (e :: answeredRun) = some s ∧
      s.stored 0 = some (.error .noResponse) ∧ SafeWait (fun _ => .error "") s 0 0 := by
  refine ⟨_, _, rfl, rfl, rfl, ?_⟩
  have hopen : TimedCapture.open (.ok knownSession) inOrder inOrder = .ok openedCapture := rfl
  have he : Starts (.fromSecs 60) (fetchTextures 1 none (Duration.fromSecs 60).toNanos) :=
    @starts_of_open _ _ _ _ hopen .texture 1 none _ rfl
  exact (@timeouts_safe_iff (fun _ => .error "") [] _ _ he [] answeredRun _ rfl _ rfl rfl 0).mpr
    (by decide)

/-- With the longest timeout a capture can be given, the wait panics, although the outcome of the
    fetch is in its cell. -/
theorem setTimeout_max_unsafe :
    ∃ e s, (openedCapture.setTimeout .max).texturesWith 1 none = some e ∧
      Trace.run (step fun _ => .error "") (State.init []) (e :: answeredRun) = some s ∧
      s.stored 0 = some (.error .noResponse) ∧
      (∃ s₁, step (fun _ => .error "") s (.deadline 0 0) = some s₁ ∧ s₁.Panicked 0) ∧
      ¬ SafeWait (fun _ => .error "") s 0 0 := by
  have hlimit : ¬ 0 + Duration.max.toNanos < instantLimit := by decide
  refine ⟨_, _, rfl, rfl, rfl, deadline_panics rfl rfl hlimit, ?_⟩
  intro hsafe
  exact hlimit ((@safeWait_iff (fun _ => .error "") []
    (fetchTextures 1 none Duration.max.toNanos :: answeredRun) _ 0 _ rfl rfl rfl 0).mp hsafe)

end GputoolsReplay
