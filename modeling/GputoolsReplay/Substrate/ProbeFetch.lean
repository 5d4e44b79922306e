/-
  The fetches of the probes (`probes/src/session.rs`), which the crate's were ported from, as a
  machine. Here the completion block hands its raw bytes straight to the cell, under the cell's
  own lock; it neither parses them nor asks the observer. A fetch that is done returns the bytes,
  unless the observer heard an error and the user did not ask to tolerate it.

  * `Probe.readResponse`: what a completion block reads.
  * `Probe.waitedFor`: what a fetch returns once its wait is over.
  * `Probe.step`: one event of the machine.
-/
import GputoolsReplay.Substrate.Fetch

namespace GputoolsReplay.Probe

open RustSem

/-- `SessionError`, of the fetches. -/
inductive SessionError where
  | replayerError (message : String)
  | emptyBatch
  | fetchClassMissing (name : String)
  | fetchObjectInit (name : String)
  | noToken
  | fetchTimedOut (seconds : Nat)
  | noResponse
  | fetchFailed (message : String)
  | noData
  deriving DecidableEq, Repr

/-- `Result<Vec<u8>, SessionError>`. -/
abbrev RawResult := Except SessionError Bytes

/-- `read_response`. -/
def readResponse : Option Response → RawResult
  | none => .error .noResponse
  | some resp =>
    if !(resp.respondsToData && resp.respondsToError) then .error .noResponse
    else
      match resp.error with
      | some description => .error (.fetchFailed (truncate description))
      | none =>
        match resp.data with
        | some data => .ok data
        | none => .error .noData

/-- The message `notify_error` records: of an object, what `-description` answers. -/
def message : Option (Option String) → String
  | some (some description) => truncate description
  | some none => "(no description)"
  | none => "(nil)"

/-- The end of a fetch. `tolerate` is whether `PROBE_TOLERATE_REPLAYER_ERRORS` is `"1"`. -/
def waitedFor (tolerate : Bool) (observed : Option String) (result : RawResult) : RawResult :=
  match observed with
  | some message => if tolerate then result else .error (.replayerError message)
  | none => result

/-! ## State -/

/-- The three fetch methods. -/
inductive Method where
  | fetchTextures
  | fetchRaw
  | fetchWireframe
  deriving DecidableEq, Repr

/-- A method looks whether its batch is empty. -/
def Method.checksEmpty : Method → Bool
  | .fetchTextures => true
  | .fetchRaw => true
  | .fetchWireframe => false

/-- Where a fetch stands. -/
inductive FetchPc where
  /-- The observer is marked and the outcome cell is made. -/
  | marked
  /-- The block is set as the batch's completion handler. -/
  | armed
  /-- `-fetch:` is sent. -/
  | dispatched
  /-- `-fetch:` returned a token. -/
  | granted
  /-- In `wait_for`, before a check of the cell. -/
  | waiting (deadline : Nat)
  /-- In `wait_for`, the cell was empty. -/
  | empty (deadline : Nat)
  /-- `wait_for` returned, the observer is not checked yet. -/
  | waited (result : RawResult)
  | returned (value : RawResult)
  | panicked
  deriving DecidableEq

/-- The frame of a fetch, with the cell its block shares. -/
structure Fetch where
  timeout : Nat
  mark : Nat
  outcome : Option RawResult
  sent : Bool
  pc : FetchPc
  deriving DecidableEq

/-- One invocation of the completion block of a fetch: what it read, and whether it was at the
    cell with it. -/
structure Invocation where
  fetch : Nat
  result : RawResult
  stored : Bool
  deriving DecidableEq

structure State where
  errors : List String
  fetches : List Fetch
  invocations : List Invocation
  deriving DecidableEq

def State.init (errors : List String) : State := { errors, fetches := [], invocations := [] }

def Fetch.finished (d : Fetch) : Bool :=
  match d.pc with
  | .returned _ => true
  | .panicked => true
  | _ => false

def State.setFetch (t : State) (f : Nat) (d : Fetch) : State :=
  { t with fetches := t.fetches.set f d }

/-! ## Events -/

inductive Event where
  /-- A fetch of `requests` requests is called; `setup` is what building its batch fails with. -/
  | begin (method : Method) (requests : Nat) (setup : Option SessionError) (timeout : Nat)
  | arm (f : Nat)
  | dispatch (f : Nat)
  | token (f : Nat) (granted : Bool)
  | deadline (f : Nat) (now : Nat)
  | slotCheck (f : Nat)
  | clockCheck (f : Nat) (now : Nat)
  | observerCheck (f : Nat)
  /-- `-notifyError:`, with the object's description. -/
  | report (description : Option (Option String))
  /-- The framework invokes the block of fetch `f`, which reads the response. -/
  | invoke (f i : Nat) (response : Option Response)
  /-- Invocation `i` locks the cell. -/
  | store (f i : Nat)

/-! ## Steps -/

/-- A fetch is called. -/
def State.beginFetch (t : State) (method : Method) (requests : Nat) (setup : Option SessionError)
    (timeout : Nat) : State :=
  let early (e : SessionError) : State :=
    let d : Fetch :=
      { timeout, mark := 0, outcome := none, sent := false, pc := .returned (.error e) }
    { t with fetches := t.fetches ++ [d] }
  if method.checksEmpty ∧ requests = 0 then early .emptyBatch
  else
    match setup with
    | some e => early e
    | none =>
      let d : Fetch :=
        { timeout, mark := errorCount t.errors, outcome := none, sent := false, pc := .marked }
      { t with fetches := t.fetches ++ [d] }

/-- One event of the caller's own thread. -/
def State.fetchStep (tolerate : Bool) (t : State) (f : Nat) (d : Fetch) : Event → Option State
  | .arm _ =>
    match d.pc with
    | .marked => some (t.setFetch f { d with pc := .armed })
    | _ => none
  | .dispatch _ =>
    match d.pc with
    | .armed => some (t.setFetch f { d with sent := true, pc := .dispatched })
    | _ => none
  | .token _ granted =>
    match d.pc with
    | .dispatched => some (t.setFetch f { d with
        pc := if granted then .granted else .returned (.error .noToken) })
    | _ => none
  | .deadline _ now =>
    match d.pc with
    | .granted =>
      match instantAdd now d.timeout with
      | .ok deadline => some (t.setFetch f { d with pc := .waiting deadline })
      | .error _ => some (t.setFetch f { d with pc := .panicked })
    | _ => none
  | .slotCheck _ =>
    match d.pc with
    | .waiting deadline =>
      match d.outcome with
      | some result => some (t.setFetch f { d with outcome := none, pc := .waited result })
      | none => some (t.setFetch f { d with pc := .empty deadline })
    | _ => none
  | .clockCheck _ now =>
    match d.pc with
    | .empty deadline =>
      if now ≥ deadline then
        some (t.setFetch f
          { d with pc := .waited (.error (.fetchTimedOut (d.timeout / 1000000000))) })
      else some (t.setFetch f { d with pc := .waiting deadline })
    | _ => none
  | .observerCheck _ =>
    match d.pc with
    | .waited result => some (t.setFetch f { d with
        pc := .returned (waitedFor tolerate (firstErrorSince t.errors d.mark) result) })
    | _ => none
  | _ => none

/-- Invocation `i` of the block of `f` locks the cell: the first result stays. -/
def State.storeStep (t : State) (f i : Nat) (d : Fetch) (inv : Invocation) : Option State :=
  if inv.fetch = f ∧ inv.stored = false then
    some { t.setFetch f { d with outcome := d.outcome.or (some inv.result) } with
      invocations := t.invocations.set i { inv with stored := true } }
  else none

/-- One event of the machine, if it can happen. -/
def step (tolerate : Bool) (t : State) (e : Event) : Option State :=
  let caller (f : Nat) : Option State := do
    let d ← t.fetches[f]?
    t.fetchStep tolerate f d e
  match e with
  | .begin method requests setup timeout =>
    if t.fetches.all Fetch.finished then some (t.beginFetch method requests setup timeout)
    else none
  | .arm f => caller f
  | .dispatch f => caller f
  | .token f _ => caller f
  | .deadline f _ => caller f
  | .slotCheck f => caller f
  | .clockCheck f _ => caller f
  | .observerCheck f => caller f
  | .report description => some { t with errors := record t.errors (message description) }
  | .invoke f i response => do
    let d ← t.fetches[f]?
    if d.sent ∧ i = t.invocations.length then
      some { t with invocations := t.invocations ++
        [{ fetch := f, result := readResponse response, stored := false }] }
    else none
  | .store f i => do
    let d ← t.fetches[f]?
    let inv ← t.invocations[i]?
    t.storeStep f i d inv

end GputoolsReplay.Probe
