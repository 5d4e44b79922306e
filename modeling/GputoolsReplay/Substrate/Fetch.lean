/-
  The blocking fetches (`fetch.rs`) and the framework around them, as one machine.

  The caller runs one blocking fetch at a time. Each fetch has its own frame (`Call`), its
  own outcome cell and its own completion block. Framework threads report errors to the
  observer and invoke the completion block of any batch that was sent, any number of times
  and at any moment. An event is one access to shared state (the observer's list, a block's
  handler, an outcome cell) with the local work around it.

  * `verdict`: what a blocking fetch returns once its wait is over.
  * `completionResult`: what a completion block hands on.
  * `step`: one event of the machine.
-/
import GputoolsReplay.Lib.Trace
import GputoolsReplay.Substrate.Envelope
import GputoolsReplay.Substrate.Observer

namespace GputoolsReplay

open RustSem

/-- `Result<RawReply, FetchError>`, what an outcome cell holds. -/
abbrev FetchResult := Except FetchError RawReply

/-- A typed reply of any of the six fetch methods. -/
abbrev AnyReply := (k : RecordClass) × Reply k.Rec

/-! ## What a response is turned into -/

/-- The `GTReplayResponse` a completion block is handed: the selectors it answers, and what
    `-error` (its localized description) and `-data` return. -/
structure Response where
  respondsToData : Bool
  respondsToError : Bool
  error : Option String
  data : Option Bytes
  deriving DecidableEq, Repr

/-- `read_response`. A null response is `none`. -/
def readResponse (fromBytes : Bytes → Except String Value) : Option Response → FetchResult
  | none => .error .noResponse
  | some resp =>
    if !resp.respondsToData || !resp.respondsToError then .error .noResponse
    else
      match resp.error with
      | some description => .error (.replayer (truncate description))
      | none =>
        match resp.data with
        | none => .error .noData
        | some bytes => RawReply.parse fromBytes bytes

/-- The completion-time check of the block: the observer overrides a clean reply. -/
def completionResult (result : FetchResult) (observed : Option String) : FetchResult :=
  match result with
  | .ok reply =>
    match observed with
    | some message => .error (.replayer message)
    | none => .ok reply
  | .error e => .error e

/-- The end of a blocking fetch: the observer overrides the result, which is then decoded. -/
def verdict (cls : RecordClass) (observed : Option String) (result : FetchResult) :
    Rust (Except FetchError AnyReply) :=
  match observed with
  | some message => .ok (.error (.replayer message))
  | none =>
    match result with
    | .error e => .ok (.error e)
    | .ok raw => do
      let decoded ← Reply.decode cls.Rec raw
      return decoded.map fun reply => ⟨cls, reply⟩

/-! ## State -/

/-- A completion block: the mark its checker looks from, and the handler that the first
    invocation takes. The handler is `store_into` of an outcome cell, named by its address. -/
structure Block where
  mark : Nat
  handler : Option Nat
  sent : Bool
  deriving DecidableEq

/-- Where a blocking fetch stands. -/
inductive CallPc where
  /-- The observer is marked and the outcome cell is made. -/
  | marked
  /-- The block is set as the batch's completion handler. -/
  | armed
  /-- `-fetch:` is sent. -/
  | dispatched
  /-- `-fetch:` returned a token. -/
  | granted
  /-- In `pump_until`, before a check of the cell. -/
  | pumping (deadline : Nat)
  /-- In `pump_until`, the cell was empty. -/
  | empty (deadline : Nat)
  /-- `pump_until` returned, the observer is not checked yet. -/
  | pumped
  | returned (value : Except FetchError AnyReply)
  | panicked

/-- The frame of a blocking fetch: its arguments and its locals. -/
structure Call where
  cls : RecordClass
  timeout : Nat
  mark : Nat
  outcome : Option Nat
  block : Option Block
  result : Option FetchResult
  pc : CallPc

/-- Where an invocation of a completion block stands. -/
inductive BlockPc where
  /-- The response is read. -/
  | read (result : FetchResult)
  /-- The observer is checked. -/
  | checked (result : FetchResult)
  /-- The handler is taken, with the cell it stores into. -/
  | holding (sink : Nat) (result : FetchResult)
  | done (result : FetchResult)

/-- One invocation of the completion block of a fetch. -/
structure Invocation where
  call : Nat
  response : Option Response
  pc : BlockPc

/-- The whole machine. Cells, fetches and invocations are named by their position. -/
structure State where
  errors : List String
  outcomes : List (Option FetchResult)
  calls : List Call
  invocations : List Invocation

/-- A session with what its observer has recorded so far, and no fetch yet. -/
def State.init (errors : List String) : State :=
  { errors, outcomes := [], calls := [], invocations := [] }

def Call.finished (c : Call) : Bool :=
  match c.pc with
  | .returned _ => true
  | .panicked => true
  | _ => false

/-- What a cell holds. -/
def State.slot (s : State) (a : Nat) : Option FetchResult := (s.outcomes[a]?).join

def State.setCall (s : State) (f : Nat) (c : Call) : State := { s with calls := s.calls.set f c }

def State.setSlot (s : State) (a : Nat) (v : Option FetchResult) : State :=
  { s with outcomes := s.outcomes.set a v }

def State.setInvocation (s : State) (i : Nat) (inv : Invocation) : State :=
  { s with invocations := s.invocations.set i inv }

/-- A new frame, with the cells it makes. -/
def State.addCall (s : State) (cells : List (Option FetchResult)) (c : Call) : State :=
  { s with outcomes := s.outcomes ++ cells, calls := s.calls ++ [c] }

def State.addInvocation (s : State) (inv : Invocation) : State :=
  { s with invocations := s.invocations ++ [inv] }

/-- The closure of `store_into`: the first result stays. -/
def State.storeInto (s : State) (sink : Nat) (result : FetchResult) : State :=
  match s.slot sink with
  | none => s.setSlot sink (some result)
  | some _ => s

/-! ## Events -/

inductive Event where
  /-- A fetch of `requests` requests is called; `setup` is what `build_batch` fails with. -/
  | begin (cls : RecordClass) (requests : Nat) (setup : Option String) (timeout : Nat)
  /-- `fetch_with_handler` marks the observer and sets the completion block. -/
  | arm (f : Nat)
  | dispatch (f : Nat)
  /-- `-fetch:` returns, with a token or without. -/
  | token (f : Nat) (granted : Bool)
  /-- `pump_until` computes its deadline from the instant `now`. -/
  | deadline (f : Nat) (now : Nat)
  | slotCheck (f : Nat)
  | clockCheck (f : Nat) (now : Nat)
  /-- The final observer check, and the decode. -/
  | observerCheck (f : Nat)
  | report (n : Notification)
  /-- The framework invokes the block of fetch `f`, which reads the response. -/
  | invoke (f i : Nat) (response : Option Response)
  /-- Invocation `i`, of the block of `f`, checks the observer. -/
  | completionCheck (f i : Nat)
  /-- Invocation `i` locks the handler and takes it, when it is still there. -/
  | take (f i : Nat)
  /-- Invocation `i` calls the handler it took, which locks the cell. -/
  | store (f i : Nat)

/-! ### The six fetch methods -/

def fetchTextures (requests : Nat) (setup : Option String) (timeout : Nat) : Event :=
  .begin .texture requests setup timeout

def fetchBuffers (streamRefs : Nat) (setup : Option String) (timeout : Nat) : Event :=
  .begin .buffer streamRefs setup timeout

def fetchHeaps (streamRefs : Nat) (setup : Option String) (timeout : Nat) : Event :=
  .begin .heap streamRefs setup timeout

def fetchAccelerationStructures (streamRefs : Nat) (setup : Option String) (timeout : Nat) :
    Event :=
  .begin .accel streamRefs setup timeout

def fetchPipelineBinaries (streamRefs : Nat) (setup : Option String) (timeout : Nat) : Event :=
  .begin .pipeline streamRefs setup timeout

def fetchWireframes (requests : Nat) (setup : Option String) (timeout : Nat) : Event :=
  .begin .wireframe requests setup timeout

/-! ## Steps -/

/-- Instants are nanoseconds with whole seconds below `2^63`. -/
def instantLimit : Nat := 9223372036854775808 * 1000000000

/-- `Instant + Duration`. -/
def instantAdd (now timeout : Nat) : Rust Nat :=
  if now + timeout < instantLimit then .ok (now + timeout) else .error .overflow

/-- A fetch is called: an empty or unbuildable batch returns at once, otherwise the observer
    is marked and an outcome cell is made. -/
def State.beginCall (s : State) (cls : RecordClass) (requests : Nat) (setup : Option String)
    (timeout : Nat) : State :=
  let early (e : FetchError) : State :=
    let c : Call :=
      { cls, timeout, mark := 0, outcome := none, block := none, result := none,
        pc := .returned (.error e) }
    s.addCall [] c
  if requests = 0 then early .emptyBatch
  else
    match setup with
    | some message => early (.setup message)
    | none =>
      let c : Call :=
        { cls, timeout, mark := errorCount s.errors, outcome := some s.outcomes.length,
          block := none, result := none, pc := .marked }
      s.addCall [none] c

/-- One event of the caller's own thread. -/
def State.callStep (s : State) (f : Nat) (c : Call) : Event → Option State
  | .arm _ =>
    match c.pc with
    | .marked => some (s.setCall f { c with
        block := some { mark := errorCount s.errors, handler := c.outcome, sent := false },
        pc := .armed })
    | _ => none
  | .dispatch _ =>
    match c.pc, c.block with
    | .armed, some b =>
      some (s.setCall f { c with block := some { b with sent := true }, pc := .dispatched })
    | _, _ => none
  | .token _ granted =>
    match c.pc with
    | .dispatched => some (s.setCall f { c with
        pc := if granted then .granted else .returned (.error .noToken) })
    | _ => none
  | .deadline _ now =>
    match c.pc with
    | .granted =>
      match instantAdd now c.timeout with
      | .ok deadline => some (s.setCall f { c with pc := .pumping deadline })
      | .error _ => some (s.setCall f { c with pc := .panicked })
    | _ => none
  | .slotCheck _ =>
    match c.pc, c.outcome with
    | .pumping deadline, some a =>
      match s.slot a with
      | some result =>
        some ((s.setSlot a none).setCall f { c with result := some result, pc := .pumped })
      | none => some (s.setCall f { c with pc := .empty deadline })
    | _, _ => none
  | .clockCheck _ now =>
    match c.pc with
    | .empty deadline =>
      if now ≥ deadline then
        some (s.setCall f { c with result := some (.error .timeout), pc := .pumped })
      else some (s.setCall f { c with pc := .pumping deadline })
    | _ => none
  | .observerCheck _ =>
    match c.pc, c.result with
    | .pumped, some result =>
      match verdict c.cls (firstErrorSince s.errors c.mark) result with
      | .ok value => some (s.setCall f { c with pc := .returned value })
      | .error _ => some (s.setCall f { c with pc := .panicked })
    | _, _ => none
  | _ => none

/-- One event of an invocation of the block `b`. -/
def State.blockStep (s : State) (f i : Nat) (c : Call) (b : Block) (inv : Invocation) :
    Event → Option State
  | .completionCheck _ _ =>
    match inv.pc with
    | .read result => some (s.setInvocation i { inv with
        pc := .checked (completionResult result (firstErrorSince s.errors b.mark)) })
    | _ => none
  | .take _ _ =>
    match inv.pc with
    | .checked result =>
      match b.handler with
      | some sink =>
        some ((s.setCall f { c with block := some { b with handler := none } }).setInvocation i
          { inv with pc := .holding sink result })
      | none => some (s.setInvocation i { inv with pc := .done result })
    | _ => none
  | .store _ _ =>
    match inv.pc with
    | .holding sink result =>
      some ((s.storeInto sink result).setInvocation i { inv with pc := .done result })
    | _ => none
  | _ => none

/-- One event of the machine, if it can happen. -/
def step (fromBytes : Bytes → Except String Value) (s : State) (e : Event) : Option State :=
  let caller (f : Nat) : Option State := do
    let c ← s.calls[f]?
    s.callStep f c e
  let invocation (f i : Nat) : Option State := do
    let c ← s.calls[f]?
    let b ← c.block
    let inv ← s.invocations[i]?
    if inv.call = f then s.blockStep f i c b inv e else none
  match e with
  | .begin cls requests setup timeout =>
    if s.calls.all Call.finished then some (s.beginCall cls requests setup timeout) else none
  | .arm f => caller f
  | .dispatch f => caller f
  | .token f _ => caller f
  | .deadline f _ => caller f
  | .slotCheck f => caller f
  | .clockCheck f _ => caller f
  | .observerCheck f => caller f
  | .report n => some { s with errors := record s.errors n.message }
  | .invoke f i response => do
    let c ← s.calls[f]?
    let b ← c.block
    if b.sent ∧ i = s.invocations.length then
      some (s.addInvocation
        { call := f, response, pc := .read (readResponse fromBytes response) })
    else none
  | .completionCheck f i => invocation f i
  | .take f i => invocation f i
  | .store f i => invocation f i

end GputoolsReplay
