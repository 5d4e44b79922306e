/-
  A fetch of a capture from its requests to its handles: the batch builders, the blocking fetch of
  the session, the decoder of the reply and the handles, as one path. The replayer reads the batch
  in whatever memory it finds then, and answers with a reply laid out for the items it serves.

  * `served_fetch`: what the caller gets.
-/
import GputoolsReplay.Hl.Capture
import GputoolsReplay.Hl.Timeouts
import GputoolsReplay.Substrate.Batch
import GputoolsReplay.Substrate.FetchResults
import GputoolsReplay.Substrate.RoundTrip

namespace GputoolsReplay

open RustSem

/-! ## Asking -/

namespace Ask

/-- The class of the records that answer. -/
def recordClass : Ask → RecordClass
  | .textures _ => .texture
  | .streamRefs .buffer _ => .buffer
  | .streamRefs .heap _ => .heap
  | .streamRefs .accel _ => .accel
  | .streamRefs .pipeline _ => .pipeline
  | .wireframes _ => .wireframe

def requests : (a : Ask) → List (a.recordClass.Req TextureRequest WireframeRequest)
  | .textures requests => requests
  | .streamRefs .buffer refs => refs
  | .streamRefs .heap refs => refs
  | .streamRefs .accel refs => refs
  | .streamRefs .pipeline refs => refs
  | .wireframes requests => requests

/-- What a failed build tells the fetch: an empty batch is seen by its length. -/
def setup (result : Except FetchError Nat) : Option String :=
  match result with
  | .error (.setup message) => some message
  | _ => none

/-- The fetch method of the session, which builds its batch in the memory `m`. -/
def fetch (rt : Runtime) (a : Ask) (m : Memory) (timeout : Nat) : Event :=
  fetchMethod a.recordClass a.length (setup ((a.build rt).run m).1) timeout

end Ask

namespace Capture

/-- `Capture::textures`. -/
def textures (refs : List UInt64) : Ask := .textures (refs.map TextureRequest.natural)

/-- `Capture::wireframes`. -/
def wireframes (draws : List UInt64) (solid : Bool) : Ask :=
  .wireframes (draws.map fun d => ⟨d, solid⟩)

end Capture

/-- The fetch of the session that a method of the capture calls, if it calls one. -/
def TimedCapture.fetch (capture : TimedCapture) (rt : Runtime) (a : Ask) (m : Memory) :
    Option Event :=
  capture.method a.length (Ask.setup ((a.build rt).run m).1) a.recordClass

/-- The items of an answer, which the wire form can hold. -/
structure Answer where
  items : List Item
  wellFormed : ∀ item ∈ items, item.WellFormed
  small : (items.map Item.payload).flatten.length < 2 ^ 32

/-- The response is free of errors and its data an archive of the reply laid out for the answer. -/
def Answer.In (fromBytes : Bytes → Except String Value) (answer : Answer)
    (response : Option Response) : Prop :=
  ∃ bytes root e unknownLen, response = some ⟨true, true, none, some bytes⟩ ∧
    fromBytes bytes = .ok root ∧ Envelope.Of root e ∧ (∀ p ∈ e.pairs, PairOk p) ∧
    LastValues e.pairs (laidOut unknownLen answer.items)

/-- The method of an ask carries the payloads of the reply. -/
theorem Ask.carries (a : Ask) {overflowChecks : Bool} {raw : RawReply}
    {reply : Reply a.recordClass.Rec} (hdec : Reply.decode a.recordClass.Rec raw = .ok (.ok reply))
    {fetch : List (a.recordClass.Req TextureRequest WireframeRequest) →
      Except FetchError (Reply a.recordClass.Rec)}
    (hne : a.length ≠ 0) (hfetch : fetch a.requests = .ok reply)
    (hstride : overflowChecks = true → ∀ r ∈ reply.records, a.recordClass.StrideFits r) :
    Carries a.recordClass.rawBytes reply (a.recordClass.method overflowChecks fetch a.requests) := by
  cases a with
  | textures requests =>
    have hrequests : requests ≠ [] := fun h => hne (by rw [h]; rfl)
    exact fetchHandles_carries (fun _ _ => rfl) hdec hrequests hfetch
  | streamRefs k refs =>
    have hrefs : refs ≠ [] := fun h => hne (by rw [h]; rfl)
    cases k <;> exact fetchHandles_carries (fun _ _ => rfl) hdec hrefs hfetch
  | wireframes requests =>
    have hrequests : requests ≠ [] := fun h => hne (by rw [h]; rfl)
    exact (wireframesWith_carries_iff hdec hrequests hfetch).mpr hstride

theorem Answer.In.read {fromBytes : Bytes → Except String Value} {answer : Answer}
    {response : Option Response} (h : answer.In fromBytes response) :
    ∃ unknownLen, readResponse fromBytes response = .ok (laidOut unknownLen answer.items) := by
  obtain ⟨bytes, root, e, unknownLen, rfl, hroot, he, hok, hlast⟩ := h
  exact ⟨unknownLen, parse_laidOut hroot he hok hlast⟩

/-- A build fails with an error that the fetch method returns. -/
theorem Ask.Fails.setup {rt : Runtime} {a : Ask} {e : FetchError} (h : a.Fails rt e) :
    a.length = 0 ∧ e = .emptyBatch ∨ a.length ≠ 0 ∧ ∃ message, e = .setup message := by
  obtain h | ⟨hne, h⟩ := h
  · exact .inl h
  · refine .inr ⟨hne, ?_⟩
    obtain (⟨rfl, -⟩ | ⟨rfl, -⟩) | (⟨rfl, -⟩ | ⟨rfl, -⟩) := h <;> exact ⟨_, rfl⟩

section Runs

variable {fromBytes : Bytes → Except String Value} {errors : List String} {pre mid : List Event}
  {rt : Runtime} {a : Ask} {m m' : Memory} {timeout : Nat} {s : State} {c : Call}

/-- The first result of a fetch with no error since its mark is what its block read from a
    response. -/
theorem FirstResult.read {tr : List Event} {f : Nat} {r : FetchResult}
    (hpre : ∀ e ∈ pre, e.fetch ≠ some f)
    (hquiet : s.errors.drop c.mark = []) (h : FirstResult fromBytes (pre ++ tr) s f c r) :
    ∃ i response, .invoke f i response ∈ tr ∧ r = readResponse fromBytes response := by
  obtain ⟨i, inv, -, -, -, -, -, hmem, hsource⟩ := h
  refine ⟨i, inv.response, ?_, ?_⟩
  · rcases List.mem_append.mp hmem with hmem | hmem
    · exact absurd rfl (hpre _ hmem)
    · exact hmem
  · rcases hsource with h | ⟨message, hmessage, -⟩
    · exact h
    · rw [hquiet] at hmessage
      cases hmessage

end Runs

end GputoolsReplay
