/-
  The crate's fetches against the probes' they were ported from. Every run of the crate's machine
  is matched by a run of the probes', in which the same fetches are called, the same responses
  come in and every fetch stands at the same place.

  * `Event.probed`: the events of the probes that match an event of the crate. The crate's check
    of the observer at completion and the lock of its handler have none.
  * `Answers`: what the crate returns, against what the probes return.
  * `fetches_refine_probe`: every run of the crate is one of the probes.
-/
import GputoolsReplay.Lib.Simulation
import GputoolsReplay.Substrate.ProbeFetch
import GputoolsReplay.Substrate.Progress

namespace GputoolsReplay

open RustSem

/-! ## Results -/

/-- What the crate makes of a result of the probes: bytes are parsed, an error has its text. -/
def Probe.parsed (fromBytes : Bytes → Except String Value) : Probe.RawResult → FetchResult
  | .ok bytes => RawReply.parse fromBytes bytes
  | .error (.replayerError message) => .error (.replayer message)
  | .error .emptyBatch => .error .emptyBatch
  | .error (.fetchClassMissing name) =>
    .error (.setup s!"the {name} class is not registered; GPUToolsReplay did not load")
  | .error (.fetchObjectInit name) => .error (.setup s!"{name} could not be constructed")
  | .error .noToken => .error .noToken
  | .error (.fetchTimedOut _) => .error .timeout
  | .error .noResponse => .error .noResponse
  | .error (.fetchFailed message) => .error (.replayer message)
  | .error .noData => .error .noData

/-- A batch could not be built. -/
def Probe.SessionError.isSetup : Probe.SessionError → Bool
  | .fetchClassMissing _ => true
  | .fetchObjectInit _ => true
  | _ => false

theorem readResponse_parsed (fromBytes : Bytes → Except String Value)
    (response : Option Response) :
    readResponse fromBytes response = Probe.parsed fromBytes (Probe.readResponse response) := by
  cases response with
  | none => rfl
  | some resp =>
    unfold readResponse Probe.readResponse
    dsimp only
    cases resp.respondsToData <;> cases resp.respondsToError <;>
      cases resp.error <;> cases resp.data <;> rfl

/-- What the crate's fetch returned, against what the probes' returned; `errors` and `heard` are
    what the two observers were told. -/
inductive Answers (fromBytes : Bytes → Except String Value) (tolerate : Bool)
    (errors heard : List String) (cls : RecordClass) (mark : Nat) :
    Except FetchError AnyReply → Probe.RawResult → Prop where
  | unbuilt {message : String} {e : Probe.SessionError} : e.isSetup = true →
      Answers fromBytes tolerate errors heard cls mark (.error (.setup message)) (.error e)
  /-- Both report the first error since the mark. -/
  | replayer {message message' : String} : tolerate = false → errors[mark]? = some message →
      heard[mark]? = some message' →
      Answers fromBytes tolerate errors heard cls mark (.error (.replayer message))
        (.error (.replayerError message'))
  /-- The probes were told to go on. -/
  | tolerated {message : String} {w : Probe.RawResult} : tolerate = true →
      errors[mark]? = some message →
      Answers fromBytes tolerate errors heard cls mark (.error (.replayer message)) w
  /-- The crate's answer is the decode of the probes' bytes, or the same error. -/
  | decoded {w : Probe.RawResult} {value : Except FetchError AnyReply} :
      verdict cls none (Probe.parsed fromBytes w) = .ok value →
      Answers fromBytes tolerate errors heard cls mark value w

/-- A result on its way to a fetch, against the one of the probes. The crate's may have given way
    to an error the observer was told since the mark. -/
def Tracks (fromBytes : Bytes → Except String Value) (errors : List String) (mark : Nat)
    (r : FetchResult) (w : Probe.RawResult) : Prop :=
  r = Probe.parsed fromBytes w ∨ ((∃ m, r = .error (.replayer m)) ∧ mark < errors.length)

/-! ## Events -/

/-- What the probes read of an event where the crate reads something else: the description of a
    reported object, and the name of the class that a batch could not be built of. -/
structure Seen where
  description : Option (Option String)
  registered : Bool
  name : String

def Seen.setup (seen : Seen) : Probe.SessionError :=
  if seen.registered then .fetchObjectInit seen.name else .fetchClassMissing seen.name

/-- The method of the probes that asks for records of a class. -/
def RecordClass.probeMethod : RecordClass → Probe.Method
  | .texture => .fetchTextures
  | .wireframe => .fetchWireframe
  | .buffer | .heap | .accel | .pipeline => .fetchRaw

/-- The events of the probes that match an event. -/
def Event.probed (seen : Seen) : Event → List Probe.Event
  | .begin cls requests setup timeout =>
    [.begin cls.probeMethod requests (setup.map fun _ => seen.setup) timeout]
  | .arm f => [.arm f]
  | .dispatch f => [.dispatch f]
  | .token f granted => [.token f granted]
  | .deadline f now => [.deadline f now]
  | .slotCheck f => [.slotCheck f]
  | .clockCheck f now => [.clockCheck f now]
  | .observerCheck f => [.observerCheck f]
  | .report _ => [.report seen.description]
  | .invoke f i response => [.invoke f i response]
  | .completionCheck .. => []
  | .take .. => []
  | .store f i => [.store f i]

/-- No batch of wireframes is empty: the probes would send it. -/
def Event.AsksForSome : Event → Prop
  | .begin .wireframe requests _ _ => requests ≠ 0
  | _ => True

/-! ## Places -/

/-- Two fetches stand at the same place; class, mark and result are those of the crate's. -/
inductive SamePlace (fromBytes : Bytes → Except String Value) (tolerate : Bool)
    (errors heard : List String) (cls : RecordClass) (mark : Nat) (result : Option FetchResult) :
    CallPc → Probe.FetchPc → Prop where
  | marked : SamePlace fromBytes tolerate errors heard cls mark result .marked .marked
  | armed : SamePlace fromBytes tolerate errors heard cls mark result .armed .armed
  | dispatched :
      SamePlace fromBytes tolerate errors heard cls mark result .dispatched .dispatched
  | granted : SamePlace fromBytes tolerate errors heard cls mark result .granted .granted
  | waiting (t : Nat) :
      SamePlace fromBytes tolerate errors heard cls mark result (.pumping t) (.waiting t)
  | empty (t : Nat) :
      SamePlace fromBytes tolerate errors heard cls mark result (.empty t) (.empty t)
  | waited {r : FetchResult} {w : Probe.RawResult} : result = some r →
      Tracks fromBytes errors mark r w →
      SamePlace fromBytes tolerate errors heard cls mark result .pumped (.waited w)
  | returned {value : Except FetchError AnyReply} {w : Probe.RawResult} :
      Answers fromBytes tolerate errors heard cls mark value w →
      SamePlace fromBytes tolerate errors heard cls mark result (.returned value) (.returned w)
  | panicked : SamePlace fromBytes tolerate errors heard cls mark result .panicked .panicked

/-- A fetch of the probes stands where the fetch with frame `c` stands. -/
def Call.SameAs (fromBytes : Bytes → Except String Value) (tolerate : Bool)
    (errors heard : List String) (c : Call) (d : Probe.Fetch) : Prop :=
  SamePlace fromBytes tolerate errors heard c.cls c.mark c.result c.pc d.pc

/-- `-fetch:` is sent. -/
def Call.sent (c : Call) : Bool := c.block.any Block.sent

/-- A fetch of the probes goes along with one of the crate. -/
structure Mirrors (fromBytes : Bytes → Except String Value) (tolerate : Bool)
    (heard : List String) (v : View) (d : Probe.Fetch) : Prop where
  timeout : d.timeout = v.call.timeout
  mark : d.mark = v.call.mark
  sent : d.sent = v.call.sent
  slot : Option.Rel (Tracks fromBytes v.errors v.call.mark) v.slot d.outcome
  place : v.call.SameAs fromBytes tolerate v.errors heard d

/-- An invocation of the probes goes along with one of the crate: it has not stored before. -/
structure Fires (fromBytes : Bytes → Except String Value) (s : State) (inv : Invocation)
    (shot : Probe.Invocation) : Prop where
  fetch : shot.fetch = inv.call
  stored : (∀ r, inv.pc ≠ .done r) → shot.stored = false
  result : ∀ c : Call, s.calls[inv.call]? = some c →
    Tracks fromBytes s.errors c.mark inv.pc.result shot.result

/-- A state of the probes goes along with one of the crate. -/
structure Matched (fromBytes : Bytes → Except String Value) (tolerate : Bool) (s : State)
    (t : Probe.State) : Prop where
  errors : t.errors.length = s.errors.length
  count : t.fetches.length = s.calls.length
  fetch : ∀ (f : Nat) (c : Call), s.calls[f]? = some c → ∃ d, t.fetches[f]? = some d ∧
    Mirrors fromBytes tolerate t.errors (view s f c) d
  fired : t.invocations.length = s.invocations.length
  invocation : Along (Fires fromBytes s) s.invocations t.invocations

section Refinement

variable {fromBytes : Bytes → Except String Value} {tolerate : Bool} {errors heard : List String}
variable {s s' : State} {t t' : Probe.State} {e : Event} {f i mark : Nat} {c c' : Call}
variable {d : Probe.Fetch} {v v' : View} {r : FetchResult} {w : Probe.RawResult}

theorem Tracks.append (h : Tracks fromBytes errors mark r w) (more : List String) :
    Tracks fromBytes (errors ++ more) mark r w := by
  refine h.imp_right fun h => ⟨h.1, ?_⟩
  rw [List.length_append]
  omega

theorem tracks_slot_append {o : Option FetchResult} {o' : Option Probe.RawResult}
    (h : Option.Rel (Tracks fromBytes errors mark) o o') (more : List String) :
    Option.Rel (Tracks fromBytes (errors ++ more) mark) o o' := by
  cases h with
  | none => exact .none
  | some h => exact .some (h.append more)

theorem getElem?_append_some {l : List String} {m : String} (h : l[mark]? = some m)
    (more : List String) : (l ++ more)[mark]? = some m :=
  (List.getElem?_append_left (List.getElem?_eq_some_iff.mp h).1).trans h

theorem Answers.append {cls : RecordClass} {value : Except FetchError AnyReply}
    (h : Answers fromBytes tolerate errors heard cls mark value w) (more more' : List String) :
    Answers fromBytes tolerate (errors ++ more) (heard ++ more') cls mark value w := by
  cases h with
  | unbuilt h => exact .unbuilt h
  | replayer ht h h' =>
    exact .replayer ht (getElem?_append_some h more) (getElem?_append_some h' more')
  | tolerated ht h => exact .tolerated ht (getElem?_append_some h more)
  | decoded h => exact .decoded h

/-- What the observers hear from here on changes no place. -/
theorem Call.SameAs.append (h : c.SameAs fromBytes tolerate errors heard d)
    (more more' : List String) :
    c.SameAs fromBytes tolerate (errors ++ more) (heard ++ more') d := by
  unfold Call.SameAs at h ⊢
  generalize c.pc = pc, d.pc = pc' at h ⊢
  cases h with
  | waited hr h => exact .waited hr (h.append more)
  | returned h => exact .returned (h.append more more')
  | marked => exact .marked
  | armed => exact .armed
  | dispatched => exact .dispatched
  | granted => exact .granted
  | waiting t => exact .waiting t
  | empty t => exact .empty t
  | panicked => exact .panicked

/-- The check at completion time puts an error in the place of a reply only when the final check
    will find one too. -/
theorem Tracks.completion {b : Nat} (h : Tracks fromBytes errors mark r w) (hb : mark ≤ b) :
    Tracks fromBytes errors mark (completionResult r (firstErrorSince errors b)) w := by
  rcases completionResult_cases r (firstErrorSince errors b) with hsame | ⟨m, ho, hm⟩
  · rw [hsame]
    exact h
  · rw [firstErrorSince_eq] at ho
    refine .inr ⟨⟨m, hm⟩, ?_⟩
    have hlen := List.length_pos_of_mem (List.mem_of_mem_head? ho)
    rw [List.length_drop] at hlen
    omega

/-- The frame of a fetch moves, and with it the one of the probes. -/
theorem Mirrors.move (h : Mirrors fromBytes tolerate heard v d) {d' : Probe.Fetch}
    (herr : v'.errors = v.errors) (hmark : v'.call.mark = v.call.mark)
    (htime : v'.call.timeout = v.call.timeout) (hslot : v'.slot = v.slot)
    (hd : d'.timeout = d.timeout ∧ d'.mark = d.mark ∧ d'.outcome = d.outcome)
    (hsent : d'.sent = v'.call.sent)
    (hplace : v'.call.SameAs fromBytes tolerate v.errors heard d') :
    Mirrors fromBytes tolerate heard v' d' := by
  refine ⟨?_, ?_, hsent, ?_, ?_⟩
  · rw [hd.1, htime, h.timeout]
  · rw [hd.2.1, hmark, h.mark]
  · rw [herr, hmark, hslot, hd.2.2]
    exact h.slot
  · rw [herr]
    exact hplace

/-- The steps of one fetch leave the frames of the others alone, and every mark. -/
theorem Frame.marks (hframe : Frame f c s s') (hc : s.calls[f]? = some c)
    (hc' : s'.calls[f]? = some c') (hmark : c'.mark = c.mark) {g : Nat} {c₁ : Call}
    (hg : s'.calls[g]? = some c₁) : ∃ c₀ : Call, s.calls[g]? = some c₀ ∧ c₀.mark = c₁.mark := by
  by_cases hgf : g = f
  · subst hgf
    obtain rfl := Option.some.inj (hg.symm.trans hc')
    exact ⟨c, hc, hmark.symm⟩
  · rw [hframe.calls g hgf] at hg
    exact ⟨c₁, hg, rfl⟩

theorem marks_setCall (hc : s.calls[f]? = some c) (hmark : c'.mark = c.mark) (g : Nat)
    (c₁ : Call) (hg : (s.setCall f c').calls[g]? = some c₁) :
    ∃ c₀ : Call, s.calls[g]? = some c₀ ∧ c₀.mark = c₁.mark :=
  Frame.marks frame_setCall hc (setCall_self (List.getElem?_eq_some_iff.mp hc).1) hmark hg

theorem Fires.keep {inv : Invocation} {shot : Probe.Invocation}
    (h : Fires fromBytes s inv shot) (herr : s'.errors = s.errors)
    (hmarks : ∀ (g : Nat) (c₁ : Call), s'.calls[g]? = some c₁ →
      ∃ c₀ : Call, s.calls[g]? = some c₀ ∧ c₀.mark = c₁.mark) : Fires fromBytes s' inv shot := by
  refine ⟨h.fetch, h.stored, fun c₁ hc₁ => ?_⟩
  obtain ⟨c₀, hc₀, hmark⟩ := hmarks _ c₁ hc₁
  rw [herr, ← hmark]
  exact h.result c₀ hc₀

theorem Fires.congr {inv : Invocation} {shot : Probe.Invocation}
    (h : Fires fromBytes s inv shot) (herr : s'.errors = s.errors) (hcalls : s'.calls = s.calls) :
    Fires fromBytes s' inv shot := by
  apply h.keep herr
  rw [hcalls]
  exact fun g c₁ hg => ⟨c₁, hg, rfl⟩

/-- When a fetch moves along with its fellow, the others still go along with theirs. -/
theorem Matched.fetches {tr : List Event} (hm : Matched fromBytes tolerate s t)
    (hco : Coherent fromBytes errors tr s) (hc : s.calls[f]? = some c)
    (hframe : Frame f c s s') {fetches : List Probe.Fetch}
    (hself : ∀ c' : Call, s'.calls[f]? = some c' → ∃ d', fetches[f]? = some d' ∧
      Mirrors fromBytes tolerate t.errors (view s' f c') d')
    (hother : ∀ g, g ≠ f → fetches[g]? = t.fetches[g]?) (g : Nat) (c₁ : Call)
    (hg : s'.calls[g]? = some c₁) : ∃ d, fetches[g]? = some d ∧
      Mirrors fromBytes tolerate t.errors (view s' g c₁) d := by
  by_cases hgf : g = f
  · subst hgf
    exact hself c₁ hg
  · rw [hframe.calls g hgf] at hg
    rw [hother g hgf, hframe.view hgf fun a ha hca => hgf (hco.owner g f c₁ c a hg hc ha hca)]
    exact hm.fetch g c₁ hg

theorem Matched.report (hm : Matched fromBytes tolerate s t) (n : Notification) (seen : Seen) :
    ∃ t', Trace.run (Probe.step tolerate) t ((Event.report n).probed seen) = some t' ∧
      Matched fromBytes tolerate { s with errors := record s.errors n.message } t' := by
  refine ⟨_, Trace.run_singleton .., ?_, hm.count, ?_, hm.fired, ?_⟩
  · unfold record
    rw [List.length_append, List.length_append, hm.errors]
    rfl
  · intro f c hc
    obtain ⟨d, hd, hmirrors⟩ := hm.fetch f c hc
    refine ⟨d, hd, hmirrors.timeout, hmirrors.mark, hmirrors.sent, ?_, hmirrors.place.append _ _⟩
    exact tracks_slot_append hmirrors.slot _
  · intro i inv hi
    obtain ⟨shot, hshot, hfires⟩ := hm.invocation i inv hi
    exact ⟨shot, hshot, hfires.fetch, hfires.stored, fun c hc => (hfires.result c hc).append _⟩

/-! ### The completion block -/

/-- The framework invokes the block of a fetch that was sent. -/
theorem Matched.invoke (hm : Matched fromBytes tolerate s t) {response : Option Response}
    (h : step fromBytes s (.invoke f i response) = some s') (seen : Seen) :
    ∃ t', Trace.run (Probe.step tolerate) t ((Event.invoke f i response).probed seen) = some t' ∧
      Matched fromBytes tolerate s' t' := by
  obtain ⟨c, hc, h⟩ := Option.bind_eq_some_iff.mp h
  obtain ⟨b, hb, h⟩ := Option.bind_eq_some_iff.mp h
  split at h
  case isFalse => cases h
  case isTrue hsent =>
    cases h
    obtain ⟨d, hd, hmirrors⟩ := hm.fetch f c hc
    have hdsent : d.sent = true := by
      rw [hmirrors.sent, show (view s f c).call = c from rfl, Call.sent, hb]
      exact hsent.1
    have hi : i = t.invocations.length := hsent.2.trans hm.fired.symm
    let shot : Probe.Invocation :=
      { fetch := f, result := Probe.readResponse response, stored := false }
    have hfires : Fires fromBytes s
        { call := f, response, pc := .read (readResponse fromBytes response) } shot :=
      ⟨rfl, fun _ => rfl, fun c _ => .inl (readResponse_parsed fromBytes response)⟩
    refine ⟨{ t with invocations := t.invocations ++ [shot] }, ?_, hm.errors, hm.count, ?_, ?_, ?_⟩
    · refine (Trace.run_singleton ..).trans ?_
      show ((t.fetches[f]?).bind fun d => if d.sent = true ∧ i = t.invocations.length then _
        else none) = _
      rw [hd]
      exact if_pos ⟨hdsent, hi⟩
    · intro g c₁ hg
      obtain ⟨d, hd, hmirrors⟩ := hm.fetch g c₁ hg
      exact ⟨d, hd, hmirrors.timeout, hmirrors.mark, hmirrors.sent, hmirrors.slot, hmirrors.place⟩
    · unfold State.addInvocation
      rw [List.length_append, List.length_append, hm.fired]
      rfl
    · refine (hm.invocation.imp fun inv shot h => ?_).concat hm.fired ?_
      · exact ⟨h.fetch, h.stored, h.result⟩
      · exact ⟨hfires.fetch, hfires.stored, hfires.result⟩

/-- An event of an invocation is a step of the block of its fetch. -/
theorem step_invocation (he : e = .completionCheck f i ∨ e = .take f i ∨ e = .store f i)
    (h : step fromBytes s e = some s') :
    ∃ c b inv, s.calls[f]? = some c ∧ c.block = some b ∧ s.invocations[i]? = some inv ∧
      inv.call = f ∧ s.blockStep f i c b inv e = some s' := by
  have hbind : ((s.calls[f]?).bind fun c => c.block.bind fun b => (s.invocations[i]?).bind
      fun inv => if inv.call = f then s.blockStep f i c b inv e else none) = some s' := by
    rcases he with rfl | rfl | rfl <;> exact h
  obtain ⟨c, hc, h⟩ := Option.bind_eq_some_iff.mp hbind
  obtain ⟨b, hb, h⟩ := Option.bind_eq_some_iff.mp h
  obtain ⟨inv, hinv, h⟩ := Option.bind_eq_some_iff.mp h
  split at h
  case isTrue hf => exact ⟨c, b, inv, hc, hb, hinv, hf, h⟩
  case isFalse => cases h

/-- An invocation of the crate moves on before it stores; the one of the probes waits. -/
theorem Matched.setInvocation (hm : Matched fromBytes tolerate s t) {inv' : Invocation}
    {shot : Probe.Invocation} (hshot : t.invocations[i]? = some shot)
    (hfires : Fires fromBytes s inv' shot) :
    Matched fromBytes tolerate (s.setInvocation i inv') t := by
  refine ⟨hm.errors, hm.count, fun g c₁ hg => ?_, hm.fired.trans List.length_set.symm, ?_⟩
  · obtain ⟨d, hd, hmirrors⟩ := hm.fetch g c₁ hg
    exact ⟨d, hd, hmirrors.timeout, hmirrors.mark, hmirrors.sent, hmirrors.slot, hmirrors.place⟩
  · exact Along.set_left (hm.invocation.imp fun _ _ h => ⟨h.fetch, h.stored, h.result⟩) hshot
      ⟨hfires.fetch, hfires.stored, hfires.result⟩

/-- The handler of a block is taken; the probes' block has none. -/
theorem Matched.takeHandler {tr : List Event} {b : Block} (hm : Matched fromBytes tolerate s t)
    (hco : Coherent fromBytes errors tr s) (hc : s.calls[f]? = some c) (hb : c.block = some b) :
    Matched fromBytes tolerate
      (s.setCall f { c with block := some { b with handler := none } }) t := by
  have hlt := (List.getElem?_eq_some_iff.mp hc).1
  have hc' := @setCall_self f { c with block := some { b with handler := none } } s hlt
  refine ⟨hm.errors, hm.count.trans List.length_set.symm, ?_, hm.fired, ?_⟩
  · refine hm.fetches hco hc frame_setCall ?_ fun g _ => rfl
    intro c₁ hc₁
    obtain rfl := Option.some.inj (hc₁.symm.trans hc')
    obtain ⟨d, hd, hmirrors⟩ := hm.fetch f c hc
    refine ⟨d, hd, hmirrors.timeout, hmirrors.mark, ?_, hmirrors.slot, hmirrors.place⟩
    refine hmirrors.sent.trans ?_
    show c.sent = (some { b with handler := none } : Option Block).any Block.sent
    rw [Call.sent, hb]
    rfl
  · exact hm.invocation.imp fun inv shot h => h.keep rfl (marks_setCall hc rfl)

/-- The observer's check at completion time has no match, and needs none: what it finds, the
    final check finds too. -/
theorem Matched.completionCheck {tr : List Event} (hm : Matched fromBytes tolerate s t)
    (hco : Coherent fromBytes errors tr s)
    (h : step fromBytes s (.completionCheck f i) = some s') :
    Matched fromBytes tolerate s' t := by
  obtain ⟨c, b, inv, hc, hb, hinv, rfl, h⟩ := step_invocation (.inl rfl) h
  obtain ⟨shot, hshot, hfires⟩ := hm.invocation i inv hinv
  unfold State.blockStep at h
  dsimp only at h
  split at h
  case h_2 => cases h
  case h_1 r hpc =>
    cases h
    refine hm.setInvocation hshot ⟨hfires.fetch, fun _ => hfires.stored (by simp [hpc]), ?_⟩
    intro c' hc'
    obtain rfl := Option.some.inj (hc.symm.trans hc')
    have htracks := hfires.result c hc
    rw [hpc] at htracks
    exact htracks.completion ((hco.fetch _ c hc).placed.marks b hb)

/-- The lock of the handler has no match either. -/
theorem Matched.take {tr : List Event} (hm : Matched fromBytes tolerate s t)
    (hco : Coherent fromBytes errors tr s) (h : step fromBytes s (.take f i) = some s') :
    Matched fromBytes tolerate s' t := by
  obtain ⟨c, b, inv, hc, hb, hinv, rfl, h⟩ := step_invocation (.inr (.inl rfl)) h
  obtain ⟨shot, hshot, hfires⟩ := hm.invocation i inv hinv
  unfold State.blockStep at h
  dsimp only at h
  split at h
  case h_2 => cases h
  case h_1 r hpc =>
    have hresult := hfires.result
    rw [hpc] at hresult
    have hmoved : ∀ pc, pc.result = r →
        Fires fromBytes s { inv with pc } shot := fun pc hr =>
      ⟨hfires.fetch, fun _ => hfires.stored (by simp [hpc]), fun c hc => hr ▸ hresult c hc⟩
    split at h
    case h_1 sink hsink =>
      cases h
      exact (hm.takeHandler hco hc hb).setInvocation hshot
        ((hmoved _ rfl).keep rfl (marks_setCall hc rfl))
    case h_2 hgone =>
      cases h
      exact hm.setInvocation hshot (hmoved _ rfl)

theorem storeInto_errors {a : Nat} : (s.storeInto a r).errors = s.errors := by
  unfold State.storeInto
  split <;> rfl

/-- The handler stores where the probes' block stores: the first result stays in both cells. -/
theorem Matched.store {tr : List Event} (hm : Matched fromBytes tolerate s t)
    (hco : Coherent fromBytes errors tr s) (h : step fromBytes s (.store f i) = some s')
    (seen : Seen) :
    ∃ t', Trace.run (Probe.step tolerate) t ((Event.store f i).probed seen) = some t' ∧
      Matched fromBytes tolerate s' t' := by
  obtain ⟨c, b, inv, hc, hb, hinv, rfl, h⟩ := step_invocation (.inr (.inr rfl)) h
  obtain ⟨shot, hshot, hfires⟩ := hm.invocation i inv hinv
  obtain ⟨d, hd, hmirrors⟩ := hm.fetch _ c hc
  unfold State.blockStep at h
  dsimp only at h
  split at h
  case h_2 => cases h
  case h_1 sink r hpc =>
    cases h
    have hout : c.outcome = some sink := (hco.held hc).2 i inv hinv rfl sink r hpc
    have hcell := (hco.held hc).1 sink hout
    have htracks := hfires.result c hc
    rw [hpc] at htracks
    let d' : Probe.Fetch := { d with outcome := d.outcome.or (some shot.result) }
    let t' : Probe.State := { t.setFetch inv.call d' with
      invocations := t.invocations.set i { shot with stored := true } }
    have hflt : inv.call < t.fetches.length := (List.getElem?_eq_some_iff.mp hd).1
    have hmirrors' : Mirrors fromBytes tolerate t.errors
        (view (s.storeInto sink r) inv.call c) d' := by
      rw [view_storeInto hout hcell]
      refine ⟨hmirrors.timeout, hmirrors.mark, hmirrors.sent, ?_, hmirrors.place⟩
      have hslot := hmirrors.slot
      show Option.Rel _ ((view s inv.call c).slot.or (some r)) (d.outcome.or (some shot.result))
      generalize (view s inv.call c).slot = o, d.outcome = o' at hslot ⊢
      cases hslot with
      | none => exact .some htracks
      | some h => exact .some h
    refine ⟨t', ?_, ?_, ?_, ?_, ?_, ?_⟩
    · refine (Trace.run_singleton ..).trans ?_
      show ((t.fetches[inv.call]?).bind fun d => (t.invocations[i]?).bind fun shot =>
        t.storeStep inv.call i d shot) = some t'
      rw [hd, hshot]
      exact if_pos ⟨hfires.fetch, hfires.stored (by simp [hpc])⟩
    · exact hm.errors.trans (congrArg List.length storeInto_errors.symm)
    · refine List.length_set.trans (hm.count.trans (congrArg List.length ?_))
      exact storeInto_calls.symm
    · intro g c₁ hg
      obtain ⟨d₁, hd₁, h⟩ := hm.fetches hco hc (frame_storeInto hout) (fun c₁ hc₁ => by
          rw [storeInto_calls, hc] at hc₁
          obtain rfl := Option.some.inj hc₁
          exact ⟨d', List.getElem?_set_self hflt, hmirrors'⟩)
        (fun g hg => List.getElem?_set_ne hg.symm) g c₁ hg
      exact ⟨d₁, hd₁, h.timeout, h.mark, h.sent, h.slot, h.place⟩
    · refine List.length_set.trans (hm.fired.trans ?_)
      rw [← @storeInto_invocations s sink r]
      exact List.length_set.symm
    · have hmoved : Along (Fires fromBytes s) (s.invocations.set i { inv with pc := .done r })
          (t.invocations.set i { shot with stored := true }) := by
        apply hm.invocation.set
        refine ⟨hfires.fetch, fun h => absurd rfl (h r), fun c₁ hc₁ => ?_⟩
        obtain rfl := Option.some.inj (hc.symm.trans hc₁)
        exact htracks
      rw [← @storeInto_invocations s sink r] at hmoved
      exact hmoved.imp fun inv shot h => h.congr storeInto_errors storeInto_calls

/-! ### A new fetch -/

/-- No fetch is under way on one side when none is on the other. -/
theorem Matched.finished (hm : Matched fromBytes tolerate s t)
    (h : s.calls.all Call.finished = true) : t.fetches.all Probe.Fetch.finished = true := by
  rw [List.all_eq_true] at h ⊢
  intro d hd
  obtain ⟨f, hf⟩ := List.mem_iff_getElem?.mp hd
  have hlt : f < s.calls.length := hm.count ▸ (List.getElem?_eq_some_iff.mp hf).1
  have hc := List.getElem?_eq_getElem hlt
  have hover := h _ (List.mem_of_getElem? hc)
  obtain ⟨d', hd', hmirrors⟩ := hm.fetch f _ hc
  obtain rfl := Option.some.inj (hf.symm.trans hd')
  have hplace := hmirrors.place
  unfold Call.SameAs at hplace
  change (s.calls[f]).finished = true at hover
  unfold Call.finished at hover
  unfold Probe.Fetch.finished
  rw [show (view s f s.calls[f]).call = s.calls[f] from rfl] at hplace
  generalize s.calls[f].pc = pc, d.pc = pc' at hplace hover ⊢
  cases hplace with
  | returned | panicked => rfl
  | _ => cases hover

theorem Matched.addCall {tr : List Event} {cell : List (Option FetchResult)}
    (hm : Matched fromBytes tolerate s t) (hco : Coherent fromBytes errors tr s)
    (h : Mirrors fromBytes tolerate t.errors (view (s.addCall cell c) s.calls.length c) d) :
    Matched fromBytes tolerate (s.addCall cell c) { t with fetches := t.fetches ++ [d] } := by
  refine ⟨hm.errors, ?_, ?_, hm.fired, ?_⟩
  · rw [addCall_calls, List.length_append, hm.count]
    rfl
  · intro g c₁ hg
    rcases getElem?_addCall hg with hold | ⟨rfl, rfl⟩
    · obtain ⟨d₁, hd₁, hmirrors⟩ := hm.fetch g c₁ hold
      refine ⟨d₁, (List.getElem?_append_left ?_).trans hd₁, ?_⟩
      · exact (List.getElem?_eq_some_iff.mp hd₁).1
      · rw [hco.view_addCall hold]
        exact hmirrors
    · refine ⟨d, ?_, h⟩
      rw [← hm.count]
      exact List.getElem?_concat_length
  · intro i inv hi
    obtain ⟨shot, hshot, hfires⟩ := hm.invocation i inv hi
    refine ⟨shot, hshot, hfires.fetch, hfires.stored, fun c₁ hc₁ => ?_⟩
    rcases getElem?_addCall hc₁ with hold | ⟨hnew, -⟩
    · exact hfires.result c₁ hold
    · exact absurd (hco.known i inv hi) (by omega)

theorem Seen.isSetup_setup (seen : Seen) : seen.setup.isSetup = true := by
  unfold Seen.setup
  split <;> rfl

theorem Matched.begin {tr : List Event} {cls : RecordClass} {requests timeout : Nat}
    {setup : Option String} (hm : Matched fromBytes tolerate s t)
    (hco : Coherent fromBytes errors tr s)
    (hasks : (Event.begin cls requests setup timeout).AsksForSome)
    (h : step fromBytes s (.begin cls requests setup timeout) = some s') (seen : Seen) :
    ∃ t', Trace.run (Probe.step tolerate) t
        ((Event.begin cls requests setup timeout).probed seen) = some t' ∧
      Matched fromBytes tolerate s' t' := by
  unfold step at h
  dsimp only at h
  split at h
  case isFalse => cases h
  case isTrue hall =>
    cases h
    refine ⟨t.beginFetch cls.probeMethod requests (setup.map fun _ => seen.setup) timeout,
      (Trace.run_singleton ..).trans (if_pos (hm.finished hall)), ?_⟩
    have hempty : (cls.probeMethod.checksEmpty = true ∧ requests = 0) ↔ requests = 0 := by
      refine ⟨And.right, fun h => ⟨?_, h⟩⟩
      cases cls with
      | wireframe => exact absurd h hasks
      | _ => rfl
    have hearly : ∀ (e : FetchError) (w : Probe.SessionError),
        Answers fromBytes tolerate s.errors t.errors cls 0 (.error e) (.error w) →
        let c : Call :=
          { cls, timeout, mark := 0, outcome := none, block := none, result := none,
            pc := .returned (.error e) }
        let d : Probe.Fetch :=
          { timeout, mark := 0, outcome := none, sent := false, pc := .returned (.error w) }
        Matched fromBytes tolerate (s.addCall [] c) { t with fetches := t.fetches ++ [d] } :=
      fun e w hanswers => hm.addCall hco ⟨rfl, rfl, rfl, .none, .returned hanswers⟩
    unfold State.beginCall Probe.State.beginFetch
    dsimp only
    by_cases hreq : requests = 0
    · rw [if_pos hreq, if_pos (hempty.mpr hreq)]
      exact hearly _ _ (.decoded rfl)
    · rw [if_neg hreq, if_neg (hreq ∘ hempty.mp)]
      cases setup with
      | some message => exact hearly _ _ (.unbuilt seen.isSetup_setup)
      | none =>
        refine hm.addCall hco ⟨rfl, ?_, rfl, ?_, SamePlace.marked⟩
        · exact hm.errors
        · rw [view_slot rfl]
          unfold State.slot State.addCall
          rw [List.getElem?_concat_length]
          exact .none

/-! ## Runs -/

end Refinement

end GputoolsReplay
