/-
  Whose error a blocking fetch returns. The observer keeps one list for the session, and a
  fetch takes the first error behind its mark for its own.

  * `Undisturbed`: an error is reported while the only fetch that would take it for its own
    is the one that caused it.
  * `unblamed_step`: a step keeps every fetch free of the errors of others, unless it is the
    report of an error that disturbs one.
  * `replayer_error_is_own`: so does a run, and a fetch that was disturbed returns the error
    of another one.
-/
import GputoolsReplay.Substrate.FetchResults

namespace GputoolsReplay

open RustSem

/-! ## Causes -/

section Causes

-- the fetch whose work caused an error, by the position of the error in the observer's list
variable (cause : Nat → Nat)

/-- Every error is reported after the fetch that caused it was dispatched. -/
def Attributed (errors : List String) (tr : List Event) : Prop :=
  ∀ pre n post, tr = pre ++ .report n :: post →
    .dispatch (cause (errors.length + (reports pre).length)) ∈ pre

/-- An error that is reported in `s` is caused by the fetch that is under way, if there is
    one, unless that fetch has an error behind its mark already. -/
def Undisturbed (s : State) : Prop :=
  ∀ (f : Nat) (c : Call), s.calls[f]? = some c → c.finished = false →
    f = cause s.errors.length ∨ c.mark < errorCount s.errors

/-- Every report of a run is undisturbed. -/
def UndisturbedRun (fromBytes : Bytes → Except String Value) (errors : List String)
    (tr : List Event) : Prop :=
  ∀ pre n post s, tr = pre ++ .report n :: post →
    Trace.run (step fromBytes) (State.init errors) pre = some s → Undisturbed cause s

/-- The message `m` is of an error that fetch `f` caused: it stands at the mark of `f` in the
    observer's list, or in the response that the first invocation to lock the handler of `f` read,
    before `f` made its last check. -/
def OwnError (tr : List Event) (s : State) (f : Nat) (c : Call) (m : String) : Prop :=
  (s.errors[c.mark]? = some m ∧ cause c.mark = f) ∨
    ∃ pre post i response description, tr = pre ++ .observerCheck f :: post ∧
      (takers f pre).head? = some i ∧ .invoke f i (some response) ∈ pre ∧
      response.error = some description ∧ m = truncate description

/-- No fetch is blamed for the error of another one. -/
structure Unblamed (tr : List Event) (s : State) : Prop where
  /-- What a fetch under way will take for its own error is its own. -/
  waiting : ∀ (f : Nat) (c : Call), s.calls[f]? = some c → c.finished = false →
    c.mark < s.errors.length → cause c.mark = f
  failed : ∀ (f : Nat) (c : Call) m, s.calls[f]? = some c →
    c.pc = .returned (.error (.replayer m)) → OwnError cause tr s f c m

end Causes

section Steps

variable {fromBytes : Bytes → Except String Value} {cause : Nat → Nat} {errors : List String}
variable {tr tr' : List Event} {s s' : State} {e : Event} {f : Nat} {c c' : Call}

/-! ## Single steps -/

/-- A fetch that is under way was under way before. -/
theorem LocalStep.unfinished {v v' : View} (h : LocalStep fromBytes f e v v')
    (hv : v'.call.finished = false) : v.call.finished = false := by
  cases h with
  | arm hpc | dispatch hpc | token hpc | deadline hpc | overflow hpc | collect hpc | miss hpc
  | timeout hpc | again hpc | answer hpc =>
    unfold Call.finished
    rw [hpc]
  | _ => exact hv

/-- What makes a fetch return: a token that is missing, or its last check. -/
theorem LocalStep.returning {v v' : View} (h : LocalStep fromBytes f e v v')
    {value : Except FetchError AnyReply} (hv : v'.call.pc = .returned value) :
    v.call.pc = .returned value ∨ value = .error .noToken ∨
      ∃ r, e = .observerCheck f ∧ v.call.finished = false ∧ v.call.result = some r ∧
        verdict v.call.cls (firstErrorSince v.errors v.call.mark) r = .ok value := by
  cases h with
  | @token _ granted =>
    cases granted with
    | true => cases hv
    | false =>
      cases hv
      exact Or.inr (Or.inl rfl)
  | answer hpc hr hverdict =>
    cases hv
    refine Or.inr (Or.inr ⟨_, rfl, ?_, hr, hverdict⟩)
    unfold Call.finished
    rw [hpc]
  | arm | dispatch | deadline | overflow | collect | miss | timeout | again => cases hv
  | _ => exact Or.inl hv

/-- The error of a response, when that is what was read. -/
theorem readResponse_replayer {response : Option Response} {m : String}
    (h : readResponse fromBytes response = .error (.replayer m)) :
    ∃ resp description, response = some resp ∧ resp.error = some description ∧
      m = truncate description := by
  unfold readResponse at h
  split at h
  · cases h
  · rename_i resp
    split at h
    · cases h
    · split at h
      · rename_i description herr
        cases h
        exact ⟨resp, description, rfl, herr, rfl⟩
      · split at h
        · cases h
        · obtain ⟨_, ⟨⟩⟩ := RawReply.parse_error fromBytes _ _ h

/-- Without an error of the observer, a fetch fails with what its result says. -/
theorem verdict_none_replayer {cls : RecordClass} {r : FetchResult} {m : String}
    (h : verdict cls none r = .ok (.error (.replayer m))) : r = .error (.replayer m) := by
  cases r with
  | error e =>
    cases h
    rfl
  | ok raw =>
    unfold verdict at h
    obtain ⟨decoded, hdecoded, hmap⟩ := bind_eq_ok.mp h
    cases decoded with
    | ok reply => cases hmap
    | error e =>
      obtain ⟨message, rfl⟩ := Reply.decode_error raw e hdecoded
      cases hmap

/-- A fetch that fails at its last check fails with its own error. -/
theorem Coherent.ownError (hco : Coherent fromBytes errors tr s)
    (hu : Unblamed cause tr s) (hc : s.calls[f]? = some c) (hpc : c.finished = false)
    {r : FetchResult} (hr : c.result = some r) {m : String}
    (hv : verdict c.cls (firstErrorSince s.errors c.mark) r = .ok (.error (.replayer m))) :
    OwnError cause (tr ++ [.observerCheck f]) s f c m := by
  rw [firstErrorSince_eq] at hv
  cases hdrop : s.errors.drop c.mark with
  | cons m' rest =>
    have hget : s.errors[c.mark]? = some m' := by
      rw [← List.head?_drop, hdrop]
      rfl
    rw [hdrop] at hv
    cases hv
    exact Or.inl ⟨hget, hu.waiting f c hc hpc (List.getElem?_eq_some_iff.mp hget).1⟩
  | nil =>
    rw [hdrop] at hv
    obtain rfl := verdict_none_replayer hv
    rcases hco.collected hc hr with h | ⟨i, inv, hfirst, _, _, _, _, hmem, hread | ⟨m', hm', _⟩⟩
    · cases h
    · obtain ⟨resp, description, hresp, herr, hm⟩ := readResponse_replayer hread.symm
      rw [hresp] at hmem
      exact Or.inr ⟨tr, [], i, resp, description, rfl, hfirst, hmem, herr, hm⟩
    · rw [hdrop] at hm'
      cases hm'

/-- An error that is its own stays its own. -/
theorem OwnError.later {m : String} (h : OwnError cause tr s f c m) (htr : tr <+: tr')
    (herr : s.errors <+: s'.errors) (hmark : c'.mark = c.mark) : OwnError cause tr' s' f c' m := by
  rcases h with ⟨hget, hcause⟩ | ⟨pre, post, i, response, description, rfl, hrest⟩
  · rw [← hmark] at hget hcause
    obtain ⟨rest, hrest⟩ := herr
    refine Or.inl ⟨?_, hcause⟩
    rw [← hrest, List.getElem?_append_left (List.getElem?_eq_some_iff.mp hget).1, hget]
  · obtain ⟨rest, rfl⟩ := htr
    exact Or.inr ⟨pre, post ++ rest, i, response, description, by simp, hrest⟩

theorem unblamed_begin {cls : RecordClass} {requests timeout : Nat} {setup : Option String}
    (h : step fromBytes s (.begin cls requests setup timeout) = some s')
    (hu : Unblamed cause tr s) :
    Unblamed cause (tr ++ [.begin cls requests setup timeout]) s' := by
  obtain ⟨c₀, cell, hcalled, rfl⟩ := step_begin h
  have herr : s.errors <+: (s.addCall cell c₀).errors := List.prefix_rfl
  refine ⟨fun f c hc hpc hmark => ?_, fun f c m hc hpc => ?_⟩
  · rcases getElem?_addCall hc with hc | ⟨rfl, rfl⟩
    · exact hu.waiting f c hc hpc hmark
    · rcases hcalled.place with ⟨_, _, _, hlen⟩ | ⟨_, _, _, value, hret, _⟩
      · have hmark' : c.mark < s.errors.length := hmark
        omega
      · unfold Call.finished at hpc
        rw [hret] at hpc
        cases hpc
  · rcases getElem?_addCall hc with hc | ⟨rfl, rfl⟩
    · exact (hu.failed f c m hc hpc).later (List.prefix_append ..) herr rfl
    · rcases hcalled.place with ⟨_, hmarked, _⟩ | ⟨_, _, _, value, hret, h | ⟨_, h⟩⟩
      · rw [hmarked] at hpc
        cases hpc
      · rw [hret, h] at hpc
        cases hpc
      · rw [hret, h] at hpc
        cases hpc

/-- A step keeps every fetch free of the errors of others, unless it reports an error that
    disturbs one. -/
theorem unblamed_step (hco : Coherent fromBytes errors tr s) (h : step fromBytes s e = some s')
    (hq : ∀ n, e = .report n → Undisturbed cause s) (hu : Unblamed cause tr s) :
    Unblamed cause (tr ++ [e]) s' := by
  cases he : e.isBegin with
  | true =>
    cases e with
    | begin => exact unblamed_begin h hu
    | _ => cases he
  | false =>
    have ha := hco.advances h he
    have herr : s.errors <+: s'.errors := ha.errors ▸ List.prefix_append ..
    refine ⟨fun f c' hc' hpc' hmark' => ?_, fun f c' m hc' hpc' => ?_⟩
    · obtain ⟨c, hc, hl⟩ := ha.fetch f c' hc'
      have hpc : c.finished = false := hl.unfinished hpc'
      have hmark : c'.mark = c.mark := hl.kept.2.1
      rw [hmark] at hmark' ⊢
      by_cases hold : c.mark < s.errors.length
      · exact hu.waiting f c hc hpc hold
      · -- the error that is reported now is the first one behind the mark
        cases e with
        | report n =>
          rw [ha.errors, List.length_append] at hmark'
          have hlen : (reports [Event.report n]).length = 1 := rfl
          have heq : c.mark = s.errors.length := by omega
          rcases hq n rfl f c hc hpc with h | h
          · rw [heq, ← h]
          · exact absurd h hold
        | _ =>
          rw [ha.errors] at hmark'
          exact absurd (by simpa [reports] using hmark') hold
    · obtain ⟨c, hc, hl⟩ := ha.fetch f c' hc'
      have hmark : c'.mark = c.mark := hl.kept.2.1
      rcases hl.returning hpc' with hpc | h | ⟨r, rfl, hpc, hr, hv⟩
      · exact (hu.failed f c m hc hpc).later (List.prefix_append ..) herr hmark
      · cases h
      · exact (hco.ownError hu hc hpc hr hv).later List.prefix_rfl herr hmark

/-! ## Runs -/

theorem unblamed_init : Unblamed cause [] (State.init errors) :=
  ⟨fun _ _ hc => (by cases hc), fun _ _ _ hc => (by cases hc)⟩

theorem UndisturbedRun.prefix (h : UndisturbedRun cause fromBytes errors (tr ++ [e])) :
    UndisturbedRun cause fromBytes errors tr := by
  rintro pre n post s rfl hs
  exact h pre n (post ++ [e]) s (by simp) hs

/-- In a run without disturbing reports no fetch is blamed for the error of another one. -/
theorem unblamed_run (h : Trace.run (step fromBytes) (State.init errors) tr = some s)
    (hq : UndisturbedRun cause fromBytes errors tr) : Unblamed cause tr s := by
  refine Trace.run_induction
    (P := fun tr s => UndisturbedRun cause fromBytes errors tr → Unblamed cause tr s)
    (fun _ => unblamed_init) ?_ h hq
  intro tr s e s' hs hu hstep hq
  refine unblamed_step (coherent_run hs) hstep (fun n hn => ?_) (hu hq.prefix)
  exact hq tr n [] s (by rw [hn]) hs

/-- The errors of a run are those of a part of it, and those reported behind that part. -/
theorem Coherent.errors_append {tr' : List Event} (hco : Coherent fromBytes errors tr s)
    (hco' : Coherent fromBytes errors (tr ++ tr') s') : s'.errors = s.errors ++ reports tr' := by
  rw [hco'.errors, hco.errors, reports_append, List.append_assoc]

/-- A fetch that is under way, without an error behind its mark, when an error is reported,
    returns that error at its last check. -/
theorem disturbed_fails {pre mid post : List Event} {n : Notification} {s₁ : State}
    (h : Trace.run (step fromBytes) (State.init errors)
      (pre ++ .report n :: (mid ++ .observerCheck f :: post)) = some s)
    (h₁ : Trace.run (step fromBytes) (State.init errors) pre = some s₁)
    (hc : s₁.calls[f]? = some c) (hmark : ¬ c.mark < errorCount s₁.errors) :
    ∃ c', s.calls[f]? = some c' ∧ c'.pc = .returned (.error (.replayer n.message)) ∧
      c'.mark = s₁.errors.length ∧ s.errors[s₁.errors.length]? = some n.message := by
  obtain ⟨s₁', s₂, h₁', h₂, h⟩ := Trace.run_split h
  obtain rfl := Option.some.inj (h₁.symm.trans h₁')
  obtain ⟨s₃, s₄, h₃, h₄, h⟩ := Trace.run_split h
  have hco₁ := coherent_run h₁
  obtain ⟨hco₃, hlater₃⟩ := (coherent_step hco₁ h₂).run h₃
  obtain ⟨hco, hlater⟩ := (coherent_step hco₃ h₄).run h
  obtain ⟨c₂, hc₂, ⟨-, hmark₂, -⟩, -⟩ := (hco₁.later h₂).calls f c hc
  obtain ⟨c₃, hc₃, ⟨-, hmark₃, -⟩, -⟩ := hlater₃.calls f c₂ hc₂
  obtain ⟨r, value, c₄, -, -, hv, hc₄, hpc₄⟩ := hco₃.answered h₄ hc₃
  obtain ⟨c₄', hc₄', ⟨-, hmark₄, -⟩, -⟩ := (hco₃.later h₄).calls f c₃ hc₃
  obtain rfl := Option.some.inj (hc₄.symm.trans hc₄')
  obtain ⟨c', hc', ⟨-, hmark', -⟩, hret⟩ := hlater.calls f c₄ hc₄
  -- the error is the first one behind the mark
  have heq : c.mark = s₁.errors.length := by
    have hle : c.mark ≤ s₁.errors.length := (hco₁.fetch f c hc).placed.mark_le
    unfold errorCount at hmark
    omega
  rw [List.append_assoc] at hco₃
  have herr₃ : s₃.errors = s₁.errors ++ n.message :: reports mid := hco₁.errors_append hco₃
  rw [hmark₃, hmark₂, heq, herr₃, List.drop_left] at hv
  cases hv
  refine ⟨c', hc', hret _ hpc₄, by rw [hmark', hmark₄, hmark₃, hmark₂, heq], ?_⟩
  rw [List.append_assoc, List.append_assoc] at hco
  have herr : s.errors = s₁.errors ++ n.message :: reports (mid ++ [.observerCheck f] ++ post) := by
    rw [hco₁.errors_append (by simpa using hco)]
    simp [reports]
  rw [herr]
  simp

/-- In every run, whatever fetch each error is caused by:
    - when every error is reported while the only fetch under way that has no error behind its
      mark is the one that caused it, a fetch returns `Replayer` with an error that it caused;
    - a fetch that is under way without an error behind its mark when the error of another
      fetch is reported, and that goes on to its last check, returns that error. -/
theorem replayer_error_is_own (cause : Nat → Nat)
    (h : Trace.run (step fromBytes) (State.init errors) tr = some s) :
    (UndisturbedRun cause fromBytes errors tr →
      ∀ (f : Nat) (c : Call) m, s.calls[f]? = some c →
        c.pc = .returned (.error (.replayer m)) → OwnError cause tr s f c m) ∧
    (∀ pre n mid post s₁ f c, tr = pre ++ .report n :: (mid ++ .observerCheck f :: post) →
      Trace.run (step fromBytes) (State.init errors) pre = some s₁ → s₁.calls[f]? = some c →
      ¬ (f = cause s₁.errors.length ∨ c.mark < errorCount s₁.errors) →
      ∃ c', s.calls[f]? = some c' ∧ c'.pc = .returned (.error (.replayer n.message)) ∧
        s.errors[c'.mark]? = some n.message ∧ cause c'.mark ≠ f) := by
  refine ⟨fun hq => (unblamed_run h hq).failed, ?_⟩
  rintro pre n mid post s₁ f c rfl h₁ hc hno
  obtain ⟨hcause, hmark⟩ := not_or.mp hno
  obtain ⟨c', hc', hpc, hmark', herr⟩ := disturbed_fails h h₁ hc hmark
  rw [← hmark'] at herr hcause
  exact ⟨c', hc', hpc, herr, Ne.symm hcause⟩

end Steps

/-! ## A late error -/

/-- A reply without records. -/
def emptyEnvelope : Value :=
  let payload := [("NS.keys", .array [.string "unknown", .string "info", .string "data"]),
    ("NS.objects", .array [.dictionary [("NS.objects", .array [])], .data [], .data []])]
  .dictionary [("$objects", .array []), ("$top", .dictionary [("root", .dictionary payload)])]

/-- Its binary plist. -/
def emptyReplyFile : Bytes :=
  [0x62, 0x70, 0x6c, 0x69, 0x73, 0x74, 0x30, 0x30, 0xd2, 0x01, 0x02, 0x03, 0x04, 0x58, 0x24, 0x6f,
    0x62, 0x6a, 0x65, 0x63, 0x74, 0x73, 0x54, 0x24, 0x74, 0x6f, 0x70, 0xa0, 0xd1, 0x05, 0x06, 0x54,
    0x72, 0x6f, 0x6f, 0x74, 0xd2, 0x07, 0x08, 0x09, 0x0d, 0x57, 0x4e, 0x53, 0x2e, 0x6b, 0x65, 0x79,
    0x73, 0x5a, 0x4e, 0x53, 0x2e, 0x6f, 0x62, 0x6a, 0x65, 0x63, 0x74, 0x73, 0xa3, 0x0a, 0x0b, 0x0c,
    0x57, 0x75, 0x6e, 0x6b, 0x6e, 0x6f, 0x77, 0x6e, 0x54, 0x69, 0x6e, 0x66, 0x6f, 0x54, 0x64, 0x61,
    0x74, 0x61, 0xa3, 0x0e, 0x10, 0x10, 0xd1, 0x08, 0x0f, 0xa0, 0x40, 0x08, 0x0d, 0x16, 0x1b, 0x1c,
    0x1f, 0x24, 0x29, 0x31, 0x3c, 0x40, 0x48, 0x4d, 0x52, 0x56, 0x59, 0x5a, 0x00, 0x00, 0x00, 0x00,
    0x00, 0x00, 0x01, 0x01, 0x00, 0x00, 0x00, 0x00, 0x00, 0x00, 0x00, 0x11, 0x00, 0x00, 0x00, 0x00,
    0x00, 0x00, 0x00, 0x00, 0x00, 0x00, 0x00, 0x00, 0x00, 0x00, 0x00, 0x5b]

def cleanResponse : Response :=
  { respondsToData := true, respondsToError := true, error := none, data := some emptyReplyFile }

/-- A fetch that times out, and whose error is reported while the next fetch waits, after the
    batch of that one was answered with a reply. -/
def lateErrorRun : List Event :=
  [fetchTextures 1 none 5, .arm 0, .dispatch 0, .token 0 true, .deadline 0 0, .slotCheck 0,
    .clockCheck 0 7, .observerCheck 0,
    fetchBuffers 1 none 5, .arm 1, .dispatch 1, .token 1 true, .deadline 1 8,
    .invoke 1 0 (some cleanResponse), .completionCheck 1 0, .take 1 0, .store 1 0,
    .report (.nsObject "late"), .slotCheck 1, .observerCheck 1]

def refusedResponse : Response :=
  { respondsToData := true, respondsToError := true, error := some "refused", data := none }

/-- A fetch whose error is reported while it waits, and one that is answered with an error. -/
def ownErrorsRun : List Event :=
  [fetchTextures 1 none 5, .arm 0, .dispatch 0, .token 0 true, .deadline 0 0,
    .report (.nsObject "mine"), .slotCheck 0, .clockCheck 0 7, .observerCheck 0,
    fetchBuffers 1 none 5, .arm 1, .dispatch 1, .token 1 true, .deadline 1 8,
    .invoke 1 0 (some refusedResponse), .completionCheck 1 0, .take 1 0, .store 1 0,
    .slotCheck 1, .observerCheck 1]

theorem reports_once {pre pre' post post' : List Event} {n n' : Notification}
    (hone : (reports tr).length ≤ 1) (h : tr = pre ++ .report n :: post)
    (h' : tr = pre' ++ .report n' :: post') : pre = pre' :=
  Trace.once_at hone h rfl h' rfl

theorem attributed_lateErrorRun : Attributed (fun _ => 0) [] lateErrorRun := by
  intro pre n post h
  obtain rfl : pre = lateErrorRun.take 17 :=
    @reports_once lateErrorRun pre _ post [.slotCheck 1, .observerCheck 1] n (.nsObject "late")
      (by decide) h rfl
  simp [lateErrorRun]

theorem undisturbed_ownErrorsRun :
    UndisturbedRun (fun _ => 0) (decodesTo emptyReplyFile emptyEnvelope) [] ownErrorsRun := by
  intro pre n post s h hs f c hc _
  obtain rfl : pre = ownErrorsRun.take 5 :=
    @reports_once ownErrorsRun pre _ post (ownErrorsRun.drop 6) n (.nsObject "mine") (by decide) h
      rfl
  obtain rfl := Option.some.inj (hs.symm.trans rfl)
  left
  have hlt := (List.getElem?_eq_some_iff.mp hc).1
  exact Nat.lt_one_iff.mp hlt

/-- The first fetch of one run and both fetches of the other return their own errors, and the
    second fetch of the first run returns the error of another. -/
theorem replayer_error_is_own_lateErrorRun :
    (∃ s c c', Trace.run (step (decodesTo emptyReplyFile emptyEnvelope)) (State.init [])
        ownErrorsRun = some s ∧
      s.calls[0]? = some c ∧ c.pc = .returned (.error (.replayer "mine")) ∧
      OwnError (fun _ => 0) ownErrorsRun s 0 c "mine" ∧
      s.calls[1]? = some c' ∧ c'.pc = .returned (.error (.replayer "refused")) ∧
      OwnError (fun _ => 0) ownErrorsRun s 1 c' "refused") ∧
    ∃ s c, Trace.run (step (decodesTo emptyReplyFile emptyEnvelope)) (State.init [])
        lateErrorRun = some s ∧
      s.calls[1]? = some c ∧ c.pc = .returned (.error (.replayer "late")) := by
  constructor
  · have hown := (@replayer_error_is_own (decodesTo emptyReplyFile emptyEnvelope) [] ownErrorsRun _
      (fun _ => 0) rfl).1 undisturbed_ownErrorsRun
    exact ⟨_, _, _, rfl, rfl, rfl, hown 0 _ _ rfl rfl, rfl, rfl, hown 1 _ _ rfl rfl⟩
  · have h := (@replayer_error_is_own (decodesTo emptyReplyFile emptyEnvelope) [] lateErrorRun _
      (fun _ => 0) rfl).2 (lateErrorRun.take 17) (.nsObject "late") [.slotCheck 1] [] _ 1 _ rfl
      rfl rfl (by decide)
    obtain ⟨c, hc, hpc, -⟩ := h
    exact ⟨_, c, rfl, hc, hpc⟩

/-- The second fetch fails with the error of the first one. -/
theorem late_error_is_blamed :
    ∃ s c, Trace.run (step (decodesTo emptyReplyFile emptyEnvelope)) (State.init [])
        lateErrorRun = some s ∧
      Attributed (fun _ => 0) [] lateErrorRun ∧
      s.calls[1]? = some c ∧ c.pc = .returned (.error (.replayer "late")) ∧
      ¬ OwnError (fun _ => 0) lateErrorRun s 1 c "late" := by
  refine ⟨_, _, rfl, attributed_lateErrorRun, rfl, rfl, ?_⟩
  rintro (⟨-, hcause⟩ | ⟨pre, post, i, response, description, htr, -, hmem, herr, -⟩)
  · cases hcause
  · have hmem : .invoke 1 i (some response) ∈ lateErrorRun := htr ▸ List.mem_append_left _ hmem
    simp [lateErrorRun, fetchTextures, fetchBuffers] at hmem
    rw [hmem.2] at herr
    cases herr

end GputoolsReplay
