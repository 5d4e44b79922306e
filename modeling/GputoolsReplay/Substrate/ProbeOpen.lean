/-
  `Session::open` of the probes (`probes/src/session.rs`, `guard.rs`), which the crate's was ported
  from, called by any number of threads at once. The variable `PROBE_TOLERATE_REPLAYER_ERRORS`
  makes it go on behind an error of `load:` and behind what the observer heard.

  * `Probe.OpenState.step`: one event of the process.
  * `OpenError.ported`: the crate's error for each of the probes'.
  * `Probe.opens_match`: the crate's process on the same events.
-/
import GputoolsReplay.Lib.Simulation
import GputoolsReplay.Substrate.ProbeFetch
import GputoolsReplay.Substrate.SessionOnce

namespace GputoolsReplay.Probe

open RustSem

/-! ## The checks before the flag -/

/-- `GuardError`. -/
inductive GuardError where
  | missingBundle (path : String)
  | notACaptureBundle (path missing : String)
  deriving DecidableEq, Repr

/-- The text of a `GuardError`. -/
def GuardError.text : GuardError → String
  | .missingBundle path => s!"no capture bundle at {path}"
  | .notACaptureBundle path missing => s!"{path} is not a capture bundle: it has no {missing} file"

/-- `SessionError`, of `open`. -/
inductive OpenError where
  | aprInit (code : Int32)
  | aprPool (code : Int32)
  | serviceClassMissing
  | serviceInit
  | loadFailed (bundle : String)
  | replayerError (message : String)
  | badPath (display : String)
  | alreadyOpen
  | unlockEnv (e : UnlockEnvError)
  | guard (e : GuardError)
  deriving DecidableEq, Repr

/-- `REQUIRED_ENTRIES` of the guard. -/
def requiredEntries : List String := ["index", "metadata"]

/-- `check_bundle_shape` of the guard. -/
def checkBundleShape (bundle : BundlePath) (dir : BundleDir) : Except GuardError Unit :=
  if !dir.pathExists then .error (.missingBundle bundle.display)
  else
    forM requiredEntries fun entry =>
      if !dir.isFile entry then .error (.notACaptureBundle bundle.display entry) else return ()

/-- `bundle.to_str()`, with the error for a path that is not UTF-8. -/
def checkUtf8 (bundle : BundlePath) : Except OpenError String :=
  match bundle.toStr with
  | some path => .ok path
  | none => .error (.badPath bundle.display)

/-! ## Calls -/

/-- Where a call of `open` stands. -/
inductive OpenPc where
  | called
  | shaped
  | named (path : String)
  | unlocked (path : String)
  | swapped (path : String)
  | aprReady (path : String)
  | pooled (path : String)
  | initialised (path : String)
  | observed (path : String)
  | classed (path : String)
  | serviced (path : String)
  | loaded (path : String) (ok : Bool)
  | returned (result : Except OpenError Unit)
  deriving DecidableEq

/-- A call of `open`. -/
structure OpenCall where
  bundle : BundlePath
  errors : Option (List String)
  pc : OpenPc
  deriving DecidableEq

/-- `?`. -/
def OpenPc.attempt {α : Type} (result : Except OpenError α) (next : α → OpenPc) : OpenPc :=
  match result with
  | .ok a => next a
  | .error e => .returned (.error e)

/-- The end of `load_bundle`: `load:error:` answered `ok` and maybe an error. -/
def loadBundle (tolerate ok : Bool) : Option String → Except OpenError Bool
  | some description => if tolerate then .ok ok else .error (.replayerError (truncate description))
  | none => .ok ok

/-- The end of `open`, from the first error that the observer heard. -/
def openResult (tolerate ok : Bool) (path : String) (observed : Option String) :
    Except OpenError Unit :=
  match observed with
  | some message =>
    if tolerate then (if ok then .ok () else .error (.loadFailed path))
    else .error (.replayerError message)
  | none => if ok then .ok () else .error (.loadFailed path)

/-- One step of a call of `open`. `tolerate` is whether `PROBE_TOLERATE_REPLAYER_ERRORS` is `"1"`,
    and `described` what the object of a report answers to `-description`. -/
def OpenCall.act (tolerate bootstrapped : Bool) (c : OpenCall)
    (described : Option (Option String)) : OpenAction → Option (Bool × OpenCall)
  | .shape dir =>
    match c.pc with
    | .called =>
      let result := (checkBundleShape c.bundle dir).mapError OpenError.guard
      some (bootstrapped, { c with pc := .attempt result fun _ => .shaped })
    | _ => none
  | .utf8 =>
    match c.pc with
    | .shaped => some (bootstrapped, { c with pc := .attempt (checkUtf8 c.bundle) .named })
    | _ => none
  | .env found =>
    match c.pc with
    | .named path =>
      let result := (checkUnlockEnv found).mapError OpenError.unlockEnv
      some (bootstrapped, { c with pc := .attempt result fun _ => .unlocked path })
    | _ => none
  | .swap =>
    match c.pc with
    | .unlocked path =>
      let result := if bootstrapped then .error .alreadyOpen else .ok path
      some (true, { c with pc := .attempt result .swapped })
    | _ => none
  | .aprInitialize rc =>
    match c.pc with
    | .swapped path =>
      let result := if rc ≠ 0 then .error (.aprInit rc) else .ok path
      some (bootstrapped, { c with pc := .attempt result .aprReady })
    | _ => none
  | .aprPoolCreate rc isNull =>
    match c.pc with
    | .aprReady path =>
      let result := if rc ≠ 0 ∨ isNull then .error (.aprPool rc) else .ok path
      some (bootstrapped, { c with pc := .attempt result .pooled })
    | _ => none
  | .clientInit =>
    match c.pc with
    | .pooled path => some (bootstrapped, { c with pc := .initialised path })
    | _ => none
  | .registerObserver =>
    match c.pc with
    | .initialised path => some (bootstrapped, { c with errors := some [], pc := .observed path })
    | _ => none
  | .getClass registered =>
    match c.pc with
    | .observed path =>
      let result := if registered then .ok path else .error .serviceClassMissing
      some (bootstrapped, { c with pc := .attempt result .classed })
    | _ => none
  | .initService isNull =>
    match c.pc with
    | .classed path =>
      let result := if isNull then .error .serviceInit else .ok path
      some (bootstrapped, { c with pc := .attempt result .serviced })
    | _ => none
  | .load ok error =>
    match c.pc with
    | .serviced path =>
      some (bootstrapped, { c with pc := .attempt (loadBundle tolerate ok error) (.loaded path) })
    | _ => none
  | .observerCheck =>
    match c.pc with
    | .loaded path ok =>
      let observed := c.errors.bind fun errors => firstErrorSince errors 0
      some (bootstrapped, { c with pc := .returned (openResult tolerate ok path observed) })
    | _ => none
  | .report _ =>
    match c.errors with
    | some errors =>
      some (bootstrapped, { c with errors := some (record errors (message described)) })
    | none => none

/-! ## The process -/

/-- The process-global flag, and the calls of `open` so far. -/
structure OpenState where
  bootstrapped : Bool
  calls : List OpenCall

def OpenState.init : OpenState := { bootstrapped := false, calls := [] }

/-- One event of the process, if it can happen: an event of the crate's, and what the object of a
    report answers to `-description`. -/
def OpenState.step (tolerate : Bool) (t : OpenState) :
    OpenEvent × Option (Option String) → Option OpenState
  | (.begin bundle, _) =>
    some { t with calls := t.calls ++ [{ bundle, errors := none, pc := .called }] }
  | (.act i a, described) => do
    let d ← t.calls[i]?
    let (bootstrapped, d') ← d.act tolerate t.bootstrapped described a
    return { bootstrapped, calls := t.calls.set i d' }

/-! ## The two calls side by side -/

/-- The crate's error. Those of its errors that carry a text have the text of the probes' error. -/
def OpenError.ported : OpenError → GputoolsReplay.SessionError
  | .aprInit code | .aprPool code => .apr code
  | .serviceClassMissing =>
    .replayer "the GTMTLReplayService class is not registered; GPUToolsReplay did not load"
  | .serviceInit => .replayer "GTMTLReplayService could not be constructed"
  | .loadFailed bundle => .loadFailed bundle
  | .replayerError message => .replayer message
  | .badPath display => .badBundle s!"bundle path {display} is not valid UTF-8"
  | .alreadyOpen => .alreadyOpen
  | .unlockEnv e => .unlockEnv e
  | .guard e => .badBundle e.text

/-- The place of the crate's call. -/
def OpenPc.ported : OpenPc → GputoolsReplay.OpenPc
  | .called => .called
  | .shaped => .shaped
  | .named path => .named path
  | .unlocked path => .unlocked path
  | .swapped path => .swapped path
  | .aprReady path => .aprReady path
  | .pooled path => .pooled path
  | .initialised path => .initialised path
  | .observed path => .observed path
  | .classed path => .classed path
  | .serviced path => .serviced path
  | .loaded path ok => .loaded path ok
  | .returned result => .returned (result.mapError OpenError.ported)

/-- The first message of an observer. -/
def firstHeard (errors : Option (List String)) : Option String := errors.bind List.head?

/-- Where two calls stand, given what their observers heard: at the same place, or both at an error
    for what they heard, or the probes' further on where it tolerates what ended the crate's. -/
inductive SamePlace (tolerate : Bool) (errors errors' : Option (List String)) :
    OpenPc → GputoolsReplay.OpenPc → Prop where
  | ported {pc : OpenPc} : SamePlace tolerate errors errors' pc pc.ported
  | heard {m m' : String} : firstHeard errors = some m → firstHeard errors' = some m' →
      SamePlace tolerate errors errors' (.returned (.error (.replayerError m)))
        (.returned (.error (.replayer m')))
  | tolerated {path m : String} {ok : Bool} : tolerate = true →
      SamePlace tolerate errors errors' (.loaded path ok) (.returned (.error (.replayer m)))
  | opened {path m : String} {ok : Bool} : tolerate = true →
      SamePlace tolerate errors errors'
        (.returned (if ok then .ok () else .error (.loadFailed path)))
        (.returned (.error (.replayer m)))

/-- A call of the probes' and one of the crate's. -/
structure SameOpening (tolerate : Bool) (d : OpenCall) (c : GputoolsReplay.OpenCall) : Prop where
  bundle : d.bundle = c.bundle
  errors : Option.Rel (fun l l' => l.length = l'.length) d.errors c.errors
  place : SamePlace tolerate d.errors c.errors d.pc c.pc

section Calls

variable {tolerate flag flag' : Bool} {errors errors' : Option (List String)}
  {d d' : OpenCall} {c : GputoolsReplay.OpenCall} {a : OpenAction}
  {described : Option (Option String)}

theorem checkBundleShape_ported (bundle : BundlePath) (dir : BundleDir) :
    GputoolsReplay.checkBundleShape bundle dir =
      ((checkBundleShape bundle dir).mapError OpenError.guard).mapError OpenError.ported := by
  unfold GputoolsReplay.checkBundleShape checkBundleShape
  cases dir.pathExists with
  | false => rfl
  | true =>
    simp only [GputoolsReplay.requiredEntries, requiredEntries, List.forM_cons, List.forM_nil]
    cases dir.isFile "index" <;> cases dir.isFile "metadata" <;> rfl

theorem checkUtf8_ported (bundle : BundlePath) :
    GputoolsReplay.checkUtf8 bundle = (checkUtf8 bundle).mapError OpenError.ported := by
  unfold GputoolsReplay.checkUtf8 checkUtf8
  cases bundle.toStr <;> rfl

theorem checkUnlockEnv_ported (found : Option String) :
    (checkUnlockEnv found).mapError GputoolsReplay.SessionError.unlockEnv =
      ((checkUnlockEnv found).mapError OpenError.unlockEnv).mapError OpenError.ported := by
  cases checkUnlockEnv found <;> rfl

theorem SamePlace.of_eq {pc : OpenPc} {pc' : GputoolsReplay.OpenPc} (h : pc' = pc.ported) :
    SamePlace tolerate errors errors' pc pc' := h ▸ .ported

/-- A call of the probes' that has not come to the end of `load:` is matched in its place. -/
theorem SamePlace.running {pc : OpenPc} {pc' : GputoolsReplay.OpenPc}
    (h : SamePlace tolerate errors errors' pc pc') (hload : ∀ path ok, pc ≠ .loaded path ok)
    (hret : ∀ result, pc ≠ .returned result) : pc' = pc.ported := by
  cases h with
  | ported => rfl
  | tolerated => exact absurd rfl (hload _ _)
  | heard | opened => exact absurd rfl (hret _)

/-- The next place, when both go on with the same result. -/
theorem SamePlace.attempt {α : Type} {result : Except OpenError α}
    {result' : Except GputoolsReplay.SessionError α} {next : α → OpenPc}
    {next' : α → GputoolsReplay.OpenPc} (hresult : result' = result.mapError OpenError.ported)
    (hnext : ∀ x, next' x = (next x).ported) :
    SamePlace tolerate errors errors' (.attempt result next) (.attempt result' next') := by
  subst hresult
  apply SamePlace.of_eq
  cases result with
  | ok x => exact hnext x
  | error e => rfl

/-- A session of the crate's is one of the probes'; the other way round unless the probes tolerate
    what the crate's call ended with. -/
theorem SamePlace.session {pc : OpenPc} {pc' : GputoolsReplay.OpenPc}
    (h : SamePlace tolerate errors errors' pc pc') :
    (pc' = .returned (.ok ()) → pc = .returned (.ok ())) ∧
      (pc = .returned (.ok ()) → pc' = .returned (.ok ()) ∨
        tolerate = true ∧ ∃ m, pc' = .returned (.error (.replayer m))) := by
  cases h with
  | ported =>
    refine ⟨fun h => ?_, fun h => Or.inl (by rw [h]; rfl)⟩
    cases pc with
    | returned result => cases result <;> simp_all [OpenPc.ported, Except.mapError]
    | _ => cases h
  | heard | tolerated => exact ⟨nofun, nofun⟩
  | opened htol => exact ⟨nofun, fun _ => Or.inr ⟨htol, _, rfl⟩⟩

/-! ## One step -/

/-- What a step of the probes' call is matched by: the same step of the crate's, or nothing. -/
def Follows (tolerate flag flag' : Bool) (d' : OpenCall) (c : GputoolsReplay.OpenCall)
    (a : OpenAction) : Prop :=
  (tolerate = true ∧ a = .observerCheck ∧ flag' = flag ∧ SameOpening tolerate d' c) ∨
    ∃ c', c.act flag a = some (flag', c') ∧ SameOpening tolerate d' c'

/-- A step that goes on with the result of a check, where nothing is tolerated. -/
theorem SameOpening.attempt {α : Type} {result : Except OpenError α}
    {result' : Except GputoolsReplay.SessionError α} {next : α → OpenPc}
    {next' : α → GputoolsReplay.OpenPc} (h : SameOpening tolerate d c)
    (hresult : result' = result.mapError OpenError.ported)
    (hnext : ∀ x, next' x = (next x).ported) :
    SameOpening tolerate { d with pc := .attempt result next }
      { c with pc := .attempt result' next' } :=
  ⟨h.bundle, h.errors, .attempt hresult hnext⟩

/-- Two lists of messages of one length are both empty or both start with a message. -/
theorem firstHeard_rel (h : Option.Rel (fun l l' => l.length = l'.length) errors errors') :
    (firstHeard errors = none ∧ firstHeard errors' = none) ∨
      ∃ m m', firstHeard errors = some m ∧ firstHeard errors' = some m' := by
  cases h with
  | none => exact Or.inl ⟨rfl, rfl⟩
  | @some l l' hlen =>
    match l, l' with
    | [], [] => exact Or.inl ⟨rfl, rfl⟩
    | m :: _, m' :: _ => exact Or.inr ⟨m, m', rfl, rfl⟩

theorem firstErrorSince_zero (errors : Option (List String)) :
    (errors.bind fun l => firstErrorSince l 0) = firstHeard errors := by
  cases errors with
  | none => rfl
  | some l => exact firstErrorSince_eq l 0

/-- What was heard first stays what was heard first. -/
theorem firstHeard_record {l : List String} {m : String} (x : String)
    (h : firstHeard (some l) = some m) : firstHeard (some (record l x)) = some m := by
  cases l with
  | nil => cases h
  | cons first rest => exact h

theorem SamePlace.record {l l' : List String} {pc : OpenPc} {pc' : GputoolsReplay.OpenPc}
    (h : SamePlace tolerate (some l) (some l') pc pc') (x x' : String) :
    SamePlace tolerate (some (record l x)) (some (record l' x')) pc pc' := by
  cases h with
  | ported => exact .ported
  | heard hm hm' => exact .heard (firstHeard_record x hm) (firstHeard_record x' hm')
  | tolerated htol => exact .tolerated htol
  | opened htol => exact .opened htol

/-- The check of the observer. -/
theorem SameOpening.check {path : String} {ok : Bool} (h : SameOpening tolerate d c)
    (hpc : d.pc = .loaded path ok) :
    Follows tolerate flag flag
      { d with pc := .returned (openResult tolerate ok path (firstHeard d.errors)) } c
      .observerCheck := by
  have hplace := h.place
  rw [hpc] at hplace
  generalize hc : c.pc = pc' at hplace
  cases hplace with
  | tolerated htol =>
    subst htol
    refine Or.inl ⟨rfl, rfl, rfl, h.bundle, h.errors, ?_⟩
    show SamePlace _ _ _ (.returned (openResult true ok path _)) c.pc
    rw [hc]
    unfold openResult
    cases firstHeard d.errors <;> exact .opened rfl
  | ported =>
    have hact : c.act flag .observerCheck = some (flag, { c with pc := .returned (
        match firstHeard c.errors with
        | some message => .error (.replayer message)
        | none => if ok then .ok () else .error (.loadFailed path)) }) := by
      rw [← firstErrorSince_zero, GputoolsReplay.OpenCall.act, hc]
      rfl
    refine Or.inr ⟨_, hact, h.bundle, h.errors, ?_⟩
    dsimp only
    rcases firstHeard_rel h.errors with ⟨hnone, hnone'⟩ | ⟨m, m', hm, hm'⟩
    · rw [hnone, hnone']
      apply SamePlace.of_eq
      cases ok <;> rfl
    · rw [hm, hm']
      cases tolerate with
      | true => exact .opened rfl
      | false => exact .heard hm hm'

/-- The step of `load:`. -/
theorem SameOpening.load {path : String} {ok : Bool} {error : Option String}
    (h : SameOpening tolerate d c) (hc : c.pc = .serviced path) :
    Follows tolerate flag flag
      { d with pc := .attempt (loadBundle tolerate ok error) (.loaded path) } c
      (.load ok error) := by
  refine Or.inr ?_
  cases error with
  | none =>
    have hact : c.act flag (.load ok none) = some (flag, { c with pc := .loaded path ok }) := by
      rw [GputoolsReplay.OpenCall.act, hc]
      rfl
    exact ⟨_, hact, h.bundle, h.errors, .of_eq rfl⟩
  | some description =>
    have hact : c.act flag (.load ok (some description)) =
        some (flag, { c with pc := .returned (.error (.replayer (truncate description))) }) := by
      rw [GputoolsReplay.OpenCall.act, hc]
      rfl
    refine ⟨_, hact, h.bundle, h.errors, ?_⟩
    cases tolerate with
    | true => exact .tolerated rfl
    | false => exact .of_eq rfl

/-- One step of the probes' call, and of the crate's. -/
theorem act_follows (h : SameOpening tolerate d c)
    (hact : d.act tolerate flag described a = some (flag', d')) :
    Follows tolerate flag flag' d' c a := by
  cases a with
  | shape | utf8 | env | swap | aprInitialize | aprPoolCreate | getClass | initService =>
    dsimp only [OpenCall.act] at hact
    split at hact
    case h_2 => cases hact
    case h_1 hpc =>
      cases hact
      have hc := h.place.running (by simp [hpc]) (by simp [hpc])
      rw [hpc] at hc
      refine Or.inr ⟨_, by rw [GputoolsReplay.OpenCall.act, hc]; rfl, h.attempt ?_ fun _ => rfl⟩
      -- the result of the step, in both
      first
        | exact h.bundle ▸ checkBundleShape_ported ..
        | exact h.bundle ▸ checkUtf8_ported ..
        | exact checkUnlockEnv_ported ..
        | split <;> rfl
  | clientInit =>
    dsimp only [OpenCall.act] at hact
    split at hact
    case h_2 => cases hact
    case h_1 path hpc =>
      cases hact
      have hc := h.place.running (by simp [hpc]) (by simp [hpc])
      rw [hpc] at hc
      have hact : c.act flag .clientInit = some (flag, { c with pc := .initialised path }) := by
        rw [GputoolsReplay.OpenCall.act, hc]
        rfl
      exact Or.inr ⟨_, hact, h.bundle, h.errors, .of_eq rfl⟩
  | registerObserver =>
    dsimp only [OpenCall.act] at hact
    split at hact
    case h_2 => cases hact
    case h_1 path hpc =>
      cases hact
      have hc := h.place.running (by simp [hpc]) (by simp [hpc])
      rw [hpc] at hc
      have hact : c.act flag .registerObserver =
          some (flag, { c with errors := some [], pc := .observed path }) := by
        rw [GputoolsReplay.OpenCall.act, hc]
        rfl
      exact Or.inr ⟨_, hact, h.bundle, .some rfl, .of_eq rfl⟩
  | load ok error =>
    dsimp only [OpenCall.act] at hact
    split at hact
    case h_2 => cases hact
    case h_1 path hpc =>
      cases hact
      have hc := h.place.running (by simp [hpc]) (by simp [hpc])
      rw [hpc] at hc
      exact h.load hc
  | observerCheck =>
    dsimp only [OpenCall.act] at hact
    split at hact
    case h_2 => cases hact
    case h_1 path ok hpc =>
      rw [firstErrorSince_zero] at hact
      cases hact
      exact h.check hpc
  | report n =>
    dsimp only [OpenCall.act] at hact
    have herrors := h.errors
    have hplace := h.place
    split at hact
    case h_2 => cases hact
    case h_1 l hl =>
      cases hact
      rw [hl] at herrors hplace
      generalize hl' : c.errors = errors' at herrors hplace
      cases herrors with
      | @some _ l' hlen =>
        have hact : c.act flag (.report n) =
            some (flag, { c with errors := some (GputoolsReplay.record l' n.message) }) := by
          rw [GputoolsReplay.OpenCall.act, hl']
        refine Or.inr ⟨_, hact, h.bundle, .some ?_, hplace.record _ _⟩
        simp [record, hlen]

end Calls

/-! ## Runs -/

section Runs

variable {tolerate : Bool} {t t' : OpenState} {s : GputoolsReplay.OpenState}
  {e : OpenEvent × Option (Option String)} {tr : List (OpenEvent × Option (Option String))}

/-- The two processes. -/
structure SameOpens (tolerate : Bool) (t : OpenState) (s : GputoolsReplay.OpenState) : Prop where
  flag : s.bootstrapped = t.bootstrapped
  count : s.calls.length = t.calls.length
  calls : Along (SameOpening tolerate) t.calls s.calls

/-- An event is a check of the observer. -/
def IsCheck (e : OpenEvent) : Prop := ∃ i, e = .act i .observerCheck

theorem step_follows (h : SameOpens tolerate t s) (hstep : t.step tolerate e = some t') :
    ((tolerate = true ∧ IsCheck e.1) ∧ SameOpens tolerate t' s) ∨
      ∃ s', s.step e.1 = some s' ∧ SameOpens tolerate t' s' := by
  obtain ⟨e, described⟩ := e
  cases e with
  | begin bundle =>
    cases hstep
    refine Or.inr ⟨_, rfl, h.flag, by simp [h.count], ?_⟩
    exact h.calls.concat h.count ⟨rfl, .none, .of_eq rfl⟩
  | act i a =>
    obtain ⟨d, hd, hstep⟩ := Option.bind_eq_some_iff.mp hstep
    obtain ⟨⟨flag', d'⟩, hact, hstep⟩ := Option.bind_eq_some_iff.mp hstep
    cases hstep
    obtain ⟨c, hc, hsame⟩ := h.calls i d hd
    rcases act_follows hsame hact with ⟨htol, rfl, rfl, hsame'⟩ | ⟨c', hact', hsame'⟩
    · exact Or.inl ⟨⟨htol, i, rfl⟩, h.flag, by simp [h.count], h.calls.set_left hc hsame'⟩
    · refine Or.inr ⟨{ bootstrapped := flag', calls := s.calls.set i c' }, ?_, rfl,
        by simp [h.count], h.calls.set hsame' i⟩
      show (s.calls[i]? >>= _) = _
      rw [hc]
      show (c.act s.bootstrapped a >>= _) = _
      rw [h.flag, hact']
      rfl

/-- Every run of the probes' calls of `open` is matched by a run of the crate's on the same answers
    and reports; where the probes tolerate errors, the crate's run may lack checks of the observer.
    The flag is the same, and so is the place of every call, up to the error's name and to what the
    two observers wrote down; except that the probes, where they tolerate errors, go on in calls
    that the crate ends with a replayer error. So the crate returns no session that the probes do
    not, and they return the same ones where errors are not tolerated. -/
theorem opens_match (h : Trace.run (OpenState.step tolerate) OpenState.init tr = some t) :
    ∃ tr' s, tr'.Sublist (tr.map Prod.fst) ∧ (tolerate = false → tr' = tr.map Prod.fst) ∧
      Trace.run GputoolsReplay.OpenState.step GputoolsReplay.OpenState.init tr' = some s ∧
      s.bootstrapped = t.bootstrapped ∧ s.calls.length = t.calls.length ∧
      ∀ (i : Nat) (d : OpenCall), t.calls[i]? = some d → ∃ c, s.calls[i]? = some c ∧
        d.bundle = c.bundle ∧ SamePlace tolerate d.errors c.errors d.pc c.pc ∧
        (c.pc = .returned (.ok ()) → d.pc = .returned (.ok ())) ∧
        (d.pc = .returned (.ok ()) → c.pc = .returned (.ok ()) ∨
          tolerate = true ∧ ∃ message, c.pc = .returned (.error (.replayer message))) := by
  have hinit : SameOpens tolerate OpenState.init GputoolsReplay.OpenState.init :=
    ⟨rfl, rfl, fun _ _ h => (nomatch h)⟩
  obtain ⟨tr', s, hsub, hall, hrun, hsame⟩ :=
    Trace.run_simulates_skipping (fun _ _ _ _ => step_follows) hinit h
  refine ⟨tr', s, hsub, fun htol => ?_, hrun, hsame.flag, hsame.count, fun i d hd => ?_⟩
  · exact hall fun e _ hskip => Bool.noConfusion (htol.symm.trans hskip.1)
  · obtain ⟨c, hc, hopening⟩ := hsame.calls i d hd
    exact ⟨c, hc, hopening.bundle, hopening.place, hopening.place.session⟩

end Runs

/-- A call whose `load:` hands back an error, after the observer heard of it. -/
def toleratedRun : List (OpenEvent × Option (Option String)) :=
  [.begin captureBundle, .act 0 (.shape captureDir), .act 0 .utf8, .act 0 (.env (some "0")),
    .act 0 .swap, .act 0 (.aprInitialize 0), .act 0 (.aprPoolCreate 0 false), .act 0 .clientInit,
    .act 0 .registerObserver, .act 0 (.getClass true), .act 0 (.initService false),
    .act 0 (.report (.nsError "creation failed")), .act 0 (.load true (some "creation failed")),
    .act 0 .observerCheck].map fun e => (e, some (some "Code=150"))

theorem opens_match_toleratedRun :
    ∃ t tr' s, Trace.run (OpenState.step true) OpenState.init toleratedRun = some t ∧
      t.calls.map (·.pc) = [.returned (.ok ())] ∧ tr'.Sublist (toleratedRun.map Prod.fst) ∧
      Trace.run GputoolsReplay.OpenState.step GputoolsReplay.OpenState.init tr' = some s ∧
      s.bootstrapped = true ∧ s.calls.length = 1 := by
  obtain ⟨tr', s, hsub, -, hrun, hflag, hcount, -⟩ := @opens_match true _ toleratedRun rfl
  exact ⟨_, tr', s, rfl, rfl, hsub, hrun, hflag, hcount⟩

end GputoolsReplay.Probe
