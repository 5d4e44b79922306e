/-
  `Session::open` (`session.rs`), called by any number of threads at once. What the calls
  share is the one-shot flag; the file system, the environment and the framework answer each
  step as they like.

  * `OpenCall.act`: one step of a call.
  * `OpenState.step`: one event of the process.
  * `act_move`: what a step does to the flag, and how far the call gets.
  * `step_simulates`: an event is a step of a one-shot flag.
-/
import GputoolsReplay.Lib.OneShot
import GputoolsReplay.Substrate.Error
import GputoolsReplay.Substrate.Observer

namespace GputoolsReplay

open RustSem

/-! ## The checks before the flag -/

/-- `&Path`: how it is displayed, and its UTF-8 form when it has one. -/
structure BundlePath where
  display : String
  toStr : Option String
  deriving DecidableEq, Repr

/-- What the file system says of a bundle: whether the path exists, and which of its entries
    are files. -/
structure BundleDir where
  pathExists : Bool
  isFile : String → Bool

/-- `REQUIRED_ENTRIES`. -/
def requiredEntries : List String := ["index", "metadata"]

/-- `check_bundle_shape`. -/
def checkBundleShape (bundle : BundlePath) (dir : BundleDir) : Except SessionError Unit :=
  if !dir.pathExists then
    .error (.badBundle s!"no capture bundle at {bundle.display}")
  else
    forM requiredEntries fun entry =>
      if !dir.isFile entry then
        .error (.badBundle s!"{bundle.display} is not a capture bundle: it has no {entry} file")
      else return ()

/-- `bundle.to_str()`, with the error for a path that is not UTF-8. -/
def checkUtf8 (bundle : BundlePath) : Except SessionError String :=
  match bundle.toStr with
  | some path => .ok path
  | none => .error (.badBundle s!"bundle path {bundle.display} is not valid UTF-8")

/-- `check_unlock_env`. -/
def checkUnlockEnv (found : Option String) : Except UnlockEnvError Unit :=
  if found = some "0" then .ok () else .error { found }

/-! ## Calls -/

/-- Where a call of `open` stands. -/
inductive OpenPc where
  | called
  /-- The bundle has its shape. -/
  | shaped
  /-- The path is UTF-8. -/
  | named (path : String)
  /-- The environment is checked; the flag is next. -/
  | unlocked (path : String)
  /-- The flag was not set before; `apr_initialize` is next. -/
  | swapped (path : String)
  | aprReady (path : String)
  | pooled (path : String)
  /-- The client is initialised. -/
  | initialised (path : String)
  /-- The observer is registered. -/
  | observed (path : String)
  /-- The service class is registered. -/
  | classed (path : String)
  | serviced (path : String)
  /-- `load:` returned. -/
  | loaded (path : String) (ok : Bool)
  /-- `Ok` is a session. -/
  | returned (result : Except SessionError Unit)
  deriving DecidableEq

/-- A call of `open`: its argument, the errors of its observer once there is one, and its
    place. -/
structure OpenCall where
  bundle : BundlePath
  errors : Option (List String)
  pc : OpenPc
  deriving DecidableEq

/-- One step of a call, with what its surroundings answer. -/
inductive OpenAction where
  | shape (dir : BundleDir)
  | utf8
  /-- The variable, as `var_os` returns it. -/
  | env (found : Option String)
  | swap
  | aprInitialize (rc : Int32)
  | aprPoolCreate (rc : Int32) (isNull : Bool)
  | clientInit
  | registerObserver
  | getClass (registered : Bool)
  | initService (isNull : Bool)
  /-- `load:error:`, with the description of the error. -/
  | load (ok : Bool) (error : Option String)
  | observerCheck
  /-- The framework reports to the observer. -/
  | report (n : Notification)

/-- `?`: goes on with `next`, or returns the error. -/
def OpenPc.attempt {α : Type} (result : Except SessionError α) (next : α → OpenPc) : OpenPc :=
  match result with
  | .ok a => next a
  | .error e => .returned (.error e)

/-- One step of a call of `open`, on the flag and the call. -/
def OpenCall.act (bootstrapped : Bool) (c : OpenCall) : OpenAction → Option (Bool × OpenCall)
  | .shape dir =>
    match c.pc with
    | .called =>
      some (bootstrapped, { c with pc := .attempt (checkBundleShape c.bundle dir) fun _ => .shaped })
    | _ => none
  | .utf8 =>
    match c.pc with
    | .shaped => some (bootstrapped, { c with pc := .attempt (checkUtf8 c.bundle) .named })
    | _ => none
  | .env found =>
    match c.pc with
    | .named path =>
      let result := (checkUnlockEnv found).mapError SessionError.unlockEnv
      some (bootstrapped, { c with pc := .attempt result fun _ => .unlocked path })
    | _ => none
  | .swap =>
    match c.pc with
    | .unlocked path =>
      let result := if bootstrapped then .error .alreadyOpen else .ok path
      some (true, { c with pc := .attempt result .swapped })
    | _ => none
  | .aprInitialize rc =>
    match c.pc with
    | .swapped path =>
      let result := if rc ≠ 0 then .error (.apr rc) else .ok path
      some (bootstrapped, { c with pc := .attempt result .aprReady })
    | _ => none
  | .aprPoolCreate rc isNull =>
    match c.pc with
    | .aprReady path =>
      let result := if rc ≠ 0 ∨ isNull then .error (.apr rc) else .ok path
      some (bootstrapped, { c with pc := .attempt result .pooled })
    | _ => none
  | .clientInit =>
    match c.pc with
    | .pooled path => some (bootstrapped, { c with pc := .initialised path })
    | _ => none
  | .registerObserver =>
    match c.pc with
    | .initialised path => some (bootstrapped, { c with errors := some [], pc := .observed path })
    | _ => none
  | .getClass registered =>
    match c.pc with
    | .observed path =>
      let result := if registered then .ok path else .error (.replayer
        "the GTMTLReplayService class is not registered; GPUToolsReplay did not load")
      some (bootstrapped, { c with pc := .attempt result .classed })
    | _ => none
  | .initService isNull =>
    match c.pc with
    | .classed path =>
      let result := if isNull then
        .error (.replayer "GTMTLReplayService could not be constructed") else .ok path
      some (bootstrapped, { c with pc := .attempt result .serviced })
    | _ => none
  | .load ok error =>
    match c.pc with
    | .serviced path =>
      let result := match error with
        | some description => .error (.replayer (truncate description))
        | none => .ok ok
      some (bootstrapped, { c with pc := .attempt result (.loaded path) })
    | _ => none
  | .observerCheck =>
    match c.pc with
    | .loaded path ok =>
      let result := match c.errors.bind fun errors => firstErrorSince errors 0 with
        | some message => .error (.replayer message)
        | none => if ok then .ok () else .error (.loadFailed path)
      some (bootstrapped, { c with pc := .returned result })
    | _ => none
  | .report n =>
    match c.errors with
    | some errors => some (bootstrapped, { c with errors := some (record errors n.message) })
    | none => none

/-! ## The process -/

/-- The process-global flag, and the calls of `open` so far. -/
structure OpenState where
  bootstrapped : Bool
  calls : List OpenCall

def OpenState.init : OpenState := { bootstrapped := false, calls := [] }

inductive OpenEvent where
  /-- A thread calls `open`. -/
  | begin (bundle : BundlePath)
  /-- Call `t` makes a step. -/
  | act (t : Nat) (a : OpenAction)

/-- One event of the process, if it can happen. -/
def OpenState.step (s : OpenState) : OpenEvent → Option OpenState
  | .begin bundle => some { s with calls := s.calls ++ [{ bundle, errors := none, pc := .called }] }
  | .act t a => do
    let c ← s.calls[t]?
    let (bootstrapped, c') ← c.act s.bootstrapped a
    return { bootstrapped, calls := s.calls.set t c' }

/-! ## How far a call gets -/

/-- The errors of the checks. -/
def SessionError.isRejection : SessionError → Bool
  | .badBundle _ | .unlockEnv _ => true
  | _ => false

/-- The checks, the two ways of being turned away, and everything behind the swap. -/
def OpenPc.phase : OpenPc → OneShot.Phase
  | .called | .shaped | .named _ | .unlocked _ => .before
  | .returned (.error .alreadyOpen) => .refused
  | .returned (.error e) => if e.isRejection then .away else .inside
  | _ => .inside

/-- The steps of the bootstrap. -/
def OpenAction.isBootstrap : OpenAction → Bool
  | .aprInitialize _ | .aprPoolCreate .. | .clientInit | .registerObserver | .getClass _
  | .initService _ | .load .. | .observerCheck => true
  | _ => false

/-- What a step does to the flag and to the place of a call. -/
inductive OpenMove (flag : Bool) (bundle : BundlePath) :
    OpenPc → OpenAction → Bool → OpenPc → Prop where
  | shape {dir : BundleDir} : OpenMove flag bundle .called (.shape dir) flag
      (.attempt (checkBundleShape bundle dir) fun _ => .shaped)
  | utf8 : OpenMove flag bundle .shaped .utf8 flag (.attempt (checkUtf8 bundle) .named)
  | env {found : Option String} {path : String} :
      OpenMove flag bundle (.named path) (.env found) flag
        (.attempt ((checkUnlockEnv found).mapError .unlockEnv) fun _ => .unlocked path)
  | swap {path : String} : OpenMove flag bundle (.unlocked path) .swap true
      (if flag then .returned (.error .alreadyOpen) else .swapped path)
  | bootstrap {pc pc' : OpenPc} {a : OpenAction} : a.isBootstrap = true → pc.phase = .inside →
      pc'.phase = .inside → OpenMove flag bundle pc a flag pc'
  | report {pc : OpenPc} {n : Notification} : OpenMove flag bundle pc (.report n) flag pc

section Moves

variable {flag flag' : Bool} {bundle : BundlePath} {c c' : OpenCall} {a : OpenAction}

/-- An error of the bootstrap leaves the call behind the swap. -/
theorem phase_attempt {α : Type} {result : Except SessionError α} {next : α → OpenPc}
    (hnext : ∀ x, (next x).phase = .inside)
    (herr : ∀ e, result = .error e → e ≠ .alreadyOpen ∧ e.isRejection = false) :
    (OpenPc.attempt result next).phase = .inside := by
  cases result with
  | ok x => exact hnext x
  | error e =>
    obtain ⟨hne, hrej⟩ := herr e rfl
    unfold OpenPc.attempt OpenPc.phase
    cases e with
    | alreadyOpen => exact absurd rfl hne
    | _ => simp_all

/-- A step of the bootstrap stays behind the swap, and leaves the flag alone. -/
theorem act_bootstrap (ha : a.isBootstrap = true) (h : c.act flag a = some (flag', c')) :
    flag' = flag ∧ c'.bundle = c.bundle ∧ c.pc.phase = .inside ∧ c'.pc.phase = .inside := by
  cases a with
  | shape | utf8 | env | swap | report => cases ha
  | aprInitialize rc | aprPoolCreate rc isNull | getClass registered | initService isNull
  | load ok error =>
    dsimp only [OpenCall.act] at h
    split at h
    case h_2 => cases h
    case h_1 path hpc =>
      cases h
      refine ⟨rfl, rfl, by rw [hpc]; rfl, phase_attempt (fun _ => rfl) fun e he => ?_⟩
      split at he <;> cases he
      exact ⟨by simp, rfl⟩
  | clientInit | registerObserver =>
    dsimp only [OpenCall.act] at h
    split at h
    case h_2 => cases h
    case h_1 path hpc =>
      cases h
      exact ⟨rfl, rfl, by rw [hpc]; rfl, rfl⟩
  | observerCheck =>
    dsimp only [OpenCall.act] at h
    split at h
    case h_2 => cases h
    case h_1 path ok hpc =>
      cases h
      refine ⟨rfl, rfl, by rw [hpc]; rfl, ?_⟩
      dsimp only
      split
      · rfl
      · cases ok <;> rfl

/-- What a step does to the flag, and how far the call gets. -/
theorem act_move (h : c.act flag a = some (flag', c')) :
    c'.bundle = c.bundle ∧ OpenMove flag c.bundle c.pc a flag' c'.pc := by
  cases a with
  | shape dir =>
    dsimp only [OpenCall.act] at h
    split at h
    case h_2 => cases h
    case h_1 hpc =>
      cases h
      rw [hpc]
      exact ⟨rfl, OpenMove.shape⟩
  | utf8 =>
    dsimp only [OpenCall.act] at h
    split at h
    case h_2 => cases h
    case h_1 hpc =>
      cases h
      rw [hpc]
      exact ⟨rfl, OpenMove.utf8⟩
  | env found =>
    dsimp only [OpenCall.act] at h
    split at h
    case h_2 => cases h
    case h_1 path hpc =>
      cases h
      rw [hpc]
      exact ⟨rfl, OpenMove.env⟩
  | swap =>
    dsimp only [OpenCall.act] at h
    split at h
    case h_2 => cases h
    case h_1 path hpc =>
      cases h
      rw [hpc]
      have hmove : OpenMove flag c.bundle (.unlocked path) .swap true _ := OpenMove.swap
      cases flag <;> exact ⟨rfl, hmove⟩
  | report n =>
    dsimp only [OpenCall.act] at h
    split at h
    · cases h
      exact ⟨rfl, OpenMove.report⟩
    · cases h
  | _ =>
    obtain ⟨rfl, hbundle, hpc, hpc'⟩ := act_bootstrap rfl h
    exact ⟨hbundle, OpenMove.bootstrap rfl hpc hpc'⟩

/-! ## The flag of the process as a one-shot flag -/

def OpenEvent.label : OpenEvent → OneShot.Label Nat
  | .begin _ => .look
  | .act t .swap => .swap t
  | .act t a => if a.isBootstrap then .work t else .look

def OpenState.machine (s : OpenState) : OneShot.Machine Nat where
  flag := s.bootstrapped
  phase t := (s.calls[t]?.map fun c => c.pc.phase).getD .before

theorem label_eq_swap {e : OpenEvent} {t : Nat} : e.label = .swap t ↔ e = .act t .swap := by
  cases e with
  | begin => simp [OpenEvent.label]
  | act u a =>
    cases a with
    | swap => simp [OpenEvent.label]
    | _ => simp [OpenEvent.label, OpenAction.isBootstrap]

theorem label_of_isBootstrap {t : Nat} (h : a.isBootstrap = true) :
    (OpenEvent.act t a).label = .work t := by
  cases a with
  | shape | utf8 | env | swap | report => cases h
  | _ => rfl

theorem phase_of_call {s : OpenState} {t : Nat} (h : s.calls[t]? = some c) :
    s.machine.phase t = c.pc.phase := by
  simp [OpenState.machine, h]

/-- What an event of a call is. -/
theorem step_act {s s' : OpenState} {t : Nat} (h : s.step (.act t a) = some s') :
    ∃ c c', s.calls[t]? = some c ∧ c.act s.bootstrapped a = some (s'.bootstrapped, c') ∧
      s'.calls = s.calls.set t c' := by
  unfold OpenState.step at h
  rw [Option.bind_eq_bind, Option.bind_eq_some_iff] at h
  obtain ⟨c, hc, h⟩ := h
  rw [Option.bind_eq_bind, Option.bind_eq_some_iff] at h
  obtain ⟨⟨flag, c'⟩, hact, h⟩ := h
  cases h
  exact ⟨c, c', hc, hact, rfl⟩

/-- A check that fails turns the call away. -/
theorem checkBundleShape_error {dir : BundleDir} {e : SessionError}
    (h : checkBundleShape bundle dir = .error e) : e.isRejection = true := by
  unfold checkBundleShape at h
  split at h
  · cases h
    rfl
  · obtain ⟨entry, -, hentry⟩ := forM_eq_error h
    split at hentry
    · cases hentry
      rfl
    · cases hentry

theorem checkUtf8_error {e : SessionError} (h : checkUtf8 bundle = .error e) :
    e.isRejection = true := by
  unfold checkUtf8 at h
  split at h
  · cases h
  · cases h
    rfl

theorem mapError_unlockEnv_error {found : Option String} {e : SessionError}
    (h : (checkUnlockEnv found).mapError .unlockEnv = .error e) : e.isRejection = true := by
  cases henv : checkUnlockEnv found with
  | ok =>
    rw [henv] at h
    cases h
  | error e =>
    rw [henv] at h
    cases h
    rfl

/-- A call in its checks stays there or is turned away. -/
theorem phase_check {α : Type} {result : Except SessionError α} {next : α → OpenPc}
    (hnext : ∀ x, (next x).phase = .before)
    (herr : ∀ e, result = .error e → e.isRejection = true) :
    (OpenPc.attempt result next).phase = .before ∨
      (OpenPc.attempt result next).phase = .away := by
  cases result with
  | ok x => exact Or.inl (hnext x)
  | error e =>
    right
    have hrej := herr e rfl
    cases e with
    | badBundle | unlockEnv => rfl
    | _ => cases hrej

theorem machine_begin {s s' : OpenState} (h : s.step (.begin bundle) = some s') :
    s'.machine = s.machine := by
  cases h
  unfold OpenState.machine
  congr 1
  funext t
  rw [List.getElem?_append]
  split
  · rfl
  · rename_i ht
    have hnone : s.calls[t]? = none := List.getElem?_eq_none (by omega)
    rw [hnone]
    cases t - s.calls.length <;> rfl

theorem machine_set {s s' : OpenState} {t : Nat} (hc : s.calls[t]? = some c)
    (hset : s'.calls = s.calls.set t c') :
    s'.machine = { flag := s'.bootstrapped
                   phase := Function.update s.machine.phase t c'.pc.phase } := by
  unfold OpenState.machine
  congr 1
  funext u
  obtain ⟨ht, -⟩ := List.getElem?_eq_some_iff.mp hc
  by_cases hu : u = t
  · subst hu
    simp [hset, ht]
  · simp [hset, hu, List.getElem?_set_ne (Ne.symm hu)]

/-- A step of a call that leaves its phase as it is. -/
theorem machine_same {m : OneShot.Machine Nat} {t : Nat} {pc' : OpenPc}
    (h : pc'.phase = m.phase t) :
    m = { flag := m.flag, phase := Function.update m.phase t pc'.phase } := by
  rw [h, Function.update_eq_self]

/-- What a step of a call is to the one-shot flag. -/
theorem OpenMove.simulates {m : OneShot.Machine Nat} {t : Nat} {pc pc' : OpenPc}
    (hphase : m.phase t = pc.phase) (h : OpenMove m.flag bundle pc a flag' pc') :
    OneShot.Step m (OpenEvent.act t a).label
      { flag := flag', phase := Function.update m.phase t pc'.phase } := by
  have hcheck : ∀ pc' : OpenPc, pc.phase = .before → pc'.phase = .before ∨ pc'.phase = .away →
      OneShot.Step m .look { flag := m.flag, phase := Function.update m.phase t pc'.phase } := by
    intro pc' hpc hpc'
    rcases hpc' with hpc' | hpc'
    · rw [← machine_same (by rw [hphase, hpc, hpc'])]
      exact OneShot.Step.look
    · rw [hpc']
      exact OneShot.Step.leave (hphase.trans hpc)
  cases h with
  | shape => exact hcheck _ rfl (phase_check (fun _ => rfl) fun _ => checkBundleShape_error)
  | utf8 => exact hcheck _ rfl (phase_check (fun _ => rfl) fun _ => checkUtf8_error)
  | env => exact hcheck _ rfl (phase_check (fun _ => rfl) fun _ => mapError_unlockEnv_error)
  | swap =>
    have hswap := OneShot.Step.swap (m := m) (t := t) hphase
    cases hflag : m.flag with
    | false =>
      rw [hflag] at hswap
      exact hswap
    | true =>
      rw [hflag] at hswap
      exact hswap
  | bootstrap ha hpc hpc' =>
    rw [← machine_same (by rw [hphase, hpc, hpc']), label_of_isBootstrap ha]
    exact OneShot.Step.work (hphase.trans hpc)
  | report =>
    rw [← machine_same hphase.symm]
    exact OneShot.Step.look

/-- An event of the process is a step of the one-shot flag. -/
theorem step_simulates {s s' : OpenState} {e : OpenEvent} (h : s.step e = some s') :
    OneShot.Step s.machine e.label s'.machine := by
  cases e with
  | begin bundle =>
    rw [machine_begin h]
    exact OneShot.Step.look
  | act t a =>
    obtain ⟨c, c', hc, hact, hset⟩ := step_act h
    rw [machine_set hc hset]
    exact OpenMove.simulates (phase_of_call hc) (act_move hact).2

end Moves

end GputoolsReplay
