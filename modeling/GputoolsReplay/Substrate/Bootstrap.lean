/-
  What `Session::open` asks of the framework, over every run of the process: which calls it
  makes, in which order, and what has to come back for a session to be returned.

  * `madeBy`: the calls of one bootstrap, with their answers.
  * `Bootstrapping`: how they and the place of a call of `open` go together.
  * `bootstrap_in_order`: the calls of a process are those of one bootstrap, each made once and
    in order; a session is returned when all of them succeed and nothing was reported.
-/
import Mathlib.Data.List.TakeWhile
import GputoolsReplay.Substrate.SessionOnce

namespace GputoolsReplay

/-! ## The calls of a bootstrap -/

/-- What `open` calls once it is behind the flag. -/
inductive BootstrapCall where
  | aprInitialize
  | aprPoolCreateEx
  /-- `GTMTLReplayController_init`, then `GTMTLReplayClient_init`. -/
  | clientInit
  /-- `GTMTLReplayErrorHandling_initWithObserver`. -/
  | initWithObserver
  /-- `AnyClass::get`. -/
  | getClass
  | initWithContext
  | load
  /-- `observer.first_error()`. -/
  | firstError
  deriving DecidableEq, Repr

/-- The order they stand in in `open`. -/
def bootstrapOrder : List BootstrapCall :=
  [.aprInitialize, .aprPoolCreateEx, .clientInit, .initWithObserver, .getClass, .initWithContext,
    .load, .firstError]

/-- The call a step makes. -/
def OpenAction.call : OpenAction → Option BootstrapCall
  | .aprInitialize _ => some .aprInitialize
  | .aprPoolCreate .. => some .aprPoolCreateEx
  | .clientInit => some .clientInit
  | .registerObserver => some .initWithObserver
  | .getClass _ => some .getClass
  | .initService _ => some .initWithContext
  | .load .. => some .load
  | .observerCheck => some .firstError
  | .shape _ | .utf8 | .env _ | .swap | .report _ => none

/-- The calls of the whole process, each with the call of `open` that makes it. -/
def bootstrapCalls (tr : List OpenEvent) : List (Nat × BootstrapCall) :=
  tr.filterMap fun
    | .begin _ => none
    | .act t a => a.call.map fun made => (t, made)

/-- The bootstrap steps of call `t`, with the answers it got. -/
def madeBy (t : Nat) (tr : List OpenEvent) : List OpenAction :=
  tr.filterMap fun
    | .begin _ => none
    | .act u a => if u = t ∧ a.isBootstrap = true then some a else none

/-- A step is the check of the observer in call `t`. -/
def OpenEvent.isCheck (t : Nat) : OpenEvent → Bool
  | .act u .observerCheck => u = t
  | _ => false

/-- What the observer of call `t` was told before it was asked. -/
def heardBy (t : Nat) (tr : List OpenEvent) : List Notification :=
  (tr.takeWhile fun e => !e.isCheck t).filterMap fun
    | .act u (.report n) => if u = t then some n else none
    | _ => none

/-- The answers of a bootstrap in which nothing fails. -/
def goodAnswers : List OpenAction :=
  [.aprInitialize 0, .aprPoolCreate 0 false, .clientInit, .registerObserver, .getClass true,
    .initService false, .load true none, .observerCheck]

/-- What a call has asked for when it stands at `pc`. -/
def OpenPc.Made (pc : OpenPc) (made : List OpenAction) (heard : List Notification) : Prop :=
  match pc with
  | .called | .shaped | .named _ | .unlocked _ | .swapped _ => made = []
  | .aprReady _ => made = goodAnswers.take 1
  | .pooled _ => made = goodAnswers.take 2
  | .initialised _ => made = goodAnswers.take 3
  | .observed _ => made = goodAnswers.take 4
  | .classed _ => made = goodAnswers.take 5
  | .serviced _ => made = goodAnswers.take 6
  | .loaded _ ok => made = goodAnswers.take 6 ++ [.load ok none]
  | .returned (.ok _) => made = goodAnswers ∧ heard = []
  | .returned (.error _) =>
    made.filterMap OpenAction.call <+: bootstrapOrder ∧ ¬ (made = goodAnswers ∧ heard = [])

/-- The observer of call `t` was not asked yet. -/
def Unasked (t : Nat) (tr : List OpenEvent) : Prop := ∀ e ∈ tr, (!e.isCheck t) = true

/-- Call `t` of a run, and what it has asked for. -/
structure Bootstrapping (t : Nat) (tr : List OpenEvent) (c : OpenCall) : Prop where
  made : c.pc.Made (madeBy t tr) (heardBy t tr)
  unregistered : .registerObserver ∉ madeBy t tr → c.errors = none
  /-- Until it is asked, the observer holds what it was told. -/
  heard : Unasked t tr → c.errors.getD [] = (heardBy t tr).map Notification.message
  /-- Once it is asked, the call is over. -/
  asked : ¬ Unasked t tr → ∃ result, c.pc = .returned result

section Runs

variable {tr : List OpenEvent} {s s' : OpenState} {e : OpenEvent} {t u : Nat}
variable {flag flag' : Bool} {c c' : OpenCall} {a : OpenAction}
variable {made : List OpenAction} {heard : List Notification}

/-! ## Longer runs -/

theorem madeBy_act : madeBy t (tr ++ [.act t a]) =
    madeBy t tr ++ if a.isBootstrap then [a] else [] := by
  unfold madeBy
  rw [List.filterMap_append]
  cases h : a.isBootstrap <;> simp [h]

theorem madeBy_other (h : ∀ a, e ≠ .act t a) : madeBy t (tr ++ [e]) = madeBy t tr := by
  unfold madeBy
  rw [List.filterMap_append]
  cases e with
  | begin => simp
  | act u a =>
    have hu : u ≠ t := fun hu => h a (by rw [hu])
    simp [hu]

theorem unasked_append : Unasked t (tr ++ [e]) ↔ Unasked t tr ∧ e.isCheck t = false := by
  unfold Unasked
  rw [List.forall_mem_append, List.forall_mem_singleton, Bool.not_eq_true']

/-- As long as the observer was not asked, it goes on hearing. -/
theorem heardBy_append (h : Unasked t tr) : heardBy t (tr ++ [e]) =
    heardBy t tr ++ heardBy t [e] := by
  have hall : tr.takeWhile (fun e => !e.isCheck t) = tr := List.takeWhile_eq_self_iff.mpr h
  unfold heardBy
  rw [List.takeWhile_append_of_pos h, List.filterMap_append, hall]

/-- Once it was asked, what it heard before stays what it is. -/
theorem heardBy_asked (h : ¬ Unasked t tr) : heardBy t (tr ++ [e]) = heardBy t tr := by
  unfold heardBy
  rw [List.takeWhile_append, if_neg]
  intro hlen
  refine h ?_
  rw [← (List.takeWhile_prefix _).eq_of_length hlen]
  intro x hx
  exact @List.mem_takeWhile_imp _ (fun e : OpenEvent => !e.isCheck t) _ _ hx

theorem heardBy_other (h : ∀ n, e ≠ .act t (.report n)) : heardBy t [e] = [] := by
  unfold heardBy
  refine List.filterMap_eq_nil_iff.mpr fun x hx => ?_
  obtain rfl := List.mem_singleton.mp ((List.takeWhile_sublist _).mem hx)
  cases x with
  | begin => rfl
  | act u a =>
    cases a with
    | report n =>
      have hu : u ≠ t := fun hu => h n (by rw [hu])
      simp [hu]
    | _ => rfl

theorem heardBy_report {n : Notification} : heardBy t [.act t (.report n)] = [n] := by
  simp [heardBy, OpenEvent.isCheck]

/-! ## One step -/

theorem calls_goodAnswers (n : Nat) :
    (goodAnswers.take n).filterMap OpenAction.call = bootstrapOrder.take n := by
  have hall : goodAnswers.map OpenAction.call = bootstrapOrder.map some := rfl
  calc (goodAnswers.take n).filterMap OpenAction.call
      = ((goodAnswers.take n).map OpenAction.call).filterMap id := by
        rw [List.filterMap_map]
        rfl
    _ = ((bootstrapOrder.take n).map some).filterMap id := by
        rw [List.map_take, hall, List.map_take]
    _ = bootstrapOrder.take n := List.filterMap_map.trans (List.filterMap_some ..)

/-- A call that fails at its `n`-th step. -/
theorem made_failed {n : Nat} {made : List OpenAction} (hmade : made = goodAnswers.take n)
    (hn : n < 7) (ha : a.call = bootstrapOrder[n]?) (err : SessionError) :
    (OpenPc.returned (.error err)).Made (made ++ [a]) heard := by
  have hlt : n < bootstrapOrder.length := Nat.lt_succ_of_lt hn
  rw [List.getElem?_eq_getElem hlt] at ha
  refine ⟨?_, fun h => ?_⟩
  · rw [List.filterMap_append, hmade, calls_goodAnswers, List.filterMap_cons_some ha,
      List.filterMap_nil, List.take_append_getElem hlt]
    exact List.take_prefix ..
  · have hlen := congrArg List.length h.1
    rw [hmade, List.length_append, List.length_take] at hlen
    have hgood : goodAnswers.length = 8 := rfl
    rw [hgood, List.length_singleton] at hlen
    omega

/-- The end of a bootstrap: the observer is asked. -/
theorem made_checked {path : String} {ok : Bool} {errors : Option (List String)}
    (hmade : (OpenPc.loaded path ok).Made made heard)
    (hheard : errors.getD [] = heard.map Notification.message) :
    (OpenPc.returned (match errors.bind fun errors => firstErrorSince errors 0 with
      | some message => .error (.replayer message)
      | none => if ok then .ok () else .error (.loadFailed path))).Made
      (made ++ [.observerCheck]) heard := by
  have hlist : made = goodAnswers.take 6 ++ [.load ok none] := hmade
  subst hlist
  cases heard with
  | nil =>
    have hsilent : errors.bind (fun errors => firstErrorSince errors 0) = none := by
      cases errors with
      | none => rfl
      | some errors =>
        obtain rfl : errors = [] := hheard
        rfl
    rw [hsilent]
    cases ok with
    | true => exact ⟨rfl, rfl⟩
    | false => exact ⟨List.prefix_rfl, fun h => by simp [goodAnswers] at h⟩
  | cons n ns =>
    obtain ⟨errors, rfl⟩ : ∃ l, errors = some l := by
      cases errors with
      | none => cases hheard
      | some l => exact ⟨l, rfl⟩
    obtain rfl : errors = n.message :: ns.map Notification.message := hheard
    exact ⟨List.prefix_rfl, fun h => by cases h.2⟩

/-- A step of the bootstrap is one more call. -/
theorem act_made (ha : a.isBootstrap = true) (h : c.act flag a = some (flag', c'))
    (hmade : c.pc.Made made heard)
    (hheard : c.errors.getD [] = heard.map Notification.message) :
    c'.pc.Made (made ++ [a]) heard := by
  cases a with
  | shape | utf8 | env | swap | report => cases ha
  | aprInitialize rc =>
    dsimp only [OpenCall.act] at h
    split at h
    case h_2 => cases h
    case h_1 path hpc =>
      cases h
      rw [hpc] at hmade
      by_cases hrc : rc = 0
      · rw [if_neg (not_not.mpr hrc), hrc]
        exact congrArg (· ++ _) hmade
      · rw [if_pos hrc]
        exact made_failed (n := 0) hmade (by decide) rfl _
  | aprPoolCreate rc isNull =>
    dsimp only [OpenCall.act] at h
    split at h
    case h_2 => cases h
    case h_1 path hpc =>
      cases h
      rw [hpc] at hmade
      by_cases hrc : rc ≠ 0 ∨ isNull = true
      · rw [if_pos hrc]
        exact made_failed (n := 1) hmade (by decide) rfl _
      · rw [if_neg hrc]
        obtain ⟨rfl, hnull⟩ : rc = 0 ∧ isNull = false := by simpa using hrc
        rw [hnull]
        exact congrArg (· ++ _) hmade
  | clientInit =>
    dsimp only [OpenCall.act] at h
    split at h
    case h_2 => cases h
    case h_1 path hpc =>
      cases h
      rw [hpc] at hmade
      exact congrArg (· ++ _) hmade
  | registerObserver =>
    dsimp only [OpenCall.act] at h
    split at h
    case h_2 => cases h
    case h_1 path hpc =>
      cases h
      rw [hpc] at hmade
      exact congrArg (· ++ _) hmade
  | getClass registered =>
    dsimp only [OpenCall.act] at h
    split at h
    case h_2 => cases h
    case h_1 path hpc =>
      cases h
      rw [hpc] at hmade
      cases registered with
      | true => exact congrArg (· ++ _) hmade
      | false => exact made_failed (n := 4) hmade (by decide) rfl _
  | initService isNull =>
    dsimp only [OpenCall.act] at h
    split at h
    case h_2 => cases h
    case h_1 path hpc =>
      cases h
      rw [hpc] at hmade
      cases isNull with
      | false => exact congrArg (· ++ _) hmade
      | true => exact made_failed (n := 5) hmade (by decide) rfl _
  | load ok error =>
    dsimp only [OpenCall.act] at h
    split at h
    case h_2 => cases h
    case h_1 path hpc =>
      cases h
      rw [hpc] at hmade
      cases error with
      | none => exact congrArg (· ++ _) hmade
      | some description => exact made_failed (n := 6) hmade (by decide) rfl _
  | observerCheck =>
    dsimp only [OpenCall.act] at h
    split at h
    case h_2 => cases h
    case h_1 path ok hpc =>
      cases h
      rw [hpc] at hmade
      exact made_checked hmade hheard

/-! ## Runs -/

/-- A report reaches the observer of a call that has one. -/
theorem act_report {n : Notification} (h : c.act flag (.report n) = some (flag', c')) :
    c'.pc = c.pc ∧ c.errors ≠ none ∧
      c'.errors.getD [] = c.errors.getD [] ++ [n.message] := by
  dsimp only [OpenCall.act] at h
  split at h
  · rename_i errors herrors
    cases h
    rw [herrors]
    exact ⟨rfl, by simp, rfl⟩
  · cases h

/-- A step of a call before it is behind the flag. -/
theorem act_outside (ha : a.isBootstrap = false) (hr : ∀ n, a ≠ .report n)
    (h : c.act flag a = some (flag', c')) :
    c'.errors = c.errors ∧ (∀ made heard, c.pc.Made made heard → made = []) ∧
      ∀ heard, c'.pc.Made [] heard := by
  have hattempt : ∀ {α : Type} (result : Except SessionError α) (next : α → OpenPc),
      (∀ x heard, (next x).Made [] heard) →
        ∀ heard, (OpenPc.attempt result next).Made [] heard := by
    intro α result next hnext heard
    cases result with
    | ok x => exact hnext x heard
    | error e => exact ⟨List.nil_prefix, fun h => by cases h.1⟩
  cases a with
  | shape dir | utf8 | env found | swap =>
    dsimp only [OpenCall.act] at h
    split at h
    case h_2 => cases h
    case h_1 hpc =>
      cases h
      exact ⟨rfl, by rw [hpc]; exact fun _ _ => id, hattempt _ _ fun _ _ => rfl⟩
  | report n => exact absurd rfl (hr n)
  | _ => cases ha

theorem bootstrapping_begin {bundle : BundlePath} (h : ∀ a, .act t a ∉ tr) :
    Bootstrapping t tr { bundle, errors := none, pc := .called } := by
  have hmade : madeBy t tr = [] := by
    refine List.filterMap_eq_nil_iff.mpr fun e he => ?_
    cases e with
    | begin => rfl
    | act u a => exact if_neg fun hu : u = t ∧ _ => h a (hu.1 ▸ he)
  have hheard : heardBy t tr = [] := by
    refine List.filterMap_eq_nil_iff.mpr fun e he => ?_
    have he := (List.takeWhile_sublist _).mem he
    cases e with
    | begin => rfl
    | act u a =>
      cases a with
      | report n => exact if_neg fun hu => h _ (hu ▸ he)
      | _ => rfl
  refine ⟨hmade, fun _ => rfl, fun _ => by rw [hheard]; rfl, fun hasked => absurd ?_ hasked⟩
  intro e he
  cases e with
  | begin => rfl
  | act u a =>
    have hu : u ≠ t := fun hu => h a (hu ▸ he)
    cases a <;> simp [OpenEvent.isCheck, hu]

/-- The steps of the other calls change nothing. -/
theorem Bootstrapping.other (h : Bootstrapping t tr c) (he : ∀ a, e ≠ .act t a) :
    Bootstrapping t (tr ++ [e]) c := by
  have hcheck : e.isCheck t = false := by
    cases e with
    | begin => rfl
    | act u a =>
      have hu : u ≠ t := fun hu => he a (by rw [hu])
      cases a <;> simp [OpenEvent.isCheck, hu]
  have hunasked : Unasked t (tr ++ [e]) ↔ Unasked t tr := by simp [unasked_append, hcheck]
  have hheard : heardBy t (tr ++ [e]) = heardBy t tr := by
    by_cases hu : Unasked t tr
    · rw [heardBy_append hu, heardBy_other fun n => he _, List.append_nil]
    · exact heardBy_asked hu
  refine ⟨?_, ?_, ?_, ?_⟩
  · rw [madeBy_other he, hheard]
    exact h.made
  · rw [madeBy_other he]
    exact h.unregistered
  · rw [hunasked, hheard]
    exact h.heard
  · rw [hunasked]
    exact h.asked

/-- A report to a call, before or after its observer is asked. -/
theorem Bootstrapping.report {n : Notification} (h : Bootstrapping t tr c)
    (hact : c.act flag (.report n) = some (flag', c')) :
    Bootstrapping t (tr ++ [.act t (.report n)]) c' := by
  obtain ⟨hpc, hsome, herrors⟩ := act_report hact
  have hcheck : (OpenEvent.act t (.report n)).isCheck t = false := rfl
  have hmadeBy : madeBy t (tr ++ [.act t (.report n)]) = madeBy t tr :=
    madeBy_act.trans (List.append_nil _)
  have hunasked : Unasked t (tr ++ [.act t (.report n)]) ↔ Unasked t tr := by
    simp [unasked_append, hcheck]
  have hregistered : .registerObserver ∉ madeBy t (tr ++ [.act t (.report n)]) →
      c'.errors = none := by
    intro hnot
    rw [hmadeBy] at hnot
    exact absurd (h.unregistered hnot) hsome
  by_cases hu : Unasked t tr
  · have hheard := (heardBy_append (e := .act t (.report n)) hu).trans
      (congrArg (heardBy t tr ++ ·) heardBy_report)
    refine ⟨?_, hregistered, fun _ => ?_, fun hasked => absurd (hunasked.mpr hu) hasked⟩
    · rw [hpc, hmadeBy, hheard]
      have hmade := h.made
      cases hc : c.pc with
      | returned result =>
        rw [hc] at hmade
        cases result with
        | ok =>
          -- the observer was asked before the call returned
          have hmem : OpenAction.observerCheck ∈ madeBy t tr := by
            rw [hmade.1]
            simp [goodAnswers]
          obtain ⟨e, he, hmap⟩ := List.mem_filterMap.mp hmem
          cases e with
          | begin => cases hmap
          | act u a =>
            dsimp only at hmap
            split at hmap
            · rename_i hua
              cases hmap
              have hcheck := hu _ he
              simp [OpenEvent.isCheck, hua.1] at hcheck
            · cases hmap
        | error e => exact ⟨hmade.1, fun h => by simpa using h.2⟩
      | _ => rw [hc] at hmade; exact hmade
    · rw [herrors, hheard, h.heard hu, List.map_append]
      rfl
  · refine ⟨?_, hregistered, fun h => absurd (hunasked.mp h) hu, fun _ => hpc ▸ h.asked hu⟩
    rw [hpc, hmadeBy, heardBy_asked hu]
    exact h.made

/-- A call that has returned makes no step of its own. -/
theorem act_returned {result : Except SessionError Unit} (hpc : c.pc = .returned result)
    (hr : ∀ n, a ≠ .report n) : c.act flag a = none := by
  cases a with
  | report n => exact absurd rfl (hr n)
  | _ => simp [OpenCall.act, hpc]

/-- Only the registration makes an observer. -/
theorem act_errors (ha : a.isBootstrap = true) (h : c.act flag a = some (flag', c')) :
    (a = .registerObserver ∧ c'.errors = some [] ∧ ∃ path, c.pc = .initialised path) ∨
      (a ≠ .registerObserver ∧ c'.errors = c.errors) := by
  cases a with
  | shape | utf8 | env | swap | report => cases ha
  | registerObserver =>
    dsimp only [OpenCall.act] at h
    split at h
    case h_2 => cases h
    case h_1 path hpc =>
      cases h
      exact Or.inl ⟨rfl, rfl, path, hpc⟩
  | _ =>
    dsimp only [OpenCall.act] at h
    split at h
    case h_2 => cases h
    case h_1 =>
      cases h
      exact Or.inr ⟨by simp, rfl⟩

/-- A step of the bootstrap. -/
theorem Bootstrapping.bootstrap (h : Bootstrapping t tr c) (ha : a.isBootstrap = true)
    (hact : c.act flag a = some (flag', c')) : Bootstrapping t (tr ++ [.act t a]) c' := by
  have hr : ∀ n, a ≠ .report n := by
    rintro n rfl
    cases ha
  have hu : Unasked t tr := by
    by_contra hasked
    obtain ⟨result, hpc⟩ := h.asked hasked
    rw [act_returned hpc hr] at hact
    cases hact
  have hheard : heardBy t (tr ++ [.act t a]) = heardBy t tr := by
    rw [heardBy_append hu, heardBy_other fun n hn => hr n (by cases hn; rfl), List.append_nil]
  have hmadeBy : madeBy t (tr ++ [.act t a]) = madeBy t tr ++ [a] := by
    rw [madeBy_act, if_pos ha]
  refine ⟨?_, ?_, fun _ => ?_, fun hasked => ?_⟩
  · rw [hmadeBy, hheard]
    exact act_made ha hact h.made (h.heard hu)
  · intro hnot
    rw [hmadeBy, List.mem_append, not_or] at hnot
    rcases act_errors ha hact with ⟨rfl, -⟩ | ⟨-, herrors⟩
    · exact absurd (List.mem_singleton_self _) hnot.2
    · exact herrors.trans (h.unregistered hnot.1)
  · rw [hheard, ← h.heard hu]
    rcases act_errors ha hact with ⟨-, herrors, path, hpc⟩ | ⟨-, herrors⟩
    · have hmade := h.made
      rw [hpc] at hmade
      have hnone : c.errors = none := by
        refine h.unregistered ?_
        rw [show madeBy t tr = goodAnswers.take 3 from hmade]
        simp [goodAnswers]
      rw [herrors, hnone]
      rfl
    · rw [herrors]
  · rw [unasked_append, not_and] at hasked
    have hcheck := hasked hu
    cases a with
    | observerCheck =>
      dsimp only [OpenCall.act] at hact
      split at hact
      case h_2 => cases hact
      case h_1 =>
        cases hact
        exact ⟨_, rfl⟩
    | _ => exact absurd rfl hcheck

/-- A step of a call. -/
theorem Bootstrapping.act (h : Bootstrapping t tr c) (hact : c.act flag a = some (flag', c')) :
    Bootstrapping t (tr ++ [.act t a]) c' := by
  by_cases hr : ∃ n, a = .report n
  · obtain ⟨n, rfl⟩ := hr
    exact h.report hact
  have hr : ∀ n, a ≠ .report n := fun n hn => hr ⟨n, hn⟩
  cases ha : a.isBootstrap with
  | true => exact h.bootstrap ha hact
  | false =>
    obtain ⟨herrors, hbefore, hmade⟩ := act_outside ha hr hact
    have hu : Unasked t tr := by
      by_contra hasked
      obtain ⟨result, hpc⟩ := h.asked hasked
      rw [act_returned hpc hr] at hact
      cases hact
    have hcheck : (OpenEvent.act t a).isCheck t = false := by
      cases a with
      | observerCheck => cases ha
      | _ => rfl
    have hheard : heardBy t (tr ++ [.act t a]) = heardBy t tr := by
      rw [heardBy_append hu, heardBy_other fun n hn => hr n (by cases hn; rfl), List.append_nil]
    have hmadeBy : madeBy t (tr ++ [.act t a]) = madeBy t tr := by
      rw [madeBy_act, if_neg (by simp [ha]), List.append_nil]
    refine ⟨?_, ?_, fun _ => ?_, fun hasked => absurd (unasked_append.mpr ⟨hu, hcheck⟩) hasked⟩
    · rw [hmadeBy, hbefore _ _ h.made]
      exact hmade _
    · rw [hmadeBy, herrors]
      exact h.unregistered
    · rw [hheard, herrors]
      exact h.heard hu

/-- In every run, every call. -/
theorem bootstrapping_run (h : Trace.run OpenState.step OpenState.init tr = some s) :
    ∀ (t : Nat) (c : OpenCall), s.calls[t]? = some c → Bootstrapping t tr c := by
  refine Trace.run_induction
    (P := fun tr s => ∀ (t : Nat) (c : OpenCall), s.calls[t]? = some c → Bootstrapping t tr c)
    (by simp [OpenState.init]) (fun tr s e s' hrun ih hstep t c hc => ?_) h
  cases e with
  | begin bundle =>
    cases hstep
    rcases Nat.lt_or_ge t s.calls.length with ht | ht
    · rw [List.getElem?_append_left ht] at hc
      exact (ih t c hc).other (by simp)
    · rw [List.getElem?_append_right ht, List.getElem?_singleton] at hc
      split at hc
      · cases hc
        have hnew : ∀ a, .act t a ∉ tr ++ [.begin bundle] := by
          intro a hmem
          have hlt := (openInv_run hrun).known t a (by simpa using hmem)
          omega
        exact bootstrapping_begin hnew
      · cases hc
  | act u a =>
    obtain ⟨d, d', hd, hact, hset⟩ := step_act hstep
    rw [hset] at hc
    by_cases hu : u = t
    · subst hu
      rw [List.getElem?_set_self (List.getElem?_eq_some_iff.mp hd).1] at hc
      cases hc
      exact (ih u d hd).act hact
    · rw [List.getElem?_set_ne hu] at hc
      exact (ih t c hc).other fun a' ha' => hu (by cases ha'; rfl)

/-! ## The process -/

/-- The calls of a bootstrap that is the only one. -/
theorem bootstrapCalls_eq (h : ∀ u a, .act u a ∈ tr → a.isBootstrap = true → u = t) :
    bootstrapCalls tr = ((madeBy t tr).filterMap OpenAction.call).map (t, ·) := by
  unfold bootstrapCalls madeBy
  rw [List.filterMap_filterMap, List.map_filterMap]
  refine List.filterMap_congr fun e he => ?_
  cases e with
  | begin => rfl
  | act u a =>
    dsimp only
    cases ha : a.isBootstrap with
    | true =>
      obtain rfl := h u a he ha
      simp
    | false =>
      have hnone : a.call = none := by cases a <;> first | rfl | cases ha
      simp [hnone]

/-- All bootstrap steps of a run are steps of one call. -/
theorem bootstrap_unique (h : OpenInv tr s) {b : OpenAction} (ha : .act t a ∈ tr)
    (hb : .act u b ∈ tr) (hba : a.isBootstrap = true) (hbb : b.isBootstrap = true) : t = u := by
  have hinside := (h.once.inside u).mpr (h.once.work u (work_mem hb hbb))
  exact h.once.inside_unique hinside (Or.inr (work_mem ha hba))

/-- The calls of one bootstrap are in order. -/
theorem Bootstrapping.inOrder (h : Bootstrapping t tr c) :
    (madeBy t tr).filterMap OpenAction.call <+: bootstrapOrder := by
  have hmade := h.made
  have hstage : ∀ n, madeBy t tr = goodAnswers.take n →
      (madeBy t tr).filterMap OpenAction.call <+: bootstrapOrder := by
    intro n hn
    rw [hn, calls_goodAnswers]
    exact List.take_prefix ..
  cases hpc : c.pc with
  | returned result =>
    rw [hpc] at hmade
    cases result with
    | ok => exact hstage 8 hmade.1
    | error e => exact hmade.1
  | loaded path ok =>
    rw [hpc] at hmade
    rw [show madeBy t tr = goodAnswers.take 6 ++ [.load ok none] from hmade]
    exact ⟨[.firstError], rfl⟩
  | called | shaped | named | unlocked | swapped => rw [hpc] at hmade; exact hstage 0 hmade
  | aprReady => rw [hpc] at hmade; exact hstage 1 hmade
  | pooled => rw [hpc] at hmade; exact hstage 2 hmade
  | initialised => rw [hpc] at hmade; exact hstage 3 hmade
  | observed => rw [hpc] at hmade; exact hstage 4 hmade
  | classed => rw [hpc] at hmade; exact hstage 5 hmade
  | serviced => rw [hpc] at hmade; exact hstage 6 hmade

/-- A call that has made all the calls of a bootstrap without a failure has a session. -/
theorem Bootstrapping.opened_iff (h : Bootstrapping t tr c) :
    c.pc = .returned (.ok ()) ↔ madeBy t tr = goodAnswers ∧ heardBy t tr = [] := by
  have hmade := h.made
  constructor
  · intro hpc
    rw [hpc] at hmade
    exact hmade
  · intro hgood
    rw [hgood.1] at hmade
    have hstage : ∀ n, n < 8 → goodAnswers ≠ goodAnswers.take n := by
      intro n hn heq
      have hlen := congrArg List.length heq
      rw [List.length_take, show goodAnswers.length = 8 from rfl] at hlen
      omega
    cases hpc : c.pc with
    | returned result =>
      rw [hpc] at hmade
      cases result with
      | ok => rfl
      | error e => exact absurd ⟨rfl, hgood.2⟩ hmade.2
    | loaded path ok =>
      rw [hpc] at hmade
      have hlen := congrArg List.length (show goodAnswers = _ from hmade)
      cases hlen
    | called | shaped | named | unlocked | swapped => rw [hpc] at hmade; cases hmade
    | aprReady => rw [hpc] at hmade; exact absurd hmade (hstage 1 (by decide))
    | pooled => rw [hpc] at hmade; exact absurd hmade (hstage 2 (by decide))
    | initialised => rw [hpc] at hmade; exact absurd hmade (hstage 3 (by decide))
    | observed => rw [hpc] at hmade; exact absurd hmade (hstage 4 (by decide))
    | classed => rw [hpc] at hmade; exact absurd hmade (hstage 5 (by decide))
    | serviced => rw [hpc] at hmade; exact absurd hmade (hstage 6 (by decide))

/-- In every run of any number of calls of `open`, the calls of the bootstrap, over the whole
    process, are those of one call of `open`, each made once at most and in the order of the
    source; so nothing is loaded before the observer is registered. A call returns a session
    exactly when it made all of them, none failed, and the observer was told nothing from its
    registration to the check behind `load:`. -/
theorem bootstrap_in_order (h : Trace.run OpenState.step OpenState.init tr = some s) :
    (∃ t, ∀ made ∈ bootstrapCalls tr, made.1 = t) ∧
    (bootstrapCalls tr).map Prod.snd <+: bootstrapOrder ∧
    ∀ (t : Nat) (c : OpenCall), s.calls[t]? = some c →
      (c.pc = .returned (.ok ()) ↔ madeBy t tr = goodAnswers ∧ heardBy t tr = []) := by
  have hinv := openInv_run h
  have hopened := fun t c hc => (bootstrapping_run h t c hc).opened_iff
  by_cases hsome : ∃ t a, .act t a ∈ tr ∧ a.isBootstrap = true
  · obtain ⟨t, a, ha, hboot⟩ := hsome
    have heq := bootstrapCalls_eq (t := t) fun u b hb hbb =>
      bootstrap_unique hinv hb ha hbb hboot
    have hc := List.getElem?_eq_getElem (hinv.known t a ha)
    refine ⟨⟨t, ?_⟩, ?_, hopened⟩
    · rw [heq, List.forall_mem_map]
      exact fun _ _ => rfl
    · rw [heq, List.map_map]
      exact (List.map_id _).symm ▸ (bootstrapping_run h t _ hc).inOrder
  · have hnil : bootstrapCalls tr = [] := by
      refine List.filterMap_eq_nil_iff.mpr fun e he => ?_
      cases e with
      | begin => rfl
      | act u a =>
        have hnone : a.call = none := by
          cases a <;> first | rfl | exact absurd ⟨u, _, he, rfl⟩ hsome
        dsimp only
        rw [hnone]
        rfl
    rw [hnil]
    exact ⟨⟨0, by simp⟩, List.nil_prefix, hopened⟩

end Runs

/-- Two calls race; the second gets the flag and opens a session, which is reported to once it
    is there. -/
def racingRun : List OpenEvent :=
  [.begin captureBundle, .begin captureBundle,
    .act 0 (.shape captureDir), .act 1 (.shape captureDir), .act 1 .utf8, .act 0 .utf8,
    .act 1 (.env (some "0")), .act 0 (.env (some "0")), .act 1 .swap, .act 0 .swap] ++
    goodAnswers.map (.act 1) ++ [.act 1 (.report .nil)]

theorem bootstrap_in_order_racingRun :
    ∃ s, Trace.run OpenState.step OpenState.init racingRun = some s ∧
      s.calls.map (·.pc) = [.returned (.error .alreadyOpen), .returned (.ok ())] ∧
      bootstrapCalls racingRun = bootstrapOrder.map (1, ·) ∧ madeBy 1 racingRun = goodAnswers := by
  obtain ⟨-, -, hopened⟩ := @bootstrap_in_order racingRun _ rfl
  exact ⟨_, rfl, rfl, rfl, ((hopened 1 _ rfl).mp rfl).1⟩

end GputoolsReplay
