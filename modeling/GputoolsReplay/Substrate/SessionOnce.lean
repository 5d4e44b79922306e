/-
  One session per process, for any number of calls of `Session::open` in any interleaving.

  * `OpenInv`: which checks every call has passed, and what the flag says of the swaps.
  * `openInv_step`, `openInv_run`: an event and a run keep it.
  * `one_session_per_process`: who gets behind the flag, what sets it, and what everyone else
    is told.
-/
import GputoolsReplay.Lib.Trace
import GputoolsReplay.Substrate.Session

namespace GputoolsReplay

/-! ## What the calls have passed -/

/-- The bundles of the calls, in the order in which they began. -/
def begun (tr : List OpenEvent) : List BundlePath :=
  tr.filterMap fun
    | .begin bundle => some bundle
    | .act .. => none

def PassedShape (tr : List OpenEvent) (t : Nat) (bundle : BundlePath) : Prop :=
  ∃ dir, .act t (.shape dir) ∈ tr ∧ checkBundleShape bundle dir = .ok ()

def PassedUtf8 (tr : List OpenEvent) (t : Nat) (bundle : BundlePath) : Prop :=
  .act t .utf8 ∈ tr ∧ ∃ path, checkUtf8 bundle = .ok path

def PassedEnv (tr : List OpenEvent) (t : Nat) : Prop :=
  ∃ found, .act t (.env found) ∈ tr ∧ checkUnlockEnv found = .ok ()

/-- Call `t` of `open(bundle)` has passed all the checks before the flag. -/
structure PassedChecks (tr : List OpenEvent) (t : Nat) (bundle : BundlePath) : Prop where
  shape : PassedShape tr t bundle
  utf8 : PassedUtf8 tr t bundle
  env : PassedEnv tr t

/-- How many checks a call has passed that was not turned away. -/
def OpenPc.checks : OpenPc → Nat
  | .called => 0
  | .shaped => 1
  | .named _ => 2
  | .returned (.error e) => if e.isRejection then 0 else 3
  | _ => 3

/-- The checks of a call are in the run. -/
structure Checked (tr : List OpenEvent) (t : Nat) (bundle : BundlePath) (checks : Nat) : Prop where
  shape : 0 < checks → PassedShape tr t bundle
  utf8 : 1 < checks → PassedUtf8 tr t bundle
  env : 2 < checks ↔ PassedEnv tr t

structure OpenInv (tr : List OpenEvent) (s : OpenState) : Prop where
  once : OneShot.Once (tr.map OpenEvent.label) s.machine
  bundles : s.calls.map (·.bundle) = begun tr
  known : ∀ t a, .act t a ∈ tr → t < s.calls.length
  checked : ∀ (t : Nat) (c : OpenCall), s.calls[t]? = some c →
    Checked tr t c.bundle c.pc.checks

section Runs

variable {tr : List OpenEvent} {s s' : OpenState} {e : OpenEvent} {t : Nat}
variable {flag flag' : Bool} {bundle : BundlePath} {pc pc' : OpenPc} {a : OpenAction}
variable {n n' : Nat}

/-! ## The checks along a run -/

theorem PassedShape.append (h : PassedShape tr t bundle) : PassedShape (tr ++ [e]) t bundle := by
  obtain ⟨dir, hmem, hok⟩ := h
  exact ⟨dir, List.mem_append_left _ hmem, hok⟩

theorem PassedUtf8.append (h : PassedUtf8 tr t bundle) : PassedUtf8 (tr ++ [e]) t bundle :=
  ⟨List.mem_append_left _ h.1, h.2⟩

/-- Only an environment check of the call itself lets it pass that check. -/
theorem passedEnv_append (he : ∀ found, e = .act t (.env found) → checkUnlockEnv found ≠ .ok ()) :
    PassedEnv (tr ++ [e]) t ↔ PassedEnv tr t := by
  constructor
  · intro h
    obtain ⟨found, hmem, hok⟩ := h
    rw [List.mem_append, List.mem_singleton] at hmem
    rcases hmem with hmem | rfl
    · exact ⟨found, hmem, hok⟩
    · exact absurd hok (he found rfl)
  · intro h
    obtain ⟨found, hmem, hok⟩ := h
    exact ⟨found, List.mem_append_left _ hmem, hok⟩

/-- A call that stays where it is, or is turned away, has its checks in the longer run. -/
theorem Checked.append (h : Checked tr t bundle n) (hn : n' = n ∨ n' = 0 ∧ n ≤ 2)
    (he : ∀ found, e = .act t (.env found) → checkUnlockEnv found ≠ .ok ()) :
    Checked (tr ++ [e]) t bundle n' := by
  refine ⟨fun h0 => ?_, fun h1 => ?_, ?_⟩
  · exact (h.shape (by omega)).append
  · exact (h.utf8 (by omega)).append
  · rw [passedEnv_append he, ← h.env]
    omega

theorem checks_of_inside (h : pc.phase = .inside) : pc.checks = 3 := by
  cases pc with
  | called | shaped | named | unlocked => cases h
  | returned result =>
    cases result with
    | ok => rfl
    | error e => cases e <;> first | rfl | cases h
  | _ => rfl

theorem checks_rejected {e : SessionError} (h : e.isRejection = true) :
    (OpenPc.returned (.error e)).checks = 0 := by
  simp [OpenPc.checks, h]

theorem Checked.passShape {dir : BundleDir} (h : Checked tr t bundle 0)
    (hok : checkBundleShape bundle dir = .ok ()) :
    Checked (tr ++ [.act t (.shape dir)]) t bundle 1 := by
  refine ⟨fun _ => ⟨dir, by simp, hok⟩, fun h1 => by omega, ?_⟩
  rw [passedEnv_append (by simp), ← h.env]
  omega

theorem Checked.passUtf8 {path : String} (h : Checked tr t bundle 1)
    (hok : checkUtf8 bundle = .ok path) : Checked (tr ++ [.act t .utf8]) t bundle 2 := by
  refine ⟨fun _ => (h.shape (by omega)).append, fun _ => ⟨by simp, path, hok⟩, ?_⟩
  rw [passedEnv_append (by simp), ← h.env]
  omega

theorem Checked.passEnv {found : Option String} (h : Checked tr t bundle 2)
    (hok : checkUnlockEnv found = .ok ()) : Checked (tr ++ [.act t (.env found)]) t bundle 3 :=
  ⟨fun _ => (h.shape (by omega)).append, fun _ => (h.utf8 (by omega)).append,
    iff_of_true (by omega) ⟨found, by simp, hok⟩⟩

/-- A step of a call keeps its checks in the run. -/
theorem OpenMove.checked (h : OpenMove flag bundle pc a flag' pc')
    (hchecked : Checked tr t bundle pc.checks) :
    Checked (tr ++ [.act t a]) t bundle pc'.checks := by
  cases h with
  | @shape dir =>
    cases hcheck : checkBundleShape bundle dir with
    | ok => exact hchecked.passShape hcheck
    | error e =>
      have hzero := checks_rejected (checkBundleShape_error hcheck)
      exact hchecked.append (Or.inr ⟨hzero, Nat.zero_le _⟩) (by simp)
  | utf8 =>
    cases hcheck : checkUtf8 bundle with
    | ok path => exact hchecked.passUtf8 hcheck
    | error e =>
      have hzero := checks_rejected (checkUtf8_error hcheck)
      exact hchecked.append (Or.inr ⟨hzero, Nat.le_succ _⟩) (by simp)
  | @env found path =>
    cases hcheck : checkUnlockEnv found with
    | ok => exact hchecked.passEnv hcheck
    | error e =>
      refine hchecked.append (Or.inr ⟨rfl, Nat.le_refl _⟩) fun found' hfound => ?_
      cases hfound
      rw [hcheck]
      simp
  | swap => exact hchecked.append (Or.inl (by cases flag <;> rfl)) (by simp)
  | bootstrap ha hpc hpc' =>
    refine hchecked.append (Or.inl ?_) fun found hfound => ?_
    · rw [checks_of_inside hpc, checks_of_inside hpc']
    · cases hfound
      cases ha
  | report => exact hchecked.append (Or.inl rfl) (by simp)

/-- The events of the other calls, and new calls, keep the checks of a call in the run. -/
theorem Checked.other (h : Checked tr t bundle n) (he : ∀ found, e ≠ .act t (.env found)) :
    Checked (tr ++ [e]) t bundle n :=
  h.append (Or.inl rfl) fun found hfound => absurd hfound (he found)

theorem checked_new (h : ∀ a, .act t a ∉ tr) : Checked tr t bundle 0 := by
  refine ⟨fun h0 => by omega, fun h1 => by omega, iff_of_false (by omega) ?_⟩
  intro h'
  obtain ⟨found, hmem, -⟩ := h'
  exact h _ hmem

/-! ## Steps and runs -/

theorem openInv_init : OpenInv [] OpenState.init :=
  ⟨OneShot.once_init, rfl, by simp, by simp [OpenState.init]⟩

theorem openInv_begin (h : OpenInv tr s) (hstep : s.step (.begin bundle) = some s') :
    OpenInv (tr ++ [.begin bundle]) s' := by
  have honce := OneShot.once_step h.once (step_simulates hstep)
  rw [← List.map_singleton, ← List.map_append] at honce
  cases hstep
  refine ⟨honce, ?_, fun t a hmem => ?_, fun t c hc => ?_⟩
  · rw [List.map_append, h.bundles]
    simp [begun]
  · have hmem' : .act t a ∈ tr := by simpa using hmem
    have hlt := h.known t a hmem'
    simp only [List.length_append]
    omega
  · rcases Nat.lt_or_ge t s.calls.length with ht | ht
    · rw [List.getElem?_append_left ht] at hc
      exact (h.checked t c hc).other (by simp)
    · rw [List.getElem?_append_right ht, List.getElem?_singleton] at hc
      split at hc
      · cases hc
        refine checked_new fun a hmem => ?_
        have hlt := h.known t a (by simpa using hmem)
        omega
      · cases hc

theorem openInv_act (h : OpenInv tr s) (hstep : s.step (.act t a) = some s') :
    OpenInv (tr ++ [.act t a]) s' := by
  have honce := OneShot.once_step h.once (step_simulates hstep)
  rw [← List.map_singleton, ← List.map_append] at honce
  obtain ⟨c, c', hc, hact, hset⟩ := step_act hstep
  obtain ⟨hbundle, hmove⟩ := act_move hact
  obtain ⟨ht, hget⟩ := List.getElem?_eq_some_iff.mp hc
  refine ⟨honce, ?_, fun u b hmem => ?_, fun u d hd => ?_⟩
  · rw [hset, List.map_set, hbundle, begun, List.filterMap_append, ← begun, ← h.bundles]
    have hself : s.calls.map (·.bundle) = (s.calls.map (·.bundle)).set t c.bundle := by
      rw [← hget, ← List.map_set, List.set_getElem_self]
    rw [← hself]
    exact (List.append_nil _).symm
  · rw [hset, List.length_set]
    have hmem' : .act u b ∈ tr ∨ u = t ∧ b = a := by simpa using hmem
    rcases hmem' with hmem' | ⟨rfl, -⟩
    · exact h.known u b hmem'
    · exact ht
  · rw [hset] at hd
    by_cases hu : u = t
    · subst hu
      rw [List.getElem?_set_self ht] at hd
      cases hd
      rw [hbundle]
      exact hmove.checked (h.checked u c hc)
    · rw [List.getElem?_set_ne (Ne.symm hu)] at hd
      exact (h.checked u d hd).other (by simp [Ne.symm hu])

theorem openInv_step (h : OpenInv tr s) (hstep : s.step e = some s') : OpenInv (tr ++ [e]) s' := by
  cases e with
  | begin bundle => exact openInv_begin h hstep
  | act t a => exact openInv_act h hstep

theorem openInv_run (h : Trace.run OpenState.step OpenState.init tr = some s) : OpenInv tr s :=
  Trace.run_carries (P := OpenInv) (fun _ _ _ _ h hstep => openInv_step h hstep) openInv_init h

/-! ## Who gets behind the flag -/

theorem swap_mem : t ∈ OneShot.swaps (tr.map OpenEvent.label) ↔ .act t .swap ∈ tr := by
  rw [OneShot.mem_swaps, List.mem_map]
  constructor
  · intro h'
    obtain ⟨e, he, hlabel⟩ := h'
    rwa [← label_eq_swap.mp hlabel]
  · exact fun h => ⟨_, h, rfl⟩

theorem work_mem (h : .act t a ∈ tr) (ha : a.isBootstrap = true) :
    .work t ∈ tr.map OpenEvent.label := by
  rw [← label_of_isBootstrap ha]
  exact List.mem_map_of_mem h

theorem OpenMove.checks_of_swap (h : OpenMove flag bundle pc .swap flag' pc') :
    pc.checks = 3 := by
  cases h with
  | swap => rfl
  | bootstrap ha => cases ha

/-- A call that swaps has passed the checks. -/
theorem OpenInv.passed_of_swap (h : OpenInv tr s) (hstep : s.step (.act t .swap) = some s') :
    ∃ bundle, (begun tr)[t]? = some bundle ∧ PassedChecks tr t bundle := by
  obtain ⟨c, c', hc, hact, -⟩ := step_act hstep
  have hchecked := h.checked t c hc
  rw [(act_move hact).2.checks_of_swap] at hchecked
  refine ⟨c.bundle, ?_, hchecked.shape (by omega), hchecked.utf8 (by omega),
    hchecked.env.mp (by omega)⟩
  rw [← h.bundles, List.getElem?_map, hc]
  rfl

/-- A call that has passed the checks swaps next, was refused, or is behind the flag. -/
theorem place_of_checks (h : 2 < pc.checks) :
    (∃ path, pc = .unlocked path) ∨ pc = .returned (.error .alreadyOpen) ∨ pc.phase = .inside := by
  cases pc with
  | called | shaped | named => simp [OpenPc.checks] at h
  | unlocked path => exact Or.inl ⟨path, rfl⟩
  | returned result =>
    right
    cases result with
    | ok => exact Or.inr rfl
    | error e =>
      cases e with
      | alreadyOpen => exact Or.inl rfl
      | badBundle | unlockEnv => simp [OpenPc.checks, SessionError.isRejection] at h
      | apr | replayer | loadFailed => exact Or.inr rfl
  | _ => exact Or.inr (Or.inr rfl)

/-- Only a swap changes the flag. -/
theorem OpenMove.flag_eq (h : OpenMove flag bundle pc a flag' pc') (ha : a ≠ .swap) :
    flag' = flag := by
  cases h with
  | swap => exact absurd rfl ha
  | _ => rfl

/-- With the flag set, the swap of a call returns `AlreadyOpen`. -/
theorem swap_refused {c : OpenCall} {path : String} (hflag : s.bootstrapped = true)
    (hc : s.calls[t]? = some c) (hpc : c.pc = .unlocked path) :
    ∃ s', s.step (.act t .swap) = some s' ∧
      s'.calls[t]? = some { c with pc := .returned (.error .alreadyOpen) } := by
  have hact : c.act s.bootstrapped .swap =
      some (true, { c with pc := .returned (.error .alreadyOpen) }) := by
    simp [OpenCall.act, OpenPc.attempt, hpc, hflag]
  obtain ⟨ht, -⟩ := List.getElem?_eq_some_iff.mp hc
  refine ⟨{ bootstrapped := true, calls := s.calls.set t _ }, ?_, List.getElem?_set_self ht⟩
  rw [OpenState.step, hc, Option.bind_eq_bind, Option.bind_some, hact]
  rfl

/-- A swap that finds the flag unset leaves its call behind the flag for good. -/
theorem inside_of_first {pre post : List OpenEvent} {s₁ : OpenState}
    (h : Trace.run OpenState.step OpenState.init (pre ++ .act t .swap :: post) = some s)
    (h₁ : Trace.run OpenState.step OpenState.init pre = some s₁)
    (hflag : s₁.bootstrapped = false) : s.machine.phase t = .inside := by
  have hnil := (openInv_run h₁).once.swaps_eq_nil hflag
  refine ((openInv_run h).once.inside t).mpr ?_
  rw [List.map_append, OneShot.swaps, List.filterMap_append, ← OneShot.swaps, hnil]
  rfl

/-- In every run of any number of calls of `open`:
    - all steps of the bootstrap are steps of one call, and one call at most is behind the flag;
    - the flag is set exactly when a call that has passed the checks has swapped it;
    - a call that a check rejects never swaps, and none of its steps changes the flag;
    - after a swap that found the flag unset, whatever becomes of that bootstrap, every other
      call that has passed the checks has returned `AlreadyOpen`, or is about to. -/
theorem one_session_per_process
    (h : Trace.run OpenState.step OpenState.init tr = some s) :
    ((∀ t u a b, .act t a ∈ tr → .act u b ∈ tr → a.isBootstrap = true → b.isBootstrap = true →
        t = u) ∧
      ∀ (t u : Nat) (c d : OpenCall), s.calls[t]? = some c → s.calls[u]? = some d →
        c.pc.phase = .inside → d.pc.phase = .inside → t = u) ∧
    (s.bootstrapped = true ↔ ∃ pre t post bundle, tr = pre ++ .act t .swap :: post ∧
      (begun pre)[t]? = some bundle ∧ PassedChecks pre t bundle) ∧
    (∀ (t : Nat) (c : OpenCall) e, s.calls[t]? = some c → c.pc = .returned (.error e) →
      e.isRejection = true → .act t .swap ∉ tr ∧
      ∀ pre a post s₁ s₂, tr = pre ++ .act t a :: post →
        Trace.run OpenState.step OpenState.init pre = some s₁ →
        s₁.step (.act t a) = some s₂ → s₂.bootstrapped = s₁.bootstrapped) ∧
    (∀ pre u post s₁, tr = pre ++ .act u .swap :: post →
      Trace.run OpenState.step OpenState.init pre = some s₁ → s₁.bootstrapped = false →
      ∀ (t : Nat) (c : OpenCall), t ≠ u → s.calls[t]? = some c → PassedChecks tr t c.bundle →
        c.pc = .returned (.error .alreadyOpen) ∨
        (∃ path, c.pc = .unlocked path) ∧ ∃ s', s.step (.act t .swap) = some s' ∧
          s'.calls[t]? = some { c with pc := .returned (.error .alreadyOpen) }) := by
  have hinv := openInv_run h
  refine ⟨⟨?_, ?_⟩, ⟨?_, ?_⟩, ?_, ?_⟩
  · intro t u a b hta hub ha hb
    have ht := hinv.once.work t (work_mem hta ha)
    exact hinv.once.inside_unique ((hinv.once.inside u).mpr (hinv.once.work u (work_mem hub hb)))
      (Or.inr (work_mem hta ha))
  · intro t u c d hc hd hcin hdin
    rw [← phase_of_call hc] at hcin
    rw [← phase_of_call hd] at hdin
    exact hinv.once.inside_unique hdin (Or.inl hcin)
  · intro hflag
    obtain ⟨t, ht⟩ := List.exists_mem_of_ne_nil _ (hinv.once.flag.mp hflag)
    obtain ⟨pre, post, rfl⟩ := List.append_of_mem (swap_mem.mp ht)
    obtain ⟨s₁, s₂, h₁, h₂, -⟩ := Trace.run_split h
    obtain ⟨bundle, hbundle, hpassed⟩ := (openInv_run h₁).passed_of_swap h₂
    exact ⟨pre, t, post, bundle, rfl, hbundle, hpassed⟩
  · intro h'
    obtain ⟨pre, t, post, bundle, rfl, -, -⟩ := h'
    have hmem : .act t .swap ∈ pre ++ .act t .swap :: post := by simp
    exact hinv.once.flag.mpr (List.ne_nil_of_mem (swap_mem.mpr hmem))
  · intro t c e hc hpc he
    have hnot : .act t .swap ∉ tr := by
      rw [← swap_mem, hinv.once.swapped, phase_of_call hc, hpc]
      cases e with
      | badBundle | unlockEnv => simp [OpenPc.phase, SessionError.isRejection]
      | _ => cases he
    refine ⟨hnot, ?_⟩
    rintro pre a post s₁ s₂ rfl - h₂
    obtain ⟨c₁, c₂, -, hact, -⟩ := step_act h₂
    refine (act_move hact).2.flag_eq ?_
    rintro rfl
    exact hnot (by simp)
  · rintro pre u post s₁ rfl h₁ hflag t c htu hc hpassed
    have hu := inside_of_first h h₁ hflag
    rcases place_of_checks ((hinv.checked t c hc).env.mpr hpassed.env) with ⟨path, hpc⟩ | hpc | hin
    · exact Or.inr ⟨⟨path, hpc⟩, swap_refused (hinv.once.flag_of_inside hu) hc hpc⟩
    · exact Or.inl hpc
    · rw [← phase_of_call hc] at hin
      exact absurd (hinv.once.inside_unique hu (Or.inl hin)) htu

end Runs

/-! ## Two callers -/

def captureDir : BundleDir := { pathExists := true, isFile := fun _ => true }

def captureBundle : BundlePath := { display := "a.gputrace", toStr := some "a.gputrace" }

/-- Two calls pass the checks side by side; the bootstrap of the first one fails. -/
def twoCallersRun : List OpenEvent :=
  [.begin captureBundle, .begin captureBundle,
    .act 0 (.shape captureDir), .act 1 (.shape captureDir), .act 1 .utf8, .act 0 .utf8,
    .act 1 (.env (some "0")), .act 0 (.env (some "0")),
    .act 0 .swap, .act 0 (.aprInitialize 1)]

theorem one_session_per_process_twoCallers :
    ∃ s, Trace.run OpenState.step OpenState.init twoCallersRun = some s ∧
      s.calls.map (·.pc) = [.returned (.error (.apr 1)), .unlocked "a.gputrace"] ∧
      ∃ s', s.step (.act 1 .swap) = some s' ∧
        s'.calls.map (·.pc) =
          [.returned (.error (.apr 1)), .returned (.error .alreadyOpen)] := by
  obtain ⟨-, -, -, hothers⟩ := @one_session_per_process twoCallersRun _ rfl
  have hpassed : PassedChecks twoCallersRun 1 captureBundle :=
    ⟨⟨captureDir, by simp [twoCallersRun], rfl⟩, ⟨by simp [twoCallersRun], _, rfl⟩,
      ⟨some "0", by simp [twoCallersRun], rfl⟩⟩
  have h := hothers (twoCallersRun.take 8) 0 _ _ rfl rfl rfl 1 _ (by decide) rfl hpassed
  rcases h with h | ⟨-, s', hstep, -⟩
  · cases h
  · refine ⟨_, rfl, rfl, s', hstep, ?_⟩
    cases hstep
    rfl

end GputoolsReplay
