/-
  The wait of a blocking fetch (`pump_until`), and the timeout it is given. The deadline is the
  sum of an instant and the timeout, which `Instant + Duration` panics on when it is no instant.

  * `SafeWait`: what a caller counts on. The wait does not panic, and an outcome that is stored
    when it begins is what it returns.
  * `safeWait_iff`: in every run, a wait is safe exactly when its deadline is an instant.
-/
import GputoolsReplay.Substrate.FetchRuns

namespace GputoolsReplay

open RustSem

/-! ## Durations -/

/-- `Duration`: whole seconds, and the nanoseconds below one more. -/
structure Duration where
  secs : UInt64
  nanos : Nat
  nanos_lt : nanos < 1000000000
  deriving DecidableEq

namespace Duration

/-- `Duration::MAX`. -/
def max : Duration := ⟨0xffffffffffffffff, 999999999, by decide⟩

/-- `Duration::from_secs`. -/
def fromSecs (secs : UInt64) : Duration := ⟨secs, 0, by decide⟩

/-- The length in nanoseconds. -/
def toNanos (d : Duration) : Nat := d.secs.toNat * 1000000000 + d.nanos

end Duration

/-! ## Safe waits -/

/-- What the cell of fetch `f` holds. -/
def State.stored (s : State) (f : Nat) : Option FetchResult :=
  (s.calls[f]?).bind fun c => c.outcome.bind s.slot

/-- `pump_until` has returned `r` to fetch `f`. -/
def State.Pumped (s : State) (f : Nat) (r : FetchResult) : Prop :=
  ∃ c, s.calls[f]? = some c ∧ c.result = some r

/-- The thread of fetch `f` has panicked. -/
def State.Panicked (s : State) (f : Nat) : Prop := ∃ c, s.calls[f]? = some c ∧ c.pc = .panicked

/-- The wait of fetch `f`, entered in the state `s` at the instant `now`. Whatever happens from
    there on, the fetch does not panic, and an outcome that was stored when the wait began is
    returned by `pump_until`, or by its next check of the cell. -/
def SafeWait (fromBytes : Bytes → Except String Value) (s : State) (f now : Nat) : Prop :=
  ∃ s₁, step fromBytes s (.deadline f now) = some s₁ ∧
    ∀ tr s', Trace.run (step fromBytes) s₁ tr = some s' →
      ¬ s'.Panicked f ∧
      ∀ r, s.stored f = some r → r ≠ .error .timeout ∧
        (s'.Pumped f r ∨ ∃ s₂, step fromBytes s' (.slotCheck f) = some s₂ ∧ s₂.Pumped f r)

section Waits

variable {fromBytes : Bytes → Except String Value} {errors : List String} {tr : List Event}
variable {s s' : State} {e : Event} {f : Nat} {c : Call} {v v' : View} {r : FetchResult}

/-! ## What the steps of a fetch keep -/

/-- The deadline is computed. -/
def CallPc.Entered : CallPc → Prop
  | .pumping _ | .empty _ | .pumped | .returned _ => True
  | _ => False

/-- Past its deadline computation a fetch does not panic. -/
theorem LocalStep.entered (h : LocalStep fromBytes f e v v') (hv : v.call.pc.Entered) :
    v'.call.pc.Entered := by
  cases h with
  | arm hpc | dispatch hpc | token hpc | deadline hpc | overflow hpc =>
    rw [hpc] at hv
    exact hv.elim
  | collect | miss | timeout | again | answer => trivial
  | _ => exact hv

/-- `r` is in the cell for the check to come, or was collected. -/
def Owed (r : FetchResult) (v : View) : Prop :=
  ((∃ t, v.call.pc = .pumping t) ∧ v.slot = some r) ∨
    (¬ v.call.pc.Waiting ∧ v.call.result = some r)

/-- A fetch that waits for its next check of a full cell cannot miss, and one that collected does
    not look again. -/
theorem LocalStep.owed (h : LocalStep fromBytes f e v v') (hv : Owed r v) : Owed r v' := by
  rcases hv with ⟨⟨t, hpc⟩, hslot⟩ | ⟨hpc, hres⟩
  · cases h with
    | arm h | dispatch h | token h | deadline h | overflow h | timeout h | again h | answer h =>
      rw [hpc] at h
      cases h
    | collect _ h =>
      rw [hslot] at h
      exact .inr ⟨id, h.symm⟩
    | miss _ h =>
      rw [hslot] at h
      cases h
    | store => exact .inl ⟨⟨t, hpc⟩, by dsimp only; rw [hslot]; rfl⟩
    | _ => exact .inl ⟨⟨t, hpc⟩, hslot⟩
  · cases h with
    | arm h | dispatch h | token h | deadline h | overflow h | collect h | miss h | timeout h
    | again h =>
      rw [h] at hpc
      exact absurd trivial hpc
    | answer => exact .inr ⟨id, hres⟩
    | _ => exact .inr ⟨hpc, hres⟩

/-! ## The deadline -/

/-- An event of the caller's thread happens as soon as its fetch allows it. -/
theorem step_caller (hc : s.calls[f]? = some c) (he : e.fetch = some f)
    (h : s.callStep f c e = some s') : step fromBytes s e = some s' := by
  cases e with
  | arm | dispatch | token | deadline | slotCheck | clockCheck | observerCheck =>
    cases he
    show ((s.calls[f]?).bind fun c => s.callStep f c _) = some s'
    rw [hc]
    exact h
  | begin | report | invoke | completionCheck | take | store => cases h

/-- The deadline of a granted fetch is computed at once; it panics when it is no instant. -/
theorem step_deadline (hc : s.calls[f]? = some c) (hpc : c.pc = .granted) (now : Nat) :
    step fromBytes s (.deadline f now) = some (s.setCall f { c with
      pc := if now + c.timeout < instantLimit then .pumping (now + c.timeout)
        else .panicked }) := by
  apply step_caller hc rfl
  unfold State.callStep instantAdd
  dsimp only
  rw [hpc]
  dsimp only
  by_cases h : now + c.timeout < instantLimit
  · rw [if_pos h, if_pos h]
  · rw [if_neg h, if_neg h]

theorem deadline_panics (hc : s.calls[f]? = some c) (hpc : c.pc = .granted) {now : Nat}
    (hlimit : ¬ now + c.timeout < instantLimit) :
    ∃ s₁, step fromBytes s (.deadline f now) = some s₁ ∧ s₁.Panicked f := by
  refine ⟨_, step_deadline hc hpc now, _, setCall_self (List.getElem?_eq_some_iff.mp hc).1, ?_⟩
  exact if_neg hlimit

theorem stored_eq (hc : s.calls[f]? = some c) : s.stored f = (view s f c).slot := by
  unfold State.stored
  rw [hc]
  rfl

/-- In every run, what a cell holds is no timeout. -/
theorem Coherent.stored_ne_timeout (hco : Coherent fromBytes errors tr s)
    (hc : s.calls[f]? = some c) (hr : s.stored f = some r) : r ≠ .error .timeout := by
  obtain ⟨-, hdelivery, hcarried⟩ := hco.fetch f c hc
  rw [stored_eq hc] at hr
  exact hdelivery.collected_ne_timeout hcarried hr

/-- What is owed to a fetch has been returned by `pump_until`, or its next check returns it. -/
theorem pumped_of_owed (hc : s.calls[f]? = some c) (h : Owed r (view s f c)) :
    s.Pumped f r ∨ ∃ s₂, step fromBytes s (.slotCheck f) = some s₂ ∧ s₂.Pumped f r := by
  rcases h with ⟨⟨t, hpc⟩, hslot⟩ | ⟨-, hres⟩
  · obtain ⟨a, hout, hslot⟩ := Option.bind_eq_some_iff.mp hslot
    have hstep : step fromBytes s (.slotCheck f) = some ((s.setSlot a none).setCall f
        { c with result := some r, pc := .pumped }) := by
      apply step_caller hc rfl
      unfold State.callStep
      rw [show c.pc = .pumping t from hpc, show c.outcome = some a from hout]
      dsimp only
      rw [hslot]
    exact .inr ⟨_, hstep, _, setCall_self (List.getElem?_eq_some_iff.mp hc).1, rfl⟩
  · exact .inl ⟨c, hc, hres⟩

/-- In every run, and at every clock reading: the wait of a fetch that was granted its token is
    safe exactly when its deadline is an instant, whatever the cell holds. -/
theorem safeWait_iff (h : Trace.run (step fromBytes) (State.init errors) tr = some s)
    (hc : s.calls[f]? = some c) (hpc : c.pc = .granted) (now : Nat) :
    SafeWait fromBytes s f now ↔ now + c.timeout < instantLimit := by
  have hco := coherent_run h
  constructor
  · intro hsafe
    by_contra hlimit
    obtain ⟨s₁, hs₁, hafter⟩ := hsafe
    obtain ⟨s₂, hs₂, hpanic⟩ := @deadline_panics fromBytes _ _ _ hc hpc _ hlimit
    obtain rfl := Option.some.inj (hs₁.symm.trans hs₂)
    exact (hafter [] _ rfl).1 hpanic
  · intro hlimit
    have hdeadline := @step_deadline fromBytes _ _ _ hc hpc now
    have hlt : f < s.calls.length := (List.getElem?_eq_some_iff.mp hc).1
    rw [if_pos hlimit] at hdeadline
    refine ⟨_, hdeadline, ?_⟩
    intro tr' s' hrun
    have hco₁ := coherent_step hco hdeadline
    have hc₁ : (s.setCall f { c with pc := .pumping (now + c.timeout) }).calls[f]? =
        some { c with pc := .pumping (now + c.timeout) } := setCall_self hlt
    refine ⟨?_, ?_⟩
    · intro hpanic
      obtain ⟨c', hc', hpc'⟩ := hpanic
      obtain ⟨c'', hc'', hentered⟩ := hco₁.keeps (P := fun v => v.call.pc.Entered)
        (fun _ _ _ => LocalStep.entered) hc₁ trivial hrun
      obtain rfl := Option.some.inj (hc'.symm.trans hc'')
      rw [show (view s' f c').call.pc = .panicked from hpc'] at hentered
      exact hentered
    · intro r hr
      refine ⟨hco.stored_ne_timeout hc hr, ?_⟩
      rw [stored_eq hc] at hr
      obtain ⟨c', hc', howed⟩ := hco₁.keeps (P := Owed r) (fun _ _ _ => LocalStep.owed) hc₁
        (.inl ⟨⟨_, rfl⟩, hr⟩) hrun
      exact pumped_of_owed hc' howed

/-! ## The timeout of a fetch -/

/-- A fetch that is called has its timeout, and has not panicked. -/
theorem frame_beginCall {cls : RecordClass} {requests timeout : Nat} {setup : Option String}
    (hc : (s.beginCall cls requests setup timeout).calls[s.calls.length]? = some c) :
    c.timeout = timeout ∧ c.pc ≠ .panicked := by
  have hadded : ∀ cells c₀, (s.addCall cells c₀).calls[s.calls.length]? = some c₀ :=
    fun _ _ => List.getElem?_concat_length
  unfold State.beginCall at hc
  dsimp only at hc
  split at hc
  · rw [hadded] at hc
    cases hc
    exact ⟨rfl, nofun⟩
  · split at hc
    · rw [hadded] at hc
      cases hc
      exact ⟨rfl, nofun⟩
    · rw [hadded] at hc
      cases hc
      exact ⟨rfl, nofun⟩

/-- What holds of a fetch when it is called, and is carried on by every step of its view. -/
theorem carried_from_begin {P : List Event → View → Prop} {cls : RecordClass}
    {requests timeout : Nat} {setup : Option String} {pre mid : List Event}
    (hstep : ∀ tr e v v', LocalStep fromBytes (begins pre) e v v' → P tr v → P (tr ++ [e]) v')
    (hbegin : ∀ v : View, v.call.timeout = timeout → v.call.pc ≠ .panicked → P [] v)
    (h : Trace.run (step fromBytes) (State.init errors)
      (pre ++ .begin cls requests setup timeout :: mid) = some s)
    (hc : s.calls[begins pre]? = some c) : P mid (view s (begins pre) c) := by
  obtain ⟨s₁, s₂, h₁, h₂, hmid⟩ := Trace.run_split h
  have hco₁ := coherent_run h₁
  have hco₂ := coherent_step hco₁ h₂
  have hbegun : s₂ = s₁.beginCall cls requests setup timeout := by
    unfold step at h₂
    dsimp only at h₂
    split at h₂
    · exact (Option.some.inj h₂).symm
    · cases h₂
  have hlt : s₁.calls.length < s₂.calls.length := by
    rw [hco₁.count, hco₂.count, begins, begins, List.countP_append]
    exact Nat.lt_succ_self _
  obtain ⟨c₂, hc₂⟩ : ∃ c₂, s₂.calls[s₁.calls.length]? = some c₂ :=
    ⟨_, List.getElem?_eq_getElem hlt⟩
  obtain ⟨htimeout, hpc⟩ := frame_beginCall (by rw [← hbegun]; exact hc₂)
  rw [hco₁.count] at hc₂
  obtain ⟨c', hc', hP⟩ := hco₂.carries hstep hc₂ (hbegin _ htimeout hpc) hmid
  obtain rfl := Option.some.inj (hc.symm.trans hc')
  exact hP

section Begun

variable {cls : RecordClass} {requests timeout : Nat} {setup : Option String}
  {pre mid : List Event}

/-- A fetch keeps the timeout it was called with. -/
theorem timeout_of_begin
    (h : Trace.run (step fromBytes) (State.init errors)
      (pre ++ .begin cls requests setup timeout :: mid) = some s)
    (hc : s.calls[begins pre]? = some c) : c.timeout = timeout :=
  carried_from_begin (P := fun _ v => v.call.timeout = timeout)
    (fun _ _ _ _ hl hv => hl.timeout_eq.trans hv) (fun _ htimeout _ => htimeout) h hc

/-- A fetch panics at its deadline, or not at all. -/
theorem LocalStep.panicked (h : LocalStep fromBytes f e v v') (hpc : v'.call.pc = .panicked) :
    v.call.pc = .panicked ∨
      ∃ now, e = .deadline f now ∧ ¬ now + v.call.timeout < instantLimit := by
  cases h with
  | overflow _ hlimit => exact .inr ⟨_, rfl, hlimit⟩
  | token =>
    dsimp only at hpc
    split at hpc <;> cases hpc
  | arm | dispatch | deadline | collect | miss | timeout | again | answer => cases hpc
  | _ => exact .inl hpc

end Begun

end Waits

end GputoolsReplay
