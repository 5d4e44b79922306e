/-
  Whole runs of the fetch machine: every interleaving of one caller's fetches with the
  framework's invocations and error reports.

  * `step_fetch`: an event of a fetch moves that fetch and leaves the others alone.
  * `coherent_run`: in every run, every fetch satisfies the invariant of `FetchView`.
  * `Later`: what stays as it is once it is there.
  * `Coherent.carries`, `Coherent.keeps`: what every step of its view carries on or keeps, a fetch
    does over a run.
-/
import GputoolsReplay.Substrate.FetchView

namespace GputoolsReplay

open RustSem

/-- Invocation `i`, when it is of the block of `f`. -/
def State.invocationOf (s : State) (f i : Nat) : Option Invocation :=
  (s.invocations[i]?).filter fun inv : Invocation => inv.call = f

/-- The machine as fetch `f` sees it, with `c` as its frame. -/
def view (s : State) (f : Nat) (c : Call) : View :=
  { errors := s.errors
    call := c
    slot := c.outcome.bind s.slot
    invocations := s.invocationOf f }

theorem invocationOf_eq_some {s : State} {f i : Nat} {inv : Invocation} :
    s.invocationOf f i = some inv ↔ s.invocations[i]? = some inv ∧ inv.call = f := by
  simp [State.invocationOf, Option.filter_eq_some_iff]

/-! ## An event of a fetch leaves the other fetches alone -/

/-- `s'` differs from `s` in the frame, the cell and the invocations of fetch `f` at most. -/
structure Frame (f : Nat) (c : Call) (s s' : State) : Prop where
  errors : s'.errors = s.errors
  length : s'.calls.length = s.calls.length
  calls : ∀ g, g ≠ f → s'.calls[g]? = s.calls[g]?
  outcomes : s'.outcomes.length = s.outcomes.length
  slots : ∀ a, c.outcome ≠ some a → s'.slot a = s.slot a
  invocations : ∀ g, g ≠ f → s'.invocationOf g = s.invocationOf g

section Frames

variable {f g i : Nat} {c c' d : Call} {s s' : State} {inv inv' : Invocation}

theorem Frame.refl : Frame f c s s :=
  ⟨rfl, rfl, fun _ _ => rfl, rfl, fun _ _ => rfl, fun _ _ => rfl⟩

theorem Frame.trans {s'' : State} (h : Frame f c s s') (h' : Frame f c s' s'') :
    Frame f c s s'' :=
  ⟨h'.errors.trans h.errors, h'.length.trans h.length,
    fun g hg => (h'.calls g hg).trans (h.calls g hg), h'.outcomes.trans h.outcomes,
    fun a ha => (h'.slots a ha).trans (h.slots a ha),
    fun g hg => (h'.invocations g hg).trans (h.invocations g hg)⟩

theorem frame_setCall : Frame f c s (s.setCall f c') :=
  ⟨rfl, List.length_set, fun _ hg => List.getElem?_set_ne hg.symm, rfl, fun _ _ => rfl,
    fun _ _ => rfl⟩

theorem slot_setSlot_ne {a b : Nat} {w : Option FetchResult} (h : a ≠ b) :
    (s.setSlot a w).slot b = s.slot b := by
  unfold State.slot State.setSlot
  rw [List.getElem?_set_ne h]

theorem slot_setSlot_self {a : Nat} {w : Option FetchResult} (h : a < s.outcomes.length) :
    (s.setSlot a w).slot a = w := by
  unfold State.slot State.setSlot
  rw [List.getElem?_set_self h]
  rfl

theorem frame_setSlot {a : Nat} {w : Option FetchResult} (h : c.outcome = some a) :
    Frame f c s (s.setSlot a w) := by
  refine ⟨rfl, rfl, fun _ _ => rfl, List.length_set, fun b hb => ?_, fun _ _ => rfl⟩
  exact slot_setSlot_ne fun he => hb (he ▸ h)

theorem frame_storeInto {a : Nat} {r : FetchResult} (h : c.outcome = some a) :
    Frame f c s (s.storeInto a r) := by
  unfold State.storeInto
  split
  · exact frame_setSlot h
  · exact Frame.refl

theorem storeInto_calls {a : Nat} {r : FetchResult} : (s.storeInto a r).calls = s.calls := by
  unfold State.storeInto
  split <;> rfl

theorem storeInto_invocations {a : Nat} {r : FetchResult} :
    (s.storeInto a r).invocations = s.invocations := by
  unfold State.storeInto
  split <;> rfl

theorem frame_setInvocation (hi : s.invocations[i]? = some inv) (hf : inv.call = f)
    (hf' : inv'.call = f) : Frame f c s (s.setInvocation i inv') := by
  refine ⟨rfl, rfl, fun _ _ => rfl, rfl, fun _ _ => rfl, fun g hg => ?_⟩
  funext j
  unfold State.invocationOf State.setInvocation
  by_cases hj : i = j
  · subst hj
    have hlt := (List.getElem?_eq_some_iff.mp hi).1
    rw [List.getElem?_set_self hlt, hi]
    simp [Option.filter, hf, hf', hg.symm]
  · rw [List.getElem?_set_ne hj]

theorem frame_addInvocation (hf : inv.call = f) : Frame f c s (s.addInvocation inv) := by
  refine ⟨rfl, rfl, fun _ _ => rfl, rfl, fun _ _ => rfl, fun g hg => ?_⟩
  funext j
  unfold State.invocationOf State.addInvocation
  rcases Nat.lt_trichotomy j s.invocations.length with hj | rfl | hj
  · rw [List.getElem?_append_left hj]
  · rw [List.getElem?_concat_length, List.getElem?_eq_none (Nat.le_refl _)]
    simp [Option.filter, hf, hg.symm]
  · rw [List.getElem?_eq_none (by simp; omega), List.getElem?_eq_none (by omega)]

/-- Another fetch sees the same machine. -/
theorem Frame.view (h : Frame f c s s') (hg : g ≠ f)
    (hd : ∀ a, d.outcome = some a → c.outcome ≠ some a) : view s' g d = view s g d := by
  have hslot : d.outcome.bind s'.slot = d.outcome.bind s.slot := by
    cases ho : d.outcome with
    | none => rfl
    | some a => exact h.slots a (hd a ho)
  unfold GputoolsReplay.view
  rw [h.errors, hslot, h.invocations g hg]

end Frames

/-! ## What an event of a fetch does -/

section Moves

variable {fromBytes : Bytes → Except String Value} {f i : Nat} {c c' : Call} {s s' : State}
variable {e : Event} {inv inv' : Invocation}

/-- Fetch `f` with frame `c` moves, and nothing else does. -/
def Moves (fromBytes : Bytes → Except String Value) (f : Nat) (e : Event) (c : Call)
    (s s' : State) : Prop :=
  ∃ c', s'.calls[f]? = some c' ∧ Frame f c s s' ∧
    LocalStep fromBytes f e (view s f c) (view s' f c')

theorem setCall_self (hf : f < s.calls.length) : (s.setCall f c').calls[f]? = some c' :=
  List.getElem?_set_self hf

/-- Steps that only write the frame. -/
theorem moves_setCall (hc : s.calls[f]? = some c)
    (h : LocalStep fromBytes f e (view s f c) (view s f c')) :
    Moves fromBytes f e c s (s.setCall f c') :=
  ⟨c', setCall_self (List.getElem?_eq_some_iff.mp hc).1, frame_setCall, h⟩

theorem view_setCall {g : Nat} {d : Call} : view (s.setCall g d) f c = view s f c := rfl

theorem view_setCall_setInvocation {g : Nat} {d : Call} :
    view ((s.setCall g d).setInvocation i inv) f c = view (s.setInvocation i inv) f c := rfl

theorem view_setSlot {a : Nat} {w : Option FetchResult} (hout : c.outcome = some a)
    (ha : a < s.outcomes.length) : view (s.setSlot a w) f c = { view s f c with slot := w } := by
  have hslot : c.outcome.bind (s.setSlot a w).slot = w := by
    rw [hout]
    exact slot_setSlot_self ha
  unfold view
  rw [hslot]
  rfl

theorem view_slot {a : Nat} (hout : c.outcome = some a) : (view s f c).slot = s.slot a := by
  unfold view
  rw [hout]
  rfl

theorem view_storeInto {a : Nat} {r : FetchResult} (hout : c.outcome = some a)
    (ha : a < s.outcomes.length) : view (s.storeInto a r) f c =
      { view s f c with slot := (view s f c).slot.or (some r) } := by
  have hview := view_slot (s := s) (f := f) hout
  unfold State.storeInto
  cases hs : s.slot a with
  | none =>
    rw [hview, hs]
    exact view_setSlot hout ha
  | some r' =>
    rw [hview, hs]
    exact congrArg (fun w => { view s f c with slot := w }) (hview.trans hs)

theorem slot_lt {a : Nat} {r : FetchResult} (h : s.slot a = some r) : a < s.outcomes.length := by
  by_contra hlt
  unfold State.slot at h
  rw [List.getElem?_eq_none (by omega)] at h
  cases h

/-- The verdict of a fetch is a value: its decode does not panic. -/
theorem verdict_ok (cls : RecordClass) (observed : Option String) (r : FetchResult) :
    ∃ value, verdict cls observed r = .ok value := by
  cases observed with
  | some m => exact ⟨_, rfl⟩
  | none =>
    cases r with
    | error e => exact ⟨_, rfl⟩
    | ok raw =>
      unfold verdict
      dsimp only
      rw [Reply.decode_eq]
      exact ⟨_, rfl⟩

theorem callStep_moves (hc : s.calls[f]? = some c) (he : e.fetch = some f)
    (h : s.callStep f c e = some s') : Moves fromBytes f e c s s' := by
  unfold State.callStep at h
  cases e with
  | arm g =>
    cases he
    dsimp only at h
    split at h
    · rename_i hpc
      cases h
      exact moves_setCall hc (LocalStep.arm hpc)
    · cases h
  | dispatch g =>
    cases he
    dsimp only at h
    split at h
    · rename_i hpc hb
      cases h
      exact moves_setCall hc (LocalStep.dispatch hpc hb)
    · cases h
  | token g granted =>
    cases he
    dsimp only at h
    split at h
    · rename_i hpc
      cases h
      exact moves_setCall hc (LocalStep.token hpc)
    · cases h
  | deadline g now =>
    cases he
    dsimp only at h
    split at h
    · rename_i hpc
      split at h
      · cases h
        exact moves_setCall hc (LocalStep.deadline hpc)
      · rename_i hadd
        cases h
        have hlimit : ¬ now + c.timeout < instantLimit := by
          intro hlt
          rw [instantAdd, if_pos hlt] at hadd
          cases hadd
        exact moves_setCall hc (LocalStep.overflow hpc hlimit)
    · cases h
  | slotCheck g =>
    cases he
    dsimp only at h
    split at h
    · rename_i t a hpc hout
      have hview : (view s f c).slot = s.slot a := view_slot hout
      split at h
      · rename_i r hslot
        cases h
        refine ⟨_, setCall_self (List.getElem?_eq_some_iff.mp hc).1,
          (frame_setSlot hout).trans frame_setCall, ?_⟩
        rw [view_setCall, view_setSlot ?_ (slot_lt hslot)]
        · exact LocalStep.collect hpc (hview.trans hslot)
        · exact hout
      · rename_i hslot
        cases h
        exact moves_setCall hc (LocalStep.miss hpc (hview.trans hslot))
    · cases h
  | clockCheck g now =>
    cases he
    dsimp only at h
    split at h
    · rename_i t hpc
      split at h
      · cases h
        exact moves_setCall hc (LocalStep.timeout hpc)
      · cases h
        exact moves_setCall hc (LocalStep.again hpc)
    · cases h
  | observerCheck g =>
    cases he
    dsimp only at h
    split at h
    · rename_i r hpc hr
      obtain ⟨value, hv⟩ := verdict_ok c.cls (firstErrorSince s.errors c.mark) r
      rw [hv] at h
      cases h
      exact moves_setCall hc (LocalStep.answer hpc hr hv)
    · cases h
  | begin | report | invoke | completionCheck | take | store => cases h

theorem view_setInvocation (hi : s.invocations[i]? = some inv) (hf' : inv'.call = f) :
    view (s.setInvocation i inv') f c = { view s f c with
      invocations := Function.update (view s f c).invocations i (some inv') } := by
  have hinv : (s.setInvocation i inv').invocationOf f =
      Function.update (s.invocationOf f) i (some inv') := by
    funext j
    unfold State.invocationOf State.setInvocation
    by_cases hj : j = i
    · subst hj
      rw [Function.update_self, List.getElem?_set_self (List.getElem?_eq_some_iff.mp hi).1]
      simp [Option.filter, hf']
    · rw [Function.update_of_ne hj, List.getElem?_set_ne (Ne.symm hj)]
  unfold view
  rw [hinv]
  rfl

theorem view_addInvocation (hf : inv.call = f) :
    view (s.addInvocation inv) f c = { view s f c with
      invocations := Function.update (view s f c).invocations s.invocations.length
        (some inv) } := by
  have hinv : (s.addInvocation inv).invocationOf f =
      Function.update (s.invocationOf f) s.invocations.length (some inv) := by
    funext j
    unfold State.invocationOf State.addInvocation
    rcases Nat.lt_trichotomy j s.invocations.length with hj | rfl | hj
    · rw [Function.update_of_ne (by omega), List.getElem?_append_left hj]
    · rw [Function.update_self, List.getElem?_concat_length]
      simp [Option.filter, hf]
    · rw [Function.update_of_ne (by omega), List.getElem?_eq_none (by simp; omega),
        List.getElem?_eq_none (by omega)]
  unfold view
  rw [hinv]
  rfl

/-- Steps that only write an invocation. -/
theorem moves_setInvocation (hc : s.calls[f]? = some c) (hi : s.invocations[i]? = some inv)
    (hf : inv.call = f) (hf' : inv'.call = f)
    (h : LocalStep fromBytes f e (view s f c) { view s f c with
      invocations := Function.update (view s f c).invocations i (some inv') }) :
    Moves fromBytes f e c s (s.setInvocation i inv') := by
  refine ⟨c, hc, frame_setInvocation hi hf hf', ?_⟩
  rw [view_setInvocation hi hf']
  exact h

/-- The handler in the hands of an invocation stores into the cell of its own fetch. -/
def Held (s : State) (f : Nat) (c : Call) : Prop :=
  (∀ a, c.outcome = some a → a < s.outcomes.length) ∧
    ∀ (i : Nat) (inv : Invocation), s.invocations[i]? = some inv → inv.call = f →
      ∀ a r, inv.pc = .holding a r → c.outcome = some a

theorem blockStep_moves {b : Block} (hc : s.calls[f]? = some c) (hb : c.block = some b)
    (hi : s.invocations[i]? = some inv) (hf : inv.call = f) (hh : Held s f c)
    (he : e = .completionCheck f i ∨ e = .take f i ∨ e = .store f i)
    (h : s.blockStep f i c b inv e = some s') : Moves fromBytes f e c s s' := by
  have hv : (view s f c).invocations i = some inv := invocationOf_eq_some.mpr ⟨hi, hf⟩
  unfold State.blockStep at h
  rcases he with rfl | rfl | rfl
  · dsimp only at h
    split at h
    · rename_i r hpc
      cases h
      exact moves_setInvocation hc hi hf hf (LocalStep.completionCheck hb hv hpc)
    · cases h
  · dsimp only at h
    split at h
    · rename_i r hpc
      split at h
      · rename_i sink hsink
        cases h
        refine ⟨_, setCall_self (List.getElem?_eq_some_iff.mp hc).1,
          frame_setCall.trans (frame_setInvocation hi hf hf), ?_⟩
        rw [view_setCall_setInvocation, view_setInvocation hi ?_]
        · exact LocalStep.take hb hsink hv hpc
        · exact hf
      · rename_i hgone
        cases h
        exact moves_setInvocation hc hi hf hf (LocalStep.takeLate hb hgone hv hpc)
    · cases h
  · dsimp only at h
    split at h
    · rename_i sink r hpc
      have hout := hh.2 i inv hi hf sink r hpc
      have hi' : (s.storeInto sink r).invocations[i]? = some inv := by
        rw [storeInto_invocations, hi]
      cases h
      refine ⟨c, ?_, (frame_storeInto hout).trans (frame_setInvocation hi' hf hf), ?_⟩
      · exact (congrArg (fun l => l[f]?) storeInto_calls).trans hc
      · rw [view_setInvocation hi' ?_, view_storeInto hout (hh.1 sink hout)]
        · exact LocalStep.store hout hv hpc
        · exact hf
    · cases h

/-- An event of a fetch moves that fetch. -/
theorem step_fetch (h : step fromBytes s e = some s') (he : e.fetch = some f)
    (hh : ∀ c, s.calls[f]? = some c → Held s f c) :
    ∃ c, s.calls[f]? = some c ∧ Moves fromBytes f e c s s' := by
  have caller : ∀ {g}, e.fetch = some g →
      ((s.calls[g]?).bind fun c => s.callStep g c e) = some s' →
      ∃ c, s.calls[f]? = some c ∧ Moves fromBytes f e c s s' := by
    intro g hg h
    obtain rfl : g = f := Option.some.inj (hg.symm.trans he)
    obtain ⟨c, hc, h⟩ := Option.bind_eq_some_iff.mp h
    exact ⟨c, hc, callStep_moves hc he h⟩
  have invocation : ∀ {i}, (e = .completionCheck f i ∨ e = .take f i ∨ e = .store f i) →
      ((s.calls[f]?).bind fun c => c.block.bind fun b => (s.invocations[i]?).bind fun inv =>
        if inv.call = f then s.blockStep f i c b inv e else none) = some s' →
      ∃ c, s.calls[f]? = some c ∧ Moves fromBytes f e c s s' := by
    intro i hi h
    obtain ⟨c, hc, h⟩ := Option.bind_eq_some_iff.mp h
    obtain ⟨b, hb, h⟩ := Option.bind_eq_some_iff.mp h
    obtain ⟨inv, hinv, h⟩ := Option.bind_eq_some_iff.mp h
    split at h
    · rename_i hf
      exact ⟨c, hc, blockStep_moves hc hb hinv hf (hh c hc) hi h⟩
    · cases h
  cases e with
  | begin | report => cases he
  | arm | dispatch | token | deadline | slotCheck | clockCheck | observerCheck =>
    exact caller rfl h
  | invoke g i response =>
    cases he
    obtain ⟨c, hc, h⟩ := Option.bind_eq_some_iff.mp h
    obtain ⟨b, hb, h⟩ := Option.bind_eq_some_iff.mp h
    split at h
    · rename_i hi
      cases h
      obtain ⟨_, rfl⟩ := hi
      refine ⟨c, hc, c, hc, frame_addInvocation rfl, ?_⟩
      have hnone : (view s f c).invocations s.invocations.length = none := by
        unfold view State.invocationOf
        dsimp only
        rw [List.getElem?_eq_none (Nat.le_refl _)]
        rfl
      rw [view_addInvocation ?_]
      · exact LocalStep.invoke hb hnone
      · rfl
    · cases h
  | completionCheck g i =>
    cases he
    exact invocation (Or.inl rfl) h
  | take g i =>
    cases he
    exact invocation (Or.inr (Or.inl rfl)) h
  | store g i =>
    cases he
    exact invocation (Or.inr (Or.inr rfl)) h

end Moves

/-! ## The invariant of a run -/

/-- After the events `tr`, from a session whose observer had recorded `errors`. -/
structure Coherent (fromBytes : Bytes → Except String Value) (errors : List String)
    (tr : List Event) (s : State) : Prop where
  errors : s.errors = errors ++ reports tr
  count : s.calls.length = begins tr
  cells : ∀ (f : Nat) (c : Call) a, s.calls[f]? = some c → c.outcome = some a →
    a < s.outcomes.length
  /-- No two fetches share a cell. -/
  owner : ∀ (f g : Nat) (c d : Call) a, s.calls[f]? = some c → s.calls[g]? = some d →
    c.outcome = some a → d.outcome = some a → f = g
  known : ∀ (i : Nat) (inv : Invocation), s.invocations[i]? = some inv →
    inv.call < s.calls.length
  fresh : ∀ f, s.calls.length ≤ f → ∀ e ∈ tr, e.fetch ≠ some f
  fetch : ∀ (f : Nat) (c : Call), s.calls[f]? = some c → Inv fromBytes f tr (view s f c)

section Runs

variable {fromBytes : Bytes → Except String Value} {errors : List String} {tr : List Event}
variable {s s' : State} {e : Event} {f : Nat} {c : Call}

theorem coherent_init : Coherent fromBytes errors [] (State.init errors) := by
  refine ⟨(List.append_nil errors).symm, rfl, ?_, ?_, ?_, ?_, ?_⟩
  · intro f c a h
    cases h
  · intro f g c d a h
    cases h
  · intro i inv h
    cases h
  · intro f _ e h
    cases h
  · intro f c h
    cases h

theorem Coherent.held (hco : Coherent fromBytes errors tr s) (hc : s.calls[f]? = some c) :
    Held s f c := by
  refine ⟨fun a => hco.cells f c a hc, fun i inv hi hf a r hpc => ?_⟩
  exact ((hco.fetch f c hc).delivery.held i inv a r (invocationOf_eq_some.mpr ⟨hi, hf⟩) hpc).1

/-- What an event that calls no fetch does, fetch by fetch. -/
structure Advances (fromBytes : Bytes → Except String Value) (e : Event) (s s' : State) :
    Prop where
  errors : s'.errors = s.errors ++ reports [e]
  length : s'.calls.length = s.calls.length
  outcomes : s'.outcomes.length = s.outcomes.length
  belongs : ∀ f, e.fetch = some f → f < s.calls.length
  known : ∀ (i : Nat) (inv : Invocation), s'.invocations[i]? = some inv →
    e.fetch = some inv.call ∨ s.invocations[i]? = some inv
  fetch : ∀ (f : Nat) (c' : Call), s'.calls[f]? = some c' → ∃ c, s.calls[f]? = some c ∧
    LocalStep fromBytes f e (view s f c) (view s' f c')

theorem Coherent.advances (hco : Coherent fromBytes errors tr s)
    (h : step fromBytes s e = some s') (he : e.isBegin = false) : Advances fromBytes e s s' := by
  cases hf : e.fetch with
  | none =>
    cases e with
    | begin => cases he
    | report n =>
      cases h
      refine ⟨rfl, rfl, rfl, ?_, fun _ _ h => Or.inr h, fun f c h => ⟨c, h, LocalStep.report⟩⟩
      rintro f ⟨⟩
    | _ => cases hf
  | some f =>
    obtain ⟨c, hc, c', hc', hframe, hlocal⟩ := step_fetch h hf fun c hc => hco.held hc
    have hrep : reports [e] = [] := by
      cases e <;> first | rfl | cases hf
    refine ⟨by rw [hframe.errors, hrep, List.append_nil], hframe.length, hframe.outcomes, ?_,
      ?_, ?_⟩
    · rintro g hg
      obtain rfl := Option.some.inj (hf.symm.trans hg)
      exact (List.getElem?_eq_some_iff.mp hc).1
    · intro i inv hi
      by_cases hcall : inv.call = f
      · exact Or.inl (hf.trans (congrArg some hcall.symm))
      · have hof := invocationOf_eq_some.mpr ⟨hi, rfl⟩
        rw [hframe.invocations _ hcall] at hof
        exact Or.inr (invocationOf_eq_some.mp hof).1
    · intro g d hd
      by_cases hg : g = f
      · subst hg
        obtain rfl := Option.some.inj (hc'.symm.trans hd)
        exact ⟨c, hc, hlocal⟩
      · rw [hframe.calls g hg] at hd
        refine ⟨d, hd, ?_⟩
        rw [hframe.view hg fun a ha hca => hg (hco.owner g f d c a hd hc ha hca)]
        refine LocalStep.other ?_ ?_
        · rw [hf]
          exact fun h => hg (Option.some.inj h).symm
        · rintro n rfl
          cases hf

theorem Advances.coherent (ha : Advances fromBytes e s s') (he : e.isBegin = false)
    (hco : Coherent fromBytes errors tr s) : Coherent fromBytes errors (tr ++ [e]) s' := by
  refine ⟨?_, ?_, ?_, ?_, ?_, ?_, ?_⟩
  · rw [ha.errors, hco.errors, reports_append, List.append_assoc]
  · rw [ha.length, hco.count, begins, begins, List.countP_append, List.countP_singleton, he]
    rfl
  · intro f c' a hc' ho
    obtain ⟨c, hc, hl⟩ := ha.fetch f c' hc'
    rw [ha.outcomes]
    exact hco.cells f c a hc (hl.kept.2.2.symm.trans ho)
  · intro f g c' d' a hc' hd' hca hda
    obtain ⟨c, hc, hl⟩ := ha.fetch f c' hc'
    obtain ⟨d, hd, hl'⟩ := ha.fetch g d' hd'
    exact hco.owner f g c d a hc hd (hl.kept.2.2.symm.trans hca) (hl'.kept.2.2.symm.trans hda)
  · intro i inv hi
    rw [ha.length]
    rcases ha.known i inv hi with h | h
    · exact ha.belongs _ h
    · exact hco.known i inv h
  · intro f hf e' he'
    rw [ha.length] at hf
    rcases List.mem_append.mp he' with h | h
    · exact hco.fresh f hf e' h
    · rw [List.mem_singleton.mp h]
      exact fun h => absurd (ha.belongs f h) (by omega)
  · intro f c' hc'
    obtain ⟨c, hc, hl⟩ := ha.fetch f c' hc'
    exact inv_step hl (hco.fetch f c hc)

/-- The frame of a fetch that was just called. -/
structure Called (s : State) (cls : RecordClass) (c : Call) (cell : List (Option FetchResult)) :
    Prop where
  cls : c.cls = cls
  block : c.block = none
  result : c.result = none
  place : (cell = [none] ∧ c.pc = .marked ∧ c.outcome = some s.outcomes.length ∧
      c.mark = s.errors.length) ∨
    (cell = [] ∧ c.outcome = none ∧ c.mark = 0 ∧ ∃ value, c.pc = .returned value ∧
      (value = .error .emptyBatch ∨ ∃ m, value = .error (.setup m)))

theorem step_begin {cls : RecordClass} {requests timeout : Nat} {setup : Option String}
    (h : step fromBytes s (.begin cls requests setup timeout) = some s') :
    ∃ c cell, Called s cls c cell ∧ s' = s.addCall cell c := by
  unfold step State.beginCall at h
  dsimp only at h
  split at h
  · split at h
    · cases h
      refine ⟨_, [], ?_, rfl⟩
      exact ⟨rfl, rfl, rfl, Or.inr ⟨rfl, rfl, rfl, _, rfl, Or.inl rfl⟩⟩
    · split at h
      · cases h
        refine ⟨_, [], ?_, rfl⟩
        exact ⟨rfl, rfl, rfl, Or.inr ⟨rfl, rfl, rfl, _, rfl, Or.inr ⟨_, rfl⟩⟩⟩
      · cases h
        exact ⟨_, [none], ⟨rfl, rfl, rfl, Or.inl ⟨rfl, rfl, rfl, rfl⟩⟩, rfl⟩
  · cases h

theorem addCall_outcomes {cells : List (Option FetchResult)} :
    (s.addCall cells c).outcomes.length = s.outcomes.length + cells.length :=
  List.length_append

theorem addCall_calls {cells : List (Option FetchResult)} :
    (s.addCall cells c).calls.length = s.calls.length + 1 :=
  List.length_append

/-- A frame after a call is one from before, or the new one. -/
theorem getElem?_addCall {cell : List (Option FetchResult)} {c₀ : Call}
    (h : (s.addCall cell c₀).calls[f]? = some c) :
    s.calls[f]? = some c ∨ (f = s.calls.length ∧ c = c₀) := by
  unfold State.addCall at h
  dsimp only at h
  rcases Nat.lt_trichotomy f s.calls.length with hf | rfl | hf
  · rw [List.getElem?_append_left hf] at h
    exact Or.inl h
  · rw [List.getElem?_concat_length] at h
    exact Or.inr ⟨rfl, (Option.some.inj h).symm⟩
  · rw [List.getElem?_eq_none (by simp; omega)] at h
    cases h

section Begin

variable {cls : RecordClass} {requests timeout : Nat} {setup : Option String} {c₀ : Call}
variable {cell : List (Option FetchResult)}

/-- The cell of the new frame is the new cell. -/
theorem Called.cell_eq (hcalled : Called s cls c₀ cell) {a : Nat} (h : c₀.outcome = some a) :
    a = s.outcomes.length ∧ cell = [none] := by
  rcases hcalled.place with ⟨hcell, _, ho, _⟩ | ⟨_, ho, _⟩
  · rw [ho] at h
    exact ⟨(Option.some.inj h).symm, hcell⟩
  · rw [ho] at h
    cases h

/-- No event so far belongs to the fetch that is called now. -/
theorem Coherent.fresh_begin (hco : Coherent fromBytes errors tr s) (hf : s.calls.length ≤ f) :
    ∀ e ∈ tr ++ [.begin cls requests setup timeout], e.fetch ≠ some f := by
  intro e he
  rcases List.mem_append.mp he with h | h
  · exact hco.fresh f hf e h
  · rw [List.mem_singleton.mp h]
    rintro ⟨⟩

/-- The other fetches see the same machine. -/
theorem Coherent.view_addCall (hco : Coherent fromBytes errors tr s)
    (hc : s.calls[f]? = some c) : view (s.addCall cell c₀) f c = view s f c := by
  have hslot : c.outcome.bind (s.addCall cell c₀).slot = c.outcome.bind s.slot := by
    cases ho : c.outcome with
    | none => rfl
    | some a =>
      refine congrArg Option.join ?_
      exact List.getElem?_append_left (hco.cells f c a hc ho)
  unfold view
  rw [hslot]
  rfl

/-- The new fetch starts with the invariant. -/
theorem Coherent.inv_addCall (hco : Coherent fromBytes errors tr s)
    (hcalled : Called s cls c₀ cell) :
    Inv fromBytes s.calls.length (tr ++ [.begin cls requests setup timeout])
      (view (s.addCall cell c₀) s.calls.length c₀) := by
  have hfresh : ∀ e ∈ tr ++ [.begin cls requests setup timeout],
      e.fetch ≠ some s.calls.length := hco.fresh_begin (Nat.le_refl _)
  refine inv_begin ?_ (takers_eq_nil hfresh) (stores_eq_nil hfresh) ?_ hcalled.result
    hcalled.block ?_ ?_
  · intro i
    by_contra hi
    obtain ⟨inv, hi⟩ := Option.ne_none_iff_exists'.mp hi
    obtain ⟨hi, hcall⟩ := invocationOf_eq_some.mp hi
    have := hco.known i inv hi
    omega
  · cases ho : c₀.outcome with
    | none =>
      unfold view
      rw [ho]
      rfl
    | some a =>
      obtain ⟨rfl, rfl⟩ := hcalled.cell_eq ho
      rw [view_slot ho]
      unfold State.slot State.addCall
      rw [List.getElem?_concat_length]
      rfl
  · rcases hcalled.place with ⟨_, _, _, h⟩ | ⟨_, _, h, _⟩
    · exact Nat.le_of_eq h
    · exact h ▸ Nat.zero_le _
  · rcases hcalled.place with ⟨_, h, ho, _⟩ | ⟨_, ho, _, h⟩
    · exact Or.inl ⟨h, _, ho⟩
    · exact Or.inr ⟨ho, h⟩

theorem Coherent.addCall (hco : Coherent fromBytes errors tr s)
    (hcalled : Called s cls c₀ cell) :
    Coherent fromBytes errors (tr ++ [.begin cls requests setup timeout])
      (s.addCall cell c₀) := by
  refine ⟨?_, ?_, ?_, ?_, ?_, ?_, ?_⟩
  · rw [reports_append, ← List.append_assoc, ← hco.errors]
    exact (List.append_nil _).symm
  · rw [begins, List.countP_append, ← begins, ← hco.count]
    exact List.length_append
  · intro f c a hc ha
    rw [addCall_outcomes]
    rcases getElem?_addCall hc with hc | ⟨_, rfl⟩
    · have := hco.cells f c a hc ha
      omega
    · obtain ⟨rfl, rfl⟩ := hcalled.cell_eq ha
      exact Nat.lt_succ_self _
  · intro f g c d a hc hd hca hda
    rcases getElem?_addCall hc with hf | ⟨hf, rfl⟩ <;>
      rcases getElem?_addCall hd with hg | ⟨hg, rfl⟩
    · exact hco.owner f g c d a hf hg hca hda
    · have := hco.cells f c a hf hca
      have := (hcalled.cell_eq hda).1
      omega
    · have := hco.cells g d a hg hda
      have := (hcalled.cell_eq hca).1
      omega
    · rw [hf, hg]
  · intro i inv hi
    rw [addCall_calls]
    have := hco.known i inv hi
    omega
  · exact fun f hf => hco.fresh_begin (by rw [addCall_calls] at hf; omega)
  · intro f c hc
    rcases getElem?_addCall hc with hc | ⟨rfl, rfl⟩
    · rw [hco.view_addCall hc]
      exact inv_step (LocalStep.other (by simp [Event.fetch]) (by simp)) (hco.fetch f c hc)
    · exact hco.inv_addCall hcalled

end Begin

theorem coherent_step (hco : Coherent fromBytes errors tr s) (h : step fromBytes s e = some s') :
    Coherent fromBytes errors (tr ++ [e]) s' := by
  cases he : e.isBegin with
  | false => exact (hco.advances h he).coherent he hco
  | true =>
    cases e with
    | begin cls requests setup timeout =>
      obtain ⟨c, cell, hcalled, rfl⟩ := step_begin h
      exact hco.addCall hcalled
    | _ => cases he

/-- Every run keeps the invariant. -/
theorem coherent_run (h : Trace.run (step fromBytes) (State.init errors) tr = some s) :
    Coherent fromBytes errors tr s :=
  Trace.run_carries (fun _ _ _ _ => coherent_step) coherent_init h

/-- What stays as it is in a run from `s` to `s'`. -/
structure Later (s s' : State) : Prop where
  calls : ∀ (f : Nat) (c : Call), s.calls[f]? = some c → ∃ c', s'.calls[f]? = some c' ∧
    (c'.cls = c.cls ∧ c'.mark = c.mark ∧ c'.outcome = c.outcome) ∧
      ∀ value, c.pc = .returned value → c'.pc = .returned value
  invocations : ∀ (i : Nat) (inv : Invocation) r, s.invocations[i]? = some inv →
    inv.pc = .done r → s'.invocations[i]? = some inv

theorem Later.refl : Later s s :=
  ⟨fun _ c hc => ⟨c, hc, ⟨rfl, rfl, rfl⟩, fun _ h => h⟩, fun _ _ _ hi _ => hi⟩

theorem Later.trans {s'' : State} (h : Later s s') (h' : Later s' s'') : Later s s'' := by
  refine ⟨fun f c hc => ?_, fun i inv r hi hr => ?_⟩
  · obtain ⟨c', hc', ⟨h1, h2, h3⟩, h4⟩ := h.calls f c hc
    obtain ⟨c'', hc'', ⟨h1', h2', h3'⟩, h4'⟩ := h'.calls f c' hc'
    exact ⟨c'', hc'', ⟨h1'.trans h1, h2'.trans h2, h3'.trans h3⟩,
      fun value hv => h4' value (h4 value hv)⟩
  · exact h'.invocations i inv r (h.invocations i inv r hi hr) hr

/-- Whatever happens, a fetch follows with a step of its own view. -/
theorem Coherent.follows (hco : Coherent fromBytes errors tr s)
    (h : step fromBytes s e = some s') (hc : s.calls[f]? = some c) :
    ∃ c', s'.calls[f]? = some c' ∧ LocalStep fromBytes f e (view s f c) (view s' f c') := by
  cases he : e.isBegin with
  | false =>
    have ha := hco.advances h he
    have hlt : f < s'.calls.length := ha.length ▸ (List.getElem?_eq_some_iff.mp hc).1
    obtain ⟨c₁, hc₁, hl⟩ := ha.fetch f _ (List.getElem?_eq_getElem hlt)
    obtain rfl := Option.some.inj (hc.symm.trans hc₁)
    exact ⟨_, List.getElem?_eq_getElem hlt, hl⟩
  | true =>
    cases e with
    | begin cls requests setup timeout =>
      obtain ⟨c₀, cell, _, rfl⟩ := step_begin h
      refine ⟨c, (List.getElem?_append_left (List.getElem?_eq_some_iff.mp hc).1).trans hc, ?_⟩
      rw [hco.view_addCall hc]
      exact LocalStep.other (by simp [Event.fetch]) (by simp)
    | _ => cases he

theorem Coherent.later (hco : Coherent fromBytes errors tr s)
    (h : step fromBytes s e = some s') : Later s s' := by
  refine ⟨fun f c hc => ?_, fun i inv r hi hr => ?_⟩
  · obtain ⟨c', hc', hl⟩ := hco.follows h hc
    exact ⟨c', hc', hl.kept, fun value => hl.returned⟩
  · obtain ⟨c', _, hl⟩ := hco.follows h (List.getElem?_eq_getElem (hco.known i inv hi))
    exact (invocationOf_eq_some.mp (hl.done (invocationOf_eq_some.mpr ⟨hi, rfl⟩) hr)).1

theorem Coherent.run (hco : Coherent fromBytes errors tr s) {tr' : List Event}
    (h : Trace.run (step fromBytes) s tr' = some s') :
    Coherent fromBytes errors (tr ++ tr') s' ∧ Later s s' := by
  refine Trace.run_carries (P := fun tr s' => Coherent fromBytes errors tr s' ∧ Later s s')
    (fun tr s₁ e s₂ ⟨hco, hl⟩ h => ?_) ⟨hco, Later.refl⟩ h
  exact ⟨coherent_step hco h, hl.trans (hco.later h)⟩

/-- What every step of its view carries on, a fetch carries on from there. -/
theorem Coherent.carries {P : List Event → View → Prop}
    (hstep : ∀ tr e v v', LocalStep fromBytes f e v v' → P tr v → P (tr ++ [e]) v')
    (hco : Coherent fromBytes errors tr s) (hc : s.calls[f]? = some c) (hP : P [] (view s f c))
    {tr' : List Event} (h : Trace.run (step fromBytes) s tr' = some s') :
    ∃ c', s'.calls[f]? = some c' ∧ P tr' (view s' f c') := by
  have hcarry : ∀ tr₁ s₁ e s₂, (Coherent fromBytes errors (tr ++ tr₁) s₁ ∧
      ∃ c₁, s₁.calls[f]? = some c₁ ∧ P tr₁ (view s₁ f c₁)) → step fromBytes s₁ e = some s₂ →
      Coherent fromBytes errors (tr ++ (tr₁ ++ [e])) s₂ ∧
        ∃ c₂, s₂.calls[f]? = some c₂ ∧ P (tr₁ ++ [e]) (view s₂ f c₂) := by
    intro tr₁ s₁ e s₂ h₁ he
    obtain ⟨hco₁, c₁, hc₁, hP₁⟩ := h₁
    obtain ⟨c₂, hc₂, hl⟩ := hco₁.follows he hc₁
    rw [← List.append_assoc]
    exact ⟨coherent_step hco₁ he, c₂, hc₂, hstep tr₁ e _ _ hl hP₁⟩
  have hstart : Coherent fromBytes errors (tr ++ []) s := by rwa [List.append_nil]
  exact (Trace.run_carries hcarry ⟨hstart, c, hc, hP⟩ h).2

/-- What every step of its view keeps, a fetch keeps from there on. -/
theorem Coherent.keeps {P : View → Prop}
    (hstep : ∀ e v v', LocalStep fromBytes f e v v' → P v → P v')
    (hco : Coherent fromBytes errors tr s) (hc : s.calls[f]? = some c) (hP : P (view s f c))
    {tr' : List Event} (h : Trace.run (step fromBytes) s tr' = some s') :
    ∃ c', s'.calls[f]? = some c' ∧ P (view s' f c') :=
  hco.carries (P := fun _ => P) (fun _ => hstep) hc hP h

end Runs

end GputoolsReplay
