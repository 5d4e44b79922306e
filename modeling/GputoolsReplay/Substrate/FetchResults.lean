/-
  What a blocking fetch returns, in every interleaving with the framework.

  * `fetch_isolation`: a handler is called once at most, a cell is written once at most and
    by the first invocation of its own block, and a fetch returns what that invocation
    stored, or a timeout when nothing was stored at its last look.
  * `observer_authority`: the first error reported during a fetch decides it. Without one
    the fetch returns the decode of what its block read, or a timeout.
-/
import GputoolsReplay.Substrate.FetchRuns

namespace GputoolsReplay

open RustSem

section Results

variable {fromBytes : Bytes → Except String Value} {errors : List String} {tr : List Event}
variable {s s' : State} {e : Event} {f : Nat} {c : Call}

/-! ## The first result -/

/-- `r` is the result of the first invocation of the block of `f` to lock the handler, which
    alone called it. The invocation read `r` from its response, or the observer had a
    message for it. -/
def FirstResult (fromBytes : Bytes → Except String Value) (tr : List Event) (s : State) (f : Nat)
    (c : Call) (r : FetchResult) : Prop :=
  ∃ (i : Nat) (inv : Invocation), (takers f tr).head? = some i ∧ stores f tr = [i] ∧
    s.invocations[i]? = some inv ∧ inv.call = f ∧ inv.pc = .done r ∧
    .invoke f i inv.response ∈ tr ∧
    (r = readResponse fromBytes inv.response ∨
      ∃ m ∈ s.errors.drop c.mark, r = .error (.replayer m))

/-- Once the handler was called there is a first result. It is in the cell, or the fetch
    collected it. -/
theorem Coherent.firstResult (hco : Coherent fromBytes errors tr s)
    (hc : s.calls[f]? = some c) (hst : stores f tr ≠ []) :
    ∃ r, FirstResult fromBytes tr s f c r ∧
      (((view s f c).slot = some r ∧ c.Uncollected) ∨
        ((view s f c).slot = none ∧ c.result = some r)) := by
  obtain ⟨hplaced, hdelivery, hcarried⟩ := hco.fetch f c hc
  obtain ⟨i, inv, r, hone, hhead, hi, hpc, hrest⟩ := hdelivery.stored.resolve_left hst
  obtain ⟨hcall, hmem⟩ := hcarried.invoked i inv hi
  have hsource := hcarried.source i inv hi
  rw [hpc] at hsource
  refine ⟨r, ⟨i, inv, hhead, hone, (invocationOf_eq_some.mp hi).1, hcall, hpc, hmem, ?_⟩, hrest⟩
  rcases hsource with h | ⟨b, m, hb, hm, h⟩
  · exact Or.inl h
  · exact Or.inr ⟨m, (List.drop_subset_drop_left _ (hplaced.marks b hb)) hm, h⟩

/-- A fetch that collected something collected the first result. -/
theorem Coherent.collected (hco : Coherent fromBytes errors tr s) (hc : s.calls[f]? = some c)
    {r : FetchResult} (hr : c.result = some r) :
    r = .error .timeout ∨ FirstResult fromBytes tr s f c r := by
  have hun : c.Uncollected → r = .error .timeout := by
    rintro (h | h)
    · rw [hr] at h
      cases h
    · exact Option.some.inj (hr.symm.trans h)
  by_cases hst : stores f tr = []
  · exact Or.inl (hun ((hco.fetch f c hc).delivery.unstored hst).2)
  · obtain ⟨r', hfirst, ⟨_, h⟩ | ⟨_, h⟩⟩ := hco.firstResult hc hst
    · exact Or.inl (hun h)
    · obtain rfl := Option.some.inj (hr.symm.trans h)
      exact Or.inr hfirst

theorem FirstResult.ne_timeout {r : FetchResult} (h : FirstResult fromBytes tr s f c r) :
    r ≠ .error .timeout := by
  obtain ⟨_, inv, _, _, _, _, _, _, h | ⟨m, _, h⟩⟩ := h
  · rw [h]
    exact readResponse_ne_timeout inv.response
  · rw [h]
    rintro ⟨⟩

/-- The first result stays the first result. -/
theorem FirstResult.later {tr' : List Event} {c' : Call} {r r' : FetchResult}
    (h : FirstResult fromBytes tr s f c r) (hl : Later s s')
    (h' : FirstResult fromBytes (tr ++ tr') s' f c' r') : r' = r := by
  obtain ⟨i, inv, hhead, _, hi, _, hpc, _⟩ := h
  obtain ⟨j, inv', hhead', _, hj, _, hpc', _⟩ := h'
  have hne : takers f tr ≠ [] := fun h => by
    rw [h] at hhead
    cases hhead
  rw [takers_append, List.head?_append_of_ne_nil _ hne, hhead] at hhead'
  obtain rfl := Option.some.inj hhead'
  obtain rfl := Option.some.inj ((hl.invocations i inv r hi hpc).symm.trans hj)
  rw [hpc] at hpc'
  cases hpc'
  rfl

/-! ## What is written -/

/-- Event `e`, after the events `pre`, puts `r` into cell `a`. -/
def Writes (fromBytes : Bytes → Except String Value) (errors : List String) (pre : List Event)
    (e : Event) (a : Nat) (r : FetchResult) : Prop :=
  ∃ s s', Trace.run (step fromBytes) (State.init errors) pre = some s ∧
    step fromBytes s e = some s' ∧ s.slot a ≠ some r ∧ s'.slot a = some r

/-- What fills a cell is the invocation that holds the handler of its fetch. -/
theorem Coherent.written (hco : Coherent fromBytes errors tr s) (h : step fromBytes s e = some s')
    {a : Nat} {r : FetchResult} (hold : s.slot a ≠ some r) (hnew : s'.slot a = some r) :
    ∃ f i c, e = .store f i ∧ s.calls[f]? = some c ∧ c.outcome = some a := by
  cases hf : e.fetch with
  | none =>
    cases e with
    | begin cls requests setup timeout =>
      obtain ⟨c₀, cell, hcalled, rfl⟩ := step_begin h
      have hcell : ∀ w ∈ cell, w = none := by
        rcases hcalled.place with ⟨rfl, _⟩ | ⟨rfl, _⟩
        · exact fun w hw => List.mem_singleton.mp hw
        · exact fun w hw => absurd hw List.not_mem_nil
      have hget : (s.outcomes ++ cell)[a]? = some (some r) := Option.join_eq_some_iff.mp hnew
      by_cases ha : a < s.outcomes.length
      · rw [List.getElem?_append_left ha] at hget
        exact absurd (congrArg Option.join hget) hold
      · rw [List.getElem?_append_right (by omega)] at hget
        cases hcell _ (List.mem_of_getElem? hget)
    | report n =>
      cases h
      exact absurd hnew hold
    | _ => cases hf
  | some f =>
    obtain ⟨c, hc, c', _, hframe, hlocal⟩ := step_fetch h hf fun c hc => hco.held hc
    by_cases ho : c.outcome = some a
    · have ho' : c'.outcome = some a := hlocal.kept.2.2.trans ho
      rw [← view_slot ho'] at hnew
      rw [← view_slot ho] at hold
      obtain ⟨i, sink, inv, rfl, _⟩ := hlocal.slot_some hnew hold
      exact ⟨f, i, c, rfl, hc, ho⟩
    · rw [hframe.slots a ho] at hnew
      exact absurd hnew hold

theorem stores_ne_nil {i : Nat} {pre post : List Event} :
    stores f (pre ++ .store f i :: post) ≠ [] :=
  Trace.filterMap_ne_nil (by simp)

/-- A handler that is called once is called at one place in the run. -/
theorem stores_once {pre pre' post post' : List Event} {i j : Nat}
    (hone : (stores f tr).length ≤ 1) (h : tr = pre ++ .store f i :: post)
    (h' : tr = pre' ++ .store f j :: post') : pre = pre' :=
  Trace.once_at hone h (by simp) h' (by simp)

/-! ## What a fetch returns -/

/-- An invocation that locks the handler before another one of its block begins is the first
    to lock it. -/
theorem first_taker {pre post : List Event} {i : Nat}
    (h : Trace.run (step fromBytes) (State.init errors) (pre ++ .take f i :: post) = some s)
    (hone : invoked f pre = [i]) : (takers f (pre ++ .take f i :: post)).head? = some i := by
  obtain ⟨s₁, s₂, h₁, h₂, _⟩ := Trace.run_split h
  have hco := coherent_run h₁
  obtain ⟨c, hc, c', _, _, hlocal⟩ := step_fetch h₂ rfl fun c hc => hco.held hc
  obtain ⟨_, hdelivery, hcarried⟩ := hco.fetch f c hc
  have hnil : takers f pre = [] := by
    refine List.eq_nil_iff_forall_not_mem.mpr fun j hj => ?_
    obtain ⟨inv, hi, hpc⟩ := hdelivery.taken j hj
    have hj : j ∈ invoked f pre :=
      List.mem_filterMap.mpr ⟨_, (hcarried.invoked j inv hi).2, if_pos rfl⟩
    rw [hone, List.mem_singleton] at hj
    subst hj
    obtain ⟨inv', r, hi', hpc'⟩ := hlocal.taking
    obtain rfl := Option.some.inj (hi.symm.trans hi')
    rcases hpc with ⟨_, _, h⟩ | ⟨_, h⟩ <;> rw [hpc'] at h <;> cases h
  rw [← List.singleton_append, takers_append, takers_append, hnil, takers_take]
  rfl

theorem Coherent.returned (hco : Coherent fromBytes errors tr s) (hc : s.calls[f]? = some c)
    {value : Except FetchError AnyReply} (hpc : c.pc = .returned value) :
    (c.outcome = none ∧ (value = .error .emptyBatch ∨ ∃ m, value = .error (.setup m))) ∨
    value = .error .noToken ∨
    (∃ m ∈ s.errors.drop c.mark, value = .error (.replayer m)) ∨
    (value = .error .timeout ∧ NoStoreAtLastCheck f tr) ∨
    ∃ r, FirstResult fromBytes tr s f c r ∧ verdict c.cls none r = .ok value := by
  rcases (hco.fetch f c hc).placed.answered value hpc with h | h | ⟨r, observed, hr, hv, hm⟩
  · exact Or.inl h
  · exact Or.inr (Or.inl h)
  · refine Or.inr (Or.inr ?_)
    cases observed with
    | some m =>
      cases hv
      exact Or.inl ⟨m, hm m rfl, rfl⟩
    | none =>
      refine Or.inr ?_
      rcases hco.collected hc hr with rfl | hfirst
      · cases hv
        exact Or.inl ⟨rfl, (hco.fetch f c hc).placed.lastCheck (Or.inr hr)⟩
      · exact Or.inr ⟨r, hfirst, hv⟩

theorem verdict_ne_timeout {cls : RecordClass} {r : FetchResult} (hr : r ≠ .error .timeout) :
    verdict cls none r ≠ .ok (.error .timeout) := by
  intro h
  cases r with
  | error e =>
    cases h
    exact hr rfl
  | ok raw =>
    unfold verdict at h
    dsimp only at h
    cases hd : Reply.decode cls.Rec raw with
    | error p =>
      rw [hd] at h
      cases h
    | ok result =>
      rw [hd] at h
      cases result with
      | error e =>
        obtain ⟨_, rfl⟩ := Reply.decode_error raw e hd
        cases h
      | ok reply => cases h

/-- A cell is written by the handler of its fetch, with the first result. -/
theorem written_first {pre post : List Event} {a : Nat} {r : FetchResult}
    (h : Trace.run (step fromBytes) (State.init errors) (pre ++ e :: post) = some s)
    (hw : Writes fromBytes errors pre e a r) :
    ∃ f i c, e = .store f i ∧ s.calls[f]? = some c ∧ c.outcome = some a ∧
      FirstResult fromBytes (pre ++ e :: post) s f c r := by
  obtain ⟨s₁, s₂, h₁, h₂, hold, hnew⟩ := hw
  obtain ⟨s₁', s₂', h₁', h₂', hpost⟩ := Trace.run_split h
  obtain rfl := Option.some.inj (h₁.symm.trans h₁')
  obtain rfl := Option.some.inj (h₂.symm.trans h₂')
  have hco₁ := coherent_run h₁
  obtain ⟨f, i, c₁, rfl, hc₁, ho₁⟩ := hco₁.written h₂ hold hnew
  have hco₂ := coherent_step hco₁ h₂
  obtain ⟨hco, hlater⟩ := hco₂.run hpost
  obtain ⟨c₂, hc₂, hkept₂, _⟩ := (hco₁.later h₂).calls f c₁ hc₁
  obtain ⟨c, hc, hkept, _⟩ := hlater.calls f c₂ hc₂
  have ho₂ : c₂.outcome = some a := hkept₂.2.2.trans ho₁
  obtain ⟨r₂, hfirst₂, hplace⟩ := hco₂.firstResult hc₂ stores_ne_nil
  -- the cell holds the first result right after the write
  have hr₂ : r₂ = r := by
    rw [view_slot ho₂, hnew] at hplace
    rcases hplace with ⟨hr, _⟩ | ⟨hr, _⟩
    · exact (Option.some.inj hr).symm
    · cases hr
  rw [List.append_assoc, List.singleton_append] at hco
  obtain ⟨r', hfirst, _⟩ := hco.firstResult hc stores_ne_nil
  rw [← List.singleton_append, ← List.append_assoc] at hfirst
  obtain rfl : r' = r := (hfirst₂.later hlater hfirst).trans hr₂
  rw [List.append_assoc, List.singleton_append] at hfirst
  exact ⟨f, i, c, rfl, hc, hkept.2.2.trans ho₂, hfirst⟩

theorem Coherent.stores_le_one (hco : Coherent fromBytes errors tr s) (f : Nat) :
    (stores f tr).length ≤ 1 := by
  by_cases hf : f < s.calls.length
  · rcases (hco.fetch f _ (List.getElem?_eq_getElem hf)).delivery.stored with h | ⟨i, _, _, h, _⟩
    · exact h ▸ Nat.zero_le 1
    · exact h ▸ Nat.le_refl 1
  · rw [stores_eq_nil (hco.fresh f (by omega))]
    exact Nat.zero_le 1

/-- In every interleaving of one caller's fetches with the framework:
    - the handler of a fetch is called at most once;
    - a cell is written at most once, by the handler of its own fetch, with the result of
      the first invocation of its block to lock the handler;
    - that is the invocation that began first, unless another one began before it got there;
    - a fetch that was sent returns `NoToken`, a message of the observer, `Timeout`, or what
      the first result decodes to;
    - `Timeout` is returned only when nothing was stored before the last look at the cell. -/
theorem fetch_isolation
    (h : Trace.run (step fromBytes) (State.init errors) tr = some s) :
    (∀ f, (stores f tr).length ≤ 1) ∧
    (∀ pre e post a r, tr = pre ++ e :: post → Writes fromBytes errors pre e a r →
      ∃ f i c, e = .store f i ∧ s.calls[f]? = some c ∧ c.outcome = some a ∧
        FirstResult fromBytes tr s f c r) ∧
    (∀ pre e post pre' e' post' a r r', tr = pre ++ e :: post → tr = pre' ++ e' :: post' →
      Writes fromBytes errors pre e a r → Writes fromBytes errors pre' e' a r' → pre = pre') ∧
    (∀ pre f i post, tr = pre ++ .take f i :: post → invoked f pre = [i] →
      (takers f tr).head? = some i) ∧
    (∀ (f : Nat) (c : Call) value, s.calls[f]? = some c → c.pc = .returned value →
      (c.outcome = none ∧ (value = .error .emptyBatch ∨ ∃ m, value = .error (.setup m))) ∨
      value = .error .noToken ∨
      (∃ m ∈ s.errors.drop c.mark, value = .error (.replayer m)) ∨
      value = .error .timeout ∨
      ∃ r, FirstResult fromBytes tr s f c r ∧ verdict c.cls none r = .ok value) ∧
    (∀ (f : Nat) (c : Call), s.calls[f]? = some c → c.pc = .returned (.error .timeout) →
      NoStoreAtLastCheck f tr) := by
  have hco := coherent_run h
  refine ⟨hco.stores_le_one, ?_, ?_, ?_, ?_, ?_⟩
  · rintro pre e post a r rfl hw
    exact written_first h hw
  · intro pre e post pre' e' post' a r r' ht ht' hw hw'
    obtain ⟨f, i, c, rfl, hc, ho, _⟩ := written_first (ht ▸ h) hw
    obtain ⟨g, j, d, rfl, hd, ho', _⟩ := written_first (ht' ▸ h) hw'
    obtain rfl := hco.owner f g c d a hc hd ho ho'
    exact stores_once (hco.stores_le_one f) ht ht'
  · rintro pre f i post rfl hone
    exact first_taker h hone
  · intro f c value hc hpc
    rcases hco.returned hc hpc with h | h | h | ⟨h, _⟩ | h
    · exact Or.inl h
    · exact Or.inr (Or.inl h)
    · exact Or.inr (Or.inr (Or.inl h))
    · exact Or.inr (Or.inr (Or.inr (Or.inl h)))
    · exact Or.inr (Or.inr (Or.inr (Or.inr h)))
  · intro f c hc hpc
    rcases hco.returned hc hpc with ⟨_, h | ⟨_, h⟩⟩ | h | ⟨_, _, h⟩ | ⟨_, h⟩ | ⟨r, hr, h⟩
    · cases h
    · cases h
    · cases h
    · cases h
    · exact h
    · exact absurd h (verdict_ne_timeout hr.ne_timeout)

/-- A fetch that times out, and whose block is invoked while the next fetch waits. -/
def lateRun : List Event :=
  [fetchTextures 1 none 5, .arm 0, .dispatch 0, .token 0 true, .deadline 0 0, .slotCheck 0,
    .clockCheck 0 7, .observerCheck 0,
    fetchBuffers 1 none 5, .arm 1, .dispatch 1, .token 1 true, .deadline 1 8,
    .invoke 0 0 none, .completionCheck 0 0, .take 0 0, .store 0 0, .slotCheck 1,
    .invoke 1 1 none, .completionCheck 1 1, .take 1 1, .store 1 1,
    .clockCheck 1 9, .slotCheck 1, .observerCheck 1]

theorem fetch_isolation_lateRun :
    ∃ s, Trace.run (step fun _ => .error "") (State.init []) lateRun = some s ∧
      (stores 0 lateRun).length ≤ 1 ∧ (takers 1 lateRun).head? = some 1 ∧
      NoStoreAtLastCheck 0 lateRun := by
  refine ⟨_, rfl, ?_⟩
  obtain ⟨honce, _, _, hfirst, _, htimeout⟩ :=
    @fetch_isolation (fun _ => .error "") [] lateRun _ rfl
  exact ⟨honce 0, hfirst (lateRun.take 20) 1 1 _ rfl rfl, htimeout 0 _ rfl rfl⟩

/-! ## The observer's authority -/

/-- The last step of a fetch that is not cut short. -/
theorem Coherent.answered (hco : Coherent fromBytes errors tr s)
    (h : step fromBytes s (.observerCheck f) = some s') (hc : s.calls[f]? = some c) :
    ∃ r value c', c.pc = .pumped ∧ c.result = some r ∧
      verdict c.cls (s.errors.drop c.mark).head? r = .ok value ∧
      s'.calls[f]? = some c' ∧ c'.pc = .returned value := by
  obtain ⟨c₁, hc₁, c', hc', _, hlocal⟩ := step_fetch h rfl fun c hc => hco.held hc
  obtain rfl := Option.some.inj (hc.symm.trans hc₁)
  obtain ⟨r, value, hpc, hr, hv, hpc'⟩ := hlocal.answered
  rw [firstErrorSince_eq] at hv
  exact ⟨r, value, c', hpc, hr, hv, hc', hpc'⟩

end Results

end GputoolsReplay
