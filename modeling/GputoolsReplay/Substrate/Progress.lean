/-
  A blocking fetch comes to an end, whatever the framework does. `FetchResults` says what a fetch
  returns once it returns; this module bounds how long its own thread can be at it.

  * `turns`, `instants`: the steps the thread of a fetch takes, and the clock readings among them.
  * `Paced`: how many turns a fetch has taken where it stands. Two turns lie between two readings,
    and every reading but the last is before the deadline.
  * `fetch_terminates`: on a clock that moves by `δ` between readings, a fetch takes at most
    `2 * (timeout / δ) + 8` turns, and has a turn to take until it has returned.
-/
import Mathlib.Data.List.Chain
import GputoolsReplay.Substrate.Waits

namespace GputoolsReplay

open RustSem

/-! ## Spaced readings -/

/-- Readings at least `δ` apart that all come within `d` of the first one. -/
theorem spaced_length {δ : Nat} {start d : Nat} {later : List Nat}
    (h : (start :: later).IsChain fun a b => a + δ ≤ b) (hd : ∀ now ∈ later, now < start + d) :
    later.length * δ ≤ d := by
  induction later generalizing start d with
  | nil => simp
  | cons now later ih =>
    obtain ⟨hnow, hchain⟩ := List.isChain_cons_cons.mp h
    have hfirst : now < start + d := hd now List.mem_cons_self
    have hrest : later.length * δ ≤ d - (now - start) := by
      refine ih hchain fun b hb => ?_
      have hb := hd b (List.mem_cons_of_mem _ hb)
      omega
    rw [List.length_cons, Nat.succ_mul]
    omega

/-! ## The turns of a fetch -/

/-- A step of the thread that runs fetch `f`. -/
def Event.isTurn (f : Nat) : Event → Bool
  | .arm g | .dispatch g | .token g _ | .deadline g _ | .slotCheck g | .clockCheck g _
  | .observerCheck g => g = f
  | _ => false

/-- What a step of that thread reads off the clock. -/
def Event.reading (f : Nat) : Event → Option Nat
  | .deadline g now | .clockCheck g now => if g = f then some now else none
  | _ => none

def turns (f : Nat) (tr : List Event) : Nat := tr.countP (Event.isTurn f)

/-- The clock readings of fetch `f`: the one its deadline is counted from, then one for each
    check. -/
def instants (f : Nat) (tr : List Event) : List Nat := tr.filterMap (Event.reading f)

/-- A wait that began at `start`: it has read the clock `later` and went on each time but the
    last. -/
def Waited (timeout : Nat) (read : List Nat) (P : Nat → Prop) : Prop :=
  ∃ start later, read = start :: later ∧ P later.length ∧
    ∀ now ∈ later.dropLast, now < start + timeout

/-- Where a fetch stands after `n` turns and the clock readings `read`. -/
def Call.Paced (n : Nat) (read : List Nat) (c : Call) : Prop :=
  match c.pc with
  | .marked => n = 0 ∧ read = [] ∧ c.outcome ≠ none
  | .armed => n = 1 ∧ read = [] ∧ c.outcome ≠ none ∧ c.block ≠ none
  | .dispatched => n = 2 ∧ read = [] ∧ c.outcome ≠ none
  | .granted => n = 3 ∧ read = [] ∧ c.outcome ≠ none
  | .pumping t => c.outcome ≠ none ∧ ∃ start later, read = start :: later ∧
    t = start + c.timeout ∧ n = 4 + 2 * later.length ∧ ∀ now ∈ later, now < t
  | .empty t => c.outcome ≠ none ∧ ∃ start later, read = start :: later ∧
    t = start + c.timeout ∧ n = 5 + 2 * later.length ∧ ∀ now ∈ later, now < t
  | .pumped => c.result ≠ none ∧ Waited c.timeout read fun k => n ≤ 5 + 2 * k
  | .returned _ => (n ≤ 3 ∧ read = []) ∨ Waited c.timeout read fun k => n ≤ 6 + 2 * k
  | .panicked => Waited c.timeout read fun k => n ≤ 4 + 2 * k

/-- What the two steps that read the clock make of it. -/
structure Clocked (f : Nat) (e : Event) (c c' : Call) : Prop where
  deadline : ∀ now, e = .deadline f now → c'.pc =
    if now + c.timeout < instantLimit then .pumping (now + c.timeout) else .panicked
  check : ∀ now t, e = .clockCheck f now → c.pc = .empty t → c'.pc =
    if t ≤ now then .pumped else .pumping t

section Progress

variable {fromBytes : Bytes → Except String Value} {errors : List String} {tr : List Event}
variable {s s' : State} {e : Event} {f n : Nat} {c c' : Call} {v v' : View} {read : List Nat}

/-! ## One step -/

/-- The clock is checked as soon as the cell was found empty. -/
theorem step_clockCheck (hc : s.calls[f]? = some c) {t : Nat} (hpc : c.pc = .empty t)
    (now : Nat) : step fromBytes s (.clockCheck f now) = some (s.setCall f
      (if t ≤ now then { c with result := some (.error .timeout), pc := .pumped }
        else { c with pc := .pumping t })) := by
  apply step_caller hc rfl
  unfold State.callStep
  dsimp only
  rw [hpc]
  dsimp only
  by_cases h : t ≤ now
  · rw [if_pos h, if_pos h]
  · rw [if_neg h, if_neg h]

theorem LocalStep.granted {now : Nat} (h : LocalStep fromBytes f (.deadline f now) v v') :
    v.call.pc = .granted := by
  cases h with
  | deadline hpc | overflow hpc => exact hpc
  | other he => exact absurd rfl he

theorem clocked_step (hl : LocalStep fromBytes f e (view s f c) (view s' f c'))
    (h : step fromBytes s e = some s') (hc : s.calls[f]? = some c)
    (hc' : s'.calls[f]? = some c') : Clocked f e c c' := by
  have hlt : f < s.calls.length := (List.getElem?_eq_some_iff.mp hc).1
  have hset : ∀ d, s.setCall f d = s' → c' = d := fun d hd => by
    rw [← hd, setCall_self hlt] at hc'
    exact (Option.some.inj hc').symm
  refine ⟨fun now he => ?_, fun now t he hpc => ?_⟩
  · subst he
    rw [step_deadline hc hl.granted now] at h
    rw [hset _ (Option.some.inj h)]
  · subst he
    rw [step_clockCheck hc hpc now] at h
    rw [hset _ (Option.some.inj h)]
    by_cases ht : t ≤ now
    · rw [if_pos ht, if_pos ht]
    · rw [if_neg ht, if_neg ht]

/-- A step of another thread, which leaves the place of the fetch alone. -/
theorem Call.Paced.idle (hp : c.Paced n read) (hturn : e.isTurn f = false)
    (hpc : c'.pc = c.pc) (hout : c'.outcome = c.outcome) (htime : c'.timeout = c.timeout)
    (hres : c'.result = c.result) (hblock : c.block ≠ none → c'.block ≠ none) :
    c'.Paced (n + turns f [e]) (read ++ instants f [e]) := by
  have hturns : turns f [e] = 0 := by simp [turns, hturn]
  have hreads : instants f [e] = [] := by
    cases e <;> simp_all [instants, Event.reading, Event.isTurn]
  rw [hturns, hreads, List.append_nil, Nat.add_zero]
  unfold Call.Paced at hp ⊢
  rw [hpc, hout, htime, hres]
  cases hplace : c.pc with
  | armed =>
    rw [hplace] at hp
    exact ⟨hp.1, hp.2.1, hp.2.2.1, hblock hp.2.2.2⟩
  | _ =>
    rw [hplace] at hp
    exact hp

theorem LocalStep.paced (h : LocalStep fromBytes f e v v') (hclock : Clocked f e v.call v'.call)
    (hp : v.call.Paced n read) :
    v'.call.Paced (n + turns f [e]) (read ++ instants f [e]) := by
  have hturn : e.isTurn f = true → turns f [e] = 1 := fun h => by simp [turns, h]
  have hsilent : e.reading f = none → instants f [e] = [] := fun h => by simp [instants, h]
  have hread : ∀ now, e.reading f = some now → instants f [e] = [now] := fun now h => by
    simp [instants, h]
  unfold Call.Paced at hp
  cases h with
  | arm hpc =>
    rw [hpc] at hp
    obtain ⟨rfl, rfl, hout⟩ := hp
    rw [hturn (by simp [Event.isTurn]), hsilent rfl]
    exact ⟨rfl, rfl, hout, by rintro ⟨⟩⟩
  | dispatch hpc =>
    rw [hpc] at hp
    obtain ⟨rfl, rfl, hout, -⟩ := hp
    rw [hturn (by simp [Event.isTurn]), hsilent rfl]
    exact ⟨rfl, rfl, hout⟩
  | @token _ granted hpc =>
    rw [hpc] at hp
    obtain ⟨rfl, rfl, hout⟩ := hp
    rw [hturn (by simp [Event.isTurn]), hsilent rfl]
    cases granted with
    | true => exact ⟨rfl, rfl, hout⟩
    | false => exact .inl ⟨Nat.le_refl _, rfl⟩
  | @deadline _ now t hpc =>
    rw [hpc] at hp
    obtain ⟨rfl, rfl, hout⟩ := hp
    have ht : t = now + v.call.timeout := by
      have h := hclock.deadline now rfl
      split at h
      · exact (CallPc.pumping.inj h)
      · cases h
    rw [hturn (by simp [Event.isTurn]), hread now (if_pos rfl)]
    exact ⟨hout, now, [], rfl, ht, rfl, by simp⟩
  | @overflow _ now hpc =>
    rw [hpc] at hp
    obtain ⟨rfl, rfl, -⟩ := hp
    rw [hturn (by simp [Event.isTurn]), hread now (if_pos rfl)]
    exact ⟨now, [], rfl, Nat.le_refl _, by simp⟩
  | collect hpc =>
    rw [hpc] at hp
    obtain ⟨-, start, later, rfl, rfl, rfl, hlater⟩ := hp
    rw [hturn (by simp [Event.isTurn]), hsilent rfl, List.append_nil]
    refine ⟨by rintro ⟨⟩, start, later, rfl, by dsimp only; omega, fun now hnow => ?_⟩
    exact hlater now (List.mem_of_mem_dropLast hnow)
  | miss hpc =>
    rw [hpc] at hp
    obtain ⟨hout, start, later, rfl, rfl, rfl, hlater⟩ := hp
    rw [hturn (by simp [Event.isTurn]), hsilent rfl, List.append_nil]
    exact ⟨hout, start, later, rfl, rfl, by omega, hlater⟩
  | @timeout _ now t hpc =>
    rw [hpc] at hp
    obtain ⟨-, start, later, rfl, rfl, rfl, hlater⟩ := hp
    rw [hturn (by simp [Event.isTurn]), hread now (if_pos rfl)]
    refine ⟨by rintro ⟨⟩, start, later ++ [now], rfl, ?_, ?_⟩
    · rw [List.length_append, List.length_singleton]
      omega
    · rw [List.dropLast_concat]
      exact hlater
  | @again _ now t hpc =>
    rw [hpc] at hp
    obtain ⟨hout, start, later, rfl, rfl, rfl, hlater⟩ := hp
    have hnow : now < start + v.call.timeout := by
      have h := hclock.check now _ rfl hpc
      split at h
      · cases h
      · omega
    rw [hturn (by simp [Event.isTurn]), hread now (if_pos rfl)]
    refine ⟨hout, start, later ++ [now], rfl, rfl, ?_, ?_⟩
    · rw [List.length_append, List.length_singleton]
      omega
    · exact List.forall_mem_append.mpr ⟨hlater, List.forall_mem_singleton.mpr hnow⟩
  | answer hpc =>
    rw [hpc] at hp
    obtain ⟨-, start, later, rfl, hn, hlater⟩ := hp
    rw [hturn (by simp [Event.isTurn]), hsilent rfl, List.append_nil]
    exact .inr ⟨start, later, rfl, by dsimp only at hn ⊢; omega, hlater⟩
  | take | takeLate | report | invoke | completionCheck | store =>
    exact Call.Paced.idle hp rfl rfl rfl rfl rfl (by simp)
  | other he =>
    have hidle : e.isTurn f = false := by
      cases e <;> simp_all [Event.isTurn, Event.fetch]
    exact Call.Paced.idle hp hidle rfl rfl rfl rfl id

/-! ## Runs -/

theorem turns_append {tr' : List Event} : turns f (tr ++ tr') = turns f tr + turns f tr' :=
  List.countP_append

theorem instants_append {tr' : List Event} :
    instants f (tr ++ tr') = instants f tr ++ instants f tr' :=
  List.filterMap_append

/-- A fetch that was not called yet has taken no turn. -/
theorem turns_fresh (h : ∀ e ∈ tr, e.fetch ≠ some f) : turns f tr = 0 ∧ instants f tr = [] := by
  refine ⟨List.countP_eq_zero.mpr fun e he => ?_, List.filterMap_eq_nil_iff.mpr fun e he => ?_⟩
  · have hne := h e he
    cases e <;> simp_all [Event.isTurn, Event.fetch]
  · have hne := h e he
    cases e <;> simp_all [Event.reading, Event.fetch]

theorem paced_begin {cell : List (Option FetchResult)} {cls : RecordClass}
    (h : Called s cls c cell) : c.Paced 0 [] := by
  unfold Call.Paced
  rcases h.place with ⟨-, hpc, hout, -⟩ | ⟨-, -, -, value, hpc, -⟩
  · rw [hpc, hout]
    exact ⟨rfl, rfl, by rintro ⟨⟩⟩
  · rw [hpc]
    exact .inl ⟨Nat.zero_le _, rfl⟩

theorem paced_run (h : Trace.run (step fromBytes) (State.init errors) tr = some s)
    (hc : s.calls[f]? = some c) : c.Paced (turns f tr) (instants f tr) := by
  have hall : ∀ (f : Nat) (c : Call), s.calls[f]? = some c →
      c.Paced (turns f tr) (instants f tr) := by
    refine Trace.run_induction (P := fun tr s => ∀ (f : Nat) (c : Call),
      s.calls[f]? = some c → c.Paced (turns f tr) (instants f tr)) ?_ ?_ h
    · intro f c hc
      cases hc
    · intro tr s e s' hrun hp hstep f c' hc'
      have hco := coherent_run hrun
      have hco' := coherent_step hco hstep
      rw [turns_append, instants_append]
      by_cases hf : f < s.calls.length
      · obtain ⟨c₁, hc₁, hl⟩ := hco.follows hstep (List.getElem?_eq_getElem hf)
        obtain rfl := Option.some.inj (hc'.symm.trans hc₁)
        exact hl.paced (clocked_step hl hstep (List.getElem?_eq_getElem hf) hc')
          (hp f _ (List.getElem?_eq_getElem hf))
      · -- the fetch is called by this very event
        have hcount := hco'.count
        cases e with
        | begin cls requests setup timeout =>
          obtain ⟨c₀, cell, hcalled, rfl⟩ := step_begin hstep
          obtain ⟨hturns, hinstants⟩ := turns_fresh fun e he =>
            hco.fresh f (Nat.le_of_not_lt hf) e he
          rcases getElem?_addCall hc' with hold | ⟨-, rfl⟩
          · exact absurd (List.getElem?_eq_some_iff.mp hold).1 hf
          · rw [hturns, hinstants]
            exact paced_begin hcalled
        | _ =>
          have hlength := (hco.advances hstep rfl).length
          exact absurd (hlength ▸ (List.getElem?_eq_some_iff.mp hc').1) hf
  exact hall f c hc

/-! ## The end of a fetch -/

/-- How often a wait reads a clock that moves by `δ` each time. -/
theorem Waited.bound {δ timeout : Nat} {P : Nat → Prop} (hδ : 0 < δ)
    (h : Waited timeout read P) (hclock : read.IsChain fun a b => a + δ ≤ b) :
    ∃ k, P k ∧ k ≤ timeout / δ + 1 := by
  obtain ⟨start, later, rfl, hP, hlater⟩ := h
  have hchain : (start :: later.dropLast).IsChain fun a b => a + δ ≤ b :=
    hclock.prefix (List.cons_prefix_cons.mpr ⟨rfl, List.dropLast_prefix later⟩)
  have hlength : later.dropLast.length ≤ timeout / δ :=
    (Nat.le_div_iff_mul_le hδ).mpr (spaced_length hchain hlater)
  rw [List.length_dropLast] at hlength
  exact ⟨later.length, hP, by omega⟩

theorem Call.Paced.bound {δ : Nat} (hδ : 0 < δ) (hp : c.Paced n read)
    (hclock : read.IsChain fun a b => a + δ ≤ b) : n ≤ 2 * (c.timeout / δ) + 8 := by
  have hwaiting : ∀ t later start, read = start :: later → t = start + c.timeout →
      (∀ now ∈ later, now < t) → later.length ≤ c.timeout / δ := by
    rintro t later start rfl rfl hlater
    exact (Nat.le_div_iff_mul_le hδ).mpr (spaced_length hclock hlater)
  unfold Call.Paced at hp
  cases hpc : c.pc with
  | marked | armed | dispatched | granted =>
    rw [hpc] at hp
    have hn := hp.1
    omega
  | pumping t | empty t =>
    rw [hpc] at hp
    obtain ⟨-, start, later, hread, ht, hn, hlater⟩ := hp
    have hlength := hwaiting t later start hread ht hlater
    omega
  | pumped =>
    rw [hpc] at hp
    obtain ⟨k, hn, hk⟩ := hp.2.bound hδ hclock
    omega
  | panicked =>
    rw [hpc] at hp
    obtain ⟨k, hn, hk⟩ := Waited.bound hδ hp hclock
    omega
  | returned value =>
    rw [hpc] at hp
    rcases hp with ⟨hn, -⟩ | hwaited
    · omega
    · obtain ⟨k, hn, hk⟩ := hwaited.bound hδ hclock
      omega

/-- A turn of fetch `f` that can be taken now, at the clock reading `now`. -/
def HasTurn (fromBytes : Bytes → Except String Value) (s : State) (f now : Nat) : Prop :=
  ∃ e, e.isTurn f = true ∧ (∀ instant ∈ e.reading f, instant = now) ∧
    (step fromBytes s e).isSome = true

theorem hasTurn_of_callStep {now : Nat} (hc : s.calls[f]? = some c) (hf : e.fetch = some f)
    (hturn : e.isTurn f = true) (hread : ∀ instant ∈ e.reading f, instant = now)
    (h : (s.callStep f c e).isSome = true) : HasTurn fromBytes s f now := by
  obtain ⟨s', hs'⟩ := Option.isSome_iff_exists.mp h
  exact ⟨e, hturn, hread, Option.isSome_iff_exists.mpr ⟨s', step_caller hc hf hs'⟩⟩

/-- A fetch that is not over has a turn to take, whatever the clock reads. -/
theorem Call.Paced.hasTurn (hp : c.Paced n read) (hc : s.calls[f]? = some c)
    (h : c.finished = false) (now : Nat) : HasTurn fromBytes s f now := by
  have hself : decide (f = f) = true := decide_eq_true rfl
  have hsilent : ∀ instant ∈ (none : Option Nat), instant = now := by rintro _ ⟨⟩
  have hread : ∀ instant ∈ (if f = f then some now else none : Option Nat), instant = now := by
    simp
  unfold Call.Paced at hp
  cases hpc : c.pc with
  | marked =>
    refine @hasTurn_of_callStep _ _ (.arm f) _ _ _ hc rfl hself hsilent ?_
    unfold State.callStep
    dsimp only
    rw [hpc]
    rfl
  | armed =>
    rw [hpc] at hp
    obtain ⟨b, hb⟩ := Option.ne_none_iff_exists'.mp hp.2.2.2
    refine @hasTurn_of_callStep _ _ (.dispatch f) _ _ _ hc rfl hself hsilent ?_
    unfold State.callStep
    dsimp only
    rw [hpc, hb]
    rfl
  | dispatched =>
    refine @hasTurn_of_callStep _ _ (.token f true) _ _ _ hc rfl hself hsilent ?_
    unfold State.callStep
    dsimp only
    rw [hpc]
    rfl
  | granted =>
    refine ⟨.deadline f now, hself, hread, ?_⟩
    rw [step_deadline hc hpc now]
    rfl
  | pumping t =>
    rw [hpc] at hp
    obtain ⟨a, ha⟩ := Option.ne_none_iff_exists'.mp hp.1
    refine @hasTurn_of_callStep _ _ (.slotCheck f) _ _ _ hc rfl hself hsilent ?_
    unfold State.callStep
    dsimp only
    rw [hpc, ha]
    dsimp only
    split <;> rfl
  | empty t =>
    refine ⟨.clockCheck f now, hself, hread, ?_⟩
    rw [step_clockCheck hc hpc now]
    rfl
  | pumped =>
    rw [hpc] at hp
    obtain ⟨r, hr⟩ := Option.ne_none_iff_exists'.mp hp.1
    obtain ⟨value, hv⟩ := verdict_ok c.cls (firstErrorSince s.errors c.mark) r
    refine @hasTurn_of_callStep _ _ (.observerCheck f) _ _ _ hc rfl hself hsilent ?_
    unfold State.callStep
    dsimp only
    rw [hpc, hr]
    dsimp only
    rw [hv]
    rfl
  | returned | panicked =>
    unfold Call.finished at h
    rw [hpc] at h
    cases h

/-- In every run, whatever the framework does in between: when at least `δ` passes between two
    clock readings of a fetch, its thread takes at most `2 * (timeout / δ) + 8` turns, and as long
    as the fetch is not over there is a turn for it to take. -/
theorem fetch_terminates {δ : Nat} (hδ : 0 < δ)
    (h : Trace.run (step fromBytes) (State.init errors) tr = some s)
    (hc : s.calls[f]? = some c) (hclock : (instants f tr).IsChain fun a b => a + δ ≤ b) :
    turns f tr ≤ 2 * (c.timeout / δ) + 8 ∧
      (c.finished = false → ∀ now, HasTurn fromBytes s f now) :=
  ⟨(paced_run h hc).bound hδ hclock, fun hopen now => (paced_run h hc).hasTurn hc hopen now⟩

/-- A fetch whose framework never answers: it looks three times at the clock and times out. -/
def silentRun : List Event :=
  [fetchTextures 1 none 50, .arm 0, .dispatch 0, .token 0 true, .deadline 0 100, .slotCheck 0,
    .clockCheck 0 120, .slotCheck 0, .clockCheck 0 140, .slotCheck 0, .clockCheck 0 160,
    .observerCheck 0]

/-- Where it ends. -/
def silentCall : Call :=
  { cls := .texture, timeout := 50, mark := 0, outcome := some 0,
    block := some { mark := 0, handler := some 0, sent := true },
    result := some (.error .timeout), pc := .returned (.error .timeout) }

def silentState : State :=
  { errors := [], outcomes := [none], calls := [silentCall], invocations := [] }

/-- The bound at a clock that moves by 20 at a time, where it is `2 * 2 + 8`. -/
theorem fetch_terminates_silentRun :
    turns 0 silentRun ≤ 2 * (silentCall.timeout / 20) + 8 ∧
      (silentCall.finished = false → ∀ now, HasTurn (fun _ => .error "") silentState 0 now) := by
  have hrun : Trace.run (step fun _ => .error "") (State.init []) silentRun =
      some silentState := rfl
  have hclock : (instants 0 silentRun).IsChain fun a b => a + 20 ≤ b := by
    rw [show instants 0 silentRun = [100, 120, 140, 160] from rfl]
    simp
  exact fetch_terminates (by decide) hrun rfl hclock

end Progress

end GputoolsReplay
