/-
  One fetch at a time: what a fetch, its cell and its block go through, whatever the other
  fetches do.

  * `View`: the part of the machine that belongs to one fetch.
  * `LocalStep`: how that part moves, event by event.
  * `Inv`: the invariant of one fetch. The handler is taken by one invocation, the cell is
    written by that invocation and by no other, and the fetch returns what it finds there.
  * `inv_step`: every local step keeps it.
-/
import GputoolsReplay.Substrate.Fetch

namespace GputoolsReplay

open RustSem

/-! ## What a trace says about one fetch -/

/-- The invocations of the block of `f`, in the order they began. -/
def invoked (f : Nat) (tr : List Event) : List Nat :=
  tr.filterMap fun
    | .invoke g i _ => if g = f then some i else none
    | _ => none

/-- The invocations of the block of `f`, in the order they locked the handler. -/
def takers (f : Nat) (tr : List Event) : List Nat :=
  tr.filterMap fun
    | .take g i => if g = f then some i else none
    | _ => none

/-- The invocations that called the handler of `f`. -/
def stores (f : Nat) (tr : List Event) : List Nat :=
  tr.filterMap fun
    | .store g i => if g = f then some i else none
    | _ => none

/-- The messages reported, in order. -/
def reports (tr : List Event) : List String :=
  tr.filterMap fun
    | .report n => some n.message
    | _ => none

def Event.isBegin : Event → Bool
  | .begin .. => true
  | _ => false

/-- How many fetches were called. -/
def begins (tr : List Event) : Nat := tr.countP Event.isBegin

/-- The fetch an event belongs to. -/
def Event.fetch : Event → Option Nat
  | .begin .. => none
  | .report _ => none
  | .arm f | .dispatch f | .token f _ | .deadline f _ | .slotCheck f | .clockCheck f _
  | .observerCheck f | .invoke f _ _ | .completionCheck f _ | .take f _ | .store f _ => some f

/-- Nothing was stored for `f` before the last check of its cell. -/
def NoStoreAtLastCheck (f : Nat) (tr : List Event) : Prop :=
  ∃ pre post, tr = pre ++ .slotCheck f :: post ∧ stores f pre = [] ∧
    ∀ e ∈ post, e ≠ .slotCheck f

/-! ## One fetch -/

/-- The part of the machine that belongs to one fetch. -/
structure View where
  errors : List String
  call : Call
  slot : Option FetchResult
  invocations : Nat → Option Invocation

/-- The result an invocation carries. -/
def BlockPc.result : BlockPc → FetchResult
  | .read result => result
  | .checked result => result
  | .holding _ result => result
  | .done result => result

/-- How the view of fetch `f` moves. -/
inductive LocalStep (fromBytes : Bytes → Except String Value) (f : Nat) :
    Event → View → View → Prop where
  | arm {v : View} : v.call.pc = .marked →
      LocalStep fromBytes f (.arm f) v { v with call := { v.call with
        block := some { mark := v.errors.length, handler := v.call.outcome, sent := false },
        pc := .armed } }
  | dispatch {v : View} {b : Block} : v.call.pc = .armed → v.call.block = some b →
      LocalStep fromBytes f (.dispatch f) v
        { v with call := { v.call with block := some { b with sent := true }, pc := .dispatched } }
  | token {v : View} {granted : Bool} : v.call.pc = .dispatched →
      LocalStep fromBytes f (.token f granted) v { v with call := { v.call with
        pc := if granted then .granted else .returned (.error .noToken) } }
  | deadline {v : View} {now t : Nat} : v.call.pc = .granted →
      LocalStep fromBytes f (.deadline f now) v { v with call := { v.call with pc := .pumping t } }
  | overflow {v : View} {now : Nat} : v.call.pc = .granted →
      ¬ now + v.call.timeout < instantLimit →
      LocalStep fromBytes f (.deadline f now) v { v with call := { v.call with pc := .panicked } }
  | collect {v : View} {t : Nat} {r : FetchResult} : v.call.pc = .pumping t → v.slot = some r →
      LocalStep fromBytes f (.slotCheck f) v
        { v with slot := none, call := { v.call with result := some r, pc := .pumped } }
  | miss {v : View} {t : Nat} : v.call.pc = .pumping t → v.slot = none →
      LocalStep fromBytes f (.slotCheck f) v { v with call := { v.call with pc := .empty t } }
  | timeout {v : View} {now t : Nat} : v.call.pc = .empty t →
      LocalStep fromBytes f (.clockCheck f now) v { v with call := { v.call with
        result := some (.error .timeout), pc := .pumped } }
  | again {v : View} {now t : Nat} : v.call.pc = .empty t →
      LocalStep fromBytes f (.clockCheck f now) v
        { v with call := { v.call with pc := .pumping t } }
  | answer {v : View} {r : FetchResult} {value : Except FetchError AnyReply} :
      v.call.pc = .pumped → v.call.result = some r →
      verdict v.call.cls (firstErrorSince v.errors v.call.mark) r = .ok value →
      LocalStep fromBytes f (.observerCheck f) v
        { v with call := { v.call with pc := .returned value } }
  | report {v : View} {n : Notification} :
      LocalStep fromBytes f (.report n) v { v with errors := v.errors ++ [n.message] }
  | invoke {v : View} {b : Block} {i : Nat} {response : Option Response} :
      v.call.block = some b → v.invocations i = none →
      LocalStep fromBytes f (.invoke f i response) v { v with
        invocations := Function.update v.invocations i
          (some { call := f, response, pc := .read (readResponse fromBytes response) }) }
  | completionCheck {v : View} {b : Block} {i : Nat} {inv : Invocation} {r : FetchResult} :
      v.call.block = some b → v.invocations i = some inv → inv.pc = .read r →
      LocalStep fromBytes f (.completionCheck f i) v { v with
        invocations := Function.update v.invocations i (some { inv with
          pc := .checked (completionResult r (firstErrorSince v.errors b.mark)) }) }
  | take {v : View} {b : Block} {i sink : Nat} {inv : Invocation} {r : FetchResult} :
      v.call.block = some b → b.handler = some sink →
      v.invocations i = some inv → inv.pc = .checked r →
      LocalStep fromBytes f (.take f i) v { v with
        call := { v.call with block := some { b with handler := none } },
        invocations := Function.update v.invocations i
          (some { inv with pc := .holding sink r }) }
  | takeLate {v : View} {b : Block} {i : Nat} {inv : Invocation} {r : FetchResult} :
      v.call.block = some b → b.handler = none →
      v.invocations i = some inv → inv.pc = .checked r →
      LocalStep fromBytes f (.take f i) v { v with
        invocations := Function.update v.invocations i (some { inv with pc := .done r }) }
  | store {v : View} {i sink : Nat} {inv : Invocation} {r : FetchResult} :
      v.call.outcome = some sink → v.invocations i = some inv → inv.pc = .holding sink r →
      LocalStep fromBytes f (.store f i) v { v with
        slot := v.slot.or (some r),
        invocations := Function.update v.invocations i (some { inv with pc := .done r }) }
  | other {v : View} {e : Event} : e.fetch ≠ some f → (∀ n, e ≠ .report n) →
      LocalStep fromBytes f e v v

/-! ## Projections of a longer trace -/

section Projections

variable {f i : Nat} {tr tr' : List Event} {e : Event}

theorem takers_append : takers f (tr ++ tr') = takers f tr ++ takers f tr' :=
  List.filterMap_append

theorem stores_append : stores f (tr ++ tr') = stores f tr ++ stores f tr' :=
  List.filterMap_append

theorem reports_append : reports (tr ++ tr') = reports tr ++ reports tr' :=
  List.filterMap_append

theorem takers_take : takers f [.take f i] = [i] := by simp [takers]

theorem stores_store : stores f [.store f i] = [i] := by simp [stores]

theorem takers_eq_nil (h : ∀ e ∈ tr, e.fetch ≠ some f) : takers f tr = [] := by
  refine List.filterMap_eq_nil_iff.mpr fun e he => ?_
  have hne := h e he
  cases e <;> simp_all [Event.fetch]

theorem stores_eq_nil (h : ∀ e ∈ tr, e.fetch ≠ some f) : stores f tr = [] := by
  refine List.filterMap_eq_nil_iff.mpr fun e he => ?_
  have hne := h e he
  cases e <;> simp_all [Event.fetch]

theorem takers_other (h : e.fetch ≠ some f) : takers f [e] = [] :=
  takers_eq_nil fun _ he => List.mem_singleton.mp he ▸ h

theorem stores_other (h : e.fetch ≠ some f) : stores f [e] = [] :=
  stores_eq_nil fun _ he => List.mem_singleton.mp he ▸ h

end Projections

/-! ## The invariant of one fetch -/

/-- The handler of the block: not there yet, taken, or the cell it stores into. -/
def Call.handler (c : Call) : Option (Option Nat) := c.block.map Block.handler

/-- The fetch has collected nothing from its cell. -/
def Call.Uncollected (c : Call) : Prop := c.result = none ∨ c.result = some (.error .timeout)

/-- The cell of a fetch is written by the first invocation to lock its handler, once, with
    the result that invocation carries; what the fetch collected is that result. -/
structure Delivery (f : Nat) (tr : List Event) (v : View) : Prop where
  unarmed : v.call.handler = none → (∀ i, v.invocations i = none) ∧ takers f tr = []
  /-- A handler that is still there was taken by nobody. -/
  untaken : ∀ a, v.call.handler = some (some a) → v.call.outcome = some a ∧ takers f tr = []
  gone : v.call.handler = some none → takers f tr ≠ []
  /-- The invocation that holds the handler is the first that locked it. -/
  held : ∀ i inv a r, v.invocations i = some inv → inv.pc = .holding a r →
    v.call.outcome = some a ∧ (takers f tr).head? = some i ∧ stores f tr = []
  unstored : stores f tr = [] → v.slot = none ∧ v.call.Uncollected
  stored : stores f tr = [] ∨ ∃ i inv r, stores f tr = [i] ∧ (takers f tr).head? = some i ∧
    v.invocations i = some inv ∧ inv.pc = .done r ∧
      ((v.slot = some r ∧ v.call.Uncollected) ∨ (v.slot = none ∧ v.call.result = some r))
  /-- Whoever locked the handler is past it. -/
  taken : ∀ i ∈ takers f tr, ∃ inv, v.invocations i = some inv ∧
    ((∃ a r, inv.pc = .holding a r) ∨ ∃ r, inv.pc = .done r)

/-- The fetch has no result yet. -/
def CallPc.Waiting : CallPc → Prop
  | .pumped => False
  | .returned _ => False
  | _ => True

/-- How the place of a fetch, its result and its block go together. -/
structure Placed (f : Nat) (tr : List Event) (v : View) : Prop where
  waiting : v.call.result ≠ none → v.call.pc = .pumped ∨ ∃ value, v.call.pc = .returned value
  marked : v.call.pc = .marked → v.call.block = none ∧ ∃ a, v.call.outcome = some a
  mark_le : v.call.mark ≤ v.errors.length
  /-- The block's mark is the later one. -/
  marks : ∀ b, v.call.block = some b → v.call.mark ≤ b.mark
  lastCheck : (∃ t, v.call.pc = .empty t) ∨ v.call.result = some (.error .timeout) →
    NoStoreAtLastCheck f tr
  /-- What a fetch returned. -/
  answered : ∀ value, v.call.pc = .returned value →
    (v.call.outcome = none ∧ (value = .error .emptyBatch ∨ ∃ m, value = .error (.setup m))) ∨
    value = .error .noToken ∨
    ∃ r observed, v.call.result = some r ∧ verdict v.call.cls observed r = .ok value ∧
      ∀ m, observed = some m → m ∈ v.errors.drop v.call.mark

/-- The result an invocation carries is what it read from its response, or the message the
    observer had for it. -/
structure Carried (fromBytes : Bytes → Except String Value) (f : Nat) (tr : List Event)
    (v : View) : Prop where
  source : ∀ i inv, v.invocations i = some inv →
    inv.pc.result = readResponse fromBytes inv.response ∨
      ∃ b m, v.call.block = some b ∧ m ∈ v.errors.drop b.mark ∧
        inv.pc.result = .error (.replayer m)
  invoked : ∀ i inv, v.invocations i = some inv → inv.call = f ∧ .invoke f i inv.response ∈ tr

/-- The invariant of one fetch. -/
structure Inv (fromBytes : Bytes → Except String Value) (f : Nat) (tr : List Event)
    (v : View) : Prop where
  placed : Placed f tr v
  delivery : Delivery f tr v
  carried : Carried fromBytes f tr v

/-! ## Delivery -/

theorem update_eq_some {m : Nat → Option Invocation} {i j : Nat} {inv inv' : Invocation}
    (h : Function.update m i (some inv') j = some inv) :
    (j = i ∧ inv = inv') ∨ (j ≠ i ∧ m j = some inv) := by
  by_cases hji : j = i
  · subst hji
    rw [Function.update_self] at h
    exact Or.inl ⟨rfl, (Option.some.inj h).symm⟩
  · rw [Function.update_of_ne hji] at h
    exact Or.inr ⟨hji, h⟩

section Delivery

variable {f i : Nat} {tr tr' : List Event} {v v' : View}

/-- Steps that leave handler and invocations alone, with what they make of cell and result. -/
theorem Delivery.settle (hd : Delivery f tr v) (ht : takers f tr' = takers f tr)
    (hs : stores f tr' = stores f tr) (hinv : v'.invocations = v.invocations)
    (hout : v'.call.outcome = v.call.outcome) (hh : v'.call.handler = v.call.handler)
    (hunstored : stores f tr = [] → v'.slot = none ∧ v'.call.Uncollected)
    (hstored : ∀ r, ((v.slot = some r ∧ v.call.Uncollected) ∨
        (v.slot = none ∧ v.call.result = some r)) →
      (v'.slot = some r ∧ v'.call.Uncollected) ∨ (v'.slot = none ∧ v'.call.result = some r)) :
    Delivery f tr' v' := by
  refine ⟨?_, ?_, ?_, ?_, ?_, ?_, ?_⟩
  · rw [hh, hinv, ht]; exact hd.unarmed
  · rw [hh, hout, ht]; exact hd.untaken
  · rw [hh, ht]; exact hd.gone
  · rw [hinv, hout, ht, hs]; exact hd.held
  · rw [hs]; exact hunstored
  · rw [hs, ht, hinv]
    rcases hd.stored with h | ⟨i, inv, r, hone, hhead, hi, hpc, hplace⟩
    · exact Or.inl h
    · exact Or.inr ⟨i, inv, r, hone, hhead, hi, hpc, hstored r hplace⟩
  · rw [ht, hinv]; exact hd.taken

/-- Steps that leave handler, cell, result and invocations alone. -/
theorem Delivery.keep (hd : Delivery f tr v) (ht : takers f tr' = takers f tr)
    (hs : stores f tr' = stores f tr) (hslot : v'.slot = v.slot)
    (hinv : v'.invocations = v.invocations) (hres : v'.call.result = v.call.result)
    (hout : v'.call.outcome = v.call.outcome) (hh : v'.call.handler = v.call.handler) :
    Delivery f tr' v' := by
  have hu : v'.call.Uncollected ↔ v.call.Uncollected := by
    unfold Call.Uncollected
    rw [hres]
  refine hd.settle ht hs hinv hout hh ?_ ?_
  · rw [hslot, hu]
    exact hd.unstored
  · intro r
    rw [hslot, hu, hres]
    exact id

/-- The block is set: nobody has taken its handler. -/
theorem Delivery.arm (hd : Delivery f tr v) {a : Nat} (hout : v.call.outcome = some a)
    (hblock : v.call.block = none) (ht : takers f tr' = takers f tr)
    (hs : stores f tr' = stores f tr) (mark : Nat) (pc : CallPc) :
    Delivery f tr' { v with call := { v.call with
      block := some { mark, handler := v.call.outcome, sent := false }, pc } } := by
  obtain ⟨_, htak⟩ := hd.unarmed (by rw [Call.handler, hblock]; rfl)
  refine ⟨fun h => ?_, fun b h => ?_, fun h => ?_, ?_, ?_, ?_, ?_⟩
  · cases h
  · rw [ht]
    exact ⟨Option.some.inj h, htak⟩
  · rw [Call.handler, hout] at h
    cases h
  · rw [ht, hs]; exact hd.held
  · rw [hs]; exact hd.unstored
  · rw [hs, ht]; exact hd.stored
  · rw [ht]; exact hd.taken

/-- An invocation that neither holds the handler nor is past it, before and after. -/
theorem Delivery.update (hd : Delivery f tr v) (ht : takers f tr' = takers f tr)
    (hs : stores f tr' = stores f tr) (hblock : v.call.handler ≠ none) (inv' : Invocation)
    (hold : ∀ inv, v.invocations i = some inv → ∃ r, inv.pc = .read r)
    (hnew : ∀ a r, inv'.pc ≠ .holding a r) :
    Delivery f tr' { v with invocations := Function.update v.invocations i (some inv') } := by
  have hne : ∀ j inv, v.invocations j = some inv → (∀ r, inv.pc ≠ .read r) → j ≠ i := by
    rintro j inv hj hr rfl
    obtain ⟨r, h⟩ := hold inv hj
    exact hr r h
  refine ⟨fun h => absurd h hblock, ?_, ?_, ?_, ?_, ?_, ?_⟩
  · rw [ht]; exact hd.untaken
  · rw [ht]; exact hd.gone
  · intro j inv a r hj hpc
    rw [ht, hs]
    rcases update_eq_some hj with ⟨rfl, rfl⟩ | ⟨_, hj⟩
    · exact absurd hpc (hnew a r)
    · exact hd.held j inv a r hj hpc
  · rw [hs]; exact hd.unstored
  · rw [hs, ht]
    rcases hd.stored with h | ⟨j, inv, r, hst, hhead, hj, hpc, hrest⟩
    · exact Or.inl h
    · refine Or.inr ⟨j, inv, r, hst, hhead, ?_, hpc, hrest⟩
      dsimp only
      rw [Function.update_of_ne (hne j inv hj fun r h => by rw [hpc] at h; cases h)]
      exact hj
  · intro j hj
    rw [ht] at hj
    obtain ⟨inv, hinv, hpc⟩ := hd.taken j hj
    refine ⟨inv, ?_, hpc⟩
    dsimp only
    rw [Function.update_of_ne (hne j inv hinv fun r h => ?_)]
    · exact hinv
    · rcases hpc with ⟨a, r', h'⟩ | ⟨r', h'⟩ <;> rw [h] at h' <;> cases h'

/-- The first invocation to lock the handler takes it. -/
theorem Delivery.take (hd : Delivery f tr v) {b : Block} {sink : Nat} {inv : Invocation}
    {r : FetchResult} (hb : v.call.block = some b) (hh : b.handler = some sink)
    (ht : takers f tr' = takers f tr ++ [i]) (hs : stores f tr' = stores f tr) :
    Delivery f tr' { v with
      call := { v.call with block := some { b with handler := none } },
      invocations := Function.update v.invocations i
        (some { inv with pc := .holding sink r }) } := by
  obtain ⟨hout, hnil⟩ := hd.untaken sink (by rw [Call.handler, hb, Option.map_some, hh])
  have hst : stores f tr = [] := by
    rcases hd.stored with h | ⟨_, _, _, _, hhead, _⟩
    · exact h
    · rw [hnil] at hhead
      cases hhead
  rw [hnil, List.nil_append] at ht
  refine ⟨fun h => ?_, fun a h => ?_, fun _ => ?_, ?_, ?_, ?_, ?_⟩
  · cases h
  · cases h
  · rw [ht]
    exact List.cons_ne_nil _ _
  · intro j inv' a r' hj hpc
    rw [ht, hs]
    rcases update_eq_some hj with ⟨rfl, rfl⟩ | ⟨_, hj⟩
    · cases hpc
      exact ⟨hout, rfl, hst⟩
    · have hhead := (hd.held j inv' a r' hj hpc).2.1
      rw [hnil] at hhead
      cases hhead
  · rw [hs]; exact hd.unstored
  · rw [hs]; exact Or.inl hst
  · intro j hj
    rw [ht, List.mem_singleton] at hj
    subst hj
    exact ⟨_, Function.update_self .., Or.inl ⟨sink, r, rfl⟩⟩

/-- A later invocation finds the handler gone. -/
theorem Delivery.takeLate (hd : Delivery f tr v) {inv : Invocation} {r r' : FetchResult}
    (hh : v.call.handler = some none) (hi : v.invocations i = some inv)
    (hpc : inv.pc = .checked r') (ht : takers f tr' = takers f tr ++ [i])
    (hs : stores f tr' = stores f tr) :
    Delivery f tr' { v with
      invocations := Function.update v.invocations i (some { inv with pc := .done r }) } := by
  have hne := hd.gone hh
  have hhead : (takers f tr').head? = (takers f tr).head? := by
    rw [ht, List.head?_append_of_ne_nil _ hne]
  have hji : ∀ j inv', v.invocations j = some inv' → (∀ r, inv'.pc ≠ .checked r) → j ≠ i := by
    rintro j inv' hj hc rfl
    rw [hi] at hj
    cases hj
    exact hc r' hpc
  refine ⟨fun h => ?_, fun a h => ?_, fun _ => ?_, ?_, ?_, ?_, ?_⟩
  · rw [show v.call.handler = none from h] at hh
    cases hh
  · rw [show v.call.handler = some (some a) from h] at hh
    cases hh
  · rw [ht]
    exact List.append_ne_nil_of_left_ne_nil hne _
  · intro j inv' a r'' hj hpc'
    rw [hhead, hs]
    rcases update_eq_some hj with ⟨rfl, rfl⟩ | ⟨_, hj⟩
    · cases hpc'
    · exact hd.held j inv' a r'' hj hpc'
  · rw [hs]; exact hd.unstored
  · rw [hs, hhead]
    rcases hd.stored with h | ⟨j, inv', r'', hst, hhd, hj, hpc', hrest⟩
    · exact Or.inl h
    · refine Or.inr ⟨j, inv', r'', hst, hhd, ?_, hpc', hrest⟩
      dsimp only
      rw [Function.update_of_ne (hji j inv' hj fun r h => by rw [hpc'] at h; cases h)]
      exact hj
  · intro j hj
    dsimp only
    by_cases he : j = i
    · subst he
      exact ⟨_, Function.update_self .., Or.inr ⟨r, rfl⟩⟩
    · rw [ht, List.mem_append, List.mem_singleton, or_iff_left he] at hj
      rw [Function.update_of_ne he]
      exact hd.taken j hj

/-- The holder of the handler writes the cell. -/
theorem Delivery.store (hd : Delivery f tr v) {inv : Invocation} {sink : Nat} {r : FetchResult}
    (hi : v.invocations i = some inv) (hpc : inv.pc = .holding sink r)
    (ht : takers f tr' = takers f tr) (hs : stores f tr' = stores f tr ++ [i]) :
    Delivery f tr' { v with
      slot := v.slot.or (some r),
      invocations := Function.update v.invocations i (some { inv with pc := .done r }) } := by
  obtain ⟨_, hhead, hst⟩ := hd.held i inv sink r hi hpc
  obtain ⟨hslot, hunc⟩ := hd.unstored hst
  rw [hst, List.nil_append] at hs
  refine ⟨fun h => ?_, ?_, ?_, ?_, ?_, ?_, ?_⟩
  · rw [(hd.unarmed h).1 i] at hi
    cases hi
  · rw [ht]; exact hd.untaken
  · rw [ht]; exact hd.gone
  · intro j inv' a r' hj hpc'
    rcases update_eq_some hj with ⟨rfl, rfl⟩ | ⟨hji, hj⟩
    · cases hpc'
    · have hhd := (hd.held j inv' a r' hj hpc').2.1
      rw [hhead] at hhd
      exact absurd (Option.some.inj hhd).symm hji
  · intro h
    rw [hs] at h
    cases h
  · refine Or.inr ⟨i, _, r, hs, by rw [ht, hhead], Function.update_self .., rfl, Or.inl ⟨?_, hunc⟩⟩
    dsimp only
    rw [hslot]
    rfl
  · intro j hj
    rw [ht] at hj
    dsimp only
    by_cases hji : j = i
    · subst hji
      exact ⟨_, Function.update_self .., Or.inr ⟨r, rfl⟩⟩
    · rw [Function.update_of_ne hji]
      exact hd.taken j hj

/-- The fetch collects what its cell holds. -/
theorem Delivery.collect (hd : Delivery f tr v) {r : FetchResult} (hslot : v.slot = some r)
    (ht : takers f tr' = takers f tr) (hs : stores f tr' = stores f tr) (pc : CallPc) :
    Delivery f tr' { v with slot := none, call := { v.call with result := some r, pc } } := by
  refine hd.settle ht hs rfl rfl rfl ?_ ?_
  · intro h
    rw [(hd.unstored h).1] at hslot
    cases hslot
  · intro r' hplace
    rcases hplace with ⟨hr, _⟩ | ⟨hr, _⟩
    · exact Or.inr ⟨rfl, hslot.symm.trans hr⟩
    · rw [hslot] at hr
      cases hr

/-- The fetch gives up. -/
theorem Delivery.timeout (hd : Delivery f tr v) (hres : v.call.result = none)
    (ht : takers f tr' = takers f tr) (hs : stores f tr' = stores f tr) (pc : CallPc) :
    Delivery f tr' { v with call := { v.call with result := some (.error .timeout), pc } } := by
  refine hd.settle ht hs rfl rfl rfl ?_ ?_
  · intro h
    exact ⟨(hd.unstored h).1, Or.inr rfl⟩
  · intro r hplace
    rcases hplace with ⟨hr, _⟩ | ⟨_, hr⟩
    · exact Or.inl ⟨hr, Or.inr rfl⟩
    · rw [hres] at hr
      cases hr

end Delivery

section Steps

variable {fromBytes : Bytes → Except String Value} {f : Nat} {tr : List Event} {e : Event}
variable {v v' : View}

/-! ## What an invocation carries -/

theorem readResponse_ne_timeout (response : Option Response) :
    readResponse fromBytes response ≠ .error .timeout := by
  unfold readResponse
  split
  · rintro ⟨⟩
  · split
    · rintro ⟨⟩
    · split
      · rintro ⟨⟩
      · split
        · rintro ⟨⟩
        · intro h
          obtain ⟨_, ⟨⟩⟩ := RawReply.parse_error fromBytes _ _ h

/-- No invocation carries a timeout. -/
theorem Carried.ne_timeout (hc : Carried fromBytes f tr v) {i : Nat} {inv : Invocation}
    (hi : v.invocations i = some inv) : inv.pc.result ≠ .error .timeout := by
  rcases hc.source i inv hi with h | ⟨_, m, _, _, h⟩
  · rw [h]
    exact readResponse_ne_timeout inv.response
  · rw [h]
    rintro ⟨⟩

/-- A stored result is no timeout. -/
theorem Delivery.collected_ne_timeout (hd : Delivery f tr v) (hc : Carried fromBytes f tr v)
    {r : FetchResult} (hslot : v.slot = some r) : r ≠ .error .timeout := by
  rcases hd.stored with h | ⟨i, inv, r', _, _, hi, hpc, ⟨hr, _⟩ | ⟨hr, _⟩⟩
  · rw [(hd.unstored h).1] at hslot
    cases hslot
  · obtain rfl := Option.some.inj (hslot.symm.trans hr)
    have h := hc.ne_timeout hi
    rwa [hpc] at h
  · rw [hslot] at hr
    cases hr

theorem completionResult_cases (r : FetchResult) (observed : Option String) :
    completionResult r observed = r ∨
      ∃ m, observed = some m ∧ completionResult r observed = .error (.replayer m) := by
  cases r with
  | error e => exact Or.inl rfl
  | ok reply =>
    cases observed with
    | none => exact Or.inl rfl
    | some m => exact Or.inr ⟨m, rfl, rfl⟩

/-- Steps that leave the invocations alone. -/
theorem Carried.keep (hc : Carried fromBytes f tr v) (hinv : v'.invocations = v.invocations)
    (herr : v.errors <+: v'.errors)
    (hblock : ∀ b, v.call.block = some b → ∃ b', v'.call.block = some b' ∧ b'.mark = b.mark) :
    Carried fromBytes f (tr ++ [e]) v' := by
  refine ⟨?_, ?_⟩
  · rw [hinv]
    intro i inv hi
    rcases hc.source i inv hi with h | ⟨b, m, hb, hm, h⟩
    · exact Or.inl h
    · obtain ⟨b', hb', hmark⟩ := hblock b hb
      exact Or.inr ⟨b', m, hb', hmark ▸ (herr.drop b.mark).subset hm, h⟩
  · rw [hinv]
    intro i inv hi
    obtain ⟨hcall, hmem⟩ := hc.invoked i inv hi
    exact ⟨hcall, List.mem_append_left _ hmem⟩

/-- One invocation is new or moves. -/
theorem Carried.update (hc : Carried fromBytes f (tr ++ [e]) v) {i : Nat} {inv' : Invocation}
    (hsource : inv'.pc.result = readResponse fromBytes inv'.response ∨
      ∃ b m, v.call.block = some b ∧ m ∈ v.errors.drop b.mark ∧
        inv'.pc.result = .error (.replayer m))
    (hinvoked : inv'.call = f ∧ .invoke f i inv'.response ∈ tr ++ [e]) :
    Carried fromBytes f (tr ++ [e])
      { v with invocations := Function.update v.invocations i (some inv') } := by
  refine ⟨fun j inv hj => ?_, fun j inv hj => ?_⟩
  · rcases update_eq_some hj with ⟨rfl, rfl⟩ | ⟨_, hj⟩
    · exact hsource
    · exact hc.source j inv hj
  · rcases update_eq_some hj with ⟨rfl, rfl⟩ | ⟨_, hj⟩
    · exact hinvoked
    · exact hc.invoked j inv hj

/-! ## Every local step keeps the invariant -/

theorem Placed.result_none (hp : Placed f tr v) (h : v.call.pc.Waiting) :
    v.call.result = none := by
  by_contra hr
  rcases hp.waiting hr with h' | ⟨value, h'⟩ <;> rw [h'] at h <;> exact h

theorem delivery_step (h : LocalStep fromBytes f e v v') (hp : Placed f tr v)
    (hd : Delivery f tr v) : Delivery f (tr ++ [e]) v' := by
  have ht : takers f [e] = [] → takers f (tr ++ [e]) = takers f tr := fun h => by
    rw [takers_append, h, List.append_nil]
  have hs : stores f [e] = [] → stores f (tr ++ [e]) = stores f tr := fun h => by
    rw [stores_append, h, List.append_nil]
  have hh : ∀ {b}, v.call.block = some b → v.call.handler = some b.handler := fun hb => by
    rw [Call.handler, hb, Option.map_some]
  cases h with
  | arm hpc =>
    obtain ⟨hblock, a, hout⟩ := hp.marked hpc
    exact hd.arm hout hblock (ht rfl) (hs rfl) _ _
  | dispatch _ hb => exact hd.keep (ht rfl) (hs rfl) rfl rfl rfl rfl (hh hb).symm
  | token => exact hd.keep (ht rfl) (hs rfl) rfl rfl rfl rfl rfl
  | deadline => exact hd.keep (ht rfl) (hs rfl) rfl rfl rfl rfl rfl
  | overflow => exact hd.keep (ht rfl) (hs rfl) rfl rfl rfl rfl rfl
  | collect _ hslot => exact hd.collect hslot (ht rfl) (hs rfl) _
  | miss => exact hd.keep (ht rfl) (hs rfl) rfl rfl rfl rfl rfl
  | timeout hpc =>
    have hres := hp.result_none (by rw [hpc]; trivial)
    exact hd.timeout hres (ht rfl) (hs rfl) _
  | again => exact hd.keep (ht rfl) (hs rfl) rfl rfl rfl rfl rfl
  | answer => exact hd.keep (ht rfl) (hs rfl) rfl rfl rfl rfl rfl
  | report => exact hd.keep (ht rfl) (hs rfl) rfl rfl rfl rfl rfl
  | invoke hb hi =>
    refine hd.update (ht rfl) (hs rfl) (by rw [hh hb]; rintro ⟨⟩) _ ?_ (by rintro _ _ ⟨⟩)
    intro inv hinv
    rw [hi] at hinv
    cases hinv
  | completionCheck hb hi hpc =>
    refine hd.update (ht rfl) (hs rfl) (by rw [hh hb]; rintro ⟨⟩) _ ?_ (by rintro _ _ ⟨⟩)
    intro inv hinv
    rw [hi] at hinv
    cases hinv
    exact ⟨_, hpc⟩
  | take hb hsink _ _ =>
    exact hd.take hb hsink (by rw [takers_append, takers_take]) (hs rfl)
  | takeLate hb hgone hi hpc =>
    exact hd.takeLate (by rw [hh hb, hgone]) hi hpc (by rw [takers_append, takers_take]) (hs rfl)
  | store _ hi hpc => exact hd.store hi hpc (ht rfl) (by rw [stores_append, stores_store])
  | other he _ =>
    exact hd.keep (ht (takers_other he)) (hs (stores_other he)) rfl rfl rfl rfl rfl

theorem NoStoreAtLastCheck.concat (h : NoStoreAtLastCheck f tr) (he : e ≠ .slotCheck f) :
    NoStoreAtLastCheck f (tr ++ [e]) := by
  obtain ⟨pre, post, rfl, hpre, hpost⟩ := h
  refine ⟨pre, post ++ [e], by rw [List.append_assoc, List.cons_append], hpre, fun e' he' => ?_⟩
  rcases List.mem_append.mp he' with h | h
  · exact hpost e' h
  · rw [List.mem_singleton.mp h]
    exact he

/-- At an empty cell before anything was collected, nothing was stored. -/
theorem Delivery.stores_nil (hd : Delivery f tr v) (hslot : v.slot = none)
    (hres : v.call.result = none) : stores f tr = [] := by
  rcases hd.stored with h | ⟨_, _, _, _, _, _, _, ⟨h, _⟩ | ⟨_, h⟩⟩
  · exact h
  · rw [hslot] at h
    cases h
  · rw [hres] at h
    cases h

/-- Steps that leave the frame of the fetch alone, but for its handler. -/
theorem Placed.keep (hp : Placed f tr v) (he : e ≠ .slotCheck f)
    (hmark : v'.call.mark = v.call.mark) (hcls : v'.call.cls = v.call.cls)
    (hout : v'.call.outcome = v.call.outcome) (hres : v'.call.result = v.call.result)
    (hpc : v'.call.pc = v.call.pc) (herr : v.errors <+: v'.errors)
    (hblock : v'.call.block = v.call.block ∨
      ∃ b h, v.call.block = some b ∧ v'.call.block = some { b with handler := h }) :
    Placed f (tr ++ [e]) v' := by
  refine ⟨?_, ?_, ?_, ?_, ?_, ?_⟩
  · rw [hres, hpc]; exact hp.waiting
  · rw [hpc, hout]
    intro h
    obtain ⟨hnone, ha⟩ := hp.marked h
    rcases hblock with h' | ⟨b, _, h', _⟩
    · exact ⟨h' ▸ hnone, ha⟩
    · rw [hnone] at h'
      cases h'
  · rw [hmark]
    exact Nat.le_trans hp.mark_le herr.length_le
  · rw [hmark]
    intro b hb
    rcases hblock with h' | ⟨b', _, h', h''⟩
    · exact hp.marks b (h' ▸ hb)
    · rw [h''] at hb
      cases hb
      exact hp.marks b' h'
  · rw [hres, hpc]
    exact fun h => (hp.lastCheck h).concat he
  · rw [hpc, hres, hcls, hmark, hout]
    intro value hv
    rcases hp.answered value hv with h | h | ⟨r, observed, hr, hverdict, hm⟩
    · exact Or.inl h
    · exact Or.inr (Or.inl h)
    · refine Or.inr (Or.inr ⟨r, observed, hr, hverdict, fun m ho => ?_⟩)
      exact (herr.drop v.call.mark).subset (hm m ho)

/-- Steps that move the place of a fetch that has no result yet. -/
theorem Placed.move (hp : Placed f tr v) (hres : v.call.result = none)
    (block : Option Block) (pc : CallPc)
    (hblock : ∀ b, block = some b → v.call.mark ≤ b.mark) (hm : pc ≠ .marked)
    (hempty : ∀ t, pc ≠ .empty t) (hret : ∀ value, pc = .returned value → value = .error .noToken) :
    Placed f (tr ++ [e]) { v with call := { v.call with block, pc } } := by
  refine ⟨fun h => absurd hres h, fun h => absurd h hm, hp.mark_le, hblock, ?_, ?_⟩
  · rintro (⟨t, h⟩ | h)
    · exact absurd h (hempty t)
    · rw [show v.call.result = _ from h] at hres
      cases hres
  · exact fun value h => Or.inr (Or.inl (hret value h))

theorem placed_step (h : LocalStep fromBytes f e v v') (hp : Placed f tr v)
    (hd : Delivery f tr v) (hc : Carried fromBytes f tr v) : Placed f (tr ++ [e]) v' := by
  cases h with
  | arm hpc =>
    have hres := hp.result_none (by rw [hpc]; trivial)
    refine hp.move hres _ _ ?_ (by simp) (by simp) (by simp)
    rintro b ⟨⟩
    exact hp.mark_le
  | dispatch hpc hb =>
    have hres := hp.result_none (by rw [hpc]; trivial)
    refine hp.move hres _ _ ?_ (by simp) (by simp) (by simp)
    rintro b ⟨⟩
    have hmark := hp.marks _ hb
    exact hmark
  | @token _ granted hpc =>
    have hres := hp.result_none (by rw [hpc]; trivial)
    refine hp.move hres _ _ hp.marks ?_ ?_ ?_
    · cases granted <;> rintro ⟨⟩
    · cases granted <;> rintro _ ⟨⟩
    · cases granted
      · rintro _ ⟨⟩
        rfl
      · rintro _ ⟨⟩
  | deadline hpc =>
    have hres := hp.result_none (by rw [hpc]; trivial)
    exact hp.move hres _ _ hp.marks (by simp) (by simp)
      (by simp)
  | overflow hpc =>
    have hres := hp.result_none (by rw [hpc]; trivial)
    exact hp.move hres _ _ hp.marks (by simp) (by simp)
      (by simp)
  | again hpc =>
    have hres := hp.result_none (by rw [hpc]; trivial)
    exact hp.move hres _ _ hp.marks (by simp) (by simp)
      (by simp)
  | @collect _ t r hpc hslot =>
    refine ⟨fun _ => Or.inl rfl, by rintro ⟨⟩, hp.mark_le, hp.marks, ?_, by rintro _ ⟨⟩⟩
    rintro (⟨t, ⟨⟩⟩ | h)
    obtain rfl := Option.some.inj h
    exact absurd rfl (hd.collected_ne_timeout hc hslot)
  | miss hpc hslot =>
    -- the cell is empty and nothing was collected: nothing was stored so far
    have hres := hp.result_none (by rw [hpc]; trivial)
    refine ⟨fun h => absurd hres h, by rintro ⟨⟩, hp.mark_le, hp.marks, fun _ => ?_,
      by rintro _ ⟨⟩⟩
    exact ⟨tr, [], rfl, hd.stores_nil hslot hres, fun e h => absurd h List.not_mem_nil⟩
  | timeout hpc =>
    exact ⟨fun _ => Or.inl rfl, by rintro ⟨⟩, hp.mark_le, hp.marks,
      fun _ => (hp.lastCheck (Or.inl ⟨_, hpc⟩)).concat (by simp), by rintro _ ⟨⟩⟩
  | answer hpc hr hv =>
    refine ⟨fun _ => Or.inr ⟨_, rfl⟩, by rintro ⟨⟩, hp.mark_le, hp.marks, ?_, ?_⟩
    · rintro (⟨t, ⟨⟩⟩ | h)
      exact (hp.lastCheck (Or.inr h)).concat (by simp)
    · rintro _ ⟨⟩
      refine Or.inr (Or.inr ⟨_, _, hr, hv, fun m hm => ?_⟩)
      rw [firstErrorSince_eq] at hm
      exact List.mem_of_mem_head? hm
  | report => exact hp.keep (by simp) rfl rfl rfl rfl rfl (List.prefix_append _ _) (Or.inl rfl)
  | invoke => exact hp.keep (by simp) rfl rfl rfl rfl rfl List.prefix_rfl (Or.inl rfl)
  | completionCheck => exact hp.keep (by simp) rfl rfl rfl rfl rfl List.prefix_rfl (Or.inl rfl)
  | take hb =>
    exact hp.keep (by simp) rfl rfl rfl rfl rfl List.prefix_rfl (Or.inr ⟨_, _, hb, rfl⟩)
  | takeLate => exact hp.keep (by simp) rfl rfl rfl rfl rfl List.prefix_rfl (Or.inl rfl)
  | store => exact hp.keep (by simp) rfl rfl rfl rfl rfl List.prefix_rfl (Or.inl rfl)
  | other he =>
    exact hp.keep (by rintro rfl; exact he rfl) rfl rfl rfl rfl rfl List.prefix_rfl (Or.inl rfl)

theorem carried_step (h : LocalStep fromBytes f e v v') (hp : Placed f tr v)
    (hc : Carried fromBytes f tr v) : Carried fromBytes f (tr ++ [e]) v' := by
  have hsame : ∀ b, v.call.block = some b → ∃ b', v.call.block = some b' ∧ b'.mark = b.mark :=
    fun b hb => ⟨b, hb, rfl⟩
  have hv : Carried fromBytes f (tr ++ [e]) v := hc.keep rfl List.prefix_rfl hsame
  cases h with
  | arm hpc =>
    refine hc.keep rfl List.prefix_rfl fun b hb => ?_
    rw [(hp.marked hpc).1] at hb
    cases hb
  | dispatch _ hb =>
    refine hc.keep rfl List.prefix_rfl fun b hb' => ?_
    obtain rfl := Option.some.inj (hb.symm.trans hb')
    exact ⟨_, rfl, rfl⟩
  | token => exact hc.keep rfl List.prefix_rfl hsame
  | deadline => exact hc.keep rfl List.prefix_rfl hsame
  | overflow => exact hc.keep rfl List.prefix_rfl hsame
  | collect => exact hc.keep rfl List.prefix_rfl hsame
  | miss => exact hc.keep rfl List.prefix_rfl hsame
  | timeout => exact hc.keep rfl List.prefix_rfl hsame
  | again => exact hc.keep rfl List.prefix_rfl hsame
  | answer => exact hc.keep rfl List.prefix_rfl hsame
  | report => exact hc.keep rfl (List.prefix_append _ _) hsame
  | invoke =>
    exact hv.update (Or.inl rfl) ⟨rfl, List.mem_append_right _ (List.mem_singleton_self _)⟩
  | @completionCheck _ b i inv r hb hi hpc =>
    refine hv.update ?_ (hv.invoked i inv hi)
    rcases completionResult_cases r (firstErrorSince v.errors b.mark) with h | ⟨m, ho, h⟩
    · have hs := hv.source i inv hi
      rw [hpc] at hs
      rw [BlockPc.result, h]
      exact hs
    · rw [firstErrorSince_eq] at ho
      exact Or.inr ⟨b, m, hb, List.mem_of_mem_head? ho, h⟩
  | @take _ b i sink inv r hb _ hi hpc =>
    have hs := hv.source i inv hi
    rw [hpc] at hs
    have hk : Carried fromBytes f (tr ++ [.take f i])
        { v with call := { v.call with block := some { b with handler := none } } } := by
      refine hc.keep rfl List.prefix_rfl fun b' hb' => ?_
      obtain rfl := Option.some.inj (hb.symm.trans hb')
      exact ⟨_, rfl, rfl⟩
    refine hk.update ?_ (hv.invoked i inv hi)
    rcases hs with hs | ⟨b', m, hb', hm, hs⟩
    · exact Or.inl hs
    · obtain rfl := Option.some.inj (hb.symm.trans hb')
      exact Or.inr ⟨_, m, rfl, hm, hs⟩
  | @takeLate _ b i inv r _ _ hi hpc =>
    have hs := hv.source i inv hi
    rw [hpc] at hs
    exact hv.update hs (hv.invoked i inv hi)
  | @store _ i sink inv r _ hi hpc =>
    have hs := hv.source i inv hi
    rw [hpc] at hs
    have hk : Carried fromBytes f (tr ++ [.store f i]) { v with slot := v.slot.or (some r) } :=
      hc.keep rfl List.prefix_rfl hsame
    exact hk.update hs (hv.invoked i inv hi)
  | other => exact hv

theorem inv_step (h : LocalStep fromBytes f e v v') (hi : Inv fromBytes f tr v) :
    Inv fromBytes f (tr ++ [e]) v' :=
  ⟨placed_step h hi.placed hi.delivery hi.carried, delivery_step h hi.placed hi.delivery,
    carried_step h hi.placed hi.carried⟩

/-- A fetch that was just called: it waits with a cell of its own, or returned at once. -/
theorem inv_begin (hinv : ∀ i, v.invocations i = none) (ht : takers f tr = [])
    (hs : stores f tr = []) (hslot : v.slot = none) (hres : v.call.result = none)
    (hblock : v.call.block = none) (hmark : v.call.mark ≤ v.errors.length)
    (hpc : (v.call.pc = .marked ∧ ∃ a, v.call.outcome = some a) ∨
      (v.call.outcome = none ∧ ∃ value, v.call.pc = .returned value ∧
        (value = .error .emptyBatch ∨ ∃ m, value = .error (.setup m)))) :
    Inv fromBytes f tr v := by
  have hnone : ∀ i inv, v.invocations i ≠ some inv := fun i inv h => by
    rw [hinv i] at h
    cases h
  refine ⟨⟨fun h => absurd hres h, ?_, hmark, ?_, ?_, ?_⟩,
    ⟨fun _ => ⟨hinv, ht⟩, ?_, ?_, fun i inv _ _ h => absurd h (hnone i inv),
      fun _ => ⟨hslot, Or.inl hres⟩, Or.inl hs, ?_⟩,
    ⟨fun i inv h => absurd h (hnone i inv), fun i inv h => absurd h (hnone i inv)⟩⟩
  · intro h
    rcases hpc with ⟨_, ha⟩ | ⟨_, _, h', _⟩
    · exact ⟨hblock, ha⟩
    · rw [h] at h'
      cases h'
  · intro b hb
    rw [hblock] at hb
    cases hb
  · rintro (⟨t, h⟩ | h)
    · rcases hpc with ⟨h', _⟩ | ⟨_, _, h', _⟩ <;> rw [h] at h' <;> cases h'
    · rw [hres] at h
      cases h
  · intro value h
    rcases hpc with ⟨h', _⟩ | ⟨hout, value', h', hvalue⟩
    · rw [h] at h'
      cases h'
    · rw [h] at h'
      cases h'
      exact Or.inl ⟨hout, hvalue⟩
  · intro a h
    rw [Call.handler, hblock] at h
    cases h
  · intro h
    rw [Call.handler, hblock] at h
    cases h
  · intro i h
    rw [ht] at h
    cases h

/-! ## What no local step changes -/

theorem LocalStep.kept (h : LocalStep fromBytes f e v v') :
    v'.call.cls = v.call.cls ∧ v'.call.mark = v.call.mark ∧
      v'.call.outcome = v.call.outcome := by
  cases h <;> exact ⟨rfl, rfl, rfl⟩

theorem LocalStep.timeout_eq (h : LocalStep fromBytes f e v v') :
    v'.call.timeout = v.call.timeout := by
  cases h <;> rfl

/-- A fetch that returned does not return again. -/
theorem LocalStep.returned (h : LocalStep fromBytes f e v v') {value : Except FetchError AnyReply}
    (hv : v.call.pc = .returned value) : v'.call.pc = .returned value := by
  cases h <;> first | exact hv | simp_all

/-- An invocation that is done stays as it is. -/
theorem LocalStep.done (h : LocalStep fromBytes f e v v') {i : Nat} {inv : Invocation}
    {r : FetchResult} (hi : v.invocations i = some inv) (hr : inv.pc = .done r) :
    v'.invocations i = some inv := by
  have hne : ∀ j inv', v.invocations j = some inv' → inv'.pc ≠ .done r → i ≠ j := by
    rintro j inv' hj hr' rfl
    obtain rfl := Option.some.inj (hi.symm.trans hj)
    exact hr' hr
  cases h with
  | invoke _ hj =>
    refine (Function.update_of_ne ?_ ..).trans hi
    rintro rfl
    rw [hi] at hj
    cases hj
  | completionCheck _ hj hpc | take _ _ hj hpc | takeLate _ _ hj hpc | store _ hj hpc =>
    refine (Function.update_of_ne (hne _ _ hj ?_) ..).trans hi
    rw [hpc]
    rintro ⟨⟩
  | _ => exact hi

/-- An invocation that locks the handler has not locked it before. -/
theorem LocalStep.taking {i : Nat} (h : LocalStep fromBytes f (.take f i) v v') :
    ∃ inv r, v.invocations i = some inv ∧ inv.pc = .checked r := by
  cases h with
  | take _ _ hi hpc | takeLate _ _ hi hpc => exact ⟨_, _, hi, hpc⟩
  | other he => exact absurd rfl he

/-- The last step of a fetch that is not cut short. -/
theorem LocalStep.answered (h : LocalStep fromBytes f (.observerCheck f) v v') :
    ∃ r value, v.call.pc = .pumped ∧ v.call.result = some r ∧
      verdict v.call.cls (firstErrorSince v.errors v.call.mark) r = .ok value ∧
      v'.call.pc = .returned value := by
  cases h with
  | answer hpc hr hv => exact ⟨_, _, hpc, hr, hv, rfl⟩
  | other he => exact absurd rfl he

/-- A cell is filled by the invocation that holds the handler. -/
theorem LocalStep.slot_some (h : LocalStep fromBytes f e v v') {r : FetchResult}
    (hnew : v'.slot = some r) (hold : v.slot ≠ some r) :
    ∃ i sink inv, e = .store f i ∧ v.call.outcome = some sink ∧ v.slot = none ∧
      v.invocations i = some inv ∧ inv.pc = .holding sink r := by
  cases h with
  | collect => cases hnew
  | @store _ i sink inv r' hout hi hpc =>
    cases hs : v.slot with
    | none =>
      rw [show v.slot.or (some r') = some r' by rw [hs]; rfl] at hnew
      cases hnew
      exact ⟨i, sink, inv, rfl, hout, rfl, hi, hpc⟩
    | some r'' =>
      rw [show v.slot.or (some r') = v.slot by rw [hs]; rfl] at hnew
      exact absurd hnew hold
  | _ => exact absurd hnew hold

end Steps

end GputoolsReplay
