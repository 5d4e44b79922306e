/-
  The decoder against the graph it walks.

  * `Edge`: one step of the walk, a uid hop or a descent to a key or an element.
  * `unarchiveWithin_ok_iff`: with `n` levels the decoder succeeds exactly when no walk has
    `n` steps and every node reached is sound.
  * `unarchiveValue_ok_iff`: the same from depth 0, and a reachable cycle is an error.
  * `resolved_selfContained_iff`: the result is free of uids exactly when every node that is
    returned as it is, on the part of the walk that ends up in the result, is free of them.
-/
import GputoolsReplay.Hl.Unarchive
import GputoolsReplay.Lib.Walk

namespace GputoolsReplay

open RustSem Relation Steps

/-- One step of the walk. -/
inductive Edge (objects : List Value) : Value → Value → Prop where
  | hop {u : UInt64} {t : Value} : objects[u.toNat]? = some t → Edge objects (.uid u) t
  | key {d : Dictionary} {keys vals : List Value} {e : Value × Value} :
      nsObjects d = some vals → nsKeys d = some keys → e ∈ keys.zip vals →
      Edge objects (.dictionary d) e.1
  | value {d : Dictionary} {keys vals : List Value} {e : Value × Value} :
      nsObjects d = some vals → nsKeys d = some keys → e ∈ keys.zip vals →
      Edge objects (.dictionary d) e.2
  | elem {d : Dictionary} {vals : List Value} {v : Value} :
      nsObjects d = some vals → nsKeys d = none → v ∈ vals → Edge objects (.dictionary d) v

/-- A node the walk can accept: its uid is in the table, its keys and values are equally
    many, its keys are strings. -/
structure NodeOk (objects : List Value) (v : Value) : Prop where
  uid_in_table : ∀ u, v = .uid u → u.toNat < objects.length
  lengths_agree : ∀ d keys vals, v = .dictionary d → nsObjects d = some vals →
    nsKeys d = some keys → keys.length = vals.length
  keys_strings : ∀ d keys vals, v = .dictionary d → nsObjects d = some vals →
    nsKeys d = some keys → ∀ e ∈ keys.zip vals, ∃ s, KeyString objects e.1 s

/-! ## Acceptance -/

theorem exists_forall₂ {α β : Type} {P : α → β → Prop} {l : List α} (h : ∀ a ∈ l, ∃ b, P a b) :
    ∃ bs, List.Forall₂ P l bs := by
  induction l with
  | nil => exact ⟨[], .nil⟩
  | cons a l ih =>
    obtain ⟨b, hb⟩ := h a (List.mem_cons_self ..)
    obtain ⟨bs, hbs⟩ := ih fun a' ha' => h a' (List.mem_cons_of_mem _ ha')
    exact ⟨b :: bs, .cons hb hbs⟩

theorem exists_of_forall₂ {α β : Type} {P : α → β → Prop} {l : List α} {bs : List β}
    (h : List.Forall₂ P l bs) : ∀ a ∈ l, ∃ b ∈ bs, P a b := by
  induction h with
  | nil => exact fun a ha => absurd ha List.not_mem_nil
  | cons hab _ ih =>
    intro a ha
    rcases List.mem_cons.mp ha with rfl | ha
    · exact ⟨_, List.mem_cons_self .., hab⟩
    · obtain ⟨b, hb, hP⟩ := ih a ha
      exact ⟨b, List.mem_cons_of_mem _ hb, hP⟩

section Shapes

variable {objects : List Value} {u : UInt64} {d : Dictionary} {keys vals : List Value} {v w : Value}

theorem edge_uid_iff : Edge objects (.uid u) w ↔ objects[u.toNat]? = some w := by
  constructor
  · rintro (⟨ht⟩)
    exact ht
  · exact .hop

theorem edge_dict_iff (hv : nsObjects d = some vals) (hk : nsKeys d = some keys) :
    Edge objects (.dictionary d) w ↔ ∃ e ∈ keys.zip vals, w = e.1 ∨ w = e.2 := by
  constructor
  · intro h
    cases h with
    | @key _ _ _ e hv' hk' he =>
      obtain rfl := Option.some.inj (hv.symm.trans hv')
      obtain rfl := Option.some.inj (hk.symm.trans hk')
      exact ⟨e, he, Or.inl rfl⟩
    | @value _ _ _ e hv' hk' he =>
      obtain rfl := Option.some.inj (hv.symm.trans hv')
      obtain rfl := Option.some.inj (hk.symm.trans hk')
      exact ⟨e, he, Or.inr rfl⟩
    | elem _ hk' =>
      rw [hk] at hk'
      cases hk'
  · intro h'
    obtain ⟨e, he, rfl | rfl⟩ := h'
    · exact .key hv hk he
    · exact .value hv hk he

theorem edge_array_iff (hv : nsObjects d = some vals) (hk : nsKeys d = none) :
    Edge objects (.dictionary d) w ↔ w ∈ vals := by
  constructor
  · intro h
    cases h with
    | key _ hk' => rw [hk] at hk'; cases hk'
    | value _ hk' => rw [hk] at hk'; cases hk'
    | elem hv' _ hw =>
      obtain rfl := Option.some.inj (hv.symm.trans hv')
      exact hw
  · exact .elem hv hk

theorem not_edge_of_passedThrough (hp : PassedThrough v) : ¬ Edge objects v w := by
  intro h
  cases h with
  | hop => exact hp
  | key hv => rw [show nsObjects _ = none from hp] at hv; cases hv
  | value hv => rw [show nsObjects _ = none from hp] at hv; cases hv
  | elem hv => rw [show nsObjects _ = none from hp] at hv; cases hv

theorem nodeOk_uid_iff : NodeOk objects (.uid u) ↔ u.toNat < objects.length := by
  constructor
  · exact fun h => h.uid_in_table u rfl
  · intro h
    exact ⟨by rintro _ ⟨⟩; exact h, by rintro _ _ _ ⟨⟩, by rintro _ _ _ ⟨⟩⟩

theorem nodeOk_dict_iff (hv : nsObjects d = some vals) (hk : nsKeys d = some keys) :
    NodeOk objects (.dictionary d) ↔
      keys.length = vals.length ∧ ∀ e ∈ keys.zip vals, ∃ s, KeyString objects e.1 s := by
  constructor
  · exact fun h => ⟨h.lengths_agree d keys vals rfl hv hk, h.keys_strings d keys vals rfl hv hk⟩
  · intro h'
    obtain ⟨hl, hs⟩ := h'
    refine ⟨by rintro _ ⟨⟩, ?_, ?_⟩
    all_goals
      rintro _ keys' vals' ⟨⟩ hv' hk'
      obtain rfl := Option.some.inj (hv.symm.trans hv')
      obtain rfl := Option.some.inj (hk.symm.trans hk')
    · exact hl
    · exact hs

theorem nodeOk_array (hk : nsKeys d = none) : NodeOk objects (.dictionary d) := by
  refine ⟨by rintro _ ⟨⟩, ?_, ?_⟩
  all_goals
    rintro _ _ _ ⟨⟩ _ hk'
    rw [hk] at hk'
    cases hk'

theorem nodeOk_of_passedThrough (hp : PassedThrough v) : NodeOk objects v := by
  refine ⟨by rintro _ rfl; exact absurd hp id, ?_, ?_⟩
  all_goals
    rintro _ _ _ rfl hv
    rw [show nsObjects _ = none from hp] at hv
    cases hv

end Shapes

/-- What one level resolved was sound, and its children were resolved. -/
theorem nodeOk_of_resolves {objects : List Value} {n : Nat} {v r : Value}
    (h : Resolves objects (fun v r => unarchiveWithin objects n v = .ok r) v r) :
    NodeOk objects v ∧ ∀ w, Edge objects v w → ∃ r, unarchiveWithin objects n w = .ok r := by
  cases h with
  | uid ht hr =>
    refine ⟨nodeOk_uid_iff.mpr (List.getElem?_eq_some_iff.mp ht).1, fun w hw => ?_⟩
    obtain rfl := Option.some.inj (ht.symm.trans (edge_uid_iff.mp hw))
    exact ⟨_, hr⟩
  | dict hv hk hl hout =>
    have hall := exists_of_forall₂ hout
    refine ⟨(nodeOk_dict_iff hv hk).mpr ⟨hl, fun e he => ?_⟩, fun w hw => ?_⟩
    · obtain ⟨kv, -, hkey, -⟩ := hall e he
      exact ⟨kv.1, (unarchiveWithin_string hkey _).mp rfl⟩
    · obtain ⟨e, he, rfl | rfl⟩ := (edge_dict_iff hv hk).mp hw
      · obtain ⟨kv, -, hkey, -⟩ := hall e he
        exact ⟨_, hkey⟩
      · obtain ⟨kv, -, -, hval⟩ := hall e he
        exact ⟨_, hval⟩
  | array hv hk hout =>
    refine ⟨nodeOk_array hk, fun w hw => ?_⟩
    obtain ⟨r, -, hr⟩ := exists_of_forall₂ hout w ((edge_array_iff hv hk).mp hw)
    exact ⟨r, hr⟩
  | passed hp =>
    exact ⟨nodeOk_of_passedThrough hp, fun w hw => absurd hw (not_edge_of_passedThrough hp)⟩

/-- One level succeeds exactly on a sound node all of whose children are resolved. -/
theorem unarchiveWithin_succ_ok_iff (objects : List Value) (n : Nat) (v : Value) :
    (∃ r, unarchiveWithin objects (n + 1) v = .ok r) ↔
      NodeOk objects v ∧
        ∀ w, Edge objects v w → ∃ r, unarchiveWithin objects n w = .ok r := by
  simp only [unarchiveWithin_succ_eq_ok_iff]
  constructor
  · intro h
    obtain ⟨r, hr⟩ := h
    exact nodeOk_of_resolves hr
  · intro h
    obtain ⟨hok, hedge⟩ := h
    rcases node_cases v with ⟨u, rfl⟩ | ⟨d, vals, keys, rfl, hv, hk⟩ | ⟨d, vals, rfl, hv, hk⟩ | hp
    · have ht := List.getElem?_eq_getElem (nodeOk_uid_iff.mp hok)
      obtain ⟨r, hr⟩ := hedge _ (.hop ht)
      exact ⟨r, .uid ht hr⟩
    · obtain ⟨hl, hstr⟩ := (nodeOk_dict_iff hv hk).mp hok
      have hentry : ∀ e ∈ keys.zip vals, ∃ kv : String × Value,
          unarchiveWithin objects n e.1 = .ok (.string kv.1) ∧
            unarchiveWithin objects n e.2 = .ok kv.2 := by
        intro e he
        obtain ⟨k, hkey⟩ := hedge _ (.key hv hk he)
        obtain ⟨x, hval⟩ := hedge _ (.value hv hk he)
        obtain ⟨s, hs⟩ := hstr e he
        obtain rfl := (unarchiveWithin_string hkey s).mpr hs
        exact ⟨(s, x), hkey, hval⟩
      obtain ⟨out, hout⟩ := exists_forall₂ hentry
      exact ⟨_, .dict hv hk hl hout⟩
    · obtain ⟨out, hout⟩ := exists_forall₂ fun w hw => hedge w (.elem hv hk hw)
      exact ⟨_, .array hv hk hout⟩
    · exact ⟨v, .passed hp⟩

/-- With `n` levels the decoder succeeds exactly when every walk has fewer than `n` steps
    and every node reached is sound. -/
theorem unarchiveWithin_ok_iff (objects : List Value) (n : Nat) (v : Value) :
    (∃ r, unarchiveWithin objects n v = .ok r) ↔
      (∀ m w, Walk (Edge objects) m v w → m < n) ∧
        ∀ w, ReflTransGen (Edge objects) v w → NodeOk objects w := by
  induction n generalizing v with
  | zero =>
    refine iff_of_false (by rintro ⟨r, ⟨⟩⟩) fun h => ?_
    exact absurd (h.1 0 v (.refl v)) (Nat.lt_irrefl 0)
  | succ n ih =>
    rw [unarchiveWithin_succ_ok_iff, forall_length_iff, forall_reachable_iff]
    constructor
    · intro h'
      obtain ⟨hok, hedge⟩ := h'
      exact ⟨fun w hw => ((ih w).mp (hedge w hw)).1, hok, fun w hw => ((ih w).mp (hedge w hw)).2⟩
    · intro h'
      obtain ⟨hlen, hok, hreach⟩ := h'
      exact ⟨hok, fun w hw => (ih w).mpr ⟨hlen w hw, hreach w hw⟩⟩

/-- `unarchive_value` from depth 0 succeeds exactly when no walk from the node has more than
    64 steps and every node reached is sound. A cycle that can be reached is an error. -/
theorem unarchiveValue_ok_iff (objects : List Value) (v : Value) :
    ((∃ r, unarchiveValue objects v 0 = .ok r) ↔
      (∀ n w, Walk (Edge objects) n v w → n ≤ 64) ∧
        ∀ w, ReflTransGen (Edge objects) v w → NodeOk objects w) ∧
    ((∃ w, ReflTransGen (Edge objects) v w ∧ TransGen (Edge objects) w w) →
      ∃ e, unarchiveValue objects v 0 = .error e) := by
  have hiff : (∃ r, unarchiveValue objects v 0 = .ok r) ↔
      (∀ n w, Walk (Edge objects) n v w → n ≤ 64) ∧
        ∀ w, ReflTransGen (Edge objects) v w → NodeOk objects w := by
    unfold unarchiveValue
    rw [unarchiveWithin_ok_iff]
    simp only [maxArchiveDepth, Nat.lt_succ_iff]
  refine ⟨hiff, ?_⟩
  intro h'
  obtain ⟨w, hreach, hcycle⟩ := h'
  obtain ⟨b, hwb, hbw⟩ := TransGen.head'_iff.mp hcycle
  obtain ⟨m, hm⟩ := reflTransGen_iff.mp hbw
  obtain ⟨n, hn, hwalk⟩ := walk_unbounded_of_cycle hreach (.step hwb hm) 65
  cases h : unarchiveValue objects v 0 with
  | error e => exact ⟨e, rfl⟩
  | ok r =>
    have := (hiff.mp ⟨r, h⟩).1 n w hwalk
    omega

/-! ## What ends up in the result -/

/-- A step of the walk whose end stands in the result: a uid hop, an element, or a value
    whose key no later pair repeats. -/
inductive Kept (objects : List Value) : Value → Value → Prop where
  | hop {u : UInt64} {t : Value} : objects[u.toNat]? = some t → Kept objects (.uid u) t
  | value {d : Dictionary} {keys vals : List Value} {pre post : List (Value × Value)}
      {e : Value × Value} {s : String} :
      nsObjects d = some vals → nsKeys d = some keys → keys.zip vals = pre ++ e :: post →
      KeyString objects e.1 s → (∀ e' ∈ post, ¬ KeyString objects e'.1 s) →
      Kept objects (.dictionary d) e.2
  | elem {d : Dictionary} {vals : List Value} {v : Value} :
      nsObjects d = some vals → nsKeys d = none → v ∈ vals → Kept objects (.dictionary d) v

theorem Kept.edge {objects : List Value} {v w : Value} (h : Kept objects v w) :
    Edge objects v w := by
  cases h with
  | hop ht => exact .hop ht
  | value hv hk hzip =>
    exact .value hv hk (hzip ▸ List.mem_append_right _ (List.mem_cons_self ..))
  | elem hv hk hw => exact .elem hv hk hw

theorem keyString_unique {objects : List Value} {v : Value} {s s' : String}
    (h : KeyString objects v s) (h' : KeyString objects v s') : s = s' := by
  induction h with
  | string s =>
    cases h' with
    | string => rfl
  | hop ht _ ih =>
    cases h' with
    | hop ht' h' =>
      obtain rfl := Option.some.inj (ht.symm.trans ht')
      exact ih h'

theorem forall₂_split_right {α β : Type} {P : α → β → Prop} {l : List α} {pre post : List β}
    {b : β} (h : List.Forall₂ P l (pre ++ b :: post)) :
    ∃ pre' a post', l = pre' ++ a :: post' ∧ P a b ∧ List.Forall₂ P post' post := by
  induction pre generalizing l with
  | nil =>
    obtain ⟨a, l', hab, hrest, rfl⟩ := List.forall₂_cons_right_iff.mp h
    exact ⟨[], a, l', rfl, hab, hrest⟩
  | cons x pre ih =>
    obtain ⟨a, l', _, hrest, rfl⟩ := List.forall₂_cons_right_iff.mp h
    obtain ⟨pre', a', post', rfl, hab, hpost⟩ := ih hrest
    exact ⟨a :: pre', a', post', rfl, hab, hpost⟩

theorem forall₂_split_left {α β : Type} {P : α → β → Prop} {l : List β} {pre post : List α}
    {a : α} (h : List.Forall₂ P (pre ++ a :: post) l) :
    ∃ pre' b post', l = pre' ++ b :: post' ∧ P a b ∧ List.Forall₂ P post post' := by
  obtain ⟨pre', b, post', hl, hab, hpost⟩ := forall₂_split_right h.flip
  exact ⟨pre', b, post', hl, hab, hpost.flip⟩

/-- The values of the resolved dictionary are those of the pairs whose key is not repeated. -/
theorem hasUid_insertAll_iff {objects : List Value} {n : Nat} {d : Dictionary}
    {keys vals : List Value} {out : Dictionary} (hv : nsObjects d = some vals)
    (hk : nsKeys d = some keys)
    (hout : List.Forall₂ (fun e kv => unarchiveWithin objects n e.1 = .ok (.string kv.1) ∧
      unarchiveWithin objects n e.2 = .ok kv.2) (keys.zip vals) out) :
    Value.HasUid (.dictionary (Dict.insertAll [] out)) ↔
      ∃ w r, Kept objects (.dictionary d) w ∧ unarchiveWithin objects n w = .ok r ∧
        Value.HasUid r := by
  rw [Value.hasUid_dictionary]
  constructor
  · intro h
    obtain ⟨kv, hmem, hu⟩ := h
    obtain ⟨pre, post, rfl, hlast⟩ := (Dict.mem_insertAll_nil out kv).mp hmem
    obtain ⟨pre', e, post', hzip, ⟨hkey, hval⟩, hpost⟩ := forall₂_split_right hout
    refine ⟨e.2, kv.2, .value hv hk hzip ((unarchiveWithin_string hkey _).mp rfl) ?_, hval, hu⟩
    intro e' he' hs
    obtain ⟨kv', hkv', hkey', -⟩ := exists_of_forall₂ hpost e' he'
    have hsame := keyString_unique hs ((unarchiveWithin_string hkey' _).mp rfl)
    exact hlast (hsame ▸ List.mem_map_of_mem hkv')
  · intro h
    obtain ⟨w, r, hkept, hr, hu⟩ := h
    cases hkept with
    | @value _ keys' vals' pre post e s hv' hk' hzip hs hlast =>
      obtain rfl := Option.some.inj (hv.symm.trans hv')
      obtain rfl := Option.some.inj (hk.symm.trans hk')
      rw [hzip] at hout
      obtain ⟨pre', kv, post', rfl, ⟨hkey, hval⟩, hpost⟩ := forall₂_split_left hout
      have hkv : kv.2 = r := Except.ok.inj (hval.symm.trans hr)
      refine ⟨kv, (Dict.mem_insertAll_nil _ kv).mpr ⟨pre', post', rfl, fun hm => ?_⟩, hkv ▸ hu⟩
      obtain ⟨kv', hkv', heq⟩ := List.mem_map.mp hm
      obtain ⟨e', he', hkey', -⟩ := exists_of_forall₂ hpost.flip kv' hkv'
      refine hlast e' he' ?_
      have hs' := (unarchiveWithin_string hkey' _).mp rfl
      rw [heq] at hs'
      rwa [keyString_unique hs ((unarchiveWithin_string hkey _).mp rfl)]
    | elem _ hk' => rw [hk] at hk'; cases hk'

/-- The uids of a resolved node are those of its resolved kept children. -/
theorem hasUid_resolves_iff {objects : List Value} {n : Nat} {v r : Value}
    (h : Resolves objects (fun v r => unarchiveWithin objects n v = .ok r) v r)
    (hp : ¬ PassedThrough v) :
    r.HasUid ↔ ∃ w x, Kept objects v w ∧ unarchiveWithin objects n w = .ok x ∧ x.HasUid := by
  cases h with
  | @uid u t _ ht hr =>
    constructor
    · exact fun hu => ⟨t, r, .hop ht, hr, hu⟩
    · intro h'
      obtain ⟨w, x, hw, hx, hu⟩ := h'
      obtain rfl := Option.some.inj (ht.symm.trans (edge_uid_iff.mp hw.edge))
      exact Except.ok.inj (hx.symm.trans hr) ▸ hu
  | dict hv hk _ hout => exact hasUid_insertAll_iff hv hk hout
  | array hv hk hout =>
    rw [Value.hasUid_array]
    constructor
    · intro h'
      obtain ⟨x, hx, hu⟩ := h'
      obtain ⟨w, hw, hwx⟩ := exists_of_forall₂ hout.flip x hx
      exact ⟨w, x, .elem hv hk hw, hwx, hu⟩
    · intro h'
      obtain ⟨w, x, hw, hx, hu⟩ := h'
      obtain ⟨x', hx', hwx⟩ := exists_of_forall₂ hout w ((edge_array_iff hv hk).mp hw.edge)
      exact ⟨x', hx', Except.ok.inj (hx.symm.trans hwx) ▸ hu⟩
  | passed hp' => exact absurd hp' hp

/-- A uid occurs in the result exactly when one occurs in a node that is returned as it is,
    at the end of a walk of kept steps. -/
theorem hasUid_unarchiveWithin_iff {objects : List Value} {n : Nat} {v r : Value}
    (h : unarchiveWithin objects n v = .ok r) :
    r.HasUid ↔ ∃ w, ReflTransGen (Kept objects) v w ∧ PassedThrough w ∧ w.HasUid := by
  induction n generalizing v r with
  | zero => cases h
  | succ n ih =>
    have hres := unarchiveWithin_succ_eq_ok_iff.mp h
    by_cases hp : PassedThrough v
    · have hself : r = v := by
        cases hres with
        | uid => exact absurd hp id
        | dict hv => rw [show nsObjects _ = none from hp] at hv; cases hv
        | array hv => rw [show nsObjects _ = none from hp] at hv; cases hv
        | passed => rfl
      subst hself
      constructor
      · exact fun hu => ⟨r, .refl, hp, hu⟩
      · intro h'
        obtain ⟨w, hreach, -, hu⟩ := h'
        rcases ReflTransGen.cases_head hreach with rfl | ⟨w', hw', -⟩
        · exact hu
        · exact absurd hw'.edge (not_edge_of_passedThrough hp)
    · rw [hasUid_resolves_iff hres hp]
      constructor
      · intro h'
        obtain ⟨w, x, hw, hx, hu⟩ := h'
        obtain ⟨w', hreach, hp', hu'⟩ := (ih hx).mp hu
        exact ⟨w', .head hw hreach, hp', hu'⟩
      · intro h'
        obtain ⟨w', hreach, hp', hu'⟩ := h'
        rcases ReflTransGen.cases_head hreach with rfl | ⟨w, hw, hreach⟩
        · exact absurd hp' hp
        · obtain ⟨x, hx⟩ := (nodeOk_of_resolves hres).2 w hw.edge
          exact ⟨w, x, hw, hx, (ih hx).mpr ⟨w', hreach, hp', hu'⟩⟩

/-- The archive is resolved to a dictionary without uids exactly when every node returned as
    it is, at the end of a walk of kept steps from the root, is free of uids. -/
theorem resolved_selfContained_iff (fromBytes : Bytes → Except String Value) (bytes : Bytes)
    (d : Dictionary) (h : unarchiveRoot fromBytes bytes = .ok d) :
    ∃ root objects rootRef, fromBytes bytes = .ok root ∧
      archiveParts root = .ok (objects, rootRef) ∧
      (¬ Value.HasUid (.dictionary d) ↔
        ∀ w, ReflTransGen (Kept objects) rootRef w → PassedThrough w → ¬ w.HasUid) := by
  unfold unarchiveRoot at h
  cases hroot : fromBytes bytes with
  | error e => rw [hroot] at h; cases h
  | ok root =>
    rw [hroot] at h
    dsimp only at h
    rw [unarchiveEnvelope, bind_eq_ok] at h
    obtain ⟨⟨objects, rootRef⟩, hparts, h⟩ := h
    dsimp only at h
    rw [bind_eq_ok] at h
    obtain ⟨r, hr, h⟩ := h
    cases r with
    | dictionary d' =>
      cases h
      refine ⟨root, objects, rootRef, rfl, hparts, ?_⟩
      rw [hasUid_unarchiveWithin_iff hr]
      push Not
      exact Iff.rfl
    | _ => cases h

/-- Nothing that is returned as it is holds a uid in the envelope of `compute: [7]`. -/
theorem resolved_selfContained_compute :
    ∃ root objects rootRef, decodesTo computeBytes computeEnvelope computeBytes = .ok root ∧
      archiveParts root = .ok (objects, rootRef) ∧
      ∀ w, ReflTransGen (Kept objects) rootRef w → PassedThrough w → ¬ w.HasUid := by
  have hroot : unarchiveRoot (decodesTo computeBytes computeEnvelope) computeBytes =
      .ok [("compute", .array [.integer 7])] := by
    rw [unarchiveRoot_of_decoded (if_pos rfl)]
    rfl
  obtain ⟨root, objects, rootRef, hdec, hparts, hiff⟩ :=
    resolved_selfContained_iff _ _ _ hroot
  refine ⟨root, objects, rootRef, hdec, hparts, hiff.mp fun hu => ?_⟩
  simp only [Value.hasUid_dictionary, Value.hasUid_array, List.mem_singleton, exists_eq_left] at hu
  cases hu

/-- The binary plist of an envelope whose root dictionary maps `stages` to an array that
    stands in `$objects` as a plain array with a uid in it. -/
def inlineArrayBytes : Bytes :=
  [0x62, 0x70, 0x6c, 0x69, 0x73, 0x74, 0x30, 0x30, 0xd2, 0x01, 0x02, 0x03, 0x0e, 0x58, 0x24,
    0x6f, 0x62, 0x6a, 0x65, 0x63, 0x74, 0x73, 0x54, 0x24, 0x74, 0x6f, 0x70, 0xa3, 0x04, 0x0b,
    0x0c, 0xd2, 0x05, 0x06, 0x07, 0x09, 0x57, 0x4e, 0x53, 0x2e, 0x6b, 0x65, 0x79, 0x73, 0x5a,
    0x4e, 0x53, 0x2e, 0x6f, 0x62, 0x6a, 0x65, 0x63, 0x74, 0x73, 0xa1, 0x08, 0x80, 0x01, 0xa1,
    0x0a, 0x80, 0x02, 0x56, 0x73, 0x74, 0x61, 0x67, 0x65, 0x73, 0xa1, 0x0d, 0x80, 0x01, 0xd1,
    0x0f, 0x10, 0x54, 0x72, 0x6f, 0x6f, 0x74, 0x80, 0x00, 0x08, 0x0d, 0x16, 0x1b, 0x1f, 0x24,
    0x2c, 0x37, 0x39, 0x3b, 0x3d, 0x3f, 0x46, 0x48, 0x4a, 0x4d, 0x52, 0x00, 0x00, 0x00, 0x00,
    0x00, 0x00, 0x01, 0x01, 0x00, 0x00, 0x00, 0x00, 0x00, 0x00, 0x00, 0x11, 0x00, 0x00, 0x00,
    0x00, 0x00, 0x00, 0x00, 0x00, 0x00, 0x00, 0x00, 0x00, 0x00, 0x00, 0x00, 0x54]

def inlineArrayEnvelope : Value :=
  .dictionary [
    ("$objects", .array [
      .dictionary [("NS.keys", .array [.uid 1]), ("NS.objects", .array [.uid 2])],
      .string "stages",
      .array [.uid 1]]),
    ("$top", .dictionary [("root", .uid 0)])]

/-- The plain array comes back with its uid. -/
theorem resolved_inlineArray_hasUid :
    ¬ ∀ (fromBytes : Bytes → Except String Value) (bytes : Bytes) (d : Dictionary),
      unarchiveRoot fromBytes bytes = .ok d → ¬ Value.HasUid (.dictionary d) := by
  intro h
  refine h (decodesTo inlineArrayBytes inlineArrayEnvelope) inlineArrayBytes
    [("stages", .array [.uid 1])] ?_ ?_
  · rw [unarchiveRoot_of_decoded (if_pos rfl)]
    rfl
  · exact .entry (List.mem_singleton.mpr rfl) (.elem (List.mem_singleton.mpr rfl) (.uid 1))

end GputoolsReplay
