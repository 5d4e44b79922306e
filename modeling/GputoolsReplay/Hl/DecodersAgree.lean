/-
  The two decoders of keyed archives agree: `RawReply::parse`, which follows one uid and
  keeps three names, and `unarchive_root`, which resolves the whole graph.

  * `unarchiveWithin_of_hop`: behind its uid a value resolves to the same.
  * `unarchive_pairs`: the resolved root has the last value of every name.
  * `decoders_agree`: what both accept, they read alike.
-/
import GputoolsReplay.Hl.Unarchive
import GputoolsReplay.Substrate.EnvelopeGrammar

namespace GputoolsReplay

open RustSem

/-! ## Last values -/

/-- The dictionary made of some pairs holds the last value of each name. -/
theorem lookup_insertAll (d es : List (String × Value)) (name : String) :
    (Dict.insertAll d es).lookup name = (lastOf name es).or (d.lookup name) := by
  induction es generalizing d with
  | nil => rfl
  | cons e es ih =>
    rw [Dict.insertAll_cons, ih, Dict.lookup_insert, lastOf_cons, Option.or_assoc]
    by_cases h : e.1 = name
    · rw [if_pos h, if_pos h.symm, Option.some_or]
    · rw [if_neg h, if_neg (Ne.symm h), Option.none_or]

/-- Pairs that correspond, name by name, have corresponding last values. -/
theorem lastOf_rel {R : Value → Value → Prop} {pairs out : List (String × Value)}
    (h : List.Forall₂ (fun p kv => kv.1 = p.1 ∧ R p.2 kv.2) pairs out) (name : String) :
    Option.Rel R (lastOf name pairs) (lastOf name out) := by
  induction h with
  | nil => exact .none
  | @cons p kv pairs out hpk _ ih =>
    rw [lastOf_cons, lastOf_cons, hpk.1]
    generalize lastOf name pairs = a at ih ⊢
    generalize lastOf name out = b at ih ⊢
    cases ih with
    | some hR => exact .some hR
    | none =>
      rw [Option.none_or, Option.none_or]
      by_cases hn : p.1 = name
      · rw [if_pos hn, if_pos hn]
        exact .some hpk.2
      · rw [if_neg hn, if_neg hn]
        exact .none

/-! ## One hop of the other decoder -/

/-- Behind its uid a value resolves to the same. -/
theorem unarchiveWithin_of_hop {objects : List Value} {n : Nat} {v w r : Value}
    (hop : Hop objects v w) (h : unarchiveWithin objects n v = .ok r) :
    ∃ m, unarchiveWithin objects m w = .ok r := by
  cases v with
  | uid u =>
    cases n with
    | zero => cases h
    | succ n =>
      cases unarchiveWithin_succ_eq_ok_iff.mp h with
      | uid ht hr =>
        obtain rfl := Option.some.inj (ht.symm.trans hop)
        exact ⟨n, hr⟩
      | passed hp => exact absurd hp id
  | _ =>
    obtain rfl : w = _ := hop
    exact ⟨n, h⟩

/-- A key that is a string behind its uid resolves to that string. -/
theorem keyString_of_hop {objects : List Value} {v : Value} {s : String}
    (hop : Hop objects v (.string s)) : KeyString objects v s := by
  cases v with
  | uid u => exact .hop hop (.string s)
  | string s' =>
    cases hop
    exact .string s
  | _ => cases hop

theorem unarchiveWithin_data {objects : List Value} {n : Nat} {bytes : Bytes} {r : Value}
    (h : unarchiveWithin objects n (.data bytes) = .ok r) : r = .data bytes := by
  cases n with
  | zero => cases h
  | succ n =>
    cases unarchiveWithin_succ_eq_ok_iff.mp h
    rfl

/-- An archived array resolves to an array of its length. -/
theorem unarchiveWithin_array {objects : List Value} {n : Nat} {o : Dictionary}
    {elems : List Value} {r : Value} (hobjects : nsObjects o = some elems)
    (hkeys : nsKeys o = none) (h : unarchiveWithin objects n (.dictionary o) = .ok r) :
    ∃ out, r = .array out ∧ out.length = elems.length := by
  cases n with
  | zero => cases h
  | succ n =>
    cases unarchiveWithin_succ_eq_ok_iff.mp h with
    | dict _ hk => rw [hkeys] at hk; cases hk
    | array hv _ hout =>
      obtain rfl := Option.some.inj (hobjects.symm.trans hv)
      exact ⟨_, rfl, hout.length_eq.symm⟩
    | passed hp => rw [show nsObjects o = none from hp] at hobjects; cases hobjects

/-! ## The pairs of an envelope -/

/-- The value of a pair resolves to `r`, from wherever it stands. -/
def ResolvesTo (objects : List Value) (w r : Value) : Prop :=
  ∃ m, unarchiveWithin objects m w = .ok r

/-- The entries that the other decoder inserts are those of the pairs, in order. -/
theorem entries_of_pairs {objects keys vals : List Value} {n : Nat}
    {pairs out : List (String × Value)}
    (hk : List.Forall₂ (fun k (p : String × Value) => Hop objects k (.string p.1)) keys pairs)
    (hv : List.Forall₂ (fun v (p : String × Value) => Hop objects v p.2) vals pairs)
    (hout : List.Forall₂ (fun e kv => unarchiveWithin objects n e.1 = .ok (.string kv.1) ∧
      unarchiveWithin objects n e.2 = .ok kv.2) (keys.zip vals) out) :
    List.Forall₂ (fun p kv => kv.1 = p.1 ∧ ResolvesTo objects p.2 kv.2) pairs out := by
  induction hk generalizing vals out with
  | nil =>
    cases hv
    cases hout
    exact .nil
  | @cons k p keys pairs hkp _ ih =>
    obtain ⟨v, vals, hvp, hrest, rfl⟩ := List.forall₂_cons_right_iff.mp hv
    obtain ⟨kv, out, ⟨hkey, hval⟩, hentries, rfl⟩ := List.forall₂_cons_left_iff.mp hout
    refine .cons ⟨?_, unarchiveWithin_of_hop hvp hval⟩ (ih hrest hentries)
    have hs := (unarchiveWithin_string hkey p.1).mpr (keyString_of_hop hkp)
    exact Value.string.inj hs

theorem archiveParts_of_envelope {root : Value} {e : Envelope} (h : Envelope.Of root e) :
    archiveParts root = .ok (e.objects, e.rootRef) := by
  unfold archiveParts
  simp only [h.dict, h.objects, h.top, h.rootRef, Value.asDictionary, Value.asArray,
    Option.bind_some]

/-- The resolved root of an envelope has, for every name, what the last pair of that name
    resolves to. -/
theorem unarchive_pairs {root : Value} {e : Envelope} {d : Dictionary} (h : Envelope.Of root e)
    (hd : unarchiveEnvelope root = .ok d) (name : String) :
    Option.Rel (ResolvesTo e.objects) (lastOf name e.pairs) (d.lookup name) := by
  unfold unarchiveEnvelope at hd
  rw [archiveParts_of_envelope h, ok_bind] at hd
  obtain ⟨r, hr, hd⟩ := bind_eq_ok.mp hd
  cases r with
  | dictionary d' =>
    cases hd
    obtain ⟨m, hm⟩ := unarchiveWithin_of_hop h.payload hr
    have hvals : nsObjects e.payload = some e.values := by
      unfold nsObjects
      rw [h.values]
      rfl
    have hkeys : nsKeys e.payload = some e.keys := by
      unfold nsKeys
      rw [h.keys]
      rfl
    cases m with
    | zero => cases hm
    | succ m =>
      cases unarchiveWithin_succ_eq_ok_iff.mp hm with
      | dict hv hk _ hout =>
        obtain rfl := Option.some.inj (hvals.symm.trans hv)
        obtain rfl := Option.some.inj (hkeys.symm.trans hk)
        rw [lookup_insertAll, List.lookup_nil, Option.or_none]
        exact lastOf_rel (entries_of_pairs h.names h.behind hout) name
      | passed hp => rw [show nsObjects e.payload = none from hp] at hvals; cases hvals
  | _ => cases hd

/-- What both decoders accept they read alike: the unarchived root maps `info` and `data` to
    the bytes of the reply, and `unknown`, when the archived object has no `NS.keys` array, to
    an array of the length of the reply. A name that occurs more than once has its last value
    in both. -/
theorem decoders_agree {fromBytes : Bytes → Except String Value} {bytes : Bytes}
    {reply : RawReply} {d : Dictionary} (hparse : RawReply.parse fromBytes bytes = .ok reply)
    (hroot : unarchiveRoot fromBytes bytes = .ok d) :
    d.lookup "info" = some (.data reply.info) ∧ d.lookup "data" = some (.data reply.data) ∧
    ∃ e unknown, fromBytes bytes = .ok (.dictionary e.dict) ∧
      Envelope.Of (.dictionary e.dict) e ∧
      lastOf "unknown" e.pairs = some (.dictionary unknown) ∧
      (nsKeys unknown = none →
        ∃ elems, d.lookup "unknown" = some (.array elems) ∧ elems.length = reply.unknownLen) := by
  obtain ⟨root, hbytes, hvalue⟩ := parse_eq_ok_iff.mp hparse
  rw [unarchiveRoot_of_decoded hbytes] at hroot
  obtain ⟨e, he⟩ := envelope_of_parseValue hvalue
  obtain ⟨-, hlast⟩ := (parseValue_eq_ok_iff he).mp hvalue
  have hdata : ∀ {name : String} {b : Bytes}, lastOf name e.pairs = some (.data b) →
      d.lookup name = some (.data b) := fun {name b} hn => by
    have hrel := unarchive_pairs he hroot name
    rw [hn] at hrel
    generalize d.lookup name = o at hrel
    cases hrel with
    | some hR =>
      obtain ⟨m, hm⟩ := hR
      rw [unarchiveWithin_data hm]
  obtain ⟨v, elems, hv, harray, hlen⟩ := hlast.unknown
  obtain ⟨unknown, rfl⟩ : ∃ o, v = .dictionary o := by
    cases v with
    | dictionary o => exact ⟨o, rfl⟩
    | _ => cases harray
  refine ⟨hdata hlast.info, hdata hlast.data, e, unknown, ?_, ?_, hv, fun hkeys => ?_⟩
  · rw [hbytes, he.dict]
  · rw [← he.dict]
    exact he
  · have hrel := unarchive_pairs he hroot "unknown"
    rw [hv] at hrel
    generalize d.lookup "unknown" = o at hrel
    cases hrel with
    | some hR =>
      obtain ⟨m, hm⟩ := hR
      obtain ⟨out, rfl, hout⟩ := unarchiveWithin_array harray hkeys hm
      exact ⟨out, rfl, hout.trans hlen.symm⟩

/-- Both decoders take the second. -/
theorem decoders_agree_twoInfos :
    let file := twoInfosBytes 1 2
    let fromBytes := decodesTo file (.dictionary (twoInfos [1] [2]).dict)
    ∃ d : Dictionary, RawReply.parse fromBytes file = .ok ⟨0, [2], []⟩ ∧
      unarchiveRoot fromBytes file = .ok d ∧
      d.lookup "info" = some (.data [2]) ∧ d.lookup "data" = some (.data []) := by
  intro file fromBytes
  have hbytes : fromBytes file = .ok (.dictionary (twoInfos [1] [2]).dict) := if_pos rfl
  have hparse : RawReply.parse fromBytes file = .ok ⟨0, [2], []⟩ :=
    parse_eq_ok_iff.mpr ⟨_, hbytes, rfl⟩
  have hroot : unarchiveRoot fromBytes file =
      .ok [("unknown", .array []), ("info", .data [2]), ("data", .data [])] := by
    rw [unarchiveRoot_of_decoded hbytes]
    rfl
  have h := decoders_agree hparse hroot
  exact ⟨_, hparse, hroot, h.1, h.2.1⟩

end GputoolsReplay
