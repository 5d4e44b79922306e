/-
  The grammar of the envelope: what `RawReply::parse` accepts, and what it reads.

  An envelope is a `$objects` array and a payload dictionary, whose keys and values stand
  inline or behind one uid. Behind their hops they are the pairs of the envelope. The parser
  walks the pairs in order and keeps three of them.

  * `parseValue_of_envelope`: on an envelope the parser is a loop over its pairs.
  * `parse_accepts_iff`: the exact condition under which an envelope is accepted, what the
    accepted reply holds, and what it does not depend on.
-/
import GputoolsReplay.Substrate.Envelope

namespace GputoolsReplay

open RustSem

/-- `w` is `v` behind at most one uid. -/
def Hop (objects : List Value) (v w : Value) : Prop :=
  match v with
  | .uid u => objects[u.toNat]? = some w
  | other => w = other

/-- The parts of an envelope. -/
structure Envelope where
  dict : Dictionary
  objects : List Value
  top : Dictionary
  rootRef : Value
  payload : Dictionary
  keys : List Value
  values : List Value
  pairs : List (String × Value)

/-- `root` is the envelope `e`. -/
structure Envelope.Of (root : Value) (e : Envelope) : Prop where
  dict : root = .dictionary e.dict
  objects : e.dict.lookup "$objects" = some (.array e.objects)
  top : e.dict.lookup "$top" = some (.dictionary e.top)
  rootRef : e.top.lookup "root" = some e.rootRef
  payload : Hop e.objects e.rootRef (.dictionary e.payload)
  keys : e.payload.lookup "NS.keys" = some (.array e.keys)
  values : e.payload.lookup "NS.objects" = some (.array e.values)
  sameLength : e.keys.length = e.values.length
  names : List.Forall₂ (fun k p => Hop e.objects k (.string p.1)) e.keys e.pairs
  behind : List.Forall₂ (fun v p => Hop e.objects v p.2) e.values e.pairs

/-- The array of an archived `NSArray`. -/
def nsArray (v : Value) : Option (List Value) :=
  (v.asDictionary.bind fun d => d.lookup "NS.objects").bind Value.asArray

/-- A pair of one of the three names has a value of its kind. -/
structure PairOk (p : String × Value) : Prop where
  unknown : p.1 = "unknown" → ∃ elems, nsArray p.2 = some elems
  info : p.1 = "info" → ∃ bytes, p.2 = .data bytes
  data : p.1 = "data" → ∃ bytes, p.2 = .data bytes

/-- The pairs of one name, in order. -/
def named (name : String) (pairs : List (String × Value)) : List (String × Value) :=
  pairs.filter fun p => p.1 = name

/-- The last value of a name. -/
def lastOf (name : String) (pairs : List (String × Value)) : Option Value :=
  (named name pairs).getLast?.map Prod.snd

/-- A reply holds the length of the last `unknown`, the bytes of the last `info` and the
    bytes of the last `data`. -/
structure LastValues (pairs : List (String × Value)) (reply : RawReply) : Prop where
  unknown : ∃ v elems, lastOf "unknown" pairs = some v ∧ nsArray v = some elems ∧
    reply.unknownLen = elems.length
  info : lastOf "info" pairs = some (.data reply.info)
  data : lastOf "data" pairs = some (.data reply.data)

/-! ## One hop -/

theorem orShape_eq_ok_iff {α : Type} {message : String} {o : Option α} {a : α} :
    orShape message o = .ok a ↔ o = some a := by
  cases o <;> simp [orShape, shape]

theorem resolve_eq_ok_iff {objects : List Value} {v w : Value} :
    resolve objects v = .ok w ↔ Hop objects v w := by
  cases v with
  | uid u =>
    unfold resolve Hop
    dsimp only
    rw [usizeTryFrom_eq]
    dsimp only
    cases objects[u.toNat]? <;> simp [shape]
  | _ => simp [resolve, Hop, eq_comm]

/-! ## The loop over the pairs -/

/-- The turn of the loop behind its two hops. -/
def takePair (parts : EnvelopeParts) (p : String × Value) : Except FetchError EnvelopeParts :=
  match p.1 with
  | "unknown" => do
    let arr ← orShape "`unknown` is not an NSArray" (nsArray p.2)
    return { parts with unknownLen := some arr.length }
  | "info" => do
    let info ← orShape "`info` is not data" p.2.asData
    return { parts with info := some info }
  | "data" => do
    let data ← orShape "`data` is not data" p.2.asData
    return { parts with data := some data }
  | _ => return parts

theorem parseEntry_eq {objects : List Value} {k v : Value} {p : String × Value}
    (hk : Hop objects k (.string p.1)) (hv : Hop objects v p.2) (parts : EnvelopeParts) :
    parseEntry objects parts k v = takePair parts p := by
  unfold parseEntry takePair
  rw [resolve_eq_ok_iff.mpr hk, resolve_eq_ok_iff.mpr hv]
  rfl

/-- A turn that goes through had both hops. -/
theorem hops_of_parseEntry {objects : List Value} {k v : Value} {parts parts' : EnvelopeParts}
    (h : parseEntry objects parts k v = .ok parts') :
    ∃ p : String × Value, Hop objects k (.string p.1) ∧ Hop objects v p.2 := by
  unfold parseEntry at h
  obtain ⟨key, hk, h⟩ := bind_eq_ok.mp h
  obtain ⟨name, hname, h⟩ := bind_eq_ok.mp h
  obtain ⟨value, hv, -⟩ := bind_eq_ok.mp h
  rw [Value.asString_eq_some.mp (orShape_eq_ok_iff.mp hname), resolve_eq_ok_iff] at hk
  exact ⟨(name, value), hk, resolve_eq_ok_iff.mp hv⟩

/-- Over keys and values with hops the loop is a loop over the pairs behind them. -/
theorem parseLoop_eq {objects keys vals : List Value} {pairs : List (String × Value)}
    (hk : List.Forall₂ (fun k (p : String × Value) => Hop objects k (.string p.1)) keys pairs)
    (hv : List.Forall₂ (fun v (p : String × Value) => Hop objects v p.2) vals pairs)
    (parts : EnvelopeParts) :
    (keys.zip vals).foldlM (fun parts (k, v) => parseEntry objects parts k v) parts =
      pairs.foldlM takePair parts := by
  induction hk generalizing vals parts with
  | nil =>
    cases hv
    rfl
  | cons hkp _ ih =>
    cases hv with
    | cons hvp hv =>
      rw [List.zip_cons_cons, List.foldlM_cons, List.foldlM_cons]
      dsimp only
      rw [parseEntry_eq hkp hvp]
      exact congrArg _ (funext fun parts => ih hv parts)

/-- A loop that goes through had all its hops. -/
theorem hops_of_parseLoop {objects keys vals : List Value} (hl : keys.length = vals.length)
    {parts parts' : EnvelopeParts}
    (h : (keys.zip vals).foldlM (fun parts (k, v) => parseEntry objects parts k v) parts =
      .ok parts') :
    ∃ pairs : List (String × Value),
      List.Forall₂ (fun k p => Hop objects k (.string p.1)) keys pairs ∧
      List.Forall₂ (fun v p => Hop objects v p.2) vals pairs := by
  induction keys generalizing vals parts with
  | nil =>
    rw [List.length_nil, eq_comm, List.length_eq_zero_iff] at hl
    subst hl
    exact ⟨[], .nil, .nil⟩
  | cons k keys ih =>
    cases vals with
    | nil => simp at hl
    | cons v vals =>
      rw [List.zip_cons_cons, List.foldlM_cons] at h
      obtain ⟨parts₁, h₁, h⟩ := bind_eq_ok.mp h
      obtain ⟨p, hk, hv⟩ := hops_of_parseEntry h₁
      obtain ⟨pairs, hks, hvs⟩ := ih (by simpa using hl) h
      exact ⟨p :: pairs, .cons hk hks, .cons hv hvs⟩

/-! ## What the loop keeps -/

theorem named_cons (name : String) (p : String × Value) (pairs : List (String × Value)) :
    named name (p :: pairs) = if p.1 = name then p :: named name pairs else named name pairs := by
  simp [named, List.filter_cons]

theorem lastOf_cons (name : String) (p : String × Value) (pairs : List (String × Value)) :
    lastOf name (p :: pairs) =
      (lastOf name pairs).or (if p.1 = name then some p.2 else none) := by
  unfold lastOf
  rw [named_cons]
  by_cases h : p.1 = name
  · rw [if_pos h, if_pos h, List.getLast?_cons]
    cases (named name pairs).getLast? <;> rfl
  · rw [if_neg h, if_neg h, Option.or_none]

theorem mem_named {name : String} {p : String × Value} {pairs : List (String × Value)} :
    p ∈ named name pairs ↔ p ∈ pairs ∧ p.1 = name := by
  simp [named]

theorem lastOf_isSome_iff {name : String} {pairs : List (String × Value)} :
    (lastOf name pairs).isSome ↔ ∃ v, (name, v) ∈ pairs := by
  unfold lastOf
  rw [Option.isSome_map, List.getLast?_isSome]
  constructor
  · intro h
    obtain ⟨⟨_, v⟩, hp⟩ := List.exists_mem_of_ne_nil _ h
    obtain ⟨hmem, rfl⟩ := mem_named.mp hp
    exact ⟨v, hmem⟩
  · intro h' hnil
    obtain ⟨v, hv⟩ := h'
    have := mem_named.mpr ⟨hv, rfl⟩
    rw [hnil] at this
    simp at this

theorem mem_of_lastOf {name : String} {v : Value} {pairs : List (String × Value)}
    (h : lastOf name pairs = some v) : (name, v) ∈ pairs := by
  obtain ⟨⟨_, _⟩, hp, rfl⟩ := Option.map_eq_some_iff.mp h
  obtain ⟨hmem, rfl⟩ := mem_named.mp (List.mem_of_getLast? hp)
  exact hmem

/-- The three locals after the loop, started from `parts`. -/
def keptParts (parts : EnvelopeParts) (pairs : List (String × Value)) : EnvelopeParts where
  unknownLen := (((lastOf "unknown" pairs).bind nsArray).map List.length).or parts.unknownLen
  info := ((lastOf "info" pairs).bind Value.asData).or parts.info
  data := ((lastOf "data" pairs).bind Value.asData).or parts.data

theorem pairOk_iff {name : String} {v : Value} :
    PairOk (name, v) ↔ (name = "unknown" → ∃ elems, nsArray v = some elems) ∧
      (name = "info" → ∃ bytes, v = .data bytes) ∧ (name = "data" → ∃ bytes, v = .data bytes) :=
  ⟨fun h => ⟨h.unknown, h.info, h.data⟩, fun h => ⟨h.1, h.2.1, h.2.2⟩⟩

/-- A turn that takes the bytes of a value. -/
theorem takeData_eq_ok_iff {message : String} {v : Value} {next : Bytes → EnvelopeParts}
    {parts' : EnvelopeParts} :
    (do return next (← orShape message v.asData) : Except FetchError EnvelopeParts) = .ok parts' ↔
      ∃ bytes, v = .data bytes ∧ next bytes = parts' := by
  rw [bind_eq_ok]
  simp only [orShape_eq_ok_iff, Value.asData_eq_some, pure_eq_ok, Except.ok.injEq]

/-- One turn, whatever the name. -/
theorem takePair_eq_ok_iff {parts parts' : EnvelopeParts} {p : String × Value} :
    takePair parts p = .ok parts' ↔ PairOk p ∧ parts' = keptParts parts [p] := by
  obtain ⟨name, v⟩ := p
  have hlast : ∀ n, lastOf n [(name, v)] = if name = n then some v else none := by
    intro n
    rw [lastOf_cons]
    rfl
  rw [pairOk_iff]
  unfold takePair keptParts
  simp only [hlast]
  split
  · rw [bind_eq_ok]
    simp only [orShape_eq_ok_iff, pure_eq_ok, Except.ok.injEq]
    constructor
    · intro h'
      obtain ⟨elems, he, rfl⟩ := h'
      simp [he]
    · intro h
      obtain ⟨⟨h, -, -⟩, rfl⟩ := h
      obtain ⟨elems, he⟩ := h trivial
      exact ⟨elems, he, by simp [he]⟩
  · rw [takeData_eq_ok_iff]
    constructor
    · intro h'
      obtain ⟨bytes, rfl, rfl⟩ := h'
      simp [Value.asData]
    · intro h
      obtain ⟨⟨-, h, -⟩, rfl⟩ := h
      obtain ⟨bytes, rfl⟩ := h rfl
      exact ⟨bytes, rfl, by simp [Value.asData]⟩
  · rw [takeData_eq_ok_iff]
    constructor
    · intro h'
      obtain ⟨bytes, rfl, rfl⟩ := h'
      simp [Value.asData]
    · intro h
      obtain ⟨⟨-, -, h⟩, rfl⟩ := h
      obtain ⟨bytes, rfl⟩ := h rfl
      exact ⟨bytes, rfl, by simp [Value.asData]⟩
  · rename_i hu hi hd
    rw [if_neg hu, if_neg hi, if_neg hd]
    constructor
    · rintro ⟨⟩
      exact ⟨⟨fun h => absurd h hu, fun h => absurd h hi, fun h => absurd h hd⟩, rfl⟩
    · intro h'
      obtain ⟨-, rfl⟩ := h'
      rfl

theorem nsArray_of_lastOf {pairs : List (String × Value)} (h : ∀ p ∈ pairs, PairOk p) {v : Value}
    (hv : lastOf "unknown" pairs = some v) : ∃ elems, nsArray v = some elems :=
  (h _ (mem_of_lastOf hv)).unknown rfl

theorem data_of_lastOf {pairs : List (String × Value)} (h : ∀ p ∈ pairs, PairOk p) {v : Value}
    {name : String} (hname : name = "info" ∨ name = "data") (hv : lastOf name pairs = some v) :
    ∃ bytes, v = .data bytes := by
  have hp := h _ (mem_of_lastOf hv)
  rcases hname with rfl | rfl
  · exact hp.info rfl
  · exact hp.data rfl

/-- The locals after a pair and the rest are those after the rest, started behind the pair. -/
theorem keptParts_cons (parts : EnvelopeParts) (p : String × Value) {pairs : List (String × Value)}
    (h : ∀ q ∈ pairs, PairOk q) :
    keptParts parts (p :: pairs) = keptParts (keptParts parts [p]) pairs := by
  have hlast : ∀ n, lastOf n (p :: pairs) = (lastOf n pairs).or (lastOf n [p]) := by
    intro n
    rw [lastOf_cons, lastOf_cons n p []]
    rfl
  unfold keptParts
  simp only [hlast, EnvelopeParts.mk.injEq]
  refine ⟨?_, ?_, ?_⟩
  · cases hv : lastOf "unknown" pairs with
    | none => rfl
    | some v =>
      obtain ⟨elems, he⟩ := nsArray_of_lastOf h hv
      simp [he]
  · cases hv : lastOf "info" pairs with
    | none => rfl
    | some v =>
      obtain ⟨bytes, rfl⟩ := data_of_lastOf h (.inl rfl) hv
      rfl
  · cases hv : lastOf "data" pairs with
    | none => rfl
    | some v =>
      obtain ⟨bytes, rfl⟩ := data_of_lastOf h (.inr rfl) hv
      rfl

/-- The loop goes through exactly when every pair is of its kind, and keeps the last ones. -/
theorem takePairs_eq_ok_iff (pairs : List (String × Value)) (parts parts' : EnvelopeParts) :
    pairs.foldlM takePair parts = .ok parts' ↔
      (∀ p ∈ pairs, PairOk p) ∧ parts' = keptParts parts pairs := by
  induction pairs generalizing parts with
  | nil => simp [pure_eq_ok, keptParts, lastOf, named, eq_comm]
  | cons p pairs ih =>
    rw [List.foldlM_cons, bind_eq_ok, List.forall_mem_cons]
    constructor
    · intro h
      obtain ⟨parts₁, h₁, h⟩ := h
      obtain ⟨hp, rfl⟩ := takePair_eq_ok_iff.mp h₁
      obtain ⟨hps, rfl⟩ := (ih _).mp h
      exact ⟨⟨hp, hps⟩, (keptParts_cons parts p hps).symm⟩
    · intro h'
      obtain ⟨⟨hp, hps⟩, rfl⟩ := h'
      exact ⟨_, takePair_eq_ok_iff.mpr ⟨hp, rfl⟩, (ih _).mpr ⟨hps, keptParts_cons parts p hps⟩⟩

/-! ## The parser on an envelope -/

/-- On an envelope the parser is a loop over the pairs, and three lookups. -/
theorem parseValue_of_envelope {root : Value} {e : Envelope} (h : Envelope.Of root e) :
    RawReply.parseValue root = do
      let parts ← e.pairs.foldlM takePair { unknownLen := none, info := none, data := none }
      return {
        unknownLen := ← orShape "missing key `unknown`" parts.unknownLen
        info := ← orShape "missing key `info`" parts.info
        data := ← orShape "missing key `data`" parts.data } := by
  have hpayload := resolve_eq_ok_iff.mpr h.payload
  unfold RawReply.parseValue
  simp only [h.dict, h.objects, h.top, h.rootRef, hpayload, h.keys, h.values, Value.asDictionary,
    Value.asArray, Option.bind_some, orShape, ok_bind, h.sameLength, ne_eq, not_true_eq_false,
    if_false, parseLoop_eq h.names h.behind]

/-- What the parser accepts is an envelope. -/
theorem envelope_of_parseValue {root : Value} {reply : RawReply}
    (h : RawReply.parseValue root = .ok reply) : ∃ e, Envelope.Of root e := by
  unfold RawReply.parseValue at h
  obtain ⟨dict, hdict, h⟩ := bind_eq_ok.mp h
  obtain ⟨objects, hobjects, h⟩ := bind_eq_ok.mp h
  obtain ⟨top, htop, h⟩ := bind_eq_ok.mp h
  obtain ⟨rootRef, hroot, h⟩ := bind_eq_ok.mp h
  obtain ⟨target, htarget, h⟩ := bind_eq_ok.mp h
  obtain ⟨payload, hpayload, h⟩ := bind_eq_ok.mp h
  obtain ⟨keys, hkeys, h⟩ := bind_eq_ok.mp h
  obtain ⟨vals, hvals, h⟩ := bind_eq_ok.mp h
  rw [orShape_eq_ok_iff] at hdict hobjects htop hroot hpayload hkeys hvals
  simp only [Option.bind_eq_some_iff, Value.asArray_eq_some, Value.asDictionary_eq_some,
    exists_eq_right] at hdict hobjects htop hpayload hkeys hvals
  rw [resolve_eq_ok_iff, hpayload] at htarget
  split at h
  · cases h
  · rename_i hlength
    obtain ⟨parts, hloop, -⟩ := bind_eq_ok.mp h
    have hlength := not_not.mp hlength
    obtain ⟨pairs, hnames, hbehind⟩ := hops_of_parseLoop hlength hloop
    exact ⟨⟨dict, objects, top, rootRef, payload, keys, vals, pairs⟩, hdict, hobjects, htop, hroot,
      htarget, hkeys, hvals, hlength, hnames, hbehind⟩

/-- The locals after the whole loop make a reply exactly when the three names are there. -/
theorem lastValues_iff {pairs : List (String × Value)} {reply : RawReply} :
    LastValues pairs reply ↔
      keptParts { unknownLen := none, info := none, data := none } pairs =
        { unknownLen := some reply.unknownLen, info := some reply.info,
          data := some reply.data } := by
  unfold keptParts
  simp only [Option.or_none, EnvelopeParts.mk.injEq, Option.map_eq_some_iff,
    Option.bind_eq_some_iff, Value.asData_eq_some]
  constructor
  · intro h
    obtain ⟨⟨v, elems, hv, he, hlen⟩, hi, hd⟩ := h
    exact ⟨⟨elems, ⟨v, hv, he⟩, hlen.symm⟩, ⟨_, hi, rfl⟩, ⟨_, hd, rfl⟩⟩
  · intro h
    obtain ⟨⟨elems, ⟨v, hv, he⟩, hlen⟩, ⟨_, hi, rfl⟩, ⟨_, hd, rfl⟩⟩ := h
    exact ⟨⟨v, elems, hv, he, hlen.symm⟩, hi, hd⟩

/-- The parser on an envelope: every pair of its kind, and the last values. -/
theorem parseValue_eq_ok_iff {root : Value} {e : Envelope} (h : Envelope.Of root e)
    {reply : RawReply} :
    RawReply.parseValue root = .ok reply ↔
      (∀ p ∈ e.pairs, PairOk p) ∧ LastValues e.pairs reply := by
  rw [parseValue_of_envelope h, bind_eq_ok]
  constructor
  · intro h'
    obtain ⟨parts, hloop, hreply⟩ := h'
    obtain ⟨hok, rfl⟩ := (takePairs_eq_ok_iff _ _ _).mp hloop
    obtain ⟨unknownLen, hu, hreply⟩ := bind_eq_ok.mp hreply
    obtain ⟨info, hi, hreply⟩ := bind_eq_ok.mp hreply
    obtain ⟨data, hd, hreply⟩ := bind_eq_ok.mp hreply
    rw [orShape_eq_ok_iff] at hu hi hd
    obtain rfl := Except.ok.inj hreply
    refine ⟨hok, lastValues_iff.mpr ?_⟩
    rw [← hu, ← hi, ← hd]
  · intro h'
    obtain ⟨hok, hlast⟩ := h'
    refine ⟨_, (takePairs_eq_ok_iff _ _ _).mpr ⟨hok, rfl⟩, ?_⟩
    rw [lastValues_iff.mp hlast]
    rfl

/-- On an envelope with pairs of their kinds, a reply exists exactly when the names occur. -/
theorem exists_lastValues_iff {pairs : List (String × Value)} (h : ∀ p ∈ pairs, PairOk p) :
    (∃ reply, LastValues pairs reply) ↔
      ∀ name ∈ ["unknown", "info", "data"], ∃ v, (name, v) ∈ pairs := by
  simp only [List.forall_mem_cons, List.not_mem_nil, false_imp_iff, implies_true, and_true,
    ← lastOf_isSome_iff]
  constructor
  · intro h'
    obtain ⟨reply, ⟨v, elems, hu, -, -⟩, hi, hd⟩ := h'
    rw [hu, hi, hd]
    exact ⟨rfl, rfl, rfl⟩
  · intro h'
    obtain ⟨hu, hi, hd⟩ := h'
    obtain ⟨u, hu⟩ := Option.isSome_iff_exists.mp hu
    obtain ⟨i, hi⟩ := Option.isSome_iff_exists.mp hi
    obtain ⟨d, hd⟩ := Option.isSome_iff_exists.mp hd
    obtain ⟨elems, he⟩ := nsArray_of_lastOf h hu
    obtain ⟨info, rfl⟩ := data_of_lastOf h (.inl rfl) hi
    obtain ⟨data, rfl⟩ := data_of_lastOf h (.inr rfl) hd
    exact ⟨⟨elems.length, info, data⟩, ⟨u, elems, hu, he, rfl⟩, hi, hd⟩

theorem parse_eq_ok_iff {fromBytes : Bytes → Except String Value} {bytes : Bytes}
    {reply : RawReply} :
    RawReply.parse fromBytes bytes = .ok reply ↔
      ∃ root, fromBytes bytes = .ok root ∧ RawReply.parseValue root = .ok reply := by
  unfold RawReply.parse
  cases fromBytes bytes <;> simp [shape]

/-- The kinds of the pairs depend on the pairs of the three names only. -/
theorem pairsOk_of_named {pairs pairs' : List (String × Value)}
    (hn : ∀ name ∈ ["unknown", "info", "data"], named name pairs = named name pairs')
    (hok : ∀ p ∈ pairs, PairOk p) : ∀ p ∈ pairs', PairOk p := by
  intro h' hp
  obtain ⟨name, v⟩ := h'
  have hmem : name ∈ ["unknown", "info", "data"] → (name, v) ∈ pairs := by
    intro h
    have hv : (name, v) ∈ named name pairs := by
      rw [hn name h]
      exact mem_named.mpr ⟨hp, rfl⟩
    exact (mem_named.mp hv).1
  refine ⟨?_, ?_, ?_⟩
  · rintro rfl
    exact (hok _ (hmem (by simp))).unknown rfl
  · rintro rfl
    exact (hok _ (hmem (by simp))).info rfl
  · rintro rfl
    exact (hok _ (hmem (by simp))).data rfl

/-- Two envelopes with the same pairs of each of the three names are read alike. -/
theorem parseValue_congr {root root' : Value} {e e' : Envelope} (h : Envelope.Of root e)
    (h' : Envelope.Of root' e')
    (hn : ∀ name ∈ ["unknown", "info", "data"], named name e.pairs = named name e'.pairs)
    (reply : RawReply) :
    RawReply.parseValue root = .ok reply ↔ RawReply.parseValue root' = .ok reply := by
  have hok : (∀ p ∈ e.pairs, PairOk p) ↔ ∀ p ∈ e'.pairs, PairOk p :=
    ⟨pairsOk_of_named hn, pairsOk_of_named fun name hname => (hn name hname).symm⟩
  have hlast : LastValues e.pairs reply ↔ LastValues e'.pairs reply := by
    rw [lastValues_iff, lastValues_iff]
    unfold keptParts lastOf
    rw [hn "unknown" (by simp), hn "info" (by simp), hn "data" (by simp)]
  rw [parseValue_eq_ok_iff h, parseValue_eq_ok_iff h', hok, hlast]

/-- What the envelope parser accepts: an envelope whose pairs of the three names are of their
    kinds and that has each name at least once. The reply is the length of the last `unknown`,
    the bytes of the last `info` and the bytes of the last `data`. Two envelopes with the same
    pairs of each of the three names give the same reply: the order of the pairs matters only
    between pairs of one name, and the slots of `$objects`, the placement inline or behind a
    uid and the additional keys do not matter. -/
theorem parse_accepts_iff (fromBytes : Bytes → Except String Value) (bytes : Bytes) :
    ((∃ reply, RawReply.parse fromBytes bytes = .ok reply) ↔
      ∃ root e, fromBytes bytes = .ok root ∧ Envelope.Of root e ∧
        (∀ p ∈ e.pairs, PairOk p) ∧
        ∀ name ∈ ["unknown", "info", "data"], ∃ v, (name, v) ∈ e.pairs) ∧
    (∀ root e reply, fromBytes bytes = .ok root → Envelope.Of root e →
      RawReply.parse fromBytes bytes = .ok reply → LastValues e.pairs reply) ∧
    ∀ bytes' root root' e e', fromBytes bytes = .ok root → fromBytes bytes' = .ok root' →
      Envelope.Of root e → Envelope.Of root' e' →
      (∀ name ∈ ["unknown", "info", "data"], named name e.pairs = named name e'.pairs) →
      ∀ reply, RawReply.parse fromBytes bytes = .ok reply ↔
        RawReply.parse fromBytes bytes' = .ok reply := by
  refine ⟨?_, ?_, ?_⟩
  · constructor
    · intro h
      obtain ⟨reply, h⟩ := h
      obtain ⟨root, hroot, h⟩ := parse_eq_ok_iff.mp h
      obtain ⟨e, he⟩ := envelope_of_parseValue h
      obtain ⟨hok, hlast⟩ := (parseValue_eq_ok_iff he).mp h
      exact ⟨root, e, hroot, he, hok, (exists_lastValues_iff hok).mp ⟨reply, hlast⟩⟩
    · intro h'
      obtain ⟨root, e, hroot, he, hok, hnames⟩ := h'
      obtain ⟨reply, hlast⟩ := (exists_lastValues_iff hok).mpr hnames
      exact ⟨reply, parse_eq_ok_iff.mpr ⟨root, hroot, (parseValue_eq_ok_iff he).mpr ⟨hok, hlast⟩⟩⟩
  · intro root e reply hroot he h
    obtain ⟨root', hroot', h⟩ := parse_eq_ok_iff.mp h
    obtain rfl := Except.ok.inj (hroot.symm.trans hroot')
    exact ((parseValue_eq_ok_iff he).mp h).2
  · intro bytes' root root' e e' hroot hroot' he he' hn reply
    rw [parse_eq_ok_iff, parse_eq_ok_iff]
    simp only [hroot, hroot', Except.ok.injEq, exists_eq_left']
    exact parseValue_congr he he' hn reply

/-- An envelope with every key and value inline. -/
def inlineEnvelope (pairs : List (String × Value)) : Envelope :=
  let keys := pairs.map fun p => .string p.1
  let values := pairs.map Prod.snd
  let payload := [("NS.keys", .array keys), ("NS.objects", .array values)]
  let top := [("root", .dictionary payload)]
  { dict := [("$objects", .array []), ("$top", .dictionary top)]
    objects := []
    top := top
    rootRef := .dictionary payload
    payload := payload
    keys := keys
    values := values
    pairs := pairs }

def twoInfos (first second : Bytes) : Envelope :=
  inlineEnvelope [("unknown", .dictionary [("NS.objects", .array [])]), ("info", .data first),
    ("info", .data second), ("data", .data [])]

/-- The binary plist of an envelope with two `info` pairs of one byte each. -/
def twoInfosBytes (first second : UInt8) : Bytes :=
  [0x62, 0x70, 0x6c, 0x69, 0x73, 0x74, 0x30, 0x30, 0xd2, 0x01, 0x02, 0x03, 0x04, 0x58, 0x24, 0x6f,
    0x62, 0x6a, 0x65, 0x63, 0x74, 0x73, 0x54, 0x24, 0x74, 0x6f, 0x70, 0xa0, 0xd1, 0x05, 0x06, 0x54,
    0x72, 0x6f, 0x6f, 0x74, 0xd2, 0x07, 0x08, 0x09, 0x0d, 0x57, 0x4e, 0x53, 0x2e, 0x6b, 0x65, 0x79,
    0x73, 0x5a, 0x4e, 0x53, 0x2e, 0x6f, 0x62, 0x6a, 0x65, 0x63, 0x74, 0x73, 0xa4, 0x0a, 0x0b, 0x0b,
    0x0c, 0x57, 0x75, 0x6e, 0x6b, 0x6e, 0x6f, 0x77, 0x6e, 0x54, 0x69, 0x6e, 0x66, 0x6f, 0x54, 0x64,
    0x61, 0x74, 0x61, 0xa4, 0x0e, 0x10, 0x11, 0x12, 0xd1, 0x08, 0x0f, 0xa0, 0x41, first, 0x41, second,
    0x40, 0x08, 0x0d, 0x16, 0x1b, 0x1c, 0x1f, 0x24, 0x29, 0x31, 0x3c, 0x41, 0x49, 0x4e, 0x53, 0x58,
    0x5b, 0x5c, 0x5e, 0x60, 0x00, 0x00, 0x00, 0x00, 0x00, 0x00, 0x01, 0x01, 0x00, 0x00, 0x00, 0x00,
    0x00, 0x00, 0x00, 0x13, 0x00, 0x00, 0x00, 0x00, 0x00, 0x00, 0x00, 0x00, 0x00, 0x00, 0x00, 0x00,
    0x00, 0x00, 0x00, 0x61]

theorem inlineEnvelope_of (pairs : List (String × Value)) (h : ∀ p ∈ pairs, ∀ u, p.2 ≠ .uid u) :
    Envelope.Of (.dictionary (inlineEnvelope pairs).dict) (inlineEnvelope pairs) where
  dict := rfl
  objects := rfl
  top := rfl
  rootRef := rfl
  payload := rfl
  keys := rfl
  values := rfl
  sameLength := by simp [inlineEnvelope]
  names := by
    simp only [inlineEnvelope, List.forall₂_map_left_iff]
    exact List.forall₂_same.mpr fun p _ => rfl
  behind := by
    simp only [inlineEnvelope, List.forall₂_map_left_iff]
    refine List.forall₂_same.mpr fun p hp => ?_
    have hu := h p hp
    cases hv : p.2 with
    | uid u => exact absurd hv (hu u)
    | _ => rfl

/-- Two pairs of the same name that change places change the reply. -/
theorem order_of_infos_matters :
    let e := twoInfos [1] [2]
    let e' := twoInfos [2] [1]
    let file := twoInfosBytes 1 2
    let file' := twoInfosBytes 2 1
    e.pairs.Perm e'.pairs ∧ Envelope.Of (.dictionary e.dict) e ∧
      Envelope.Of (.dictionary e'.dict) e' ∧
      RawReply.parse (decodesTo file (.dictionary e.dict)) file =
        .ok { unknownLen := 0, info := [2], data := [] } ∧
      RawReply.parse (decodesTo file' (.dictionary e'.dict)) file' =
        .ok { unknownLen := 0, info := [1], data := [] } := by
  refine ⟨.cons _ (.swap _ _ _), inlineEnvelope_of _ ?_, inlineEnvelope_of _ ?_,
    parse_eq_ok_iff.mpr ⟨_, if_pos rfl, rfl⟩, parse_eq_ok_iff.mpr ⟨_, if_pos rfl, rfl⟩⟩
  · simp
  · simp

end GputoolsReplay
