/-
  `Reply::decode` and `Reply::payload` (`reply.rs`): the info table of a fetch reply as
  typed records, each with its payload inside the reply's `data`.

  * `Reply.decode_eq`: on a lawful record class the decoder never panics. It rejects a
    table that is not a whole number of records, then the first record whose payload
    leaves `data`, and else returns the records of the chunks in order.
  * `decode_accepts_iff`: for the six classes, the exact condition under which a reply is
    accepted, and what an accepted reply holds.
-/
import GputoolsReplay.Substrate.Error
import GputoolsReplay.Substrate.Record

namespace GputoolsReplay

open RustSem

/-- `RawReply`: the envelope of a fetch reply before its table is interpreted. -/
structure RawReply where
  unknownLen : Nat
  info : Bytes
  data : Bytes
  deriving DecidableEq

/-- `Reply<T>`. -/
structure Reply (T : Type) where
  raw : RawReply
  records : List T

section Decode

variable {T : Type} [Record T]

/-- One turn of the range check in `Reply::decode`. -/
def checkRange (data : Bytes) (r : T) : Except FetchError Unit :=
  let (o, n) := Record.dataRange r
  match (checkedAdd o n).filter (· ≤ data.length) with
  | some _ => .ok ()
  | none => .error (.parse
      s!"record payload [{o}, {o}+{n}) exceeds the {data.length}-byte data blob")

/-- `Reply::decode`. -/
def Reply.decode (T : Type) [Record T] (raw : RawReply) : Rust (Except FetchError (Reply T)) := do
  if raw.info.length % Record.stride T ≠ 0 then
    return .error (.parse
      s!"info table {raw.info.length} not a multiple of stride {Record.stride T}")
  let records ← (chunksExact (Record.stride T) raw.info).mapM (Record.decode (T := T))
  return (forM records (checkRange raw.data)).map fun _ => { raw, records }

/-- `Reply::payload`: the payload bytes of one record, empty when its range leaves `data`. -/
def Reply.payload (reply : Reply T) (r : T) : Rust Bytes := do
  let (o, n) := Record.dataRange r
  return (getRange reply.raw.data o (← addUsize o n)).getD []

/-! ## What the decoder does on a lawful class -/

/-- The payload range written in a chunk ends inside `data`. -/
def RangeFits (data c : Bytes) : Prop :=
  (le32 c 0x18).toNat + (le32 c 0x1c).toNat ≤ data.length

instance (data c : Bytes) : Decidable (RangeFits data c) :=
  inferInstanceAs (Decidable (_ ≤ _))

variable [LawfulRecord T]

open LawfulRecord (ofChunk)

theorem checkRange_ofChunk (data c : Bytes) :
    checkRange data (ofChunk c : T) = .ok () ↔ RangeFits data c := by
  unfold checkRange RangeFits
  rw [LawfulRecord.dataRange_eq]
  dsimp only
  rw [checkedAdd_of_lt (toNat_add_toNat_lt _ _)]
  by_cases h : (le32 c 0x18).toNat + (le32 c 0x1c).toNat ≤ data.length <;> simp [Option.filter, h]

/-- The decoder reads every chunk of a whole table without a panic. -/
theorem Reply.decode_eq (raw : RawReply) :
    Reply.decode T raw = .ok (
      if raw.info.length % 80 ≠ 0 then
        .error (.parse s!"info table {raw.info.length} not a multiple of stride {Record.stride T}")
      else
        (forM ((chunksExact 80 raw.info).map (ofChunk (T := T))) (checkRange raw.data)).map
          fun _ => { raw, records := (chunksExact 80 raw.info).map ofChunk }) := by
  have hm : (chunksExact 80 raw.info).mapM (Record.decode (T := T)) =
      .ok ((chunksExact 80 raw.info).map ofChunk) :=
    mapM_ok fun c hc => LawfulRecord.decode_eq c (length_of_mem_chunksExact hc)
  unfold Reply.decode
  rw [LawfulRecord.stride_eq (T := T), hm]
  split <;> rfl

/-- The records of an accepted reply are those of its chunks. -/
theorem Reply.decode_eq_ok_iff (raw : RawReply) (reply : Reply T) :
    Reply.decode T raw = .ok (.ok reply) ↔
      (raw.info.length % 80 = 0 ∧ ∀ c ∈ chunksExact 80 raw.info, RangeFits raw.data c) ∧
        reply = { raw, records := (chunksExact 80 raw.info).map ofChunk } := by
  have hf : forM ((chunksExact 80 raw.info).map (ofChunk (T := T))) (checkRange raw.data) = .ok () ↔
      ∀ c ∈ chunksExact 80 raw.info, RangeFits raw.data c := by
    rw [forM_eq_ok_iff]
    simp only [List.forall_mem_map, checkRange_ofChunk]
  rw [Reply.decode_eq, Except.ok.injEq]
  by_cases hl : raw.info.length % 80 = 0
  · rw [if_neg (not_not.mpr hl), ← hf]
    cases forM ((chunksExact 80 raw.info).map (ofChunk (T := T))) (checkRange raw.data) with
    | error e => simp [Except.map]
    | ok u => simp [Except.map, hl, eq_comm]
  · rw [if_pos hl]
    simp [hl]

/-- Every error of the decoder is a `Parse` error. -/
theorem Reply.decode_error (raw : RawReply) (e : FetchError)
    (h : Reply.decode T raw = .ok (.error e)) : ∃ message, e = .parse message := by
  have hc : ∀ r : T, checkRange raw.data r = .error e → ∃ message, e = .parse message := by
    intro r hr
    unfold checkRange at hr
    dsimp only at hr
    split at hr
    · cases hr
    · cases hr
      exact ⟨_, rfl⟩
  rw [Reply.decode_eq, Except.ok.injEq] at h
  split at h
  · cases h; exact ⟨_, rfl⟩
  · cases hl : forM ((chunksExact 80 raw.info).map (ofChunk (T := T))) (checkRange raw.data) with
    | error e' =>
      rw [hl] at h
      cases h
      obtain ⟨r, -, hr⟩ := forM_eq_error hl
      exact hc r hr
    | ok u =>
      rw [hl] at h
      cases h

/-- A payload whose range lies inside `data` is exactly that range, never the empty
    fallback. -/
theorem Reply.payload_ofChunk (reply : Reply T) (c : Bytes) (h : RangeFits reply.raw.data c) :
    reply.payload (ofChunk c) =
      .ok (window reply.raw.data (le32 c 0x18).toNat (le32 c 0x1c).toNat) := by
  unfold Reply.payload
  rw [LawfulRecord.dataRange_eq]
  dsimp only
  rw [addUsize_of_lt (toNat_add_toNat_lt _ _), ok_bind, getRange_window h]
  rfl

end Decode

/-! ## The six classes -/

/-- `Reply::decode` accepts a reply of any class exactly when its table is a whole number of
    80-byte chunks whose payload ranges all end inside `data`. It never panics. The records
    of an accepted reply are those of the chunks in order, and the payload of each is the
    range its chunk names, at its full length. -/
theorem decode_accepts_iff (k : RecordClass) (raw : RawReply) :
    ∃ result, Reply.decode k.Rec raw = .ok result ∧
      ((∃ reply, result = .ok reply) ↔
        80 ∣ raw.info.length ∧ ∀ i, i < raw.info.length / 80 →
          (le32 (window raw.info (80 * i) 80) 0x18).toNat +
            (le32 (window raw.info (80 * i) 80) 0x1c).toNat ≤ raw.data.length) ∧
      ∀ reply, result = .ok reply →
        reply.raw = raw ∧ reply.records.length = raw.info.length / 80 ∧
        ∀ i (h : i < reply.records.length),
          let c := window raw.info (80 * i) 80
          let o := (le32 c 0x18).toNat
          let n := (le32 c 0x1c).toNat
          c.length = 80 ∧ Record.decode c = .ok reply.records[i] ∧
          Record.dataRange reply.records[i] = (o, n) ∧
          getRange raw.data o (o + n) = some (window raw.data o n) ∧
          reply.payload reply.records[i] = .ok (window raw.data o n) ∧
          (window raw.data o n).length = n := by
  have hchunks : (∀ c ∈ chunksExact 80 raw.info, RangeFits raw.data c) ↔
      ∀ i, i < raw.info.length / 80 → RangeFits raw.data (window raw.info (80 * i) 80) := by
    simp only [chunksExact, List.forall_mem_map, List.mem_range]
  refine ⟨_, Reply.decode_eq raw, ?_, ?_⟩
  · have hiff := fun reply => Reply.decode_eq_ok_iff (T := k.Rec) raw reply
    simp only [Reply.decode_eq, Except.ok.injEq] at hiff
    simp only [hiff, exists_and_left, exists_eq, and_true, hchunks,
      Nat.dvd_iff_mod_eq_zero]
    rfl
  · intro reply hreply
    obtain ⟨⟨hlen, hfit⟩, rfl⟩ := (Reply.decode_eq_ok_iff raw reply).mp
      ((Reply.decode_eq raw).trans (congrArg Except.ok hreply))
    refine ⟨rfl, by simp [chunksExact_length], ?_⟩
    intro i h
    have hi : i < (chunksExact 80 raw.info).length := by simpa using h
    have hc := chunksExact_getElem 80 raw.info i hi
    have hmem : window raw.info (80 * i) 80 ∈ chunksExact 80 raw.info := hc ▸ List.getElem_mem hi
    have hrec : ((chunksExact 80 raw.info).map (LawfulRecord.ofChunk (T := k.Rec)))[i] =
        LawfulRecord.ofChunk (window raw.info (80 * i) 80) := by
      rw [List.getElem_map, hc]
    have hl : (window raw.info (80 * i) 80).length = 80 := length_of_mem_chunksExact hmem
    dsimp only
    rw [hrec]
    exact ⟨hl, LawfulRecord.decode_eq _ hl, LawfulRecord.dataRange_eq _,
      getRange_window (hfit _ hmem), Reply.payload_ofChunk _ _ (hfit _ hmem),
      window_length (hfit _ hmem)⟩

end GputoolsReplay
