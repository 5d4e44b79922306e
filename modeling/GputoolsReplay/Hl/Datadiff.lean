/-
  Two sweeps over the textures of a capture, one before and one after playback, and what the two
  probes that compare them report: `datadiff` compares the payloads (`probes/src/bin/datadiff.rs`),
  `playback` the streamRefs that answer (`probes/src/bin/playback.rs`).

  * `datadiff_eq`: the report of `datadiff`, from what the two sweeps keep.
  * `dominant_spec`, `diffs_eq_zero_iff`: what a line says of the payload after playback.
  * `sweeps_compared`: the two reports side by side.
-/
import GputoolsReplay.Lib.Ascending
import GputoolsReplay.Lib.Tally
import GputoolsReplay.Hl.Pixelcheck

namespace GputoolsReplay.Probe

open RustSem

namespace Datadiff

/-- `Payload`. -/
structure Payload where
  bytes : Bytes
  width : UInt32
  height : UInt16
  format : UInt32
  deriving DecidableEq

/-- What `sweep` keeps of a record; of one whose range leaves the data, no byte. -/
def payloadOf (data : Bytes) (r : InfoRecord) : Payload where
  bytes := (getRange data r.dataOffset.toNat (r.dataOffset.toNat + r.size.toNat)).getD []
  width := r.width
  height := r.height
  format := r.pixelFormat

/-- `sweep`, from what the session's fetch answers. -/
def sweep (fromBytes : Bytes → Except String Value) (answer : RawResult) :
    Except Failure (Std.TreeMap UInt32 Payload) := do
  let bytes ← answer.mapError .session
  let parsed ← (parseReply fromBytes bytes).mapError .reply
  let records ← (parseRecords parsed.info).mapError .reply
  return records.foldl (fun out r => out.insert r.streamRef (payloadOf parsed.data r)) ∅

/-- A line of the report. Of the share that the dominant value has, the two numbers. -/
inductive Line where
  | changed (streamRef : UInt32) (before : Payload) (diffs : Nat) (dominant : Bytes × Nat)
      (pixels : Nat)
  | dropped (streamRef : UInt32)
  deriving DecidableEq

/-- How many of the bytes that both payloads have differ. -/
def diffs (a b : Bytes) : Nat := (a.zip b).countP fun (x, y) => x ≠ y

/-- The most frequent value of the pixels of four bytes, and how often it comes. -/
def dominant (a : Bytes) : Bytes × Nat :=
  let hist := tally ∅ (chunksExact 4 a)
  (maxByKey Prod.snd hist.toList).getD ([0, 0, 0, 0], 0)

/-- The locals of `main` that its loop changes, and what it has printed. -/
structure Report where
  same : Nat
  changed : Nat
  lines : List Line
  deriving DecidableEq

/-- One turn of the loop of `main`. -/
def compareRef (after : Std.TreeMap UInt32 Payload) (report : Report) (streamRef : UInt32)
    (before : Payload) : Report :=
  match after[streamRef]? with
  | some a =>
    if a.bytes = before.bytes then { report with same := report.same + 1 }
    else { report with
      changed := report.changed + 1
      lines := report.lines ++ [.changed streamRef before (diffs a.bytes before.bytes)
        (dominant a.bytes) (a.bytes.length / 4)] }
  | none => { report with lines := report.lines ++ [.dropped streamRef] }

/-- `main` on an open session, from the answers before and after playback. -/
def datadiff (fromBytes : Bytes → Except String Value) (before after : RawResult) :
    Except Failure Report := do
  let before ← sweep fromBytes before
  let after ← sweep fromBytes after
  return before.foldl (compareRef after) { same := 0, changed := 0, lines := [] }

end Datadiff

namespace Playback

/-- `sweep`, from what the session's fetch answers. -/
def sweep (fromBytes : Bytes → Except String Value) (answer : RawResult) :
    Except Failure (Std.TreeSet UInt32) := do
  let bytes ← answer.mapError .session
  let reply ← (parseReply fromBytes bytes).mapError .reply
  let records ← (parseRecords reply.info).mapError .reply
  return Std.TreeSet.ofList (records.map InfoRecord.streamRef)

/-- What `run` prints of the two sweeps. -/
structure Report where
  newlyAnswering : List UInt32
  dropped : List UInt32
  deriving DecidableEq

/-- `run` on an open session, from the answers before and after playback. -/
def run (fromBytes : Bytes → Except String Value) (before after : RawResult) :
    Except Failure Report := do
  let before ← sweep fromBytes before
  let after ← sweep fromBytes after
  return {
    newlyAnswering := after.toList.filter fun r => !before.contains r
    dropped := before.toList.filter fun r => !after.contains r }

end Playback

/-! ## What a sweep keeps -/

/-- What a sweep keeps for a streamRef: of the records that answer for it, the last one. -/
def kept (data : Bytes) (records : List InfoRecord) (streamRef : UInt32) :
    Option Datadiff.Payload :=
  ((records.filter fun r => r.streamRef = streamRef).getLast?).map (Datadiff.payloadOf data)

theorem kept_isSome_iff {data : Bytes} {records : List InfoRecord} {streamRef : UInt32} :
    (kept data records streamRef).isSome ↔ streamRef ∈ records.map InfoRecord.streamRef := by
  rw [kept, Option.isSome_map, List.mem_map, Option.isSome_iff_ne_none, ne_eq,
    List.getLast?_eq_none_iff, List.filter_eq_nil_iff]
  simp

section Sweeps

variable {fromBytes : Bytes → Except String Value} {bytes : Bytes} {parsed : Reply}
  {records : List InfoRecord} (hparse : parseReply fromBytes bytes = .ok parsed)
  (hrecords : parseRecords parsed.info = .ok records)

include hparse hrecords

theorem datadiff_sweep_eq : ∃ t, Datadiff.sweep fromBytes (.ok bytes) = .ok t ∧
    ∀ ref, t[ref]? = kept parsed.data records ref := by
  refine ⟨insertAll InfoRecord.streamRef (Datadiff.payloadOf parsed.data) ∅ records, ?_, ?_⟩
  · unfold Datadiff.sweep
    simp only [Except.mapError, ok_bind, hparse, hrecords]
    rfl
  · intro ref
    rw [getElem?_insertAll, Std.TreeMap.getElem?_emptyc, Option.or_none]
    rfl

theorem playback_sweep_eq : ∃ t, Playback.sweep fromBytes (.ok bytes) = .ok t ∧
    ∀ ref, ref ∈ t ↔ (kept parsed.data records ref).isSome := by
  refine ⟨Std.TreeSet.ofList (records.map InfoRecord.streamRef), ?_, ?_⟩
  · unfold Playback.sweep
    simp only [Except.mapError, ok_bind, hparse, hrecords]
    rfl
  · intro ref
    rw [Std.TreeSet.mem_ofList, List.contains_iff_mem, kept_isSome_iff]

end Sweeps

/-! ## One line -/

namespace Datadiff

/-- No byte differs exactly when one payload begins with the other: the bytes that only the
    longer one has are not compared. -/
theorem diffs_eq_zero_iff (a b : Bytes) : diffs a b = 0 ↔ a <+: b ∨ b <+: a := by
  unfold diffs
  rw [List.countP_eq_zero]
  induction a generalizing b with
  | nil => simp
  | cons x a ih =>
    cases b with
    | nil => simp
    | cons y b =>
      have hrest := ih b
      simp only [List.zip_cons_cons, List.forall_mem_cons, hrest, List.cons_prefix_cons]
      simp only [ne_eq, decide_not, Bool.not_eq_true', decide_eq_false_iff_not, not_not]
      constructor
      · intro h
        obtain ⟨rfl, h⟩ := h
        simpa using h
      · rintro (⟨rfl, h⟩ | ⟨rfl, h⟩)
        · exact ⟨rfl, .inl h⟩
        · exact ⟨rfl, .inr h⟩

/-- The dominant value comes as often as is said, none comes more often, and of those that come
    as often it is the greatest. -/
theorem dominant_spec (a : Bytes) :
    (dominant a).2 = (chunksExact 4 a).count (dominant a).1 ∧
      ∀ px, (chunksExact 4 a).count px ≤ (dominant a).2 ∧
        (px ∈ chunksExact 4 a → (chunksExact 4 a).count px = (dominant a).2 →
          (compare px (dominant a).1).isLE) := by
  have horder := Std.TreeMap.ordered_keys_toList (t := tally ∅ (chunksExact 4 a))
  rcases maxByKey_spec Prod.snd (tally ∅ (chunksExact 4 a)).toList with
    ⟨hnil, hmax⟩ | ⟨before, b, after, hlist, hmax, hbefore, hafter⟩
  · have hdominant : dominant a = ([0, 0, 0, 0], 0) := by
      unfold dominant
      simp only [hmax, Option.getD_none]
    have hnone : ∀ px, px ∉ chunksExact 4 a := by
      intro px hpx
      have hmem := mem_toList_tally.mpr ⟨hpx, rfl⟩
      rw [hnil] at hmem
      cases hmem
    rw [hdominant]
    exact ⟨(List.count_eq_zero_of_not_mem (hnone _)).symm, fun px =>
      ⟨(List.count_eq_zero_of_not_mem (hnone px)).le, fun hpx => absurd hpx (hnone px)⟩⟩
  · have hdominant : dominant a = b := by
      unfold dominant
      simp only [hmax, Option.getD_some]
    have hb : b.1 ∈ chunksExact 4 a ∧ b.2 = (chunksExact 4 a).count b.1 := by
      apply mem_toList_tally.mp
      rw [hlist]
      simp
    rw [hdominant]
    refine ⟨hb.2, fun px => ?_⟩
    by_cases hpx : px ∈ chunksExact 4 a
    · have hmem := mem_toList_tally.mpr ⟨hpx, rfl⟩
      rw [hlist] at hmem horder
      rcases List.mem_append.mp hmem with hmem | hmem
      · refine ⟨hbefore _ hmem, fun _ _ => ?_⟩
        have hlt := (List.pairwise_append.mp horder).2.2 _ hmem b (List.mem_cons_self ..)
        rw [hlt]
        rfl
      rcases List.mem_cons.mp hmem with rfl | hmem
      · exact ⟨Nat.le_refl _, fun _ _ => by simp⟩
      · have hlt := hafter _ hmem
        exact ⟨Nat.le_of_lt hlt, fun _ heq => absurd heq (Nat.ne_of_lt hlt)⟩
    · rw [List.count_eq_zero_of_not_mem hpx]
      exact ⟨Nat.zero_le _, fun h => absurd h hpx⟩

/-! ## The report -/

/-- The line of a streamRef that answered before playback: none when the payload is the same. -/
def lineOf (after : Option Payload) (streamRef : UInt32) (before : Payload) : Option Line :=
  match after with
  | some a =>
    if a.bytes = before.bytes then none
    else some (.changed streamRef before (diffs a.bytes before.bytes) (dominant a.bytes)
      (a.bytes.length / 4))
  | none => some (.dropped streamRef)

/-- The streamRef of a line. -/
def Line.streamRef : Line → UInt32
  | .changed ref .. => ref
  | .dropped ref => ref

/-- A line about a changed payload. -/
def Line.isChanged : Line → Bool
  | .changed .. => true
  | .dropped _ => false

theorem streamRef_of_lineOf {after : Option Payload} {ref : UInt32} {p : Payload} {line : Line}
    (h : lineOf after ref p = some line) : line.streamRef = ref := by
  unfold lineOf at h
  cases after with
  | none =>
    obtain rfl := Option.some.inj h
    rfl
  | some a =>
    dsimp only at h
    split at h
    · cases h
    · obtain rfl := Option.some.inj h
      rfl

/-- The loop of `main` over the entries `l`. -/
theorem foldl_compareRef (after : Std.TreeMap UInt32 Payload) (l : List (UInt32 × Payload))
    (report : Report) :
    l.foldl (fun report e => compareRef after report e.1 e.2) report =
      let lines := l.filterMap fun e => lineOf after[e.1]? e.1 e.2
      { same := report.same + l.countP fun e => (lineOf after[e.1]? e.1 e.2).isNone
        changed := report.changed + lines.countP Line.isChanged
        lines := report.lines ++ lines } := by
  induction l generalizing report with
  | nil => simp
  | cons e l ih =>
    rw [List.foldl_cons, ih, List.countP_cons, List.filterMap_cons]
    unfold compareRef
    cases hafter : after[e.1]? with
    | none =>
      have hline : lineOf none e.1 e.2 = some (.dropped e.1) := rfl
      simp [hline, Line.isChanged]
    | some a =>
      by_cases hsame : a.bytes = e.2.bytes
      · have hline : lineOf (some a) e.1 e.2 = none := if_pos hsame
        simp [hline, hsame, Nat.add_assoc, Nat.add_comm]
      · have hline : lineOf (some a) e.1 e.2 = some (.changed e.1 e.2
            (diffs a.bytes e.2.bytes) (dominant a.bytes) (a.bytes.length / 4)) := if_neg hsame
        simp [hline, hsame, List.countP_cons, Line.isChanged, Nat.add_assoc, Nat.add_comm]

/-- The report, from what the two sweeps keep: the entries of the sweep before playback, in the
    order of their streamRefs. -/
theorem datadiff_eq {fromBytes : Bytes → Except String Value} {before after : RawResult}
    {t t' : Std.TreeMap UInt32 Payload} (hbefore : sweep fromBytes before = .ok t)
    (hafter : sweep fromBytes after = .ok t') :
    ∃ report, datadiff fromBytes before after = .ok report ∧
      report.lines = t.toList.filterMap (fun e => lineOf t'[e.1]? e.1 e.2) ∧
      report.changed = report.lines.countP Line.isChanged ∧
      report.same + report.lines.length = t.toList.length := by
  refine ⟨t.foldl (compareRef t') { same := 0, changed := 0, lines := [] }, ?_, ?_⟩
  · unfold datadiff
    rw [hbefore, hafter]
    rfl
  · rw [Std.TreeMap.foldl_eq_foldl_toList, foldl_compareRef]
    refine ⟨List.nil_append _, ?_, ?_⟩
    · simp
    · simp only [List.nil_append, Nat.zero_add, List.length_filterMap_eq_countP]
      rw [List.length_eq_countP_add_countP (fun e => (lineOf t'[e.1]? e.1 e.2).isNone)]
      congr 1
      apply List.countP_congr
      intro e _
      cases lineOf t'[e.1]? e.1 e.2 <;> simp

end Datadiff

/-! ## Side by side -/

/-- Lists without repetition and with the same members have the same length. -/
theorem length_eq_of_mem_iff {α : Type} {l l' : List α} (h : l.Nodup) (h' : l'.Nodup)
    (hm : ∀ x, x ∈ l ↔ x ∈ l') : l.length = l'.length :=
  ((List.perm_ext_iff_of_nodup h h').mpr hm).length_eq

/-- What the two reports say of the payloads that the sweeps keep. -/
structure Accounts (before after : UInt32 → Option Datadiff.Payload) (report : Datadiff.Report)
    (sets : Playback.Report) : Prop where
  /-- A payload is reported as changed when both sweeps have one, with other bytes. -/
  changed_iff : ∀ ref, (∃ line ∈ report.lines, line.isChanged = true ∧ line.streamRef = ref) ↔
    ∃ p q, before ref = some p ∧ after ref = some q ∧ q.bytes ≠ p.bytes
  /-- A line about a change: how much of the common part differs, and what the payload after
      playback consists of. -/
  changed_line : ∀ ref p n dom pixels, .changed ref p n dom pixels ∈ report.lines →
    before ref = some p ∧ ∃ q, after ref = some q ∧
      (n = 0 ↔ q.bytes <+: p.bytes ∨ p.bytes <+: q.bytes) ∧
      dom.2 = (chunksExact 4 q.bytes).count dom.1 ∧
      ∀ px, (chunksExact 4 q.bytes).count px ≤ dom.2 ∧
        (px ∈ chunksExact 4 q.bytes → (chunksExact 4 q.bytes).count px = dom.2 →
          (compare px dom.1).isLE)
  /-- The two probes report the same streamRefs as dropped. -/
  dropped_iff : ∀ ref, .dropped ref ∈ report.lines ↔ ref ∈ sets.dropped
  mem_dropped_iff : ∀ ref, ref ∈ sets.dropped ↔ (before ref).isSome ∧ after ref = none
  mem_newlyAnswering_iff : ∀ ref,
    ref ∈ sets.newlyAnswering ↔ before ref = none ∧ (after ref).isSome
  /-- No streamRef has two lines, and they are reported in order. -/
  ascending : (report.lines.map Datadiff.Line.streamRef).Pairwise (· < ·)

section Compared

variable {t t' : Std.TreeMap UInt32 Datadiff.Payload} {u u' : Std.TreeSet UInt32}
  {before after : UInt32 → Option Datadiff.Payload} {report : Datadiff.Report}
  {sets : Playback.Report}

/-- Whose line it is, and what it says. -/
theorem mem_lines_iff (ht : ∀ ref, t[ref]? = before ref) (ht' : ∀ ref, t'[ref]? = after ref)
    (hlines : report.lines = t.toList.filterMap fun e => Datadiff.lineOf t'[e.1]? e.1 e.2)
    {line : Datadiff.Line} :
    line ∈ report.lines ↔ ∃ p, before line.streamRef = some p ∧
      Datadiff.lineOf (after line.streamRef) line.streamRef p = some line := by
  rw [hlines, List.mem_filterMap]
  constructor
  · intro h
    obtain ⟨⟨ref, p⟩, hmem, hline⟩ := h
    obtain rfl := Datadiff.streamRef_of_lineOf hline
    rw [Std.TreeMap.mem_toList_iff_getElem?_eq_some, ht] at hmem
    exact ⟨p, hmem, ht' _ ▸ hline⟩
  · intro h
    obtain ⟨p, hp, hline⟩ := h
    refine ⟨(line.streamRef, p), ?_, by rw [ht']; exact hline⟩
    rw [Std.TreeMap.mem_toList_iff_getElem?_eq_some, ht, hp]

theorem ascending_lines
    (hlines : report.lines = t.toList.filterMap fun e => Datadiff.lineOf t'[e.1]? e.1 e.2) :
    (report.lines.map Datadiff.Line.streamRef).Pairwise (· < ·) := by
  rw [hlines, List.pairwise_map]
  apply List.Pairwise.filterMap _ _ Std.TreeMap.ordered_keys_toList
  intro e e' hlt line hline line' hline'
  rw [Datadiff.streamRef_of_lineOf hline, Datadiff.streamRef_of_lineOf hline']
  exact Std.compare_eq_lt.mp hlt

theorem changed_mem_lines_iff (ht : ∀ ref, t[ref]? = before ref) (ht' : ∀ ref, t'[ref]? = after ref)
    (hlines : report.lines = t.toList.filterMap fun e => Datadiff.lineOf t'[e.1]? e.1 e.2)
    {ref : UInt32} {p : Datadiff.Payload} {n : Nat} {dom : Bytes × Nat} {pixels : Nat} :
    .changed ref p n dom pixels ∈ report.lines ↔ before ref = some p ∧ ∃ q, after ref = some q ∧
      q.bytes ≠ p.bytes ∧ n = Datadiff.diffs q.bytes p.bytes ∧ dom = Datadiff.dominant q.bytes ∧
      pixels = q.bytes.length / 4 := by
  rw [mem_lines_iff ht ht' hlines]
  simp only [Datadiff.Line.streamRef]
  constructor
  · intro h
    obtain ⟨p', hp', hline⟩ := h
    cases hafter : after ref with
    | none =>
      rw [hafter] at hline
      cases hline
    | some q =>
      rw [hafter] at hline
      by_cases hsame : q.bytes = p'.bytes
      · rw [show Datadiff.lineOf (some q) ref p' = none from if_pos hsame] at hline
        cases hline
      · have hchanged := (if_neg hsame).symm.trans hline
        simp only [Option.some.injEq, Datadiff.Line.changed.injEq, true_and] at hchanged
        obtain ⟨rfl, hn, hdom, hpixels⟩ := hchanged
        exact ⟨hp', q, rfl, hsame, hn.symm, hdom.symm, hpixels.symm⟩
  · intro h
    obtain ⟨hp, q, hq, hdiffer, rfl, rfl, rfl⟩ := h
    refine ⟨p, hp, ?_⟩
    rw [hq]
    exact if_neg hdiffer

theorem dropped_mem_lines_iff (ht : ∀ ref, t[ref]? = before ref) (ht' : ∀ ref, t'[ref]? = after ref)
    (hlines : report.lines = t.toList.filterMap fun e => Datadiff.lineOf t'[e.1]? e.1 e.2)
    {ref : UInt32} :
    .dropped ref ∈ report.lines ↔ (before ref).isSome ∧ after ref = none := by
  rw [mem_lines_iff ht ht' hlines]
  simp only [Datadiff.Line.streamRef]
  constructor
  · intro h
    obtain ⟨p, hp, hline⟩ := h
    cases hafter : after ref with
    | none => exact ⟨by rw [hp]; rfl, rfl⟩
    | some q =>
      rw [hafter] at hline
      unfold Datadiff.lineOf at hline
      dsimp only at hline
      split at hline <;> cases hline
  · intro h
    obtain ⟨hsome, hnone⟩ := h
    obtain ⟨p, hp⟩ := Option.isSome_iff_exists.mp hsome
    exact ⟨p, hp, by rw [hnone]; rfl⟩

/-- The members of the difference of two sets of answering streamRefs. -/
theorem mem_difference_iff (hu : ∀ ref, ref ∈ u ↔ (before ref).isSome)
    (hu' : ∀ ref, ref ∈ u' ↔ (after ref).isSome) {ref : UInt32} :
    (ref ∈ u.toList.filter fun r => !u'.contains r) ↔
      (before ref).isSome ∧ after ref = none := by
  rw [List.mem_filter, Std.TreeSet.mem_toList, hu, Bool.not_eq_true', ← Bool.not_eq_true,
    Std.TreeSet.contains_iff_mem, hu', Option.not_isSome_iff_eq_none]

theorem accounts (ht : ∀ ref, t[ref]? = before ref) (ht' : ∀ ref, t'[ref]? = after ref)
    (hu : ∀ ref, ref ∈ u ↔ (before ref).isSome) (hu' : ∀ ref, ref ∈ u' ↔ (after ref).isSome)
    (hlines : report.lines = t.toList.filterMap fun e => Datadiff.lineOf t'[e.1]? e.1 e.2)
    (hnewly : sets.newlyAnswering = u'.toList.filter fun r => !u.contains r)
    (hdropped : sets.dropped = u.toList.filter fun r => !u'.contains r) :
    Accounts before after report sets where
  changed_iff ref := by
    constructor
    · intro h
      obtain ⟨line, hmem, hchanged, rfl⟩ := h
      cases line with
      | dropped ref => cases hchanged
      | changed ref p n dom pixels =>
        obtain ⟨hp, q, hq, hdiffer, -⟩ := (changed_mem_lines_iff ht ht' hlines).mp hmem
        exact ⟨p, q, hp, hq, hdiffer⟩
    · intro h
      obtain ⟨p, q, hp, hq, hdiffer⟩ := h
      exact ⟨_, (changed_mem_lines_iff ht ht' hlines).mpr ⟨hp, q, hq, hdiffer, rfl, rfl, rfl⟩,
        rfl, rfl⟩
  changed_line ref p n dom pixels h := by
    obtain ⟨hp, q, hq, -, rfl, rfl, -⟩ := (changed_mem_lines_iff ht ht' hlines).mp h
    have hdominant := Datadiff.dominant_spec q.bytes
    exact ⟨hp, q, hq, Datadiff.diffs_eq_zero_iff _ _, hdominant.1, hdominant.2⟩
  dropped_iff ref := by
    rw [dropped_mem_lines_iff ht ht' hlines, hdropped, mem_difference_iff hu hu']
  mem_dropped_iff ref := by rw [hdropped, mem_difference_iff hu hu']
  mem_newlyAnswering_iff ref := by rw [hnewly, mem_difference_iff hu' hu, and_comm]
  ascending := ascending_lines hlines

theorem nodup_toList (u : Std.TreeSet UInt32) : u.toList.Nodup :=
  Std.TreeSet.distinct_toList.imp fun hne heq =>
    hne (Std.LawfulEqOrd.compare_eq_iff_eq.mpr heq)

/-- A map and a set of the same streamRefs have the same size. -/
theorem length_toList_eq (ht : ∀ ref, t[ref]? = before ref)
    (hu : ∀ ref, ref ∈ u ↔ (before ref).isSome) : t.toList.length = u.toList.length := by
  have hdistinct : (t.toList.map Prod.fst).Nodup := by
    rw [List.Nodup, List.pairwise_map]
    exact Std.TreeMap.distinct_keys_toList.imp fun hne heq =>
      hne (Std.LawfulEqOrd.compare_eq_iff_eq.mpr heq)
  rw [← List.length_map (f := Prod.fst)]
  apply length_eq_of_mem_iff hdistinct (nodup_toList u)
  intro ref
  rw [Std.TreeSet.mem_toList, hu, Option.isSome_iff_exists, List.mem_map]
  constructor
  · intro h
    obtain ⟨⟨ref, p⟩, hmem, rfl⟩ := h
    exact ⟨p, by rw [← ht, Std.TreeMap.mem_toList_iff_getElem?_eq_some.mp hmem]⟩
  · intro h
    obtain ⟨p, hp⟩ := h
    exact ⟨(ref, p), Std.TreeMap.mem_toList_iff_getElem?_eq_some.mpr (by rw [ht, hp]), rfl⟩

/-- There are as many lines about dropped streamRefs as `playback` reports. -/
theorem countP_dropped (h : Accounts before after report sets)
    (hdistinct : sets.dropped.Nodup) :
    (report.lines.countP fun line => !line.isChanged) = sets.dropped.length := by
  rw [List.countP_eq_length_filter, ← List.length_map (f := Datadiff.Line.streamRef)]
  apply length_eq_of_mem_iff _ hdistinct
  · intro ref
    rw [← h.dropped_iff, List.mem_map]
    constructor
    · intro hmem
      obtain ⟨line, hline, rfl⟩ := hmem
      rw [List.mem_filter] at hline
      cases line with
      | dropped ref => exact hline.1
      | changed ref p n dom pixels => cases hline.2
    · intro hmem
      exact ⟨_, List.mem_filter.mpr ⟨hmem, rfl⟩, rfl⟩
  · exact (h.ascending.imp fun hlt => UInt32.ne_of_lt hlt).sublist
      (List.filter_sublist.map Datadiff.Line.streamRef)

end Compared

/-- What two sets have in common, counted in one and in the other. -/
theorem length_filter_contains (u u' : Std.TreeSet UInt32) :
    (u.toList.filter u'.contains).length = (u'.toList.filter u.contains).length := by
  apply length_eq_of_mem_iff ((nodup_toList u).filter _) ((nodup_toList u').filter _)
  intro ref
  simp only [List.mem_filter, Std.TreeSet.mem_toList, Std.TreeSet.contains_iff_mem]
  exact and_comm

/-- How many streamRefs a sweep has. -/
theorem length_toList_refs {u : Std.TreeSet UInt32} {data : Bytes} {records : List InfoRecord}
    (hu : ∀ ref, ref ∈ u ↔ (kept data records ref).isSome) :
    u.toList.length = (records.map InfoRecord.streamRef).dedup.length := by
  apply length_eq_of_mem_iff (nodup_toList u) (List.nodup_dedup _)
  intro ref
  rw [Std.TreeSet.mem_toList, hu, kept_isSome_iff, List.mem_dedup]

/-- The two probes on one session, where their decoder reads both replies. The reports account for
    every streamRef that answered: `datadiff` reports those whose last payload changed and those
    that `playback` reports as dropped, and counts the others. Together they count every streamRef
    once, of the first sweep and of the second. -/
theorem sweeps_compared {fromBytes : Bytes → Except String Value} {bytes bytes' : Bytes}
    {parsed parsed' : Reply} {records records' : List InfoRecord}
    (hparse : parseReply fromBytes bytes = .ok parsed)
    (hrecords : parseRecords parsed.info = .ok records)
    (hparse' : parseReply fromBytes bytes' = .ok parsed')
    (hrecords' : parseRecords parsed'.info = .ok records') :
    ∃ report sets, Datadiff.datadiff fromBytes (.ok bytes) (.ok bytes') = .ok report ∧
      Playback.run fromBytes (.ok bytes) (.ok bytes') = .ok sets ∧
      Accounts (kept parsed.data records) (kept parsed'.data records') report sets ∧
      report.changed = report.lines.countP Datadiff.Line.isChanged ∧
      report.same + report.changed + sets.dropped.length =
        (records.map InfoRecord.streamRef).dedup.length ∧
      report.same + report.changed + sets.newlyAnswering.length =
        (records'.map InfoRecord.streamRef).dedup.length := by
  obtain ⟨t, hsweep, ht⟩ := datadiff_sweep_eq hparse hrecords
  obtain ⟨t', hsweep', ht'⟩ := datadiff_sweep_eq hparse' hrecords'
  obtain ⟨u, hset, hu⟩ := playback_sweep_eq hparse hrecords
  obtain ⟨u', hset', hu'⟩ := playback_sweep_eq hparse' hrecords'
  obtain ⟨report, hreport, hlines, hchanged, hsame⟩ := Datadiff.datadiff_eq hsweep hsweep'
  have hrun : Playback.run fromBytes (.ok bytes) (.ok bytes') =
      .ok ⟨u'.toList.filter fun r => !u.contains r, u.toList.filter fun r => !u'.contains r⟩ := by
    unfold Playback.run
    rw [hset, hset']
    rfl
  have haccounts : Accounts (kept parsed.data records) (kept parsed'.data records') report
      ⟨u'.toList.filter fun r => !u.contains r, u.toList.filter fun r => !u'.contains r⟩ :=
    accounts ht ht' hu hu' hlines rfl rfl
  -- the lines are those about changes and those about dropped streamRefs
  have hdropped := countP_dropped haccounts ((nodup_toList u).filter _)
  have hcount : report.lines.length = report.lines.countP Datadiff.Line.isChanged +
      report.lines.countP fun line => !line.isChanged := by
    rw [List.length_eq_countP_add_countP Datadiff.Line.isChanged]
    congr 1
    exact List.countP_congr fun line _ => by simp
  -- what the sets have in common is counted in both
  have hboth := length_filter_contains u u'
  have hparts := List.length_eq_length_filter_add (l := u.toList) u'.contains
  have hparts' := List.length_eq_length_filter_add (l := u'.toList) u.contains
  have hsize := length_toList_eq ht hu
  have hrefs := length_toList_refs hu
  have hrefs' := length_toList_refs hu'
  refine ⟨report, _, hreport, hrun, haccounts, hchanged, ?_, ?_⟩
  · dsimp only at hdropped ⊢
    omega
  · dsimp only at hdropped ⊢
    omega

/-- The replies of two sweeps: the payload of 24 grows by one byte, 25 is dropped and 26 is new. -/
def sweptBefore : RawReply := laidOut 0 [⟨[(streamRefOff, 24)], [1, 2, 3, 4]⟩,
  ⟨[(streamRefOff, 25)], []⟩]

def sweptAfter : RawReply := laidOut 0 [⟨[(streamRefOff, 24)], [1, 2, 3, 4, 5]⟩,
  ⟨[(streamRefOff, 26)], []⟩]

/-- The files they are archived in. -/
def beforeFile : Bytes := replyFile sweptBefore.info sweptBefore.data

def afterFile : Bytes := replyFile sweptAfter.info sweptAfter.data

/-- A decoder of both files. -/
def sweepsDecoder (bytes : Bytes) : Except String Value :=
  if bytes = beforeFile then replyDecoder sweptBefore.info sweptBefore.data bytes
  else replyDecoder sweptAfter.info sweptAfter.data bytes

/-- What the decoder of one file reads there, every decoder that agrees with it does. -/
theorem parse_of_replyDecoder {fromBytes : Bytes → Except String Value} {info data : Bytes}
    (h : fromBytes (replyFile info data) = replyDecoder info data (replyFile info data)) :
    parseReply fromBytes (replyFile info data) = .ok ⟨0, info, data⟩ := by
  have hparse := parse_replyFile info data
  rw [← parseReply_eq_ok_iff, parseReply, ← h] at hparse
  exact hparse

theorem parse_beforeFile :
    parseReply sweepsDecoder beforeFile = .ok ⟨0, sweptBefore.info, sweptBefore.data⟩ :=
  parse_of_replyDecoder (if_pos rfl)

theorem parse_afterFile :
    parseReply sweepsDecoder afterFile = .ok ⟨0, sweptAfter.info, sweptAfter.data⟩ := by
  have hne : afterFile ≠ beforeFile := by decide +kernel
  exact parse_of_replyDecoder (if_neg hne)

set_option maxRecDepth 20000 in
theorem sweeps_compared_sweptReply :
    ∃ report sets,
      Datadiff.datadiff sweepsDecoder (.ok beforeFile) (.ok afterFile) = .ok report ∧
      Playback.run sweepsDecoder (.ok beforeFile) (.ok afterFile) = .ok sets ∧
      25 ∈ sets.dropped ∧ 26 ∈ sets.newlyAnswering ∧
      (∃ p dom pixels, .changed 24 p 0 dom pixels ∈ report.lines) ∧
      report.same + report.changed + sets.dropped.length = 2 := by
  have hrecords : ∀ info : Bytes, 80 ∣ info.length →
      parseRecords info = .ok ((chunksExact 80 info).map InfoRecord.ofChunk) := by
    intro info hlen
    rw [parseRecords_eq, if_pos hlen]
  obtain ⟨report, sets, hreport, hsets, h, -, hcount, -⟩ :=
    @sweeps_compared sweepsDecoder beforeFile afterFile _ _ _ _ parse_beforeFile
      (hrecords sweptBefore.info (by decide)) parse_afterFile
      (hrecords sweptAfter.info (by decide))
  refine ⟨report, sets, hreport, hsets, ?_, ?_, ?_, ?_⟩
  · exact (h.mem_dropped_iff 25).mpr ⟨rfl, rfl⟩
  · exact (h.mem_newlyAnswering_iff 26).mpr ⟨rfl, rfl⟩
  · obtain ⟨line, hline, hchanged, href⟩ := (h.changed_iff 24).mpr ⟨_, _, rfl, rfl, by decide⟩
    cases line with
    | dropped ref => cases hchanged
    | changed ref p n dom pixels =>
      obtain rfl : ref = 24 := href
      obtain ⟨hp, q, hq, hzero, -⟩ := h.changed_line _ _ _ _ _ hline
      obtain rfl := Option.some.inj hp
      obtain rfl := Option.some.inj hq
      obtain rfl : n = 0 := hzero.mpr (.inr (by decide))
      exact ⟨_, dom, pixels, hline⟩
  · exact hcount.trans rfl

end GputoolsReplay.Probe
