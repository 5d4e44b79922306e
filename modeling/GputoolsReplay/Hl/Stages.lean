/-
  The compiled stages of a pipeline (`pipeline.rs`), out of its unarchived payload.

  * `Pipeline.stages`: the arrays under `vertex`, `fragment` and `compute`, entry by entry.
  * `no_stage_lost_iff`: when every archived stage is among them. A stage under another key
    is left out without an error (`tile_stage_lost`).
-/
import GputoolsReplay.Hl.Handles
import GputoolsReplay.Hl.Unarchive

namespace GputoolsReplay

open RustSem

/-- `StageKind`. -/
inductive StageKind where
  | vertex
  | fragment
  | compute
  | other (key : String)
  deriving DecidableEq, Repr

/-- `Stage`. -/
structure Stage where
  kind : StageKind
  machO : Bytes
  uniqueId : UInt64
  deriving DecidableEq, Repr

/-- `Value::as_unsigned_integer`. -/
def Value.asUnsignedInteger : Value → Option UInt64
  | .integer n => if 0 ≤ n ∧ n < 2 ^ 64 then some (UInt64.ofNat n.toNat) else none
  | _ => none

/-- The keys that `stages` looks at. -/
def stageKeys : List (String × StageKind) :=
  [("vertex", .vertex), ("fragment", .fragment), ("compute", .compute)]

/-- One turn of the inner loop of `stages`. -/
def stageEntry (key : String) (kind : StageKind) (entry : Value) : Except Error Stage :=
  match entry.asDictionary with
  | none => .error (.badPipeline s!"{key}[] entry not a dict")
  | some s =>
    match (s.lookup "data").bind Value.asData with
    | none => .error (.badPipeline s!"{key}.data missing")
    | some machO =>
      let uniqueId := ((s.lookup "uniqueId").bind Value.asUnsignedInteger).getD 0
      .ok { kind, machO, uniqueId }

/-- One turn of the outer loop: a key without an array is skipped. -/
def stagesUnder (dict : Dictionary) (e : String × StageKind) : Except Error (List Stage) :=
  match (dict.lookup e.1).bind Value.asArray with
  | none => .ok []
  | some arr => arr.mapM (stageEntry e.1 e.2)

/-- The loops of `stages`. -/
def stagesOf (dict : Dictionary) : Except Error (List Stage) := do
  let stages ← stageKeys.mapM (stagesUnder dict)
  return stages.flatten

/-- `Pipeline::stages`. `fromBytes` is `plist::from_bytes`, with the text of its error. -/
def Pipeline.stages (fromBytes : Bytes → Except String Value) (p : Pipeline) :
    Rust (Except Error (List Stage)) := do
  let bytes ← p.rawBytes
  return unarchiveRoot fromBytes bytes >>= stagesOf

/-! ## Archived stages -/

/-- A `{data, uniqueId}` dictionary. -/
def IsStage (v : Value) (e : Bytes × Int) : Prop :=
  ∃ s, v = .dictionary s ∧ s.lookup "data" = some (.data e.1) ∧
    s.lookup "uniqueId" = some (.integer e.2)

/-- The key holds an array of stages. -/
def StageArray (dict : Dictionary) (key : String) (entries : List (Bytes × Int)) : Prop :=
  ∃ arr, dict.lookup key = some (.array arr) ∧ List.Forall₂ IsStage arr entries

/-- A key that may stand for a stage. -/
def IsStageKey (key : String) : Prop :=
  ¬ "-dynamic-libraries".toList <:+ key.toList ∧ key ≠ "PerformanceStatistics"

/-- Some key holds an array of stages. -/
def HoldsStages (dict : Dictionary) : Prop :=
  ∃ key entries, IsStageKey key ∧ StageArray dict key entries

/-- The kind of the stages under a key. -/
def kindOf (key : String) : StageKind := (stageKeys.lookup key).getD (.other key)

/-- Every archived stage is returned once, in the order of its array, with its bytes, its id
    and its kind. -/
def NoStageLost (result : Rust (Except Error (List Stage))) (dict : Dictionary) : Prop :=
  ∀ key entries, IsStageKey key → StageArray dict key entries →
    ∃ stages, result = .ok (.ok stages) ∧
      (stages.filter fun s => s.kind = kindOf key).map
        (fun s => (s.machO, (s.uniqueId.toNat : Int))) = entries

/-- What the loops can return: under the three keys every entry of an array has data, and
    every stage an unsigned id; no other key holds a stage. -/
structure OnlyKnownStages (dict : Dictionary) : Prop where
  data : ∀ e ∈ stageKeys, ∀ arr, dict.lookup e.1 = some (.array arr) → ∀ v ∈ arr,
    ∃ s bytes, v = .dictionary s ∧ s.lookup "data" = some (.data bytes)
  ids : ∀ e ∈ stageKeys, ∀ entries, StageArray dict e.1 entries → ∀ x ∈ entries,
    0 ≤ x.2 ∧ x.2 < 2 ^ 64
  others : ∀ key, IsStageKey key → key ∉ stageKeys.map Prod.fst →
    ∀ entries, StageArray dict key entries → entries = []

/-! ## One key -/

/-- The id of a stage as the loop reads it. -/
def readId (n : Int) : UInt64 := (Value.asUnsignedInteger (.integer n)).getD 0

theorem readId_eq_iff (n : Int) : ((readId n).toNat : Int) = n ↔ 0 ≤ n ∧ n < 2 ^ 64 := by
  unfold readId Value.asUnsignedInteger
  dsimp only
  by_cases h : 0 ≤ n ∧ n < 2 ^ 64
  · have hlt : n.toNat < UInt64.size := by
      simp only [UInt64.size]
      omega
    rw [if_pos h, Option.getD_some, UInt64.toNat_ofNat_of_lt' hlt]
    omega
  · rw [if_neg h]
    simp only [Option.getD_none, UInt64.toNat_zero, h, iff_false]
    omega

theorem stageEntry_eq_ok_iff {key : String} {kind : StageKind} {v : Value} {st : Stage} :
    stageEntry key kind v = .ok st ↔
      ∃ s bytes, v = .dictionary s ∧ s.lookup "data" = some (.data bytes) ∧
        st = ⟨kind, bytes, ((s.lookup "uniqueId").bind Value.asUnsignedInteger).getD 0⟩ := by
  unfold stageEntry
  constructor
  · intro h
    split at h
    · cases h
    · next s hs =>
      split at h
      · cases h
      · next bytes hbytes =>
        cases h
        rw [Option.bind_eq_some_iff] at hbytes
        obtain ⟨w, hw, hdata⟩ := hbytes
        rw [Value.asData_eq_some.mp hdata] at hw
        exact ⟨s, bytes, Value.asDictionary_eq_some.mp hs, hw, rfl⟩
  · intro h
    obtain ⟨s, bytes, rfl, hdata, rfl⟩ := h
    simp only [Value.asDictionary, hdata, Option.bind_some, Value.asData]

theorem stagesUnder_of_array {dict : Dictionary} {e : String × StageKind} {arr : List Value}
    (h : dict.lookup e.1 = some (.array arr)) :
    stagesUnder dict e = arr.mapM (stageEntry e.1 e.2) := by
  unfold stagesUnder
  rw [h]
  rfl

/-- Every stage under a key has its kind. -/
theorem kind_of_stagesUnder {dict : Dictionary} {e : String × StageKind} {l : List Stage}
    (h : stagesUnder dict e = .ok l) : ∀ st ∈ l, st.kind = e.2 := by
  unfold stagesUnder at h
  split at h
  · cases h
    exact fun st hst => absurd hst List.not_mem_nil
  · intro st hst
    obtain ⟨i, hi⟩ := List.getElem?_of_mem hst
    have hall := mapM_eq_ok_iff.mp h
    obtain ⟨hlt, rfl⟩ := List.getElem?_eq_some_iff.mp hi
    have hentry := hall.get (by rw [hall.length_eq]; exact hlt) hlt
    obtain ⟨s, bytes, -, -, hst⟩ := stageEntry_eq_ok_iff.mp hentry
    rw [List.get_eq_getElem] at hst
    rw [hst]

/-- The loop under a key goes through exactly when every entry of its array has data. -/
theorem exists_stagesUnder_iff {dict : Dictionary} {e : String × StageKind} :
    (∃ l, stagesUnder dict e = .ok l) ↔
      ∀ arr, dict.lookup e.1 = some (.array arr) → ∀ v ∈ arr,
        ∃ s bytes, v = .dictionary s ∧ s.lookup "data" = some (.data bytes) := by
  constructor
  · intro h arr harr v hv
    rw [stagesUnder_of_array harr, exists_mapM_ok_iff] at h
    obtain ⟨st, hst⟩ := h v hv
    obtain ⟨s, bytes, hs, hdata, -⟩ := stageEntry_eq_ok_iff.mp hst
    exact ⟨s, bytes, hs, hdata⟩
  · intro h
    cases harr : (dict.lookup e.1).bind Value.asArray with
    | none => exact ⟨[], by unfold stagesUnder; rw [harr]⟩
    | some arr =>
      rw [Option.bind_eq_some_iff] at harr
      obtain ⟨w, hw, hwarr⟩ := harr
      rw [Value.asArray_eq_some.mp hwarr] at hw
      rw [stagesUnder_of_array hw, exists_mapM_ok_iff]
      intro v hv
      obtain ⟨s, bytes, hs, hdata⟩ := h arr hw v hv
      exact ⟨_, stageEntry_eq_ok_iff.mpr ⟨s, bytes, hs, hdata, rfl⟩⟩

/-- The stages of an array come back with their bytes, and with the ids that are read. -/
theorem stages_of_array {key : String} {kind : StageKind} {arr : List Value} {l : List Stage}
    {entries : List (Bytes × Int)} (harr : List.Forall₂ IsStage arr entries)
    (hl : List.Forall₂ (fun v st => stageEntry key kind v = .ok st) arr l) :
    l.map (fun s => (s.machO, (s.uniqueId.toNat : Int))) =
      entries.map fun x => (x.1, ((readId x.2).toNat : Int)) := by
  induction harr generalizing l with
  | nil =>
    cases hl
    rfl
  | @cons v x arr entries hv _ ih =>
    obtain ⟨st, rest, hst, hrest, rfl⟩ := List.forall₂_cons_left_iff.mp hl
    rw [List.map_cons, List.map_cons, ih hrest]
    obtain ⟨s, bytes, rfl, hdata, rfl⟩ := stageEntry_eq_ok_iff.mp hst
    obtain ⟨s', hs', hdata', hid⟩ := hv
    cases hs'
    rw [hdata] at hdata'
    cases hdata'
    rw [hid]
    rfl

/-- They come back as they are exactly when every id is unsigned. -/
theorem map_readId_eq_iff (entries : List (Bytes × Int)) :
    (entries.map fun x => (x.1, ((readId x.2).toNat : Int))) = entries ↔
      ∀ x ∈ entries, 0 ≤ x.2 ∧ x.2 < 2 ^ 64 := by
  induction entries with
  | nil => simp
  | cons x entries ih =>
    rw [List.map_cons, List.cons.injEq, ih, List.forall_mem_cons, ← readId_eq_iff]
    constructor
    · exact fun h => ⟨congrArg Prod.snd h.1, h.2⟩
    · exact fun h => ⟨Prod.ext rfl h.1, h.2⟩

/-! ## All keys -/

theorem filter_kind {l : List Stage} {kind : StageKind} (h : ∀ st ∈ l, st.kind = kind)
    (kind' : StageKind) :
    (l.filter fun s => s.kind = kind') = if kind = kind' then l else [] := by
  by_cases hk : kind = kind'
  · rw [if_pos hk, List.filter_eq_self.mpr fun st hst => decide_eq_true ((h st hst).trans hk)]
  · rw [if_neg hk, List.filter_eq_nil_iff.mpr fun st hst => by simpa [h st hst] using hk]

/-- The stages of one kind are those under its key. -/
theorem filter_stages {dict : Dictionary} {keys : List (String × StageKind)}
    {ls : List (List Stage)} (h : List.Forall₂ (fun e l => stagesUnder dict e = .ok l) keys ls)
    (hd : (keys.map Prod.snd).Nodup) :
    (∀ e ∈ keys, stagesUnder dict e = .ok (ls.flatten.filter fun s => s.kind = e.2)) ∧
      ∀ kind, kind ∉ keys.map Prod.snd → (ls.flatten.filter fun s => s.kind = kind) = [] := by
  induction h with
  | nil => exact ⟨fun e he => absurd he List.not_mem_nil, fun _ _ => rfl⟩
  | @cons e l keys ls hl _ ih =>
    rw [List.map_cons, List.nodup_cons] at hd
    obtain ⟨hkeys, hnone⟩ := ih hd.2
    have hkind := filter_kind (kind_of_stagesUnder hl)
    simp only [List.flatten_cons, List.filter_append, hkind]
    constructor
    · intro e' he'
      rcases List.mem_cons.mp he' with rfl | he'
      · rw [if_pos rfl, hnone _ hd.1, List.append_nil, hl]
      · have hne : e.2 ≠ e'.2 := fun heq => hd.1 (heq ▸ List.mem_map_of_mem he')
        rw [if_neg hne, List.nil_append]
        exact hkeys e' he'
    · intro kind hkn
      rw [List.map_cons, List.mem_cons, not_or] at hkn
      rw [if_neg (Ne.symm hkn.1), List.nil_append, hnone kind hkn.2]

theorem kindOf_of_mem : ∀ e ∈ stageKeys, kindOf e.1 = e.2 := by decide

theorem kindOf_of_notMem {key : String} (h : key ∉ stageKeys.map Prod.fst) :
    kindOf key = .other key ∧ kindOf key ∉ stageKeys.map Prod.snd := by
  have hnone : stageKeys.lookup key = none := by
    rw [List.lookup_eq_none_iff]
    intro e he
    exact bne_iff_ne.mpr fun heq => h (List.mem_map.mpr ⟨e, he, heq.symm⟩)
  unfold kindOf
  rw [hnone, Option.getD_none]
  exact ⟨rfl, by simp [stageKeys]⟩

theorem stagesOf_eq_ok {dict : Dictionary} {stages : List Stage} (h : stagesOf dict = .ok stages) :
    (∀ e ∈ stageKeys, stagesUnder dict e = .ok (stages.filter fun s => s.kind = e.2)) ∧
      ∀ key, key ∉ stageKeys.map Prod.fst → (stages.filter fun s => s.kind = kindOf key) = [] := by
  obtain ⟨ls, hls, hflat⟩ := bind_eq_ok.mp h
  obtain rfl := Except.ok.inj hflat
  have hfilter := filter_stages (mapM_eq_ok_iff.mp hls) (by decide)
  exact ⟨hfilter.1, fun key hkey => hfilter.2 _ (kindOf_of_notMem hkey).2⟩

theorem exists_stagesOf_iff {dict : Dictionary} :
    (∃ stages, stagesOf dict = .ok stages) ↔
      ∀ e ∈ stageKeys, ∀ arr, dict.lookup e.1 = some (.array arr) → ∀ v ∈ arr,
        ∃ s bytes, v = .dictionary s ∧ s.lookup "data" = some (.data bytes) := by
  have hmap : (∃ ls, stageKeys.mapM (stagesUnder dict) = .ok ls) ↔ _ := exists_mapM_ok_iff
  simp only [← exists_stagesUnder_iff, ← hmap]
  constructor
  · intro h
    obtain ⟨stages, h⟩ := h
    obtain ⟨ls, hls, -⟩ := bind_eq_ok.mp h
    exact ⟨ls, hls⟩
  · intro h
    obtain ⟨ls, hls⟩ := h
    exact ⟨ls.flatten, bind_eq_ok.mpr ⟨ls, hls, rfl⟩⟩

/-- Under a key that is visited the stages are returned, and come back as they are exactly when
    their ids are unsigned. -/
theorem visited_iff {dict : Dictionary} {stages : List Stage} (hok : stagesOf dict = .ok stages)
    {e : String × StageKind} (he : e ∈ stageKeys) {entries : List (Bytes × Int)}
    (harray : StageArray dict e.1 entries) :
    (stages.filter fun s => s.kind = kindOf e.1).map
        (fun s => (s.machO, (s.uniqueId.toNat : Int))) = entries ↔
      ∀ x ∈ entries, 0 ≤ x.2 ∧ x.2 < 2 ^ 64 := by
  obtain ⟨arr, harr, hentries⟩ := harray
  have hunder := (stagesOf_eq_ok hok).1 e he
  rw [stagesUnder_of_array harr, mapM_eq_ok_iff] at hunder
  rw [kindOf_of_mem e he, stages_of_array hentries hunder, map_readId_eq_iff]

theorem isStageKey_of_mem : ∀ e ∈ stageKeys, IsStageKey e.1 := by
  unfold IsStageKey
  decide

/-- Of a pipeline that holds stages none is lost exactly when the arrays under `vertex`,
    `fragment` and `compute` have data in every entry and unsigned ids, and no other key holds a
    stage. -/
theorem no_stage_lost_iff {fromBytes : Bytes → Except String Value} {p : Pipeline} {bytes : Bytes}
    {dict : Dictionary} (hraw : p.rawBytes = .ok bytes)
    (hroot : unarchiveRoot fromBytes bytes = .ok dict) (hholds : HoldsStages dict) :
    NoStageLost (p.stages fromBytes) dict ↔ OnlyKnownStages dict := by
  have hstages : p.stages fromBytes = .ok (stagesOf dict) := by
    unfold Pipeline.stages
    rw [hraw, ok_bind, hroot]
    rfl
  unfold NoStageLost
  rw [hstages]
  constructor
  · intro h
    obtain ⟨key, entries, hkey, harray⟩ := hholds
    obtain ⟨stages, hok, -⟩ := h key entries hkey harray
    have hok := Except.ok.inj hok
    have hall : ∀ key entries, IsStageKey key → StageArray dict key entries →
        (stages.filter fun s => s.kind = kindOf key).map
          (fun s => (s.machO, (s.uniqueId.toNat : Int))) = entries := by
      intro key entries hkey harray
      obtain ⟨stages', hok', hback⟩ := h key entries hkey harray
      rw [hok, Except.ok.injEq, Except.ok.injEq] at hok'
      rw [hok', hback]
    refine ⟨exists_stagesOf_iff.mp ⟨stages, hok⟩, fun e he entries harray => ?_, ?_⟩
    · exact (visited_iff hok he harray).mp (hall e.1 entries (isStageKey_of_mem e he) harray)
    · intro key hk hother entries harray
      rw [← hall key entries hk harray, (stagesOf_eq_ok hok).2 key hother]
      rfl
  · intro h key entries hk harray
    obtain ⟨stages, hok⟩ := exists_stagesOf_iff.mpr h.data
    refine ⟨stages, by rw [hok], ?_⟩
    by_cases hmem : key ∈ stageKeys.map Prod.fst
    · obtain ⟨e, he, rfl⟩ := List.mem_map.mp hmem
      exact (visited_iff hok he harray).mpr (h.ids e he entries harray)
    · rw [h.others key hk hmem entries harray, (stagesOf_eq_ok hok).2 key hmem]
      rfl

/-! ## A render pipeline -/

def pipelineOf (file : Bytes) : Pipeline :=
  Pipeline.fromParts 10 1 ⟨AlignedBuf.fromBytes file, 0, file.length⟩

theorem rawBytes_pipelineOf {file : Bytes} (h : file.length < usizeLimit) :
    (pipelineOf file).rawBytes = .ok file := by
  unfold pipelineOf Pipeline.rawBytes Pipeline.fromParts
  rw [Payload.bytes_fromBytes (by omega) (by omega)]
  simp [window]

/-- The envelope of a render pipeline: two stages, no dynamic libraries, and statistics under the
    names of the stages. -/
def renderEnvelope : Value :=
  .dictionary [
    ("$objects", .array [
      .dictionary [("NS.keys", .array [.uid 1, .uid 2, .uid 3, .uid 4, .uid 5]),
        ("NS.objects", .array [.uid 6, .uid 7, .uid 8, .uid 8, .uid 9])],
      .string "vertex",
      .string "fragment",
      .string "vertex-dynamic-libraries",
      .string "fragment-dynamic-libraries",
      .string "PerformanceStatistics",
      .dictionary [("NS.objects", .array [.uid 10])],
      .dictionary [("NS.objects", .array [.uid 11])],
      .dictionary [("NS.objects", .array [])],
      .dictionary [("NS.keys", .array [.uid 12, .uid 13]),
        ("NS.objects", .array [.uid 14, .uid 15])],
      .dictionary [("NS.keys", .array [.uid 16, .uid 17]),
        ("NS.objects", .array [.uid 18, .uid 19])],
      .dictionary [("NS.keys", .array [.uid 16, .uid 17]),
        ("NS.objects", .array [.uid 20, .uid 21])],
      .string "Vertex Shader",
      .string "Fragment Shader",
      .dictionary [("NS.keys", .array [.uid 22]), ("NS.objects", .array [.uid 23])],
      .dictionary [("NS.keys", .array [.uid 22]), ("NS.objects", .array [.uid 24])],
      .string "data",
      .string "uniqueId",
      .data [0xcf, 0xfa, 0xed, 0xfe, 0x01],
      .integer 7,
      .data [0xcf, 0xfa, 0xed, 0xfe, 0x02],
      .integer 8,
      .string "ALU instruction count",
      .integer 9,
      .integer 14]),
    ("$top", .dictionary [("root", .uid 0)])]

/-- Its binary plist. -/
def renderBytes : Bytes :=
  [0x62, 0x70, 0x6c, 0x69, 0x73, 0x74, 0x30, 0x30, 0xd2, 0x01, 0x02, 0x03, 0x4a, 0x58, 0x24, 0x6f,
    0x62, 0x6a, 0x65, 0x63, 0x74, 0x73, 0x54, 0x24, 0x74, 0x6f, 0x70, 0xaf, 0x10, 0x19, 0x04, 0x13,
    0x14, 0x15, 0x16, 0x17, 0x18, 0x1b, 0x1e, 0x20, 0x27, 0x2e, 0x35, 0x36, 0x37, 0x3c, 0x41, 0x42,
    0x43, 0x44, 0x45, 0x46, 0x47, 0x48, 0x49, 0xd2, 0x05, 0x06, 0x07, 0x0d, 0x57, 0x4e, 0x53, 0x2e,
    0x6b, 0x65, 0x79, 0x73, 0x5a, 0x4e, 0x53, 0x2e, 0x6f, 0x62, 0x6a, 0x65, 0x63, 0x74, 0x73, 0xa5,
    0x08, 0x09, 0x0a, 0x0b, 0x0c, 0x80, 0x01, 0x80, 0x02, 0x80, 0x03, 0x80, 0x04, 0x80, 0x05, 0xa5,
    0x0e, 0x0f, 0x10, 0x11, 0x12, 0x80, 0x06, 0x80, 0x07, 0x80, 0x08, 0x80, 0x08, 0x80, 0x09, 0x56,
    0x76, 0x65, 0x72, 0x74, 0x65, 0x78, 0x58, 0x66, 0x72, 0x61, 0x67, 0x6d, 0x65, 0x6e, 0x74, 0x5f,
    0x10, 0x18, 0x76, 0x65, 0x72, 0x74, 0x65, 0x78, 0x2d, 0x64, 0x79, 0x6e, 0x61, 0x6d, 0x69, 0x63,
    0x2d, 0x6c, 0x69, 0x62, 0x72, 0x61, 0x72, 0x69, 0x65, 0x73, 0x5f, 0x10, 0x1a, 0x66, 0x72, 0x61,
    0x67, 0x6d, 0x65, 0x6e, 0x74, 0x2d, 0x64, 0x79, 0x6e, 0x61, 0x6d, 0x69, 0x63, 0x2d, 0x6c, 0x69,
    0x62, 0x72, 0x61, 0x72, 0x69, 0x65, 0x73, 0x5f, 0x10, 0x15, 0x50, 0x65, 0x72, 0x66, 0x6f, 0x72,
    0x6d, 0x61, 0x6e, 0x63, 0x65, 0x53, 0x74, 0x61, 0x74, 0x69, 0x73, 0x74, 0x69, 0x63, 0x73, 0xd1,
    0x06, 0x19, 0xa1, 0x1a, 0x80, 0x0a, 0xd1, 0x06, 0x1c, 0xa1, 0x1d, 0x80, 0x0b, 0xd1, 0x06, 0x1f,
    0xa0, 0xd2, 0x05, 0x06, 0x21, 0x24, 0xa2, 0x22, 0x23, 0x80, 0x0c, 0x80, 0x0d, 0xa2, 0x25, 0x26,
    0x80, 0x0e, 0x80, 0x0f, 0xd2, 0x05, 0x06, 0x28, 0x2b, 0xa2, 0x29, 0x2a, 0x80, 0x10, 0x80, 0x11,
    0xa2, 0x2c, 0x2d, 0x80, 0x12, 0x80, 0x13, 0xd2, 0x05, 0x06, 0x2f, 0x32, 0xa2, 0x30, 0x31, 0x80,
    0x10, 0x80, 0x11, 0xa2, 0x33, 0x34, 0x80, 0x14, 0x80, 0x15, 0x5d, 0x56, 0x65, 0x72, 0x74, 0x65,
    0x78, 0x20, 0x53, 0x68, 0x61, 0x64, 0x65, 0x72, 0x5f, 0x10, 0x0f, 0x46, 0x72, 0x61, 0x67, 0x6d,
    0x65, 0x6e, 0x74, 0x20, 0x53, 0x68, 0x61, 0x64, 0x65, 0x72, 0xd2, 0x05, 0x06, 0x38, 0x3a, 0xa1,
    0x39, 0x80, 0x16, 0xa1, 0x3b, 0x80, 0x17, 0xd2, 0x05, 0x06, 0x3d, 0x3f, 0xa1, 0x3e, 0x80, 0x16,
    0xa1, 0x40, 0x80, 0x18, 0x54, 0x64, 0x61, 0x74, 0x61, 0x58, 0x75, 0x6e, 0x69, 0x71, 0x75, 0x65,
    0x49, 0x64, 0x45, 0xcf, 0xfa, 0xed, 0xfe, 0x01, 0x10, 0x07, 0x45, 0xcf, 0xfa, 0xed, 0xfe, 0x02,
    0x10, 0x08, 0x5f, 0x10, 0x15, 0x41, 0x4c, 0x55, 0x20, 0x69, 0x6e, 0x73, 0x74, 0x72, 0x75, 0x63,
    0x74, 0x69, 0x6f, 0x6e, 0x20, 0x63, 0x6f, 0x75, 0x6e, 0x74, 0x10, 0x09, 0x10, 0x0e, 0xd1, 0x4b,
    0x4c, 0x54, 0x72, 0x6f, 0x6f, 0x74, 0x80, 0x00, 0x00, 0x08, 0x00, 0x0d, 0x00, 0x16, 0x00, 0x1b,
    0x00, 0x37, 0x00, 0x3c, 0x00, 0x44, 0x00, 0x4f, 0x00, 0x55, 0x00, 0x57, 0x00, 0x59, 0x00, 0x5b,
    0x00, 0x5d, 0x00, 0x5f, 0x00, 0x65, 0x00, 0x67, 0x00, 0x69, 0x00, 0x6b, 0x00, 0x6d, 0x00, 0x6f,
    0x00, 0x76, 0x00, 0x7f, 0x00, 0x9a, 0x00, 0xb7, 0x00, 0xcf, 0x00, 0xd2, 0x00, 0xd4, 0x00, 0xd6,
    0x00, 0xd9, 0x00, 0xdb, 0x00, 0xdd, 0x00, 0xe0, 0x00, 0xe1, 0x00, 0xe6, 0x00, 0xe9, 0x00, 0xeb,
    0x00, 0xed, 0x00, 0xf0, 0x00, 0xf2, 0x00, 0xf4, 0x00, 0xf9, 0x00, 0xfc, 0x00, 0xfe, 0x01, 0x00,
    0x01, 0x03, 0x01, 0x05, 0x01, 0x07, 0x01, 0x0c, 0x01, 0x0f, 0x01, 0x11, 0x01, 0x13, 0x01, 0x16,
    0x01, 0x18, 0x01, 0x1a, 0x01, 0x28, 0x01, 0x3a, 0x01, 0x3f, 0x01, 0x41, 0x01, 0x43, 0x01, 0x45,
    0x01, 0x47, 0x01, 0x4c, 0x01, 0x4e, 0x01, 0x50, 0x01, 0x52, 0x01, 0x54, 0x01, 0x59, 0x01, 0x62,
    0x01, 0x68, 0x01, 0x6a, 0x01, 0x70, 0x01, 0x72, 0x01, 0x8a, 0x01, 0x8c, 0x01, 0x8e, 0x01, 0x91,
    0x01, 0x96, 0x00, 0x00, 0x00, 0x00, 0x00, 0x00, 0x02, 0x01, 0x00, 0x00, 0x00, 0x00, 0x00, 0x00,
    0x00, 0x4d, 0x00, 0x00, 0x00, 0x00, 0x00, 0x00, 0x00, 0x00, 0x00, 0x00, 0x00, 0x00, 0x00, 0x00,
    0x01, 0x98]

/-- What it resolves to. -/
def renderDict : Dictionary :=
  [("vertex", .array [.dictionary [("data", .data [0xcf, 0xfa, 0xed, 0xfe, 0x01]),
      ("uniqueId", .integer 7)]]),
    ("fragment", .array [.dictionary [("data", .data [0xcf, 0xfa, 0xed, 0xfe, 0x02]),
      ("uniqueId", .integer 8)]]),
    ("vertex-dynamic-libraries", .array []),
    ("fragment-dynamic-libraries", .array []),
    ("PerformanceStatistics", .dictionary [
      ("Vertex Shader", .dictionary [("ALU instruction count", .integer 9)]),
      ("Fragment Shader", .dictionary [("ALU instruction count", .integer 14)])])]

theorem unarchive_renderEnvelope :
    unarchiveRoot (decodesTo renderBytes renderEnvelope) renderBytes = .ok renderDict := by
  rw [unarchiveRoot_of_decoded (if_pos rfl)]
  rfl

/-- The arrays in it. -/
theorem lookup_renderDict {key : String} {arr : List Value}
    (h : renderDict.lookup key = some (.array arr)) :
    (key = "vertex" ∧ arr = [.dictionary [("data", .data [0xcf, 0xfa, 0xed, 0xfe, 0x01]),
      ("uniqueId", .integer 7)]]) ∨
    (key = "fragment" ∧ arr = [.dictionary [("data", .data [0xcf, 0xfa, 0xed, 0xfe, 0x02]),
      ("uniqueId", .integer 8)]]) ∨ arr = [] := by
  obtain ⟨l₁, l₂, hsplit, -⟩ := List.lookup_eq_some_iff.mp h
  have hmem : (key, Value.array arr) ∈ renderDict := by simp [hsplit]
  simp only [renderDict, List.mem_cons, Prod.mk.injEq, Value.array.injEq, reduceCtorEq, and_false,
    List.not_mem_nil, or_false] at hmem
  tauto

/-- The stage of an array of one. -/
theorem isStage_of_singleton {v : Value} {entries : List (Bytes × Int)} {x : Bytes × Int}
    (h : List.Forall₂ IsStage [v] entries) (hx : x ∈ entries) : IsStage v x := by
  obtain ⟨y, rest, hy, hrest, rfl⟩ := List.forall₂_cons_left_iff.mp h
  obtain rfl := List.forall₂_nil_left_iff.mp hrest
  obtain rfl := List.mem_singleton.mp hx
  exact hy

/-- Both stages of a render pipeline are returned. -/
theorem no_stage_lost_render :
    NoStageLost ((pipelineOf renderBytes).stages (decodesTo renderBytes renderEnvelope))
      renderDict := by
  have hvertex : StageArray renderDict "vertex" [([0xcf, 0xfa, 0xed, 0xfe, 0x01], 7)] :=
    ⟨_, rfl, .cons ⟨_, rfl, rfl, rfl⟩ .nil⟩
  refine (no_stage_lost_iff (rawBytes_pipelineOf (by decide +kernel)) unarchive_renderEnvelope
    ⟨_, _, by unfold IsStageKey; decide, hvertex⟩).mpr ⟨?_, ?_, ?_⟩
  · intro e _ arr harr v hv
    rcases lookup_renderDict harr with ⟨-, rfl⟩ | ⟨-, rfl⟩ | rfl
    · exact ⟨_, _, List.mem_singleton.mp hv, rfl⟩
    · exact ⟨_, _, List.mem_singleton.mp hv, rfl⟩
    · exact absurd hv List.not_mem_nil
  · intro e _ entries harray x hx
    obtain ⟨arr, harr, hentries⟩ := harray
    rcases lookup_renderDict harr with ⟨-, rfl⟩ | ⟨-, rfl⟩ | rfl
    · obtain ⟨s, hs, -, hid⟩ := isStage_of_singleton hentries hx
      cases hs
      rw [← (Value.integer.inj (Option.some.inj hid) : 7 = x.2)]
      decide
    · obtain ⟨s, hs, -, hid⟩ := isStage_of_singleton hentries hx
      cases hs
      rw [← (Value.integer.inj (Option.some.inj hid) : 8 = x.2)]
      decide
    · obtain rfl := List.forall₂_nil_left_iff.mp hentries
      exact absurd hx List.not_mem_nil
  · intro key _ hother entries harray
    obtain ⟨arr, harr, hentries⟩ := harray
    rcases lookup_renderDict harr with ⟨rfl, -⟩ | ⟨rfl, -⟩ | rfl
    · exact absurd (by decide) hother
    · exact absurd (by decide) hother
    · exact List.forall₂_nil_left_iff.mp hentries

/-! ## A tile pipeline -/

/-- The envelope of one stage under `tile`. -/
def tileStageEnvelope : Value :=
  .dictionary [
    ("$objects", .array [
      .dictionary [("NS.keys", .array [.uid 1]), ("NS.objects", .array [.uid 2])],
      .string "tile",
      .dictionary [("NS.objects", .array [.uid 3])],
      .dictionary [("NS.keys", .array [.uid 4, .uid 5]), ("NS.objects", .array [.uid 6, .uid 7])],
      .string "data",
      .string "uniqueId",
      .data [0xcf, 0xfa, 0xed, 0xfe],
      .integer 12]),
    ("$top", .dictionary [("root", .uid 0)])]

/-- Its binary plist. -/
def tileStageBytes : Bytes :=
  [0x62, 0x70, 0x6c, 0x69, 0x73, 0x74, 0x30, 0x30, 0xd2, 0x01, 0x02, 0x03, 0x1a, 0x58, 0x24,
    0x6f, 0x62, 0x6a, 0x65, 0x63, 0x74, 0x73, 0x54, 0x24, 0x74, 0x6f, 0x70, 0xa8, 0x04, 0x0b,
    0x0c, 0x0f, 0x16, 0x17, 0x18, 0x19, 0xd2, 0x05, 0x06, 0x07, 0x09, 0x57, 0x4e, 0x53, 0x2e,
    0x6b, 0x65, 0x79, 0x73, 0x5a, 0x4e, 0x53, 0x2e, 0x6f, 0x62, 0x6a, 0x65, 0x63, 0x74, 0x73,
    0xa1, 0x08, 0x80, 0x01, 0xa1, 0x0a, 0x80, 0x02, 0x54, 0x74, 0x69, 0x6c, 0x65, 0xd1, 0x06,
    0x0d, 0xa1, 0x0e, 0x80, 0x03, 0xd2, 0x05, 0x06, 0x10, 0x13, 0xa2, 0x11, 0x12, 0x80, 0x04,
    0x80, 0x05, 0xa2, 0x14, 0x15, 0x80, 0x06, 0x80, 0x07, 0x54, 0x64, 0x61, 0x74, 0x61, 0x58,
    0x75, 0x6e, 0x69, 0x71, 0x75, 0x65, 0x49, 0x64, 0x44, 0xcf, 0xfa, 0xed, 0xfe, 0x10, 0x0c,
    0xd1, 0x1b, 0x1c, 0x54, 0x72, 0x6f, 0x6f, 0x74, 0x80, 0x00, 0x08, 0x0d, 0x16, 0x1b, 0x24,
    0x29, 0x31, 0x3c, 0x3e, 0x40, 0x42, 0x44, 0x49, 0x4c, 0x4e, 0x50, 0x55, 0x58, 0x5a, 0x5c,
    0x5f, 0x61, 0x63, 0x68, 0x71, 0x76, 0x78, 0x7b, 0x80, 0x00, 0x00, 0x00, 0x00, 0x00, 0x00,
    0x01, 0x01, 0x00, 0x00, 0x00, 0x00, 0x00, 0x00, 0x00, 0x1d, 0x00, 0x00, 0x00, 0x00, 0x00,
    0x00, 0x00, 0x00, 0x00, 0x00, 0x00, 0x00, 0x00, 0x00, 0x00, 0x82]

/-- What it resolves to. -/
def tileStageDict : Dictionary :=
  [("tile", .array [.dictionary [("data", .data [0xcf, 0xfa, 0xed, 0xfe]),
    ("uniqueId", .integer 12)]])]

/-- A tile stage is lost. -/
theorem tile_stage_lost :
    ¬ ∀ (fromBytes : Bytes → Except String Value) (p : Pipeline) (bytes : Bytes)
      (dict : Dictionary), p.rawBytes = .ok bytes → unarchiveRoot fromBytes bytes = .ok dict →
      NoStageLost (p.stages fromBytes) dict := by
  intro h
  have hraw := @rawBytes_pipelineOf tileStageBytes (by decide +kernel)
  have hroot : unarchiveRoot (decodesTo tileStageBytes tileStageEnvelope) tileStageBytes =
      .ok tileStageDict := by
    rw [unarchiveRoot_of_decoded (if_pos rfl)]
    rfl
  have hstages : (pipelineOf tileStageBytes).stages
      (decodesTo tileStageBytes tileStageEnvelope) = .ok (.ok []) := by
    unfold Pipeline.stages
    rw [hraw, ok_bind, hroot]
    rfl
  have hkey : IsStageKey "tile" := by unfold IsStageKey; decide
  have htile : StageArray tileStageDict "tile" [([0xcf, 0xfa, 0xed, 0xfe], 12)] :=
    ⟨_, rfl, .cons ⟨_, rfl, rfl, rfl⟩ .nil⟩
  obtain ⟨stages, hok, hlost⟩ := h _ _ _ _ hraw hroot "tile" _ hkey htile
  rw [hstages, Except.ok.injEq, Except.ok.injEq] at hok
  subst hok
  cases hlost

end GputoolsReplay
