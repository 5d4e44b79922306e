/-
  The performance statistics of a pipeline (`pipeline.rs`), and a whole archived pipeline.

  * `Pipeline.performanceStats`: the one dictionary of the `PerformanceStatistics` array.
  * `archived_pipeline_round_trip`: from any archive of a pipeline, `stages` gives back every
    stage and `performance_stats` the metrics, or says which shape it does not support.
-/
import GputoolsReplay.Hl.ArchiveTree
import GputoolsReplay.Hl.Stages

namespace GputoolsReplay

open RustSem

/-- `Stats`. -/
structure Stats where
  raw : Dictionary

/-- `performance_stats`, on the unarchived dictionary. -/
def performanceStatsOf (dict : Dictionary) : Except Error Stats :=
  match (dict.lookup "PerformanceStatistics").bind Value.asArray with
  | none => .error (.badPipeline "no PerformanceStatistics")
  | some [one] =>
    match one.asDictionary with
    | none => .error (.badPipeline "PerformanceStatistics[0] not a dict")
    | some raw => .ok { raw }
  | some other => .error (.badPipeline
      (s!"PerformanceStatistics has {other.length} entries; only the ground-truthed " ++
        "single-stage shape is supported"))

/-- `Pipeline::performance_stats`. -/
def Pipeline.performanceStats (fromBytes : Bytes → Except String Value) (p : Pipeline) :
    Rust (Except Error Stats) := do
  let bytes ← p.rawBytes
  return unarchiveRoot fromBytes bytes >>= performanceStatsOf

/-- The error of an array of `n` dictionaries. -/
def unsupportedStats (n : Nat) : Error :=
  .badPipeline (s!"PerformanceStatistics has {n} entries; only the ground-truthed " ++
    "single-stage shape is supported")

/-! ## What a pipeline is archived from -/

/-- The archived dictionary of a stage: its bytes and its id, which is 0 when there is none, and
    whatever else it holds. -/
def IsStageTree (t : ArchiveTree) (s : Bytes × UInt64) : Prop :=
  ∃ fields, t = .dict fields ∧ fields.lookup "data" = some (.leaf (.data s.1)) ∧
    (fields.lookup "uniqueId" = some (.leaf (.integer s.2.toNat)) ∨
      fields.lookup "uniqueId" = none ∧ s.2 = 0)

/-- The stages of a pipeline: under each of the three keys an array of those `stored` there, or
    no array and none stored. Other keys may hold anything. -/
def StoredStages (entries : List (String × ArchiveTree))
    (stored : String → List (Bytes × UInt64)) : Prop :=
  ∀ e ∈ stageKeys,
    (∃ trees, entries.lookup e.1 = some (.arr trees) ∧
      List.Forall₂ IsStageTree trees (stored e.1)) ∨
    (∀ trees, entries.lookup e.1 ≠ some (.arr trees)) ∧ stored e.1 = []

/-- What is expected of `performance_stats`. The statistics of a render pipeline are a dictionary
    under the names of its stages, and count as none. -/
def expectedStats : Option ArchiveTree → Except Error Stats
  | some (.arr [.dict metrics]) => .ok ⟨ArchiveTree.toEntries metrics⟩
  | some (.arr [_]) => .error (.badPipeline "PerformanceStatistics[0] not a dict")
  | some (.arr elems) => .error (unsupportedStats elems.length)
  | _ => .error (.badPipeline "no PerformanceStatistics")

/-! ## Reading it back -/

theorem lookup_toEntries (entries : List (String × ArchiveTree)) (key : String) :
    (ArchiveTree.toEntries entries).lookup key =
      (entries.lookup key).map ArchiveTree.toValue := by
  induction entries with
  | nil => rfl
  | cons e entries ih =>
    obtain ⟨k, t⟩ := e
    rw [ArchiveTree.toEntries, List.lookup_cons, List.lookup_cons]
    cases key == k with
    | true => rfl
    | false => exact ih

/-- A key that holds no array of trees holds none of values. -/
theorem lookup_asArray_eq_none {entries : List (String × ArchiveTree)} {key : String}
    (h : ∀ trees, entries.lookup key ≠ some (.arr trees)) :
    ((ArchiveTree.toEntries entries).lookup key).bind Value.asArray = none := by
  rw [lookup_toEntries]
  cases htree : entries.lookup key with
  | none => rfl
  | some t =>
    cases t with
    | leaf x => cases x <;> rfl
    | arr trees => exact absurd htree (h trees)
    | dict fields =>
      rw [Option.map_some, Option.bind_some, ArchiveTree.toValue]
      rfl

/-- The stage of one entry of a stage array. -/
theorem stageEntry_of_tree (key : String) (kind : StageKind) {t : ArchiveTree}
    {s : Bytes × UInt64} (h : IsStageTree t s) :
    stageEntry key kind t.toValue = .ok ⟨kind, s.1, s.2⟩ := by
  obtain ⟨fields, rfl, hdata, hid⟩ := h
  have hread : (((ArchiveTree.toEntries fields).lookup "uniqueId").bind
      Value.asUnsignedInteger).getD 0 = s.2 := by
    rw [lookup_toEntries]
    rcases hid with hid | ⟨hid, hzero⟩
    · have hlt : (s.2.toNat : Int) < 2 ^ 64 := by exact_mod_cast s.2.toNat_lt
      have hback := (readId_eq_iff _).mpr ⟨Int.natCast_nonneg _, hlt⟩
      rw [hid, Option.map_some, Option.bind_some, ArchiveTree.toValue, Scalar.toValue, ← readId]
      exact UInt64.toNat_inj.mp (Int.natCast_inj.mp hback)
    · rw [hid, hzero]
      rfl
  refine stageEntry_eq_ok_iff.mpr ⟨_, s.1, by rw [ArchiveTree.toValue], ?_, by rw [hread]⟩
  rw [lookup_toEntries, hdata, Option.map_some, ArchiveTree.toValue, Scalar.toValue]

/-- The stages under one key. -/
theorem stagesUnder_stored {entries : List (String × ArchiveTree)}
    {stored : String → List (Bytes × UInt64)} (h : StoredStages entries stored)
    {e : String × StageKind} (he : e ∈ stageKeys) :
    stagesUnder (ArchiveTree.toEntries entries) e =
      .ok ((stored e.1).map fun s => ⟨e.2, s.1, s.2⟩) := by
  rcases h e he with ⟨trees, htrees, hstages⟩ | ⟨hnone, hstored⟩
  · have harr : (ArchiveTree.toEntries entries).lookup e.1 =
        some (.array (trees.map ArchiveTree.toValue)) := by
      rw [lookup_toEntries, htrees, Option.map_some, ArchiveTree.toValue,
        ArchiveTree.toValues_eq_map]
    rw [stagesUnder_of_array harr, mapM_eq_ok_iff, List.forall₂_map_left_iff,
      List.forall₂_map_right_iff]
    exact hstages.imp fun t s => stageEntry_of_tree e.1 e.2
  · unfold stagesUnder
    rw [lookup_asArray_eq_none hnone, hstored]
    rfl

/-- The statistics under their key. -/
theorem performanceStatsOf_toEntries (entries : List (String × ArchiveTree)) :
    performanceStatsOf (ArchiveTree.toEntries entries) =
      expectedStats (entries.lookup "PerformanceStatistics") := by
  by_cases harr : ∃ elems, entries.lookup "PerformanceStatistics" = some (.arr elems)
  · obtain ⟨elems, helems⟩ := harr
    unfold performanceStatsOf
    rw [lookup_toEntries, helems, Option.map_some, Option.bind_some, ArchiveTree.toValue,
      ArchiveTree.toValues_eq_map, Value.asArray]
    rcases elems with _ | ⟨one, _ | ⟨two, rest⟩⟩
    · rfl
    · cases one with
      | leaf x => cases x <;> rfl
      | arr trees => rfl
      | dict metrics => rfl
    · simp [expectedStats, unsupportedStats]
  · have hnone : ∀ elems, entries.lookup "PerformanceStatistics" ≠ some (.arr elems) :=
      fun elems helems => harr ⟨elems, helems⟩
    have hstats : performanceStatsOf (ArchiveTree.toEntries entries) =
        .error (.badPipeline "no PerformanceStatistics") := by
      unfold performanceStatsOf
      rw [lookup_asArray_eq_none hnone]
    rw [hstats]
    cases htree : entries.lookup "PerformanceStatistics" with
    | none => rfl
    | some t =>
      cases t with
      | leaf x => rfl
      | arr elems => exact absurd htree (hnone elems)
      | dict fields => rfl

/-- From any archive of a pipeline: `stages` gives every archived stage back, in the order
    vertex, fragment, compute, with its bytes and its id, whatever else the archive holds;
    `performance_stats` gives the one dictionary of an array of statistics back and refuses every
    other shape. -/
theorem archived_pipeline_round_trip {fromBytes : Bytes → Except String Value} {p : Pipeline}
    {bytes : Bytes} {entries : List (String × ArchiveTree)}
    {stored : String → List (Bytes × UInt64)} (hraw : p.rawBytes = .ok bytes)
    (hfile : ArchivedFile fromBytes bytes entries) (hstored : StoredStages entries stored) :
    p.stages fromBytes = .ok (.ok (stageKeys.flatMap fun e =>
      (stored e.1).map fun s => ⟨e.2, s.1, s.2⟩)) ∧
    p.performanceStats fromBytes =
      .ok (expectedStats (entries.lookup "PerformanceStatistics")) := by
  have hroot := unarchiveRoot_of_file hfile
  constructor
  · have hloop : stageKeys.mapM (stagesUnder (ArchiveTree.toEntries entries)) =
        .ok (stageKeys.map fun e => (stored e.1).map fun s => ⟨e.2, s.1, s.2⟩) :=
      mapM_ok fun e he => stagesUnder_stored hstored he
    unfold Pipeline.stages
    rw [hraw, ok_bind, hroot, ok_bind, stagesOf, hloop, ok_bind, List.flatMap_def]
    rfl
  · unfold Pipeline.performanceStats
    rw [hraw, ok_bind, hroot, ok_bind, performanceStatsOf_toEntries]
    rfl

/-! ## A compute pipeline and a render pipeline -/

/-- The envelope of `compute` with one stage and of its statistics. -/
def computePipelineEnvelope : Value :=
  .dictionary [
    ("$objects", .array [
      .dictionary [("NS.keys", .array [.uid 1, .uid 2]), ("NS.objects", .array [.uid 3, .uid 4])],
      .string "compute",
      .string "PerformanceStatistics",
      .dictionary [("NS.objects", .array [.uid 5])],
      .dictionary [("NS.objects", .array [.uid 6])],
      .dictionary [("NS.keys", .array [.uid 7, .uid 8]), ("NS.objects", .array [.uid 9, .uid 10])],
      .dictionary [("NS.keys", .array [.uid 11]), ("NS.objects", .array [.uid 12])],
      .string "data",
      .string "uniqueId",
      .data [0xcf, 0xfa, 0xed, 0xfe],
      .integer 12,
      .string "ALU instruction count",
      .integer 9]),
    ("$top", .dictionary [("root", .uid 0)])]

/-- Its binary plist. -/
def computePipelineBytes : Bytes :=
  [0x62, 0x70, 0x6c, 0x69, 0x73, 0x74, 0x30, 0x30, 0xd2, 0x01, 0x02, 0x03, 0x27, 0x58, 0x24, 0x6f,
    0x62, 0x6a, 0x65, 0x63, 0x74, 0x73, 0x54, 0x24, 0x74, 0x6f, 0x70, 0xad, 0x04, 0x0d, 0x0e, 0x0f,
    0x12, 0x15, 0x1c, 0x21, 0x22, 0x23, 0x24, 0x25, 0x26, 0xd2, 0x05, 0x06, 0x07, 0x0a, 0x57, 0x4e,
    0x53, 0x2e, 0x6b, 0x65, 0x79, 0x73, 0x5a, 0x4e, 0x53, 0x2e, 0x6f, 0x62, 0x6a, 0x65, 0x63, 0x74,
    0x73, 0xa2, 0x08, 0x09, 0x80, 0x01, 0x80, 0x02, 0xa2, 0x0b, 0x0c, 0x80, 0x03, 0x80, 0x04, 0x57,
    0x63, 0x6f, 0x6d, 0x70, 0x75, 0x74, 0x65, 0x5f, 0x10, 0x15, 0x50, 0x65, 0x72, 0x66, 0x6f, 0x72,
    0x6d, 0x61, 0x6e, 0x63, 0x65, 0x53, 0x74, 0x61, 0x74, 0x69, 0x73, 0x74, 0x69, 0x63, 0x73, 0xd1,
    0x06, 0x10, 0xa1, 0x11, 0x80, 0x05, 0xd1, 0x06, 0x13, 0xa1, 0x14, 0x80, 0x06, 0xd2, 0x05, 0x06,
    0x16, 0x19, 0xa2, 0x17, 0x18, 0x80, 0x07, 0x80, 0x08, 0xa2, 0x1a, 0x1b, 0x80, 0x09, 0x80, 0x0a,
    0xd2, 0x05, 0x06, 0x1d, 0x1f, 0xa1, 0x1e, 0x80, 0x0b, 0xa1, 0x20, 0x80, 0x0c, 0x54, 0x64, 0x61,
    0x74, 0x61, 0x58, 0x75, 0x6e, 0x69, 0x71, 0x75, 0x65, 0x49, 0x64, 0x44, 0xcf, 0xfa, 0xed, 0xfe,
    0x10, 0x0c, 0x5f, 0x10, 0x15, 0x41, 0x4c, 0x55, 0x20, 0x69, 0x6e, 0x73, 0x74, 0x72, 0x75, 0x63,
    0x74, 0x69, 0x6f, 0x6e, 0x20, 0x63, 0x6f, 0x75, 0x6e, 0x74, 0x10, 0x09, 0xd1, 0x28, 0x29, 0x54,
    0x72, 0x6f, 0x6f, 0x74, 0x80, 0x00, 0x08, 0x0d, 0x16, 0x1b, 0x29, 0x2e, 0x36, 0x41, 0x44, 0x46,
    0x48, 0x4b, 0x4d, 0x4f, 0x57, 0x6f, 0x72, 0x74, 0x76, 0x79, 0x7b, 0x7d, 0x82, 0x85, 0x87, 0x89,
    0x8c, 0x8e, 0x90, 0x95, 0x97, 0x99, 0x9b, 0x9d, 0xa2, 0xab, 0xb0, 0xb2, 0xca, 0xcc, 0xcf, 0xd4,
    0x00, 0x00, 0x00, 0x00, 0x00, 0x00, 0x01, 0x01, 0x00, 0x00, 0x00, 0x00, 0x00, 0x00, 0x00, 0x2a,
    0x00, 0x00, 0x00, 0x00, 0x00, 0x00, 0x00, 0x00, 0x00, 0x00, 0x00, 0x00, 0x00, 0x00, 0x00, 0xd6]

/-- What it is archived from. -/
def computePipelineEntries : List (String × ArchiveTree) :=
  [("compute", .arr [.dict [("data", .leaf (.data [0xcf, 0xfa, 0xed, 0xfe])),
      ("uniqueId", .leaf (.integer 12))]]),
    ("PerformanceStatistics", .arr [.dict [("ALU instruction count", .leaf (.integer 9))]])]

theorem archived_computePipeline :
    ArchivedFile (decodesTo computePipelineBytes computePipelineEnvelope) computePipelineBytes
      computePipelineEntries where
  archived := by
    refine ⟨_, _, _, 0, if_pos rfl, rfl, rfl, rfl, ?_⟩
    apply @Archived.dict_two _ 0 1 2 3 4 _ _ _ rfl rfl rfl rfl rfl
    · apply @Archived.arr_one _ 3 5 _ _ rfl rfl rfl
      exact @Archived.dict_two _ 5 7 8 9 10 _ _ _ rfl rfl rfl rfl rfl (.leaf rfl) (.leaf rfl)
    · apply @Archived.arr_one _ 4 6 _ _ rfl rfl rfl
      exact @Archived.dict_one _ 6 11 12 _ _ rfl rfl rfl rfl (.leaf rfl)
  distinct := .dict_two (by decide)
    (.arr_one (.dict_two (by decide) (.leaf _) (.leaf _))) (.arr_one (.dict_one (.leaf _)))
  height := by decide

/-- What the render pipeline is archived from. -/
def renderPipelineEntries : List (String × ArchiveTree) :=
  [("vertex", .arr [.dict [("data", .leaf (.data [0xcf, 0xfa, 0xed, 0xfe, 0x01])),
      ("uniqueId", .leaf (.integer 7))]]),
    ("fragment", .arr [.dict [("data", .leaf (.data [0xcf, 0xfa, 0xed, 0xfe, 0x02])),
      ("uniqueId", .leaf (.integer 8))]]),
    ("vertex-dynamic-libraries", .arr []),
    ("fragment-dynamic-libraries", .arr []),
    ("PerformanceStatistics", .dict [
      ("Vertex Shader", .dict [("ALU instruction count", .leaf (.integer 9))]),
      ("Fragment Shader", .dict [("ALU instruction count", .leaf (.integer 14))])])]

theorem archived_renderPipeline :
    ArchivedFile (decodesTo renderBytes renderEnvelope) renderBytes renderPipelineEntries where
  archived := by
    refine ⟨_, _, _, 0, if_pos rfl, rfl, rfl, rfl, ?_⟩
    refine @Archived.dict _ 0 _ [1, 2, 3, 4, 5] [6, 7, 8, 8, 9] _ rfl rfl rfl rfl rfl ?_ ?_
    · simp [renderPipelineEntries]
    · simp only [renderPipelineEntries, List.zip_cons_cons, List.zip_nil_right,
        List.forall_mem_cons, List.not_mem_nil, false_imp_iff, implies_true, and_true]
      refine ⟨?_, ?_, ?_, ?_, ?_⟩
      · apply @Archived.arr_one _ 6 10 _ _ rfl rfl rfl
        exact @Archived.dict_two _ 10 16 17 18 19 _ _ _ rfl rfl rfl rfl rfl (.leaf rfl) (.leaf rfl)
      · apply @Archived.arr_one _ 7 11 _ _ rfl rfl rfl
        exact @Archived.dict_two _ 11 16 17 20 21 _ _ _ rfl rfl rfl rfl rfl (.leaf rfl) (.leaf rfl)
      · exact @Archived.arr _ 8 _ [] _ rfl rfl rfl rfl (by simp)
      · exact @Archived.arr _ 8 _ [] _ rfl rfl rfl rfl (by simp)
      · apply @Archived.dict_two _ 9 12 13 14 15 _ _ _ rfl rfl rfl rfl rfl
        · exact @Archived.dict_one _ 14 22 23 _ _ rfl rfl rfl rfl (.leaf rfl)
        · exact @Archived.dict_one _ 15 22 24 _ _ rfl rfl rfl rfl (.leaf rfl)
  distinct := by
    refine .dict (by decide) ?_
    simp only [renderPipelineEntries, List.forall_mem_cons, List.not_mem_nil, false_imp_iff,
      implies_true, and_true]
    exact ⟨.arr_one (.dict_two (by decide) (.leaf _) (.leaf _)),
      .arr_one (.dict_two (by decide) (.leaf _) (.leaf _)), .arr (by simp), .arr (by simp),
      .dict_two (by decide) (.dict_one (.leaf _)) (.dict_one (.leaf _))⟩
  height := by decide

/-- Both read back; the statistics of the render pipeline are refused. -/
theorem archived_pipeline_round_trip_bothPipelines :
    ((pipelineOf computePipelineBytes).stages
        (decodesTo computePipelineBytes computePipelineEnvelope) =
      .ok (.ok [⟨.compute, [0xcf, 0xfa, 0xed, 0xfe], 12⟩]) ∧
    (pipelineOf computePipelineBytes).performanceStats
        (decodesTo computePipelineBytes computePipelineEnvelope) =
      .ok (.ok ⟨[("ALU instruction count", .integer 9)]⟩)) ∧
    ((pipelineOf renderBytes).stages (decodesTo renderBytes renderEnvelope) =
      .ok (.ok [⟨.vertex, [0xcf, 0xfa, 0xed, 0xfe, 0x01], 7⟩,
        ⟨.fragment, [0xcf, 0xfa, 0xed, 0xfe, 0x02], 8⟩]) ∧
    (pipelineOf renderBytes).performanceStats (decodesTo renderBytes renderEnvelope) =
      .ok (.error (.badPipeline "no PerformanceStatistics"))) := by
  have hcompute : StoredStages computePipelineEntries
      fun key => if key = "compute" then [([0xcf, 0xfa, 0xed, 0xfe], 12)] else [] := by
    unfold StoredStages
    simp only [stageKeys, List.forall_mem_cons, List.not_mem_nil, false_imp_iff, implies_true,
      and_true]
    exact ⟨.inr ⟨fun _ h => (by cases h), rfl⟩, .inr ⟨fun _ h => (by cases h), rfl⟩,
      .inl ⟨_, rfl, .cons ⟨_, rfl, rfl, .inl rfl⟩ .nil⟩⟩
  have hrender : StoredStages renderPipelineEntries
      fun key => if key = "vertex" then [([0xcf, 0xfa, 0xed, 0xfe, 0x01], 7)]
        else if key = "fragment" then [([0xcf, 0xfa, 0xed, 0xfe, 0x02], 8)] else [] := by
    unfold StoredStages
    simp only [stageKeys, List.forall_mem_cons, List.not_mem_nil, false_imp_iff, implies_true,
      and_true]
    exact ⟨.inl ⟨_, rfl, .cons ⟨_, rfl, rfl, .inl rfl⟩ .nil⟩,
      .inl ⟨_, rfl, .cons ⟨_, rfl, rfl, .inl rfl⟩ .nil⟩,
      .inr ⟨fun _ h => (by cases h), rfl⟩⟩
  exact ⟨archived_pipeline_round_trip (rawBytes_pipelineOf (by decide +kernel))
      archived_computePipeline hcompute,
    archived_pipeline_round_trip (rawBytes_pipelineOf (by decide +kernel))
      archived_renderPipeline hrender⟩

end GputoolsReplay
