/-
  What a decoded record says about its chunk.

  A record class reads typed fields (`typedList`) and keeps words verbatim
  (`unmappedOffsets`), so a decoded record determines exactly the bytes these cover. Two
  classes leave bytes uncovered (`dropped`):

  * a texture record takes the high half of the word at 0x48 and the two low bytes of the
    word at 0x4c, and keeps neither word in `unmapped`;
  * a wireframe record takes the low half of the word at 0x34 and does not keep that word.

  The other four classes determine every bit of the chunk (`record_determines_chunk_iff`).
-/
import GputoolsReplay.Substrate.Reply

namespace GputoolsReplay

open RustSem
open LawfulRecord (ofChunk)

/-! ## The bytes a class reads -/

/-- The `(offset, length)` of the bytes behind every typed field of a class. -/
def typedList : RecordClass → List (Nat × Nat)
  | .texture => [(0x00, 4), (0x08, 4), (0x18, 4), (0x1c, 4), (0x30, 4), (0x34, 2), (0x36, 2),
      (0x38, 4), (0x40, 4), (0x44, 4), (0x4a, 2), (0x4d, 1), (0x4c, 1)]
  | .buffer | .heap | .accel => [(0x08, 4), (0x18, 4), (0x1c, 4)]
  | .pipeline => [(0x00, 4), (0x08, 8), (0x18, 4), (0x1c, 4)]
  | .wireframe => [(0x10, 4), (0x30, 4), (0x34, 2), (0x38, 4), (0x18, 4), (0x1c, 4)]

/-- The table of offsets a class keeps in `unmapped`. -/
def unmappedOffsets : RecordClass → List Nat
  | .texture => textureUnmapped
  | .buffer | .heap | .accel => identityUnmapped
  | .pipeline => pipelineUnmapped
  | .wireframe => wireframeUnmapped

/-- The `(offset, length)` of all bytes a class reads. -/
def fields (k : RecordClass) : List (Nat × Nat) := typedList k ++ (unmappedOffsets k).map (·, 4)

/-- The bytes of a chunk that a class neither interprets nor keeps in `unmapped`. -/
def dropped : RecordClass → List Nat
  | .texture => [0x48, 0x49, 0x4e, 0x4f]
  | .wireframe => [0x36, 0x37]
  | _ => []

theorem fields_inside (k : RecordClass) : ∀ f ∈ fields k, f.1 + f.2 ≤ 80 := by
  cases k <;> decide

/-- The fields cover every byte but the dropped ones. -/
theorem fields_cover (k : RecordClass) :
    ∀ i, i < 80 → ((∃ f ∈ fields k, f.1 ≤ i ∧ i < f.1 + f.2) ↔ i ∉ dropped k) := by
  cases k <;> decide

theorem unmappedOffsets_table (k : RecordClass) :
    ((unmappedOffsets k).map offsetName).Nodup ∧
      ∀ o ∈ unmappedOffsets k, o + 4 ≤ 80 ∧ o % 4 = 0 := by
  cases k <;> decide

/-- A slot that is not kept verbatim has its undropped bytes in typed fields. -/
theorem typedList_cover (k : RecordClass) {s i : Nat} (hs : s < 20) (hi : i < 4)
    (hu : 4 * s ∉ unmappedOffsets k) (hd : 4 * s + i ∉ dropped k) :
    ∃ f ∈ typedList k, f.1 ≤ 4 * s + i ∧ 4 * s + i < f.1 + f.2 := by
  obtain ⟨f, hf, hlo, hhi⟩ := (fields_cover k (4 * s + i) (by omega)).mpr hd
  rcases List.mem_append.mp hf with hf | hf
  · exact ⟨f, hf, hlo, hhi⟩
  · obtain ⟨o, ho, rfl⟩ := List.mem_map.mp hf
    have hal := ((unmappedOffsets_table k).2 o ho).2
    dsimp only at hlo hhi
    exact absurd ((by omega : o = 4 * s) ▸ ho) hu

/-- The twenty names `offset_name` gives to the slots of a chunk are distinct. -/
theorem offsetName_injective :
    ∀ s, s < 20 → ∀ t, t < 20 → offsetName (4 * s) = offsetName (4 * t) → s = t := by
  decide

/-! ## Typed fields and the `unmapped` map -/

/-- `unmapped` of a record of any class. -/
def unmappedField : (k : RecordClass) → k.Rec → Unmapped
  | .texture, r => TextureRecord.unmapped r
  | .buffer, r | .heap, r | .accel, r => IdentityRecord.unmapped r
  | .pipeline, r => PipelineRecord.unmapped r
  | .wireframe, r => WireframeRecord.unmapped r

def TextureRecord.typed (r : TextureRecord) : TextureRecord := { r with unmapped := ∅ }
def IdentityRecord.typed (r : IdentityRecord) : IdentityRecord := { r with unmapped := ∅ }
def PipelineRecord.typed (r : PipelineRecord) : PipelineRecord := { r with unmapped := ∅ }
def WireframeRecord.typed (r : WireframeRecord) : WireframeRecord := { r with unmapped := ∅ }

/-- A record of any class with an empty `unmapped` map: its typed fields alone. -/
def typedFields : (k : RecordClass) → k.Rec → k.Rec
  | .texture, r => TextureRecord.typed r
  | .buffer, r | .heap, r | .accel, r => IdentityRecord.typed r
  | .pipeline, r => PipelineRecord.typed r
  | .wireframe, r => WireframeRecord.typed r

theorem unmappedField_ofChunk (k : RecordClass) (b : Bytes) :
    unmappedField k (ofChunk b) = unmappedWords b (unmappedOffsets k) ∅ := by
  cases k <;> rfl

theorem TextureRecord.eq_iff (r r' : TextureRecord) :
    r = r' ↔ r.typed = r'.typed ∧ r.unmapped = r'.unmapped := by
  cases r; cases r'; simp [TextureRecord.typed, and_assoc]

theorem IdentityRecord.eq_iff (r r' : IdentityRecord) :
    r = r' ↔ r.typed = r'.typed ∧ r.unmapped = r'.unmapped := by
  cases r; cases r'; simp [IdentityRecord.typed, and_assoc]

theorem PipelineRecord.eq_iff (r r' : PipelineRecord) :
    r = r' ↔ r.typed = r'.typed ∧ r.unmapped = r'.unmapped := by
  cases r; cases r'; simp [PipelineRecord.typed, and_assoc]

theorem WireframeRecord.eq_iff (r r' : WireframeRecord) :
    r = r' ↔ r.typed = r'.typed ∧ r.unmapped = r'.unmapped := by
  cases r; cases r'; simp [WireframeRecord.typed, and_assoc]

/-- A record is its typed fields and its `unmapped` map. -/
theorem record_eq_iff (k : RecordClass) (r r' : k.Rec) :
    r = r' ↔ typedFields k r = typedFields k r' ∧ unmappedField k r = unmappedField k r' := by
  cases k with
  | texture => exact TextureRecord.eq_iff r r'
  | buffer => exact IdentityRecord.eq_iff r r'
  | heap => exact IdentityRecord.eq_iff r r'
  | accel => exact IdentityRecord.eq_iff r r'
  | pipeline => exact PipelineRecord.eq_iff r r'
  | wireframe => exact WireframeRecord.eq_iff r r'

/-! ## Equal records are equal bytes -/

section Pair

variable {b b' : Bytes}

theorem le32_high_eq_iff {o : Nat} (h : o + 4 ≤ b.length) (h' : o + 4 ≤ b'.length) :
    le32 b o >>> 16 = le32 b' o >>> 16 ↔ window b (o + 2) 2 = window b' (o + 2) 2 := by
  rw [← UInt32.toNat_inj, le32_shiftRight_sixteen b o h, le32_shiftRight_sixteen b' o h',
    leNat_window_eq_iff (by omega) (by omega)]

theorem le32_low_eq_iff {o : Nat} (h : o + 4 ≤ b.length) (h' : o + 4 ≤ b'.length) :
    le32 b o &&& 0xff = le32 b' o &&& 0xff ↔ window b o 1 = window b' o 1 := by
  rw [← UInt32.toNat_inj, le32_and_low b o h, le32_and_low b' o h',
    leNat_window_eq_iff (by omega) (by omega)]

theorem le32_second_eq_iff {o : Nat} (h : o + 4 ≤ b.length) (h' : o + 4 ≤ b'.length) :
    (le32 b o >>> 8) &&& (0xff : UInt32) = (le32 b' o >>> 8) &&& 0xff ↔
      window b (o + 1) 1 = window b' (o + 1) 1 := by
  rw [← UInt32.toNat_inj, le32_shiftRight_and b o h, le32_shiftRight_and b' o h',
    leNat_window_eq_iff (by omega) (by omega)]

theorem words_eq_iff (h : b.length = 80) (h' : b'.length = 80) :
    (∀ o, o + 4 ≤ 80 → (le32 b o = le32 b' o ↔ window b o 4 = window b' o 4)) ∧
    (∀ o, o + 2 ≤ 80 → (le16 b o = le16 b' o ↔ window b o 2 = window b' o 2)) :=
  ⟨fun _ _ => le32_eq_iff (by omega) (by omega), fun _ _ => le16_eq_iff (by omega) (by omega)⟩

theorem texture_typed_eq_iff (h : b.length = 80) (h' : b'.length = 80) :
    (TextureRecord.ofChunk b).typed = (TextureRecord.ofChunk b').typed ↔
      ∀ f ∈ typedList .texture, window b f.1 f.2 = window b' f.1 f.2 := by
  obtain ⟨e4, e2⟩ := words_eq_iff h h'
  have hslice := @le32_high_eq_iff b b' 0x48 (by omega) (by omega)
  have hplane := @le32_second_eq_iff b b' 0x4c (by omega) (by omega)
  have hlevel := @le32_low_eq_iff b b' 0x4c (by omega) (by omega)
  simp only [TextureRecord.typed, TextureRecord.ofChunk, TextureRecord.mk.injEq, hslice, hplane, hlevel,
    typedList, List.forall_mem_cons, List.not_mem_nil, false_imp_iff, implies_true, and_true]
  rw [e4 0x00 (by decide), e4 0x08 (by decide), e4 0x18 (by decide), e4 0x1c (by decide),
    e4 0x30 (by decide), e2 0x34 (by decide), e2 0x36 (by decide), e4 0x38 (by decide),
    e4 0x40 (by decide), e4 0x44 (by decide)]
  tauto

theorem identity_typed_eq_iff (h : b.length = 80) (h' : b'.length = 80) :
    (IdentityRecord.ofChunk b).typed = (IdentityRecord.ofChunk b').typed ↔
      ∀ f ∈ typedList .buffer, window b f.1 f.2 = window b' f.1 f.2 := by
  obtain ⟨e4, -⟩ := words_eq_iff h h'
  simp only [IdentityRecord.typed, IdentityRecord.ofChunk, IdentityRecord.mk.injEq, typedList,
    List.forall_mem_cons, List.not_mem_nil, false_imp_iff, implies_true, and_true]
  rw [e4 0x08 (by decide), e4 0x18 (by decide), e4 0x1c (by decide)]

theorem pipeline_typed_eq_iff (h : b.length = 80) (h' : b'.length = 80) :
    (PipelineRecord.ofChunk b).typed = (PipelineRecord.ofChunk b').typed ↔
      ∀ f ∈ typedList .pipeline, window b f.1 f.2 = window b' f.1 f.2 := by
  obtain ⟨e4, -⟩ := words_eq_iff h h'
  have hhandle := @le64_eq_iff b b' 0x08 (by omega) (by omega)
  simp only [PipelineRecord.typed, PipelineRecord.ofChunk, PipelineRecord.mk.injEq, hhandle, typedList,
    List.forall_mem_cons, List.not_mem_nil, false_imp_iff, implies_true, and_true]
  rw [e4 0x00 (by decide), e4 0x18 (by decide), e4 0x1c (by decide)]

theorem wireframe_typed_eq_iff (h : b.length = 80) (h' : b'.length = 80) :
    (WireframeRecord.ofChunk b).typed = (WireframeRecord.ofChunk b').typed ↔
      ∀ f ∈ typedList .wireframe, window b f.1 f.2 = window b' f.1 f.2 := by
  obtain ⟨e4, e2⟩ := words_eq_iff h h'
  simp only [WireframeRecord.typed, WireframeRecord.ofChunk, WireframeRecord.mk.injEq, typedList,
    List.forall_mem_cons, List.not_mem_nil, false_imp_iff, implies_true, and_true]
  rw [e4 0x10 (by decide), e4 0x30 (by decide), e2 0x34 (by decide), e4 0x38 (by decide),
    e4 0x18 (by decide), e4 0x1c (by decide)]

/-- Two chunks decode to the same typed fields exactly when they agree on their bytes. -/
theorem typedFields_eq_iff (k : RecordClass) (h : b.length = 80) (h' : b'.length = 80) :
    typedFields k (ofChunk b) = typedFields k (ofChunk b') ↔
      ∀ f ∈ typedList k, window b f.1 f.2 = window b' f.1 f.2 := by
  cases k with
  | texture => exact texture_typed_eq_iff h h'
  | buffer => exact identity_typed_eq_iff h h'
  | heap => exact identity_typed_eq_iff h h'
  | accel => exact identity_typed_eq_iff h h'
  | pipeline => exact pipeline_typed_eq_iff h h'
  | wireframe => exact wireframe_typed_eq_iff h h'

theorem unmappedField_eq_iff (k : RecordClass) (h : b.length = 80) (h' : b'.length = 80) :
    unmappedField k (ofChunk b) = unmappedField k (ofChunk b') ↔
      ∀ o ∈ unmappedOffsets k, window b o 4 = window b' o 4 := by
  obtain ⟨hd, ho⟩ := unmappedOffsets_table k
  rw [unmappedField_ofChunk, unmappedField_ofChunk, unmappedWords_eq_iff hd]
  exact forall₂_congr fun o hm => (words_eq_iff h h').1 o (ho o hm).1

/-- Two chunks decode to the same record exactly when they agree off the dropped bytes. -/
theorem ofChunk_eq_iff (k : RecordClass) (h : b.length = 80) (h' : b'.length = 80) :
    (ofChunk b : k.Rec) = ofChunk b' ↔ ∀ i, i < 80 → i ∉ dropped k → b[i]? = b'[i]? := by
  have hfields : (ofChunk b : k.Rec) = ofChunk b' ↔
      ∀ f ∈ fields k, window b f.1 f.2 = window b' f.1 f.2 := by
    rw [record_eq_iff, typedFields_eq_iff k h h', unmappedField_eq_iff k h h', fields,
      List.forall_mem_append, List.forall_mem_map]
  rw [hfields]
  constructor
  · intro hf i hi hd
    obtain ⟨f, hm, hlo, hhi⟩ := (fields_cover k i hi).mpr hd
    have := window_eq_iff.mp (hf f hm) (i - f.1) (by omega)
    rwa [Nat.add_sub_cancel' hlo] at this
  · intro hb f hm
    rw [window_eq_iff]
    intro i hi
    have hin := fields_inside k f hm
    exact hb (f.1 + i) (by omega) ((fields_cover k _ (by omega)).mp ⟨f, hm, by omega, by omega⟩)

/-- Chunks that differ differ in some byte. -/
theorem chunk_ne_iff (h : b.length = 80) (h' : b'.length = 80) :
    b ≠ b' ↔ ∃ i, i < 80 ∧ b[i]? ≠ b'[i]? := by
  constructor
  · intro hne
    by_contra hall
    push Not at hall
    refine hne (List.ext_getElem? fun i => ?_)
    by_cases hi : i < 80
    · exact hall i hi
    · rw [List.getElem?_eq_none (by omega), List.getElem?_eq_none (by omega)]
  · rintro ⟨i, -, hi⟩ rfl
    exact hi rfl

end Pair

/-! ## Slots -/

/-- The typed fields of a class determine slot `s` of a chunk. -/
def SlotTyped (k : RecordClass) (s : Nat) : Prop :=
  ∀ b b' : Bytes, b.length = 80 → b'.length = 80 →
    typedFields k (ofChunk b) = typedFields k (ofChunk b') → le32 b (4 * s) = le32 b' (4 * s)

/-- A class keeps slot `s` of a chunk verbatim in `unmapped`, under the slot's own name. -/
def SlotVerbatim (k : RecordClass) (s : Nat) : Prop :=
  ∀ b : Bytes, b.length = 80 →
    (unmappedField k (ofChunk b)).lookup (offsetName (4 * s)) = some (le32 b (4 * s))

/-- A chunk of zeros. -/
def zeroChunk : Bytes := List.replicate 80 0

/-- A chunk of zeros but for one byte. -/
def markedChunk (i : Nat) : Bytes := zeroChunk.set i 1

theorem markedChunk_getElem? {i j : Nat} (hi : i < 80) (hj : j < 80) :
    (markedChunk i)[j]? = zeroChunk[j]? ↔ i ≠ j := by
  unfold markedChunk zeroChunk
  rw [List.getElem?_set, List.length_replicate, List.getElem?_replicate, if_pos hj, if_pos hi]
  by_cases h : i = j <;> simp [h]

/-- Marking a dropped byte does not change the record. -/
theorem ofChunk_markedChunk (k : RecordClass) {i : Nat} (hi : i < 80) (hd : i ∈ dropped k) :
    (ofChunk (markedChunk i) : k.Rec) = ofChunk zeroChunk := by
  rw [ofChunk_eq_iff k (by simp [markedChunk, zeroChunk]) (by simp [zeroChunk])]
  intro j hj hnd
  rw [markedChunk_getElem? hi hj]
  rintro rfl
  exact hnd hd

theorem le32_markedChunk {s i : Nat} (hs : s < 20) (hi : i < 4) :
    le32 (markedChunk (4 * s + i)) (4 * s) ≠ le32 zeroChunk (4 * s) := by
  rw [Ne, le32_eq_iff (by simp [markedChunk, zeroChunk]; omega) (by simp [zeroChunk]; omega),
    window_eq_iff]
  intro h
  exact (markedChunk_getElem? (by omega) (by omega)).mp (h i hi) rfl

/-- A slot is held by the record exactly when none of its bytes is dropped. -/
theorem slot_kept_iff (k : RecordClass) {s : Nat} (hs : s < 20) :
    SlotTyped k s ∨ SlotVerbatim k s ↔ ∀ i, i < 4 → 4 * s + i ∉ dropped k := by
  constructor
  · intro h i hi hd
    have hrec := ofChunk_markedChunk k (by omega : 4 * s + i < 80) hd
    have hm : (markedChunk (4 * s + i)).length = 80 := by simp [markedChunk, zeroChunk]
    have hz : zeroChunk.length = 80 := by simp [zeroChunk]
    apply le32_markedChunk hs hi
    rcases h with h | h
    · exact h _ _ hm hz (by rw [hrec])
    · have h1 := h _ hm
      rw [hrec, h _ hz] at h1
      exact (Option.some.inj h1).symm
  · intro h
    by_cases hu : 4 * s ∈ unmappedOffsets k
    · right
      intro b hc
      rw [unmappedField_ofChunk]
      exact lookup_unmappedWords (unmappedOffsets_table k).1 hu
    · left
      intro b b' hc hc' ht
      rw [le32_eq_iff (by omega) (by omega), window_eq_iff]
      intro i hi
      obtain ⟨f, hm, hlo, hhi⟩ := typedList_cover k hs hi hu (h i hi)
      have := window_eq_iff.mp ((typedFields_eq_iff k hc hc').mp ht f hm) (4 * s + i - f.1) (by omega)
      rwa [Nat.add_sub_cancel' hlo] at this

/-! ## Which records determine their chunk -/

/-- A class has a re-encoder that undoes its decoder on every 80-byte chunk. -/
def HasReencoder (k : RecordClass) : Prop :=
  ∃ encode : k.Rec → Bytes, ∀ b : Bytes, b.length = 80 →
    (Record.decode b : Rust k.Rec).map encode = .ok b

theorem hasReencoder_iff (k : RecordClass) : HasReencoder k ↔ dropped k = [] := by
  constructor
  · intro h
    obtain ⟨encode, h⟩ := h
    by_contra hne
    obtain ⟨i, hd⟩ := List.exists_mem_of_ne_nil _ hne
    have hi : i < 80 := by cases k <;> revert i <;> decide
    have hm : (markedChunk i).length = 80 := by simp [markedChunk, zeroChunk]
    have hz : zeroChunk.length = 80 := by simp [zeroChunk]
    have h1 := h _ hm
    have h2 := h _ hz
    rw [LawfulRecord.decode_eq _ hm, ofChunk_markedChunk k hi hd] at h1
    rw [LawfulRecord.decode_eq _ hz] at h2
    have heq : markedChunk i = zeroChunk := Except.ok.inj (h1.symm.trans h2)
    exact (markedChunk_getElem? hi hi).mp (by rw [heq]) rfl
  · intro hnil
    classical
    refine ⟨fun r => if h : ∃ b : Bytes, b.length = 80 ∧ ofChunk b = r then h.choose else [], ?_⟩
    intro b hc
    have hex : ∃ b' : Bytes, b'.length = 80 ∧ (ofChunk b' : k.Rec) = ofChunk b := ⟨b, hc, rfl⟩
    rw [LawfulRecord.decode_eq b hc]
    change Except.ok (dite _ _ _) = _
    rw [dif_pos hex]
    have hb := (ofChunk_eq_iff k hex.choose_spec.1 hc).mp hex.choose_spec.2
    by_contra hne
    obtain ⟨i, hi, hbi⟩ := (chunk_ne_iff hex.choose_spec.1 hc).mp fun e => hne (congrArg _ e)
    exact hbi (hb i hi (by rw [hnil]; exact List.not_mem_nil))

/-- Two chunks that differ decode to different records of a class exactly when they differ
    outside the bytes the class drops. Hence the class has a re-encoder exactly when it
    drops nothing, and a 4-byte slot is covered by the typed fields or kept verbatim under
    its own name exactly when none of its bytes is dropped. -/
theorem record_determines_chunk_iff (k : RecordClass) :
    (∀ b b' : Bytes, b.length = 80 → b'.length = 80 → b ≠ b' →
      ((Record.decode b : Rust k.Rec) ≠ Record.decode b' ↔
        ∃ i, i < 80 ∧ i ∉ dropped k ∧ b[i]? ≠ b'[i]?)) ∧
    (HasReencoder k ↔ k ≠ .texture ∧ k ≠ .wireframe) ∧
    ∀ s, s < 20 → (SlotTyped k s ∨ SlotVerbatim k s ↔ ∀ i, i < 4 → 4 * s + i ∉ dropped k) := by
  refine ⟨?_, ?_, fun s hs => slot_kept_iff k hs⟩
  · intro b b' hc hc' _
    rw [LawfulRecord.decode_eq b hc, LawfulRecord.decode_eq b' hc', Ne, Except.ok.injEq,
      ofChunk_eq_iff k hc hc']
    push Not
    rfl
  · rw [hasReencoder_iff]
    cases k <;> simp [dropped]

/-- A set bit in the low half of the slice word is lost: the chunk decodes to the texture
    record of the zero chunk, so no re-encoder recovers both. -/
theorem texture_record_loses_slice_half :
    (markedChunk 0x48).length = 80 ∧ zeroChunk.length = 80 ∧ markedChunk 0x48 ≠ zeroChunk ∧
      (Record.decode (markedChunk 0x48) : Rust TextureRecord) = Record.decode zeroChunk ∧
      ¬ HasReencoder .texture := by
  refine ⟨by decide, by decide, by decide, ?_, ?_⟩
  · rw [LawfulRecord.decode_eq _ (by decide), LawfulRecord.decode_eq _ (by decide)]
    exact congrArg Except.ok (ofChunk_markedChunk .texture (by decide) (by decide))
  · rw [hasReencoder_iff]
    decide

end GputoolsReplay
