/-
  The framework's side of the capture block (dossier 02): the helpers that build a block and
  the getter that finds its payload, as the dossier documents them.

  * `harvested_roundtrip`: a block built plane by plane parses back to the planes and the
    payload it was built from.
  * `getData_agrees_iff`: the payload starts where the framework's getter says, except in a
    block of version 1.
-/
import Mathlib.Data.List.Induction
import GputoolsReplay.Lib.Strided
import GputoolsReplay.Substrate.Harvester

namespace GputoolsReplay

open RustSem

/-! ## The producer -/

/-- `_GTHarvesterGetTextureMetadataRequiredSize`: `(0x30 * count + 0x117) & ~0xff`. -/
def getTextureMetadataRequiredSize (count : Nat) : Nat :=
  let size := 0x30 * count + 0x117
  size - size % 0x100

/-- `_GTHarvesterInitMetadata`: a zeroed block of `metadataSize` bytes with its header. -/
def initMetadata (ty : UInt16) (metadataSize : UInt32) : Bytes :=
  let block := List.replicate metadataSize.toNat 0
  let block := overwrite block 0 captureMagic
  let block := overwrite block 0x08 (leBytes 2 2)
  let block := overwrite block typeOff (leBytes 2 ty.toNat)
  overwrite block metadataSizeOff (leBytes 4 metadataSize.toNat)

/-- `_GTHarvesterAddTexturePlane`: copies a descriptor behind the planes that are there and
    increments the plane count. -/
def addTexturePlane (block desc : Bytes) : Bytes :=
  let planeCount := le64 block planeCountOff
  let block := overwrite block (headerLen + planeCount.toNat * planeDescLen) desc
  overwrite block planeCountOff (leBytes 8 (planeCount + 1).toNat)

/-- The six `u64` fields of a descriptor. -/
def PlaneDescriptor.fields (d : PlaneDescriptor) : List Nat :=
  [d.pixelFormat.toNat, d.width.toNat, d.height.toNat, d.depth.toNat, d.bytesPerRow.toNat,
    d.bytesPerImage.toNat]

def PlaneDescriptor.encode (d : PlaneDescriptor) : Bytes := (d.fields.map (leBytes 8)).flatten

/-- The metadata of a harvested texture: `InitMetadata`, then `AddTexturePlane` once for every
    plane. -/
def harvestMetadata (descs : List PlaneDescriptor) : Bytes :=
  descs.foldl (fun block d => addTexturePlane block d.encode)
    (initMetadata 1 (UInt32.ofNat (getTextureMetadataRequiredSize descs.length)))

/-- A harvested block: its metadata and its payload. -/
def harvestTexture (descs : List PlaneDescriptor) (payload : Bytes) : Bytes :=
  harvestMetadata descs ++ payload

/-! ## A descriptor reads back -/

theorem length_of_mem_fields {d : PlaneDescriptor} :
    ∀ f ∈ d.fields.map (leBytes 8), f.length = 8 := by
  intro f hf
  obtain ⟨x, -, rfl⟩ := List.mem_map.mp hf
  exact length_leBytes 8 x

theorem PlaneDescriptor.length_encode (d : PlaneDescriptor) : d.encode.length = planeDescLen := by
  unfold encode
  rw [length_flatten length_of_mem_fields]
  rfl

/-- Field `i` of a descriptor that was written at `o`. -/
theorem window_field {b : Bytes} {o : Nat} {d : PlaneDescriptor}
    (h : window b o planeDescLen = d.encode) (i : Nat) (hi : i < 6) :
    window b (o + i * 8) 8 = leBytes 8 (d.fields.get ⟨i, hi⟩) := by
  have hw := window_window b (o := o) (n := planeDescLen) (p := i * 8) (m := 8)
    (by unfold planeDescLen; omega)
  rw [← hw, h, PlaneDescriptor.encode, window_flatten length_of_mem_fields (by rwa [List.length_map]),
    List.getElem_map]
  rfl

theorem descriptorAt_of_window {b : Bytes} {o : Nat} {d : PlaneDescriptor}
    (h : window b o planeDescLen = d.encode) : CaptureBlock.descriptorAt b o = d := by
  have hfield := window_field h
  have hformat : le64 b o = d.pixelFormat.toUInt64 := le64_of_window (hfield 0 (by decide))
  unfold CaptureBlock.descriptorAt
  rw [hformat, le64_of_window (hfield 1 (by decide)), le64_of_window (hfield 2 (by decide)),
    le64_of_window (hfield 3 (by decide)), le64_of_window (hfield 4 (by decide)),
    le64_of_window (hfield 5 (by decide))]
  simp

/-! ## The metadata, plane by plane -/

/-- A metadata block of `size` bytes that holds the planes `descs`. -/
structure Built (size : UInt32) (descs : List PlaneDescriptor) (block : Bytes) : Prop where
  length : block.length = size.toNat
  magic : window block 0 8 = captureMagic
  type : le16 block typeOff = 1
  metadataSize : le32 block metadataSizeOff = size
  planeCount : (le64 block planeCountOff).toNat = descs.length
  planes : ∀ i (hi : i < descs.length),
    window block (i * planeDescLen + headerLen) planeDescLen = descs[i].encode

/-- The words of the header, in the order they stand in. -/
theorem header_offsets :
    typeOff = 0x0a ∧ metadataSizeOff = 0x0c ∧ planeCountOff = 0x10 ∧ headerLen = 0x18 :=
  ⟨rfl, rfl, rfl, rfl⟩

theorem built_init {size : UInt32} (h : headerLen ≤ size.toNat) :
    Built size [] (initMetadata 1 size) := by
  obtain ⟨hty, hsize, hcount, hheader⟩ := header_offsets
  unfold initMetadata
  extract_lets zeroed b₁ b₂ b₃
  have hm : captureMagic.length = 8 := rfl
  have hl₂ := length_leBytes 2 2
  have hl₃ := length_leBytes 2 (1 : UInt16).toNat
  have hl₄ := length_leBytes 4 size.toNat
  have h₀ : zeroed.length = size.toNat := List.length_replicate
  have r₁ : 0 + captureMagic.length ≤ zeroed.length := by omega
  have h₁ : b₁.length = size.toNat := (length_overwrite r₁).trans h₀
  have r₂ : 0x08 + (leBytes 2 2).length ≤ b₁.length := by omega
  have h₂ : b₂.length = size.toNat := (length_overwrite r₂).trans h₁
  have r₃ : typeOff + (leBytes 2 (1 : UInt16).toNat).length ≤ b₂.length := by omega
  have h₃ : b₃.length = size.toNat := (length_overwrite r₃).trans h₂
  have r₄ : metadataSizeOff + (leBytes 4 size.toNat).length ≤ b₃.length := by omega
  refine ⟨(length_overwrite r₄).trans h₃, ?_, ?_, ?_, ?_, ?_⟩
  · rw [window_overwrite_of_disjoint r₄ (by omega), window_overwrite_of_disjoint r₃ (by omega),
      window_overwrite_of_disjoint r₂ (by omega)]
    exact window_overwrite r₁
  · apply le16_of_window
    rw [window_overwrite_of_disjoint r₄ (by omega)]
    exact window_overwrite r₃
  · exact le32_of_window (window_overwrite r₄)
  · rw [le64_toNat, window_overwrite_of_disjoint r₄ (by omega),
      window_overwrite_of_disjoint r₃ (by omega), window_overwrite_of_disjoint r₂ (by omega),
      window_overwrite_of_disjoint r₁ (by omega), window_replicate (by omega)]
    rfl
  · intro i hi
    simp at hi

/-- One plane more: the descriptor goes behind the others, and the count follows. -/
theorem Built.add {size : UInt32} {descs : List PlaneDescriptor} {block : Bytes}
    (h : Built size descs block) (d : PlaneDescriptor)
    (hroom : (descs.length + 1) * planeDescLen + headerLen ≤ size.toNat) :
    Built size (descs ++ [d]) (addTexturePlane block d.encode) := by
  have hplanes := h.planes
  have hencode := d.length_encode
  unfold planeDescLen at hroom hplanes hencode
  obtain ⟨hty, hsize, hcount, hheader⟩ := header_offsets
  have hlt := size.toNat_lt
  have hl := h.length
  unfold addTexturePlane planeDescLen
  extract_lets planeCount b₁
  have hn : planeCount.toNat = descs.length := h.planeCount
  have hnext : (planeCount + 1).toNat = descs.length + 1 := by
    rw [UInt64.toNat_add, hn, show (1 : UInt64).toNat = 1 from rfl]
    omega
  have hl₂ := length_leBytes 8 (planeCount + 1).toNat
  have r₁ : headerLen + planeCount.toNat * 0x30 + d.encode.length ≤ block.length := by omega
  have h₁ : b₁.length = size.toNat := (length_overwrite r₁).trans hl
  have r₂ : planeCountOff + (leBytes 8 (planeCount + 1).toNat).length ≤ b₁.length := by omega
  refine ⟨(length_overwrite r₂).trans h₁, ?_, ?_, ?_, ?_, ?_⟩
  · rw [window_overwrite_of_disjoint r₂ (by omega), window_overwrite_of_disjoint r₁ (by omega)]
    exact h.magic
  · unfold le16
    rw [window_overwrite_of_disjoint r₂ (by omega), window_overwrite_of_disjoint r₁ (by omega)]
    exact h.type
  · unfold le32
    rw [window_overwrite_of_disjoint r₂ (by omega), window_overwrite_of_disjoint r₁ (by omega)]
    exact h.metadataSize
  · have hw := window_overwrite r₂
    rw [hl₂] at hw
    rw [le64_of_window hw, hnext, List.length_append, List.length_singleton]
  · intro i hi
    unfold planeDescLen
    rw [List.length_append, List.length_singleton] at hi
    rw [window_overwrite_of_disjoint r₂ (by omega)]
    by_cases hlast : i < descs.length
    · rw [window_overwrite_of_disjoint r₁ (by omega), List.getElem_append_left hlast]
      exact hplanes i hlast
    · obtain rfl : i = descs.length := by omega
      have hw : window b₁ (headerLen + planeCount.toNat * 0x30) d.encode.length = d.encode :=
        window_overwrite r₁
      rw [hencode, hn, Nat.add_comm headerLen] at hw
      rw [List.getElem_concat_length rfl]
      exact hw

/-- The metadata of a texture holds its planes, when the size leaves room for them. -/
theorem built_fold {size : UInt32} (descs : List PlaneDescriptor)
    (hroom : descs.length * planeDescLen + headerLen ≤ size.toNat) :
    Built size descs
      (descs.foldl (fun block d => addTexturePlane block d.encode) (initMetadata 1 size)) := by
  induction descs using List.reverseRecOn with
  | nil => exact built_init (by simpa using hroom)
  | append_singleton descs d ih =>
    rw [List.length_append, List.length_singleton] at hroom
    rw [List.foldl_append]
    refine (ih ?_).add d hroom
    rw [Nat.succ_mul] at hroom
    omega

/-- The documented size leaves room for the header and for every descriptor. -/
theorem requiredSize_fits (count : Nat) :
    count * planeDescLen + headerLen ≤ getTextureMetadataRequiredSize count := by
  unfold getTextureMetadataRequiredSize planeDescLen headerLen
  dsimp only
  omega

/-! ## Parsing a harvested block -/

/-- The words of the header are in front of the payload. -/
theorem Built.header {size : UInt32} {descs : List PlaneDescriptor} {metadata : Bytes}
    (h : Built size descs metadata) (hroom : headerLen ≤ size.toNat) (payload : Bytes) :
    window (metadata ++ payload) 0 8 = captureMagic ∧ le16 (metadata ++ payload) typeOff = 1 ∧
      le32 (metadata ++ payload) metadataSizeOff = size ∧
      (le64 (metadata ++ payload) planeCountOff).toNat = descs.length := by
  obtain ⟨hty, hsize, hcount, hheader⟩ := header_offsets
  have hl := h.length
  have hwindow : ∀ o n, o + n ≤ headerLen →
      window (metadata ++ payload) o n = window metadata o n :=
    fun o n h => window_append_left (by omega)
  refine ⟨?_, ?_, ?_, ?_⟩
  · rw [hwindow 0 8 (by omega), h.magic]
  · unfold le16
    rw [hwindow _ _ (by omega)]
    exact h.type
  · unfold le32
    rw [hwindow _ _ (by omega)]
    exact h.metadataSize
  · unfold le64
    rw [hwindow _ _ (by omega)]
    exact h.planeCount

/-- Metadata that hold the planes `descs` parse to these planes, with any payload. -/
theorem Built.roundtrip {size : UInt32} {descs : List PlaneDescriptor} {metadata : Bytes}
    (h : Built size descs metadata) (hroom : descs.length * planeDescLen + headerLen ≤ size.toNat)
    (payload : Bytes) :
    ∃ block, CaptureBlock.parse (metadata ++ payload) = .ok (.ok block) ∧
      block.planeCount.toNat = descs.length ∧
      (∀ (i : UInt64) (hi : i.toNat < descs.length), block.plane i = .ok (some descs[i.toNat])) ∧
      (∀ i : UInt64, descs.length ≤ i.toNat → block.plane i = .ok none) ∧
      block.data = .ok payload := by
  obtain ⟨hmagic, htype, hsize, hcount⟩ := h.header (by omega) payload
  have hl := h.length
  have hlt := size.toNat_lt
  have htotal : (metadata ++ payload).length = metadata.length + payload.length :=
    List.length_append
  let block : CaptureBlock := {
    bytes := metadata ++ payload
    metadataSize := (le32 (metadata ++ payload) metadataSizeOff).toNat
    planeCount := le64 (metadata ++ payload) planeCountOff
    metadata_fits := by rw [hsize]; omega
    planes_fit := by rw [hcount]; omega
    planes_addressable := by rw [hcount]; unfold usizeLimit; omega }
  have hn : block.planeCount.toNat = descs.length := hcount
  refine ⟨block, CaptureBlock.parse_eq_ok_iff.mpr ⟨by omega, hmagic, htype, rfl, rfl, rfl⟩, hn,
    ?_, ?_, ?_⟩
  · intro i hi
    have hfit : i.toNat * planeDescLen + headerLen + planeDescLen ≤ metadata.length := by
      unfold planeDescLen at *
      omega
    have hplane : window (metadata ++ payload) (i.toNat * planeDescLen + headerLen) planeDescLen =
        descs[i.toNat].encode :=
      (window_append_left hfit).trans (h.planes i.toNat hi)
    rw [CaptureBlock.plane_eq, if_pos (UInt64.lt_iff_toNat_lt.mpr (by omega))]
    exact congrArg (fun d => Except.ok (some d)) (descriptorAt_of_window hplane)
  · intro i hi
    rw [CaptureBlock.plane_eq, if_neg (by rw [UInt64.lt_iff_toNat_lt]; omega)]
  · have hdrop : block.metadataSize = metadata.length := by
      rw [hl, ← hsize]
    rw [CaptureBlock.data_eq, hdrop]
    exact congrArg _ List.drop_left

/-- A block that the framework's helpers build for `descs`, with any payload behind it, is
    accepted. It counts the planes, gives each of them back under its index and no other, and
    its data are the payload. -/
theorem harvested_roundtrip (descs : List PlaneDescriptor) (payload : Bytes)
    (hsize : getTextureMetadataRequiredSize descs.length < 2 ^ 32) :
    ∃ block, CaptureBlock.parse (harvestTexture descs payload) = .ok (.ok block) ∧
      block.planeCount.toNat = descs.length ∧
      (∀ (i : UInt64) (hi : i.toNat < descs.length), block.plane i = .ok (some descs[i.toNat])) ∧
      (∀ i : UInt64, descs.length ≤ i.toNat → block.plane i = .ok none) ∧
      block.data = .ok payload := by
  have hroom := requiredSize_fits descs.length
  rw [← UInt32.toNat_ofNat_of_lt' hsize] at hroom
  exact (built_fold descs hroom).roundtrip hroom payload

/-- A luma plane and a chroma plane. -/
def biplanar : List PlaneDescriptor := [⟨10, 64, 64, 1, 64, 4096⟩, ⟨30, 32, 32, 1, 64, 2048⟩]

theorem harvested_roundtrip_biplanar :
    ∃ block, CaptureBlock.parse (harvestTexture biplanar [0x44, 0x41, 0x54, 0x41]) =
        .ok (.ok block) ∧
      block.planeCount.toNat = 2 ∧
      block.plane 0 = .ok (some ⟨10, 64, 64, 1, 64, 4096⟩) ∧
      block.plane 1 = .ok (some ⟨30, 32, 32, 1, 64, 2048⟩) ∧ block.plane 2 = .ok none ∧
      block.data = .ok [0x44, 0x41, 0x54, 0x41] := by
  obtain ⟨block, hparse, hcount, hplane, hnone, hdata⟩ :=
    harvested_roundtrip biplanar [0x44, 0x41, 0x54, 0x41] (by decide)
  exact ⟨block, hparse, hcount, hplane 0 (by decide), hplane 1 (by decide), hnone 2 (by decide),
    hdata⟩

/-! ## The framework's getter -/

def versionOff : Nat := 0x08

/-- `_GTHarvesterGetData`: the offset of the payload in a buffer of `size` bytes, or null. -/
def getData (block : Bytes) (size : Nat) : Option Nat :=
  if size ≥ 0x10 ∧ window block 0 8 = captureMagic then
    some ((le32 block metadataSizeOff).toNat + if le16 block versionOff = 1 then 0x10 else 0)
  else none

/-- On an accepted buffer the payload starts where the framework's getter says, exactly when the
    block is not of version 1. -/
theorem getData_agrees_iff {bytes : Bytes} {block : CaptureBlock}
    (h : CaptureBlock.parse bytes = .ok (.ok block)) :
    (∃ start, block.dataOffset = .ok start ∧ getData bytes bytes.length = some start) ↔
      le16 bytes versionOff ≠ 1 := by
  obtain ⟨hlen, hmagic, -, -, hmetadata, -⟩ := CaptureBlock.parse_eq_ok_iff.mp h
  unfold headerLen at hlen
  unfold getData
  rw [CaptureBlock.dataOffset_eq, if_pos ⟨by omega, hmagic⟩, hmetadata]
  by_cases hv : le16 bytes versionOff = 1 <;> simp [hv]

theorem getData_agrees_bareHeader :
    ∃ block, CaptureBlock.parse (CaptureBlock.bareHeader 2 0x18) = .ok (.ok block) ∧
      ∃ start, block.dataOffset = .ok start ∧
        getData (CaptureBlock.bareHeader 2 0x18) 0x18 = some start :=
  ⟨⟨CaptureBlock.bareHeader 2 0x18, 0x18, 0, by decide, by decide, by decide⟩, rfl,
    (@getData_agrees_iff (CaptureBlock.bareHeader 2 0x18) _ rfl).mpr (by decide)⟩

/-- In a block of version 1 the getter skips 16 bytes more. -/
theorem getData_version_one :
    ∃ block, CaptureBlock.parse (CaptureBlock.bareHeader 1 0x18) = .ok (.ok block) ∧
      block.dataOffset = .ok 0x18 ∧ getData (CaptureBlock.bareHeader 1 0x18) 0x18 = some 0x28 :=
  ⟨⟨CaptureBlock.bareHeader 1 0x18, 0x18, 0, by decide, by decide, by decide⟩, rfl, rfl, rfl⟩

end GputoolsReplay
