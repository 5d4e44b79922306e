/-
  The harvester's capture block (`harvester.rs`): a header, packed plane descriptors, and a
  data payload behind the metadata.

  * `CaptureBlock.parse_eq_ok_iff`: the exact condition under which a buffer is accepted.
  * `CaptureBlock.plane_eq`: a descriptor is read for every index below the plane count.
  * `parse_bounds`: the condition in terms of the words alone, and that an accepted block is read
    inside the buffer at every index.
  * `payload_follows_iff`: the payload keeps clear of the header and of the descriptors exactly
    when the metadata size covers them, which `parse` does not check.
-/
import GputoolsReplay.Lib.Words
import GputoolsReplay.Substrate.Error

namespace GputoolsReplay

open RustSem

/-- `MAGIC`. -/
def captureMagic : Bytes := [0x65, 0x72, 0x75, 0x74, 0x70, 0x61, 0x63, 0x00]

def typeOff : Nat := 0x0a
def metadataSizeOff : Nat := 0x0c
def planeCountOff : Nat := 0x10
def headerLen : Nat := 0x18
def planeDescLen : Nat := 0x30

/-- `PlaneDescriptor`. -/
structure PlaneDescriptor where
  pixelFormat : UInt32
  width : UInt64
  height : UInt64
  depth : UInt64
  bytesPerRow : UInt64
  bytesPerImage : UInt64
  deriving DecidableEq, Repr

/-- `CaptureBlock`, with what `parse` has checked: the metadata and every plane descriptor lie
    inside the buffer, and the end of the descriptors is a `usize`. -/
structure CaptureBlock where
  bytes : Bytes
  metadataSize : Nat
  planeCount : UInt64
  metadata_fits : metadataSize ≤ bytes.length
  planes_fit : planeCount.toNat * planeDescLen + headerLen ≤ bytes.length
  planes_addressable : planeCount.toNat * planeDescLen + headerLen < usizeLimit
  deriving DecidableEq

namespace CaptureBlock

/-- The offset of plane `i`, when it is a `usize`; of the plane count, `planes_end`. -/
def planeOff (i : Nat) : Option Nat :=
  (checkedMul i planeDescLen).bind fun x => checkedAdd x headerLen

theorem planeOff_eq_some {i o : Nat} :
    planeOff i = some o ↔ o = i * planeDescLen + headerLen ∧
      i * planeDescLen + headerLen < usizeLimit := by
  unfold planeOff checkedMul checkedAdd
  by_cases h : i * planeDescLen < usizeLimit
  · rw [if_pos h, Option.bind_some]
    by_cases h' : i * planeDescLen + headerLen < usizeLimit <;> simp [h', eq_comm]
  · rw [if_neg h]
    simp
    omega

/-- `CaptureBlock::parse`. -/
def parse (bytes : Bytes) : Rust (Except HarvesterError CaptureBlock) :=
  if bytes.length < headerLen then return .error .badMagic
  else do
    if (← indexRange bytes 0 8) ≠ captureMagic then
      return .error .badMagic
    let ty ← u16At bytes typeOff
    if ty ≠ 1 then
      return .error (.wrongType ty)
    let metadataSize := (← u32At bytes metadataSizeOff).toNat
    let planeCount ← u64At bytes planeCountOff
    match h : planeOff planeCount.toNat with
    | none => return .error .truncated
    | some e =>
      if hfit : metadataSize ≤ bytes.length ∧ e ≤ bytes.length then
        have he := planeOff_eq_some.mp h
        return .ok {
          bytes, metadataSize, planeCount
          metadata_fits := hfit.1
          planes_fit := he.1 ▸ hfit.2
          planes_addressable := he.2 }
      else return .error .truncated

/-- `CaptureBlock::plane`. -/
def plane (block : CaptureBlock) (i : UInt64) : Rust (Option PlaneDescriptor) :=
  if i ≥ block.planeCount then return none
  else
    match planeOff i.toNat with
    | none => return none
    | some o =>
      if (checkedAdd o planeDescLen).all fun e => e > block.bytes.length then return none
      else return some {
        pixelFormat := (← u64At block.bytes o).toUInt32
        width := ← u64At block.bytes (← addUsize o 0x08)
        height := ← u64At block.bytes (← addUsize o 0x10)
        depth := ← u64At block.bytes (← addUsize o 0x18)
        bytesPerRow := ← u64At block.bytes (← addUsize o 0x20)
        bytesPerImage := ← u64At block.bytes (← addUsize o 0x28) }

/-- `CaptureBlock::data`. -/
def data (block : CaptureBlock) : Rust Bytes :=
  indexRange block.bytes block.metadataSize block.bytes.length

/-! ## What is accepted -/

/-- The header is read inside a buffer that is as long. -/
theorem header_reads {bytes : Bytes} (hlen : ¬ bytes.length < headerLen) :
    indexRange bytes 0 8 = .ok (window bytes 0 8) ∧
    u16At bytes typeOff = .ok (le16 bytes typeOff) ∧
    u32At bytes metadataSizeOff = .ok (le32 bytes metadataSizeOff) ∧
    u64At bytes planeCountOff = .ok (le64 bytes planeCountOff) := by
  have hl : 0x18 ≤ bytes.length := not_lt.mp hlen
  exact ⟨indexRange_take (by omega), u16At_eq (by unfold typeOff; omega),
    u32At_eq (by unfold metadataSizeOff; omega), u64At_eq (by unfold planeCountOff; omega)⟩

/-- A buffer is accepted with the block that its words describe, when it starts with a texture
    header; that the block fits is part of the block. -/
theorem parse_eq_ok_iff {bytes : Bytes} {block : CaptureBlock} :
    parse bytes = .ok (.ok block) ↔
      headerLen ≤ bytes.length ∧ window bytes 0 8 = captureMagic ∧ le16 bytes typeOff = 1 ∧
      block.bytes = bytes ∧ block.metadataSize = (le32 bytes metadataSizeOff).toNat ∧
      block.planeCount = le64 bytes planeCountOff := by
  unfold parse
  by_cases hlen : bytes.length < headerLen
  · rw [if_pos hlen]
    constructor
    · intro h
      cases h
    · omega
  · rw [if_neg hlen]
    have hl : 0x18 ≤ bytes.length := not_lt.mp hlen
    obtain ⟨hmagic, htype, hsize, hcount⟩ := header_reads hlen
    rw [hmagic, htype, hsize, hcount]
    simp only [ok_bind]
    by_cases hm : window bytes 0 8 = captureMagic
    · by_cases hty : le16 bytes typeOff = 1
      · rw [if_neg (not_not.mpr hm), if_neg (not_not.mpr hty)]
        constructor
        · intro h
          split at h
          · cases h
          · split at h
            · cases h
              exact ⟨hl, hm, hty, rfl, rfl, rfl⟩
            · cases h
        · obtain ⟨_, _, _, hmetadata, hplanes, haddressable⟩ := block
          dsimp only
          intro h'
          obtain ⟨-, -, -, rfl, rfl, rfl⟩ := h'
          split
          · rename_i h
            rw [planeOff_eq_some.mpr ⟨rfl, haddressable⟩] at h
            cases h
          · rename_i h
            obtain ⟨rfl, -⟩ := planeOff_eq_some.mp h
            rw [dif_pos ⟨hmetadata, hplanes⟩]
            rfl
      · rw [if_neg (not_not.mpr hm), if_pos hty]
        exact ⟨fun h => (by cases h), fun h => absurd h.2.2.1 hty⟩
    · rw [if_pos hm]
      exact ⟨fun h => (by cases h), fun h => absurd h.2.1 hm⟩

/-! ## What an accepted block gives -/

/-- The descriptor at offset `o`. -/
def descriptorAt (bytes : Bytes) (o : Nat) : PlaneDescriptor where
  pixelFormat := (le64 bytes o).toUInt32
  width := le64 bytes (o + 0x08)
  height := le64 bytes (o + 0x10)
  depth := le64 bytes (o + 0x18)
  bytesPerRow := le64 bytes (o + 0x20)
  bytesPerImage := le64 bytes (o + 0x28)

/-- Below the plane count every descriptor is read, and no other index gives one. -/
theorem plane_eq (block : CaptureBlock) (i : UInt64) :
    block.plane i = .ok (if i < block.planeCount then
      some (descriptorAt block.bytes (i.toNat * planeDescLen + headerLen)) else none) := by
  unfold plane
  by_cases hi : i < block.planeCount
  · have hfit := block.planes_fit
    have haddressable := block.planes_addressable
    have hlt : i.toNat < block.planeCount.toNat := UInt64.lt_iff_toNat_lt.mp hi
    unfold planeDescLen headerLen at *
    have hend : i.toNat * 0x30 + 0x18 + 0x30 ≤ block.planeCount.toNat * 0x30 + 0x18 := by omega
    have hoff : planeOff i.toNat = some (i.toNat * 0x30 + 0x18) :=
      planeOff_eq_some.mpr ⟨rfl, by unfold planeDescLen headerLen; omega⟩
    rw [if_neg (by simpa using hi), if_pos hi, hoff]
    dsimp only
    rw [checkedAdd_of_lt (by omega), if_neg (by simp; omega)]
    simp (disch := omega) only [addUsize_of_lt, u64At_eq, ok_bind]
    rfl
  · rw [if_pos (by simpa using hi), if_neg hi]
    rfl

theorem data_eq (block : CaptureBlock) :
    block.data = .ok (block.bytes.drop block.metadataSize) := by
  have hfit := block.metadata_fits
  have h := indexRange_window (l := block.bytes) (o := block.metadataSize)
    (n := block.bytes.length - block.metadataSize) (by omega)
  rw [Nat.add_sub_cancel' hfit] at h
  unfold data
  rw [h]
  unfold window
  rw [← List.length_drop, List.take_length]

/-! ## Where the payload starts -/

/-- The offset of `data()` in the buffer it is a suffix of. -/
def dataOffset (block : CaptureBlock) : Rust Nat := do
  return block.bytes.length - (← block.data).length

theorem dataOffset_eq (block : CaptureBlock) : block.dataOffset = .ok block.metadataSize := by
  have hfit := block.metadata_fits
  unfold dataOffset
  rw [data_eq, ok_bind, List.length_drop, Nat.sub_sub_self hfit]
  rfl

/-- Position `p` belongs to the header or to one of `count` plane descriptors. -/
def InMetadata (count p : Nat) : Prop :=
  p < headerLen ∨ ∃ i, i < count ∧ headerLen + planeDescLen * i ≤ p ∧
    p < headerLen + planeDescLen * (i + 1)

/-- The header and the descriptors are packed: they fill the buffer up to their end. -/
theorem inMetadata_iff {count p : Nat} :
    InMetadata count p ↔ p < headerLen + planeDescLen * count := by
  unfold InMetadata planeDescLen
  constructor
  · rintro (h | ⟨i, hi, -, h⟩)
    · omega
    · omega
  · intro h
    by_cases hp : p < headerLen
    · exact .inl hp
    · exact .inr ⟨(p - headerLen) / 0x30, by omega, by omega, by omega⟩

/-- For an accepted buffer the two forms of `the payload follows the metadata`: no position that
    `data()` hands out belongs to the header or to a descriptor, and `data()` starts at or after
    their end. Both hold exactly when the metadata size covers header and descriptors. -/
theorem payload_follows_iff {bytes : Bytes} {block : CaptureBlock}
    (h : parse bytes = .ok (.ok block)) :
    ((∃ start, block.dataOffset = .ok start ∧
        ∀ p, start ≤ p → p < bytes.length → ¬ InMetadata block.planeCount.toNat p) ↔
      headerLen + planeDescLen * (le64 bytes planeCountOff).toNat ≤
        (le32 bytes metadataSizeOff).toNat) ∧
    ((∃ start, block.dataOffset = .ok start ∧
        headerLen + planeDescLen * block.planeCount.toNat ≤ start) ↔
      headerLen + planeDescLen * (le64 bytes planeCountOff).toNat ≤
        (le32 bytes metadataSizeOff).toNat) := by
  have hplanes := block.planes_fit
  obtain ⟨-, -, -, hbytes, hmetadata, hcount⟩ := parse_eq_ok_iff.mp h
  rw [dataOffset_eq, ← hmetadata, ← hcount]
  rw [hbytes, Nat.mul_comm, Nat.add_comm] at hplanes
  simp only [Except.ok.injEq, exists_eq_left', inMetadata_iff, not_lt, and_true]
  constructor
  · intro hclear
    by_contra hlt
    exact hlt (hclear _ (Nat.le_refl _) (by omega))
  · intro hend p hp _
    omega

/-- A texture header without planes: its version and its metadata size. -/
def bareHeader (version size : UInt8) : Bytes :=
  captureMagic ++ [version, 0, 1, 0, size, 0, 0, 0] ++ List.replicate 8 0

theorem payload_follows_bareHeader :
    ∃ block, parse (bareHeader 2 0x18) = .ok (.ok block) ∧
      ∃ start, block.dataOffset = .ok start ∧
        headerLen + planeDescLen * block.planeCount.toNat ≤ start :=
  ⟨⟨bareHeader 2 0x18, 0x18, 0, by decide, by decide, by decide⟩, rfl,
    (@payload_follows_iff (bareHeader 2 0x18) _ rfl).2.mpr (by decide)⟩

/-- Without metadata the block hands its own header out as payload. -/
theorem payload_is_header :
    ∃ block, parse (bareHeader 2 0) = .ok (.ok block) ∧ block.data = .ok (bareHeader 2 0) ∧
      block.dataOffset = .ok 0 ∧ ¬ headerLen + planeDescLen * block.planeCount.toNat ≤ 0 :=
  ⟨⟨bareHeader 2 0, 0, 0, by decide, by decide, by decide⟩, rfl, rfl, rfl, by decide⟩

/-! ## Acceptance and bounds -/

/-- What `parse` asks of a buffer, with the end of the descriptors computed without a bound. -/
def Accepts (bytes : Bytes) : Prop :=
  headerLen ≤ bytes.length ∧ window bytes 0 8 = captureMagic ∧ le16 bytes typeOff = 1 ∧
    (le32 bytes metadataSizeOff).toNat ≤ bytes.length ∧
    headerLen + planeDescLen * (le64 bytes planeCountOff).toNat ≤ bytes.length

instance (bytes : Bytes) : Decidable (Accepts bytes) :=
  inferInstanceAs (Decidable (_ ∧ _ ∧ _ ∧ _ ∧ _))

/-- The bounds that `plane` checks at index `i`, both met: the offset is a `usize`, and so is the
    end of the descriptor, which lies in the buffer. -/
def InBounds (block : CaptureBlock) (i : UInt64) : Prop :=
  ∃ o e, planeOff i.toNat = some o ∧ checkedAdd o planeDescLen = some e ∧ e ≤ block.bytes.length

/-- The header is read inside the buffer, so `parse` returns on every one. -/
theorem parse_total (bytes : Bytes) : ∃ r, parse bytes = .ok r := by
  unfold parse
  by_cases hlen : bytes.length < headerLen
  · exact ⟨_, if_pos hlen⟩
  · obtain ⟨hmagic, htype, hsize, hcount⟩ := header_reads hlen
    rw [if_neg hlen, hmagic, htype, hsize, hcount]
    simp only [ok_bind]
    split
    · exact ⟨_, rfl⟩
    · split
      · exact ⟨_, rfl⟩
      · split
        · exact ⟨_, rfl⟩
        · split
          · exact ⟨_, rfl⟩
          · exact ⟨_, rfl⟩

/-- The length of a slice is a `usize`, so a plane count whose descriptors fit has not wrapped. -/
theorem exists_parse_ok_iff {bytes : Bytes} (hslice : bytes.length < usizeLimit) :
    (∃ block, parse bytes = .ok (.ok block)) ↔ Accepts bytes := by
  unfold Accepts
  constructor
  · intro h
    obtain ⟨block, h⟩ := h
    have hmetadata := block.metadata_fits
    have hplanes := block.planes_fit
    obtain ⟨hlen, hmagic, hty, hb, hm, hc⟩ := parse_eq_ok_iff.mp h
    rw [hb, hm] at hmetadata
    rw [hb, hc, Nat.mul_comm, Nat.add_comm] at hplanes
    exact ⟨hlen, hmagic, hty, hmetadata, hplanes⟩
  · intro h
    obtain ⟨hlen, hmagic, hty, hmetadata, hplanes⟩ := h
    rw [Nat.mul_comm, Nat.add_comm] at hplanes
    exact ⟨⟨bytes, _, _, hmetadata, hplanes, Nat.lt_of_le_of_lt hplanes hslice⟩,
      parse_eq_ok_iff.mpr ⟨hlen, hmagic, hty, rfl, rfl, rfl⟩⟩

/-- `parse` has bounded the end of the last descriptor, hence the end of each. -/
theorem inBounds_of_lt (block : CaptureBlock) {i : UInt64} (hi : i < block.planeCount) :
    block.InBounds i := by
  have hfit := block.planes_fit
  have haddressable := block.planes_addressable
  have hlt : i.toNat < block.planeCount.toNat := UInt64.lt_iff_toNat_lt.mp hi
  have hend : i.toNat * planeDescLen + headerLen + planeDescLen ≤
      block.planeCount.toNat * planeDescLen + headerLen := by
    unfold planeDescLen
    omega
  refine ⟨_, _, planeOff_eq_some.mpr ⟨rfl, by omega⟩, checkedAdd_of_lt (by omega), by omega⟩

/-- A slice is accepted exactly when its words say so. In an accepted block the checks of `plane`
    repeat the one of `parse`: they let every index below the plane count through, and neither
    `plane` nor `data` leaves the slice or overflows at any index. -/
theorem parse_bounds {bytes : Bytes} (hslice : bytes.length < usizeLimit) :
    (∃ r, parse bytes = .ok r) ∧
    ((∃ block, parse bytes = .ok (.ok block)) ↔ Accepts bytes) ∧
    ∀ block, parse bytes = .ok (.ok block) →
      block.planeCount = le64 bytes planeCountOff ∧
      (∀ i : UInt64, ∃ d, block.plane i = .ok d ∧ (d.isSome = true ↔ i < block.planeCount) ∧
        (i < block.planeCount → block.InBounds i)) ∧
      block.data = .ok (bytes.drop (le32 bytes metadataSizeOff).toNat) := by
  refine ⟨parse_total bytes, exists_parse_ok_iff hslice, ?_⟩
  intro block h
  obtain ⟨-, -, -, hbytes, hmetadata, hcount⟩ := parse_eq_ok_iff.mp h
  refine ⟨hcount, ?_, ?_⟩
  · intro i
    refine ⟨_, plane_eq block i, ?_, block.inBounds_of_lt⟩
    by_cases hi : i < block.planeCount <;> simp [hi]
  · rw [data_eq, hbytes, hmetadata]

/-- A texture header with one plane, all of whose fields are zero. -/
def onePlane : Bytes :=
  captureMagic ++ [2, 0, 1, 0, 0x48, 0, 0, 0] ++ 1 :: List.replicate 0x37 0

theorem parse_bounds_onePlane :
    ∃ block, parse onePlane = .ok (.ok block) ∧ ∃ d, block.plane 0 = .ok d ∧ d.isSome = true := by
  obtain ⟨-, haccept, hblock⟩ := @parse_bounds onePlane (by decide)
  obtain ⟨block, h⟩ := haccept.mpr (by decide)
  obtain ⟨hcount, hplane, -⟩ := hblock block h
  obtain ⟨d, hd, hsome, -⟩ := hplane 0
  exact ⟨block, h, d, hd, hsome.mpr (by rw [hcount]; decide)⟩

end CaptureBlock

end GputoolsReplay
