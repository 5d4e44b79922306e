/-
  The blocks of a compressed image (`image.rs`), as fetched and tightly packed.

  * `Blocks.packedBlocks_eq`: what `packed_blocks` returns. The rows it copies stand at the
    stride in whole blocks, `blocks_per_row * block_bytes`, not at `bytes_per_row`.
  * `Image.packedBlocks_faithful_iff`: when the two strides make no difference.
-/
import GputoolsReplay.Hl.Error
import GputoolsReplay.Hl.Image

namespace GputoolsReplay

open RustSem

/-- `Blocks`. -/
structure Blocks where
  bytes : Bytes
  block : Nat × Nat
  blockBytes : Nat
  blocksPerRow : Nat
  width : UInt32
  height : UInt32
  deriving DecidableEq

/-- `Image::blocks`. -/
def Image.blocks (img : Image) : Rust (Except Error Blocks) :=
  match formatKind img.pixelFormat with
  | .compressed c => do
    let bytes ← img.payload.bytes
    let blocksPerRow ← divUsize img.bytesPerRow.toNat c.blockBytes
    return .ok {
      bytes
      block := c.block
      blockBytes := c.blockBytes
      blocksPerRow
      width := img.width
      height := img.height }
  | _ => return .error (.wrongCategory "not a compressed format")

namespace Blocks

/-- `Blocks::expected_len`. -/
def expectedLen (b : Blocks) : Rust Nat := do
  let cols ← divCeil b.width.toNat b.block.1
  let rows ← divCeil b.height.toNat b.block.2
  return saturatingMul (saturatingMul cols rows) b.blockBytes

/-- `Blocks::packed_blocks`. -/
def packedBlocks (b : Blocks) : Rust (Except Error Cow) := do
  let cols ← divCeil b.width.toNat b.block.1
  let rows ← divCeil b.height.toNat b.block.2
  let tightRow := saturatingMul cols b.blockBytes
  let fetchedRow := saturatingMul b.blocksPerRow b.blockBytes
  if fetchedRow < tightRow then return .error .truncated
  else
    match checkedMul rows fetchedRow with
    | none => return .error .truncated
    | some need =>
      if b.bytes.length < need then return .error .truncated
      else if fetchedRow = tightRow then
        let bound := min (← b.expectedLen) b.bytes.length
        return .ok (.borrowed (← indexRange b.bytes 0 bound))
      else
        let out ← (List.range rows).foldlM (fun out y => do
          let start ← mulUsize y fetchedRow
          return out ++ (← indexRange b.bytes start (← addUsize start tightRow))) []
        return .ok (.owned out)

/-! ## Repacking -/

/-- `ceil(width / block.0)` and `ceil(height / block.1)`. -/
def cols (b : Blocks) : Nat := b.width.toNat ⌈/⌉ b.block.1

def rows (b : Blocks) : Nat := b.height.toNat ⌈/⌉ b.block.2

/-- The bytes of a row of blocks, packed and as fetched. -/
def tightRow (b : Blocks) : Nat := b.cols * b.blockBytes

def fetchedRow (b : Blocks) : Nat := b.blocksPerRow * b.blockBytes

/-- What a `Blocks` made from an image satisfies: the blocks have texels and bytes, and a
    row as fetched is no longer than a `u32` stride. -/
structure Sane (b : Blocks) : Prop where
  block_fst : 0 < b.block.1
  block_snd : 0 < b.block.2
  blockBytes_pos : 0 < b.blockBytes
  blockBytes_lt : b.blockBytes < 2 ^ 32
  fetchedRow_lt : b.fetchedRow < 2 ^ 32

variable {b : Blocks}

theorem divCeil_width (h : b.Sane) : divCeil b.width.toNat b.block.1 = .ok b.cols :=
  divCeil_of_pos _ h.block_fst

theorem divCeil_height (h : b.Sane) : divCeil b.height.toNat b.block.2 = .ok b.rows :=
  divCeil_of_pos _ h.block_snd

theorem Sane.cols_lt (h : b.Sane) : b.cols < 2 ^ 32 :=
  Nat.lt_of_le_of_lt (ceilDiv_le_self _ h.block_fst) b.width.toNat_lt

theorem Sane.rows_lt (h : b.Sane) : b.rows < 2 ^ 32 :=
  Nat.lt_of_le_of_lt (ceilDiv_le_self _ h.block_snd) b.height.toNat_lt

/-- The length that the geometry implies, saturated. -/
theorem expectedLen_eq (h : b.Sane) :
    b.expectedLen = .ok (saturatingMul (b.cols * b.rows) b.blockBytes) := by
  unfold expectedLen
  rw [divCeil_width h, ok_bind, divCeil_height h, ok_bind,
    saturatingMul_of_lt (mul_lt_usizeLimit h.cols_lt h.rows_lt)]
  rfl

/-- `packed_blocks` copies the first `tightRow` bytes of every row of the fetched stride. -/
theorem packedBlocks_eq (h : b.Sane) :
    b.packedBlocks =
      .ok (if b.fetchedRow < b.tightRow ∨ b.bytes.length < b.rows * b.fetchedRow then
          .error .truncated
        else
          .ok (if b.fetchedRow = b.tightRow then
              .borrowed (b.bytes.take (b.rows * b.tightRow))
            else .owned (RustSem.rows b.bytes b.fetchedRow b.tightRow b.rows).flatten)) := by
  have htight : saturatingMul b.cols b.blockBytes = b.tightRow :=
    saturatingMul_of_lt (mul_lt_usizeLimit h.cols_lt h.blockBytes_lt)
  have hfetched : saturatingMul b.blocksPerRow b.blockBytes = b.fetchedRow :=
    saturatingMul_of_lt (by have := h.fetchedRow_lt; unfold fetchedRow usizeLimit at *; omega)
  have hneed : b.rows * b.fetchedRow < usizeLimit := mul_lt_usizeLimit h.rows_lt h.fetchedRow_lt
  unfold packedBlocks
  rw [divCeil_width h, ok_bind, divCeil_height h, ok_bind, htight, hfetched]
  dsimp only
  rw [checkedMul_of_lt hneed]
  dsimp only
  by_cases hnarrow : b.fetchedRow < b.tightRow
  · rw [if_pos hnarrow, if_pos (.inl hnarrow)]
    rfl
  by_cases hshort : b.bytes.length < b.rows * b.fetchedRow
  · rw [if_neg hnarrow, if_pos hshort, if_pos (.inr hshort)]
    rfl
  rw [if_neg hnarrow, if_neg hshort, if_neg (not_or.mpr ⟨hnarrow, hshort⟩)]
  have hroom : b.rows * b.fetchedRow ≤ b.bytes.length := Nat.le_of_not_lt hshort
  by_cases heq : b.fetchedRow = b.tightRow
  · -- the expected length is all the rows, so it neither saturates nor exceeds the payload
    rw [heq] at hneed hroom
    have hlen : b.cols * b.rows * b.blockBytes = b.rows * b.tightRow := by
      unfold tightRow
      rw [Nat.mul_comm b.cols, Nat.mul_assoc]
    rw [if_pos heq, if_pos heq, expectedLen_eq h, ok_bind,
      saturatingMul_of_lt (by rw [hlen]; exact hneed), hlen, Nat.min_eq_left hroom,
      indexRange_take hroom]
    rfl
  · rw [if_neg heq, if_neg heq, copyRows_eq (Nat.le_of_not_lt hnarrow) hroom hneed]
    rfl

/-- A stride with too few whole blocks, or a payload with too few rows. -/
def Rejected (b : Blocks) : Prop :=
  b.fetchedRow < b.tightRow ∨ b.bytes.length < b.rows * b.fetchedRow

theorem exists_packedBlocks_iff (h : b.Sane) :
    (∃ packed, b.packedBlocks = .ok (.ok packed)) ↔ ¬ b.Rejected := by
  rw [packedBlocks_eq h]
  unfold Rejected
  split <;> simp_all

/-- Block `(r, k)` of what `packed_blocks` returns. -/
theorem window_packedBlocks (h : b.Sane) {packed : Cow} (hok : b.packedBlocks = .ok (.ok packed))
    {r k : Nat} (hr : r < b.rows) (hk : k < b.cols) :
    window packed.bytes ((r * b.cols + k) * b.blockBytes) b.blockBytes =
        window b.bytes (r * b.fetchedRow + k * b.blockBytes) b.blockBytes ∧
      r * b.fetchedRow + k * b.blockBytes + b.blockBytes ≤ b.bytes.length := by
  rw [packedBlocks_eq h, Except.ok.injEq] at hok
  split at hok
  · cases hok
  · next hrej =>
    obtain ⟨hnarrow, hshort⟩ := not_or.mp hrej
    have hle : b.tightRow ≤ b.fetchedRow := Nat.le_of_not_lt hnarrow
    have hroom : b.rows * b.fetchedRow ≤ b.bytes.length := Nat.le_of_not_lt hshort
    have hbytes : packed.bytes =
        (RustSem.rows b.bytes b.fetchedRow b.tightRow b.rows).flatten := by
      cases hok
      split
      · next heq => rw [heq, flatten_rows_tight]; rfl
      · rfl
    have hkb : k * b.blockBytes + b.blockBytes ≤ b.tightRow := row_end_le le_rfl hk
    have hpos : (r * b.cols + k) * b.blockBytes = r * b.tightRow + k * b.blockBytes := by
      unfold tightRow
      rw [Nat.add_mul, Nat.mul_assoc]
    rw [hbytes, hpos, window_flatten_rows hle hroom hr hkb]
    exact ⟨rfl, by have := row_fits hle hroom hr; omega⟩

end Blocks

/-! ## The wire stride -/

namespace Image

section BlocksOf

variable {img : Image} {c : CompressedFormat} {payload : Bytes}

/-- The blocks of a compressed image whose payload can be read. -/
def blocksOf (img : Image) (c : CompressedFormat) (payload : Bytes) : Blocks where
  bytes := payload
  block := c.block
  blockBytes := c.blockBytes
  blocksPerRow := img.bytesPerRow.toNat / c.blockBytes
  width := img.width
  height := img.height

theorem blocks_eq (hk : formatKind img.pixelFormat = .compressed c)
    (hraw : img.payload.bytes = .ok payload) :
    img.blocks = .ok (.ok (img.blocksOf c payload)) := by
  unfold blocks
  rw [hk]
  dsimp only
  rw [hraw, ok_bind, divUsize_of_pos _ (compressed_bounds hk).2.2.1]
  rfl

theorem blocksOf_sane (hk : formatKind img.pixelFormat = .compressed c) (payload : Bytes) :
    (img.blocksOf c payload).Sane := by
  obtain ⟨⟨hfst, -⟩, ⟨hsnd, -⟩, hpos, hlt⟩ := compressed_bounds hk
  refine ⟨hfst, hsnd, hpos, Nat.lt_trans hlt (by decide), ?_⟩
  exact Nat.lt_of_le_of_lt (Nat.div_mul_le_self ..) img.bytesPerRow.toNat_lt

/-- The blocks of an image can be asked for, and what is returned is sane. -/
theorem exists_blocks (hraw : img.payload.bytes = .ok payload) :
    ∃ r, img.blocks = .ok r ∧ ∀ b, r = .ok b → b.Sane := by
  cases hk : formatKind img.pixelFormat with
  | compressed c =>
    refine ⟨_, blocks_eq hk hraw, fun b hb => ?_⟩
    cases hb
    exact blocksOf_sane hk payload
  | color c | depthStencil d | unknown =>
    refine ⟨.error (.wrongCategory "not a compressed format"), ?_, fun b hb => by cases hb⟩
    unfold blocks
    rw [hk]
    rfl

end BlocksOf

/-- The block columns and block rows of a compressed image. -/
def blockCols (img : Image) (c : CompressedFormat) : Nat := img.width.toNat ⌈/⌉ c.block.1

def blockRows (img : Image) (c : CompressedFormat) : Nat := img.height.toNat ⌈/⌉ c.block.2

/-- The stride of the record, cut down to whole blocks. -/
def wholeStride (img : Image) (c : CompressedFormat) : Nat :=
  img.bytesPerRow.toNat / c.blockBytes * c.blockBytes

/-- The stride has too few whole blocks, or the payload too few rows of them. -/
def Inconsistent (img : Image) (c : CompressedFormat) (payload : Bytes) : Prop :=
  img.wholeStride c < img.blockCols c * c.blockBytes ∨
    payload.length < img.blockRows c * img.wholeStride c

/-- The payload holds the block bytes of block row `r` and block column `k` at
    `r * bytes_per_row + k * block_bytes`. -/
def IsBlock (img : Image) (c : CompressedFormat) (payload : Bytes) (r k : Nat) (block : Bytes) :
    Prop :=
  let start := r * img.bytesPerRow.toNat + k * c.blockBytes
  start + c.blockBytes ≤ payload.length ∧ block = window payload start c.blockBytes

/-- Every block that `packed_blocks` returns is the block of the payload in its place. -/
def Faithful (img : Image) (c : CompressedFormat) (payload : Bytes) : Prop :=
  ∀ blocks packed, img.blocks = .ok (.ok blocks) → blocks.packedBlocks = .ok (.ok packed) →
    ∀ r < img.blockRows c, ∀ k < img.blockCols c,
      img.IsBlock c payload r k
        (window packed.bytes ((r * img.blockCols c + k) * c.blockBytes) c.blockBytes)

/-- The record of an image with another payload. -/
def withPayload (img : Image) (p : Payload) : Image := { img with payload := p }

@[simp] theorem blockCols_withPayload (img : Image) (p : Payload) (c : CompressedFormat) :
    (img.withPayload p).blockCols c = img.blockCols c := rfl

@[simp] theorem blockRows_withPayload (img : Image) (p : Payload) (c : CompressedFormat) :
    (img.withPayload p).blockRows c = img.blockRows c := rfl

@[simp] theorem wholeStride_withPayload (img : Image) (p : Payload) (c : CompressedFormat) :
    (img.withPayload p).wholeStride c = img.wholeStride c := rfl

/-- Whether a record is rejected depends on the length of its payload only. -/
theorem inconsistent_withPayload {img : Image} {c : CompressedFormat} {payload payload' : Bytes}
    (p : Payload) (hlen : payload'.length = payload.length) :
    (img.withPayload p).Inconsistent c payload' ↔ img.Inconsistent c payload := by
  unfold Inconsistent
  simp [hlen]

section Faithful

variable {img : Image} {c : CompressedFormat} {payload : Bytes}

/-- A payload is repacked faithfully exactly when it is rejected or holds the same blocks at
    both strides. -/
theorem faithful_iff (hk : formatKind img.pixelFormat = .compressed c)
    (hraw : img.payload.bytes = .ok payload) :
    img.Faithful c payload ↔ img.Inconsistent c payload ∨
      ∀ r < img.blockRows c, ∀ k < img.blockCols c, img.IsBlock c payload r k
        (window payload (r * img.wholeStride c + k * c.blockBytes) c.blockBytes) := by
  have hblocks := blocks_eq hk hraw
  have hsane := blocksOf_sane hk payload
  have hpacked {packed} (hok : (img.blocksOf c payload).packedBlocks = .ok (.ok packed)) {r k : Nat}
      (hr : r < img.blockRows c) (hcol : k < img.blockCols c) :
      window packed.bytes ((r * img.blockCols c + k) * c.blockBytes) c.blockBytes =
        window payload (r * img.wholeStride c + k * c.blockBytes) c.blockBytes :=
    (Blocks.window_packedBlocks hsane hok hr hcol).1
  constructor
  · intro h
    by_cases hrej : img.Inconsistent c payload
    · exact .inl hrej
    · obtain ⟨packed, hok⟩ := (Blocks.exists_packedBlocks_iff hsane).mpr hrej
      right
      intro r hr k hcol
      rw [← hpacked hok hr hcol]
      exact h _ packed hblocks hok r hr k hcol
  · intro h blocks packed hb hok r hr k hcol
    rw [hblocks] at hb
    cases hb
    rcases h with hrej | h
    · exact absurd hrej ((Blocks.exists_packedBlocks_iff hsane).mp ⟨packed, hok⟩)
    · rw [hpacked hok hr hcol]
      exact h r hr k hcol

/-- Every block lies in the payload at the stride in whole blocks, which is the stride of the
    record when that one is a whole number of blocks. -/
theorem isBlock_of_dvd (hrej : ¬ img.Inconsistent c payload)
    (h : img.blockRows c ≤ 1 ∨ c.blockBytes ∣ img.bytesPerRow.toNat) {r k : Nat}
    (hr : r < img.blockRows c) (hk : k < img.blockCols c) :
    img.IsBlock c payload r k
      (window payload (r * img.wholeStride c + k * c.blockBytes) c.blockBytes) := by
  obtain ⟨hnarrow, hshort⟩ := not_or.mp hrej
  have hcol : k * c.blockBytes + c.blockBytes ≤ img.blockCols c * c.blockBytes :=
    row_end_le le_rfl hk
  have hrow := row_fits (Nat.le_of_not_lt hnarrow) (Nat.le_of_not_lt hshort) hr
  have hstart : r * img.wholeStride c = r * img.bytesPerRow.toNat := by
    rcases h with h | h
    · obtain rfl : r = 0 := by omega
      simp
    · unfold wholeStride
      rw [Nat.div_mul_cancel h]
  rw [hstart] at hrow ⊢
  exact ⟨by omega, rfl⟩

/-- A payload whose only nonzero byte starts the second block row at the stride in whole
    blocks. -/
def marked (img : Image) (c : CompressedFormat) (n : Nat) : Bytes :=
  (List.replicate n 0).set (img.wholeStride c) 1

theorem length_marked (n : Nat) : (img.marked c n).length = n := by simp [marked]

/-- Its second block row is told apart at the two strides. -/
theorem not_isBlock_marked {n : Nat} (hpos : 0 < c.blockBytes) (hn : img.wholeStride c < n)
    (hdvd : ¬ c.blockBytes ∣ img.bytesPerRow.toNat) :
    ¬ img.IsBlock c (img.marked c n) 1 0
      (window (img.marked c n) (1 * img.wholeStride c + 0 * c.blockBytes) c.blockBytes) := by
  intro h'
  obtain ⟨hend, hwin⟩ := h'
  have hstride : img.wholeStride c ≠ img.bytesPerRow.toNat := fun h =>
    hdvd ⟨_, by rw [Nat.mul_comm]; exact h.symm⟩
  have hbyte := congrArg (fun w => w[0]?) hwin
  simp only [Nat.one_mul, Nat.zero_mul, Nat.add_zero] at hbyte
  rw [getElem?_window _ _ _ _ hpos, getElem?_window _ _ _ _ hpos, Nat.add_zero, Nat.add_zero]
    at hbyte
  unfold marked at hbyte
  rw [List.getElem?_set_self (by simpa using hn), List.getElem?_set_ne hstride] at hbyte
  have hzero := List.mem_of_getElem? hbyte.symm
  simp at hzero

/-- A record that is accepted, with two block rows and a stride that is no whole number of
    blocks, has a payload of any length that it accepts which is not repacked faithfully. -/
theorem not_faithful_marked (hk : formatKind img.pixelFormat = .compressed c) {n : Nat}
    (hn : n < usizeLimit) (hrej : ¬ img.Inconsistent c (img.marked c n))
    (hrows : 1 < img.blockRows c) (hcols : 0 < img.blockCols c)
    (hdvd : ¬ c.blockBytes ∣ img.bytesPerRow.toNat) :
    ∃ p, Payload.bytes p = .ok (img.marked c n) ∧
      ¬ (img.withPayload p).Faithful c (img.marked c n) := by
  have hpos := (compressed_bounds hk).2.2.1
  have hlen : (img.marked c n).length < usizeLimit := by rwa [length_marked]
  obtain ⟨p, hp⟩ := Payload.exists_bytes hlen
  refine ⟨p, hp, fun h => ?_⟩
  have hiff : (img.withPayload p).Faithful c (img.marked c n) ↔ _ := faithful_iff hk hp
  rcases hiff.mp h with h | h
  · exact hrej ((inconsistent_withPayload _ rfl).mp h)
  · obtain ⟨hnarrow, hshort⟩ := not_or.mp hrej
    rw [length_marked] at hshort
    have hblock : c.blockBytes ≤ img.blockCols c * c.blockBytes := Nat.le_mul_of_pos_left _ hcols
    have htwo := Nat.mul_le_mul_right (img.wholeStride c) hrows
    exact not_isBlock_marked hpos (by omega) hdvd (h 1 hrows 0 hcols)

end Faithful

/-- `packed_blocks` takes every block from its place in the payload exactly when it rejects the
    record or the payload holds the same blocks at the stride in whole blocks as at
    `bytes_per_row`. It does so for every payload of a length exactly when the record is
    rejected, has at most one block row or no block column, or a stride of whole blocks. -/
theorem packedBlocks_faithful_iff {img : Image} {c : CompressedFormat} {payload : Bytes}
    (hk : formatKind img.pixelFormat = .compressed c) (hraw : img.payload.bytes = .ok payload) :
    (img.Faithful c payload ↔ img.Inconsistent c payload ∨
      ∀ r < img.blockRows c, ∀ k < img.blockCols c, img.IsBlock c payload r k
        (window payload (r * img.wholeStride c + k * c.blockBytes) c.blockBytes)) ∧
    ((∀ p payload', Payload.bytes p = .ok payload' → payload'.length = payload.length →
        (img.withPayload p).Faithful c payload') ↔
      img.Inconsistent c payload ∨ img.blockRows c ≤ 1 ∨ img.blockCols c = 0 ∨
        c.blockBytes ∣ img.bytesPerRow.toNat) := by
  refine ⟨faithful_iff hk hraw, ?_, ?_⟩
  · intro h
    by_contra hcond
    simp only [not_or] at hcond
    obtain ⟨hrej, hrows, hcols, hdvd⟩ := hcond
    obtain ⟨hlen, hlt⟩ := Payload.length_of_bytes hraw
    have hmarked : (img.marked c payload.length).length = payload.length := length_marked _
    have hrej' : ¬ img.Inconsistent c (img.marked c payload.length) :=
      fun h => hrej ((inconsistent_withPayload img.payload hmarked).mp h)
    obtain ⟨p, hp, hno⟩ :=
      not_faithful_marked hk (by omega) hrej' (by omega) (by omega) hdvd
    exact hno (h p _ hp hmarked)
  · intro hcond p payload' hp hlen
    have hiff : (img.withPayload p).Faithful c payload' ↔ _ := faithful_iff hk hp
    refine hiff.mpr ?_
    by_cases hrej : (img.withPayload p).Inconsistent c payload'
    · exact .inl hrej
    · right
      intro r hr k hcol
      refine isBlock_of_dvd hrej ?_ hr hcol
      rcases hcond with h | h | h | h
      · exact absurd ((inconsistent_withPayload p hlen).mpr h) hrej
      · exact .inl h
      · rw [blockCols_withPayload, h] at hcol
        omega
      · exact .inr h

/-- Two by two `ASTC_4x4` blocks of 16 bytes, with a stride of two blocks and a half. -/
def halfBlock : Image where
  width := 8
  height := 8
  bytesPerRow := 40
  pixelFormat := 204
  payload := ⟨AlignedBuf.fromBytes ((List.range 80).map UInt8.ofNat), 0, 80⟩

theorem packedBlocks_faithful_iff_halfBlock :
    ¬ ∀ p payload', Payload.bytes p = .ok payload' → payload'.length = 80 →
      (halfBlock.withPayload p).Faithful (compressed .astc (4, 4) 16 false) payload' := by
  have hk : formatKind halfBlock.pixelFormat = .compressed (compressed .astc (4, 4) 16 false) := by
    decide +kernel
  have hraw : halfBlock.payload.bytes = .ok ((List.range 80).map UInt8.ofNat) := by decide +kernel
  have h := (packedBlocks_faithful_iff hk hraw).2
  rw [List.length_map, List.length_range] at h
  rw [h]
  unfold Inconsistent
  decide +kernel

/-- Its second block row is taken from byte 32 of the payload, in the half block that ends the
    first row, and not from byte 40. -/
theorem packedBlocks_takes_padding :
    ¬ halfBlock.Faithful (compressed .astc (4, 4) 16 false) ((List.range 80).map UInt8.ofNat) := by
  intro h
  have hk : formatKind halfBlock.pixelFormat = .compressed (compressed .astc (4, 4) 16 false) := by
    decide +kernel
  have hraw : halfBlock.payload.bytes = .ok ((List.range 80).map UInt8.ofNat) := by decide +kernel
  have hblocks := blocks_eq hk hraw
  have hpacked : (halfBlock.blocksOf (compressed .astc (4, 4) 16 false)
      ((List.range 80).map UInt8.ofNat)).packedBlocks =
        .ok (.ok (.borrowed ((List.range 64).map UInt8.ofNat))) := by decide +kernel
  obtain ⟨-, hwin⟩ := h _ _ hblocks hpacked 1 (by decide +kernel) 0 (by decide +kernel)
  exact absurd hwin (by decide +kernel)

end Image

end GputoolsReplay
