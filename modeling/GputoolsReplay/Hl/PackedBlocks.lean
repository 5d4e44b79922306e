/-
  `packed_blocks` against its own stride (`image.rs`): the blocks of an image, whatever its
  geometry, cut out of the rows that `blocks_per_row` describes.

  * `packed_blocks_stride`: when `packed_blocks` is `Ok`, what it returns then, that
    `expected_len` is its length, and that nothing saturates on the way.
-/
import GputoolsReplay.Hl.Handles

namespace GputoolsReplay

open RustSem

namespace Blocks

variable {b : Blocks}

/-- A stride holds a row of blocks exactly when it has as many blocks. -/
theorem fetchedRow_lt_tightRow (h : b.Sane) :
    b.fetchedRow < b.tightRow ↔ b.blocksPerRow < b.cols := by
  unfold fetchedRow tightRow
  rw [Nat.mul_lt_mul_right h.blockBytes_pos]

theorem fetchedRow_eq_tightRow (h : b.Sane) :
    b.fetchedRow = b.tightRow ↔ b.blocksPerRow = b.cols := by
  unfold fetchedRow tightRow
  rw [Nat.mul_left_inj (Nat.ne_of_gt h.blockBytes_pos)]

theorem rejected_iff (h : b.Sane) :
    b.Rejected ↔ ¬ (b.cols ≤ b.blocksPerRow ∧ b.rows * b.fetchedRow ≤ b.bytes.length) := by
  unfold Rejected
  rw [fetchedRow_lt_tightRow h]
  omega

/-- Both paths of `packed_blocks` return the tight part of every fetched row. -/
theorem packedBlocks_bytes (h : b.Sane) {packed : Cow} (hok : b.packedBlocks = .ok (.ok packed)) :
    packed.bytes = (RustSem.rows b.bytes b.fetchedRow b.tightRow b.rows).flatten ∧
      packed = if b.blocksPerRow = b.cols then .borrowed packed.bytes else .owned packed.bytes := by
  rw [packedBlocks_eq h, Except.ok.injEq] at hok
  split at hok
  · cases hok
  · cases hok
    by_cases heq : b.fetchedRow = b.tightRow
    · rw [if_pos heq, if_pos ((fetchedRow_eq_tightRow h).mp heq), heq, flatten_rows_tight]
      exact ⟨rfl, rfl⟩
    · rw [if_neg heq, if_neg (mt (fetchedRow_eq_tightRow h).mpr heq)]
      exact ⟨rfl, rfl⟩

/-- The packed rows are no longer than the fetched ones, and those are no longer than `usize`. -/
theorem rows_mul_tightRow_lt (h : b.Sane) (hcols : b.cols ≤ b.blocksPerRow) :
    b.rows * b.tightRow < usizeLimit := by
  have hle : b.tightRow ≤ b.fetchedRow := Nat.mul_le_mul_right _ hcols
  exact Nat.lt_of_le_of_lt (Nat.mul_le_mul_left _ hle)
    (mul_lt_usizeLimit h.rows_lt h.fetchedRow_lt)

theorem cols_mul_rows_mul_blockBytes (b : Blocks) :
    b.cols * b.rows * b.blockBytes = b.rows * b.tightRow := by
  unfold tightRow
  rw [Nat.mul_comm b.cols, Nat.mul_assoc]

end Blocks

/-- What a texture hands out as its blocks is sane. -/
theorem Texture.sane_of_blocks {t : Texture} {b : Blocks} (h : t.blocks = .ok (.ok b)) :
    b.Sane := by
  unfold Texture.blocks Image.blocks at h
  split at h
  · next c hk =>
    obtain ⟨payload, hraw, -⟩ := bind_eq_ok.mp h
    obtain ⟨r, hr, hsane⟩ := Image.exists_blocks hraw
    have hblocks : t.image.blocks = .ok (.ok b) := by
      unfold Image.blocks
      rw [hk]
      exact h
    rw [hr, Except.ok.injEq] at hblocks
    exact hsane b hblocks
  · cases h

/-- `packed_blocks` of the blocks of any texture, with `cols` and `rows` the block columns and
    block rows of its texels: it is `Ok` exactly when the stride has `cols` blocks and the bytes
    have `rows` strides. It then returns the first `cols` blocks of each of them, borrowed or
    copied; its length is `expected_len`; and no product of the two functions saturates. -/
theorem packed_blocks_stride {t : Texture} {b : Blocks} (hb : t.blocks = .ok (.ok b)) :
    let cols := b.width.toNat ⌈/⌉ b.block.1
    let rows := b.height.toNat ⌈/⌉ b.block.2
    let stride := b.blocksPerRow * b.blockBytes
    ((∃ packed, b.packedBlocks = .ok (.ok packed)) ↔
      cols ≤ b.blocksPerRow ∧ rows * stride ≤ b.bytes.length) ∧
    ∀ packed, b.packedBlocks = .ok (.ok packed) →
      b.expectedLen = .ok packed.bytes.length ∧
      (packed.bytes = ((List.range rows).map fun r =>
          window b.bytes (r * stride) (cols * b.blockBytes)).flatten ∧
        ∀ r < rows, r * stride + cols * b.blockBytes ≤ b.bytes.length) ∧
      (packed = if b.blocksPerRow = cols then .borrowed packed.bytes else .owned packed.bytes) ∧
      cols * rows < usizeLimit ∧ cols * rows * b.blockBytes < usizeLimit ∧
      cols * b.blockBytes < usizeLimit ∧ stride < usizeLimit ∧
      cols * b.blockBytes * rows < usizeLimit := by
  intro cols rows stride
  have hsane := Texture.sane_of_blocks hb
  have hiff := Blocks.exists_packedBlocks_iff hsane
  rw [Blocks.rejected_iff hsane, not_not] at hiff
  refine ⟨hiff, fun packed hok => ?_⟩
  obtain ⟨hcols, hroom⟩ := hiff.mp ⟨packed, hok⟩
  obtain ⟨hbytes, hpath⟩ := Blocks.packedBlocks_bytes hsane hok
  have htight : b.tightRow ≤ b.fetchedRow := Nat.mul_le_mul_right _ hcols
  have hlt := Blocks.rows_mul_tightRow_lt hsane hcols
  have hlen : packed.bytes.length = b.cols * b.rows * b.blockBytes := by
    rw [hbytes, length_flatten (length_of_mem_rows htight hroom), length_rows,
      Blocks.cols_mul_rows_mul_blockBytes]
  have hexact : b.cols * b.rows * b.blockBytes < usizeLimit := by
    rwa [Blocks.cols_mul_rows_mul_blockBytes]
  refine ⟨?_, ⟨hbytes, fun r hr => row_fits htight hroom hr⟩, hpath,
    mul_lt_usizeLimit hsane.cols_lt hsane.rows_lt, hexact,
    mul_lt_usizeLimit hsane.cols_lt hsane.blockBytes_lt, ?_, ?_⟩
  · rw [Blocks.expectedLen_eq hsane, saturatingMul_of_lt hexact, hlen]
  · exact Nat.lt_trans hsane.fetchedRow_lt (by decide)
  · rw [Nat.mul_comm]
    exact hlt

/-- Two by two `ASTC_4x4` blocks with a stride of three. -/
def paddedBlocks : Texture :=
  Texture.forTest 1 8 8 48 204 ⟨AlignedBuf.fromBytes ((List.range 96).map UInt8.ofNat), 0, 96⟩

theorem packed_blocks_stride_paddedBlocks :
    ∃ b packed, paddedBlocks.blocks = .ok (.ok b) ∧ b.packedBlocks = .ok (.ok packed) ∧
      b.expectedLen = .ok packed.bytes.length := by
  obtain ⟨b, hb, hgeometry⟩ : ∃ b, paddedBlocks.blocks = .ok (.ok b) ∧
      b.width.toNat ⌈/⌉ b.block.1 ≤ b.blocksPerRow ∧
      b.height.toNat ⌈/⌉ b.block.2 * (b.blocksPerRow * b.blockBytes) ≤ b.bytes.length :=
    ⟨⟨(List.range 96).map UInt8.ofNat, (4, 4), 16, 3, 8, 8⟩, by decide +kernel, by decide +kernel⟩
  have h := packed_blocks_stride hb
  obtain ⟨packed, hok⟩ := h.1.mpr hgeometry
  exact ⟨b, packed, hb, hok, (h.2 packed hok).1⟩

end GputoolsReplay
