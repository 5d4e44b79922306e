/-
  What typed access refuses (`image.rs`), and with which error.

  * `Image.typed_aligned_iff`: the element size is checked, the byte alignment of the format
    is not, so a packed colour format reads like any other (`Image.typed_on_packed`).
  * `Image.strides_classified_iff`: a stride shorter than the row is `Truncated` to `rows` and
    `packed_bytes`, and `Padded` to `pixels` (`Image.short_stride_padded`).
-/
import GputoolsReplay.Hl.PixelViews

namespace GputoolsReplay

open RustSem

namespace Image

section Views

variable {cast : TryCastSlice} {base : Nat} {P : Pod} {img : Image} {b : Nat}

/-! ## The bounds check reads the payload last -/

theorem exists_rawBytes_of_checkedLen {need : Nat} (h : img.checkedLen b = .ok (.ok need)) :
    ∃ payload, img.rawBytes = .ok payload := by
  unfold checkedLen at h
  split at h
  · cases h
  · split at h
    · cases h
    · split at h
      · cases h
      · obtain ⟨payload, hraw, -⟩ := bind_eq_ok.mp h
        exact ⟨payload, hraw⟩

theorem checkedLen_error {e : Error} (h : img.checkedLen b = .ok (.error e)) : e = .truncated := by
  unfold checkedLen at h
  split at h
  · cases h
    rfl
  · split at h
    · cases h
      rfl
    · split at h
      · cases h
        rfl
      · obtain ⟨payload, -, h⟩ := bind_eq_ok.mp h
        split at h <;> cases h
        rfl

/-- A stride shorter than a row is refused before the payload is read. -/
theorem checkedLen_short (hb : b ≤ 16) (hshort : img.bytesPerRow.toNat < img.width.toNat * b) :
    img.checkedLen b = .ok (.error .truncated) := by
  unfold checkedLen
  rw [checkedMul_of_lt (img.width_mul_lt hb)]
  dsimp only
  rw [if_pos hshort]
  rfl

/-! ## Packed formats -/

/-- `pixels` or `rows` returns `Ok`. -/
def Typed (cast : TryCastSlice) (base : Nat) (P : Pod) (img : Image) : Prop :=
  (∃ p, img.pixels cast base P = .ok (.ok p)) ∨ ∃ rs, img.rows cast base P = .ok (.ok rs)

/-- What follows the bounds check returns only behind a payload that was read. -/
theorem exists_rawBytes_of_checked {α : Type} {rest : Nat → Rust (Except Error α)} {a : α}
    (h : (img.checkedLen b >>= fun r =>
      match r with
      | .error e => pure (.error e)
      | .ok need => rest need) = .ok (.ok a)) :
    ∃ payload, img.rawBytes = .ok payload := by
  obtain ⟨r, hlen, h⟩ := bind_eq_ok.mp h
  cases r with
  | error e => cases h
  | ok need => exact exists_rawBytes_of_checkedLen hlen

theorem exists_rawBytes_of_rows {rs : List (List Bytes)} (h : img.rows cast base P = .ok (.ok rs)) :
    ∃ bpp payload, img.checkedBpp P = .ok bpp ∧ img.rawBytes = .ok payload := by
  unfold rows at h
  cases hbpp : img.checkedBpp P with
  | error e =>
    rw [hbpp] at h
    cases h
  | ok bpp =>
    rw [hbpp] at h
    obtain ⟨payload, hraw⟩ := exists_rawBytes_of_checked h
    exact ⟨bpp, payload, rfl, hraw⟩

theorem exists_rawBytes_of_pixels {p : List Bytes} (h : img.pixels cast base P = .ok (.ok p)) :
    ∃ bpp payload, img.checkedBpp P = .ok bpp ∧ img.rawBytes = .ok payload := by
  unfold pixels at h
  cases hbpp : img.checkedBpp P with
  | error e =>
    rw [hbpp] at h
    cases h
  | ok bpp =>
    rw [hbpp] at h
    obtain ⟨rowLen, -, h⟩ := bind_eq_ok.mp h
    split at h
    · cases h
    · obtain ⟨payload, hraw⟩ := exists_rawBytes_of_checked h
      exact ⟨bpp, payload, rfl, hraw⟩

/-- Every row of the image starts aligned for `P`. -/
def RowsAligned (base : Nat) (P : Pod) (img : Image) : Prop :=
  ∀ y < img.height.toNat, P.align ∣ base + img.payload.off + y * img.bytesPerRow.toNat

/-- Typed access depends on the format through its element size only. -/
theorem typed_iff (hcast : cast.Lawful) :
    img.Typed cast base P ↔ ∃ b payload, img.aspectBpp = .ok b ∧ P.size = b ∧
      img.rawBytes = .ok payload ∧ img.Fits payload b ∧ img.RowsAligned base P := by
  constructor
  · intro h
    rcases h with ⟨p, hp⟩ | ⟨rs, hrs⟩
    · obtain ⟨b, payload, hbpp, hraw⟩ := exists_rawBytes_of_pixels hp
      obtain ⟨hb, hP⟩ := checkedBpp_eq_ok hbpp
      obtain ⟨htight, hfits, halign, -⟩ := (pixels_eq_ok_iff hcast base hraw hb hP).mp hp
      exact ⟨b, payload, hb, hP, hraw, hfits, fun y _ => align_row hP htight halign y⟩
    · obtain ⟨b, payload, hbpp, hraw⟩ := exists_rawBytes_of_rows hrs
      obtain ⟨hb, hP⟩ := checkedBpp_eq_ok hbpp
      obtain ⟨hfits, halign, -⟩ := (rows_eq_ok_iff hcast base hraw hb hP).mp hrs
      exact ⟨b, payload, hb, hP, hraw, hfits, halign⟩
  · intro h
    obtain ⟨b, payload, hb, hP, hraw, hfits, halign⟩ := h
    exact Or.inr ⟨_, (rows_eq_ok_iff hcast base hraw hb hP).mpr ⟨hfits, halign, rfl⟩⟩

/-- A format with an element size is byte-aligned or a packed colour format. -/
theorem byteAligned_or_packed (h : img.aspectBpp = .ok b) :
    (formatKind img.pixelFormat).byteAligned = true ∨
      ∃ c, formatKind img.pixelFormat = .color c ∧ c.byteAligned = false ∧ b = c.bytesPerPixel := by
  unfold aspectBpp at h
  cases hk : formatKind img.pixelFormat with
  | color c =>
    rw [hk] at h
    cases h
    cases hc : c.byteAligned with
    | true => exact Or.inl hc
    | false => exact Or.inr ⟨c, rfl, hc, rfl⟩
  | depthStencil d =>
    rw [hk] at h
    left
    unfold FormatKind.byteAligned
    cases hd : d.depth <;> cases hs : d.stencil <;> simp_all
  | compressed k =>
    rw [hk] at h
    cases h
  | unknown =>
    rw [hk] at h
    cases h

/-- Typed access that succeeds means a byte-aligned format exactly when the format is not a
    packed colour format, or access fails for its own reasons: the size of `P`, the stride,
    the length of the payload or the alignment of a row. The last two parts say which formats
    are byte-aligned, and which ones are packed. -/
theorem typed_aligned_iff (hcast : cast.Lawful) (base : Nat) (P : Pod) (img : Image) :
    ((img.Typed cast base P → (formatKind img.pixelFormat).byteAligned = true) ↔
      ∀ c, formatKind img.pixelFormat = .color c → c.byteAligned = false →
        P.size = c.bytesPerPixel → ∀ payload, img.rawBytes = .ok payload →
        ¬ (img.width.toNat * c.bytesPerPixel ≤ img.bytesPerRow.toNat ∧
          img.height.toNat * img.bytesPerRow.toNat ≤ payload.length ∧
          ∀ y < img.height.toNat,
            P.align ∣ base + img.payload.off + y * img.bytesPerRow.toNat)) ∧
    ((formatKind img.pixelFormat).byteAligned = true ↔
      (∃ c, formatKind img.pixelFormat = .color c ∧
        ∃ bits, bits % 8 = 0 ∧ ∀ ch ∈ c.channels, ch.bits = bits) ∨
      ∃ d, formatKind img.pixelFormat = .depthStencil d ∧
        (d.depth.isSome ↔ ¬ d.stencil.isSome)) ∧
    ((∃ c, formatKind img.pixelFormat = .color c ∧ c.byteAligned = false) ↔
      img.pixelFormat ∈ [40, 41, 42, 43, 90, 91, 92, 93, 94]) := by
  refine ⟨?_, byteAligned_iff img.pixelFormat, packed_color_iff img.pixelFormat⟩
  rw [typed_iff hcast]
  constructor
  · intro haligned c hc hpacked hP payload hraw hfits
    have := haligned
      ⟨_, payload, aspectBpp_of_color hc, hP, hraw, ⟨hfits.1, hfits.2.1⟩, hfits.2.2⟩
    rw [hc, FormatKind.byteAligned, hpacked] at this
    cases this
  · intro hrefused htyped
    obtain ⟨b, payload, hb, hP, hraw, hfits, halign⟩ := htyped
    rcases byteAligned_or_packed hb with h | ⟨c, hc, hpacked, rfl⟩
    · exact h
    · exact absurd ⟨hfits.1, hfits.2, halign⟩ (hrefused c hc hpacked hP payload hraw)

/-- One `B5G6R5Unorm` pixel. -/
def packedPixel : Image where
  width := 1
  height := 1
  bytesPerRow := 2
  pixelFormat := 40
  payload := ⟨AlignedBuf.fromBytes [0x34, 0x12], 0, 2⟩

/-- Byte by byte it does not read. -/
theorem typed_aligned_iff_packedPixel :
    (formatKind packedPixel.pixelFormat).byteAligned = false ∧
      ¬ packedPixel.Typed plainCast 0 ⟨1, 1, by decide, by decide⟩ := by
  have hpacked : (formatKind packedPixel.pixelFormat).byteAligned = false := by decide
  refine ⟨hpacked, fun htyped => ?_⟩
  have haligned := (typed_aligned_iff plainCast_lawful 0 ⟨1, 1, by decide, by decide⟩
    packedPixel).1.mpr (fun c hc _ hP => ?_) htyped
  · rw [hpacked] at haligned
    cases haligned
  · have hkind : formatKind packedPixel.pixelFormat = .color (color b5g6r5 .unorm false) := rfl
    rw [hkind] at hc
    cases hc
    exact absurd hP (by decide)

/-- As a `u16` it reads, although its channels are no whole bytes. -/
theorem typed_on_packed :
    ¬ ∀ (cast : TryCastSlice), cast.Lawful → ∀ (base : Nat) (P : Pod) (img : Image),
      img.Typed cast base P → (formatKind img.pixelFormat).byteAligned = true := by
  intro h
  have hpixels : packedPixel.pixels plainCast 0 ⟨2, 2, by decide, by decide⟩ =
      .ok (.ok [[0x34, 0x12]]) := by decide
  have := h plainCast plainCast_lawful 0 _ packedPixel (Or.inl ⟨_, hpixels⟩)
  revert this
  decide

/-! ## Strides -/

/-- `pixels` reports padding only of rows that are padded, and with their length; a stride
    shorter than the row is `Truncated` to all three views. -/
structure StridesClassified (cast : TryCastSlice) (base : Nat) (P : Pod) (img : Image) (b : Nat) :
    Prop where
  padded_only : ∀ stride rowLen, img.pixels cast base P = .ok (.error (.padded stride rowLen)) →
    img.width.toNat * b < img.bytesPerRow.toNat ∧ stride = img.bytesPerRow ∧
      rowLen.toNat = img.width.toNat * b
  short : img.bytesPerRow.toNat < img.width.toNat * b →
    img.pixels cast base P = .ok (.error .truncated) ∧
      img.rows cast base P = .ok (.error .truncated) ∧ img.packedBytes = .ok (.error .truncated)

/-- `pixels` compares the stride with the row for equality. -/
theorem pixels_padded (hb : img.aspectBpp = .ok b) (hP : P.size = b)
    (hne : img.bytesPerRow.toNat ≠ img.width.toNat * b) :
    img.pixels cast base P =
      .ok (.error (.padded img.bytesPerRow (UInt32.ofNat (img.width.toNat * b)))) := by
  unfold pixels
  rw [checkedBpp_eq hb hP]
  dsimp only
  rw [mulUsize_of_lt (img.width_mul_lt (aspectBpp_bounds hb).2), ok_bind, if_pos hne]
  rfl

theorem pixels_eq_padded (hb : img.aspectBpp = .ok b) (hP : P.size = b) {stride rowLen : UInt32}
    (h : img.pixels cast base P = .ok (.error (.padded stride rowLen))) :
    img.bytesPerRow.toNat ≠ img.width.toNat * b ∧ stride = img.bytesPerRow ∧
      rowLen = UInt32.ofNat (img.width.toNat * b) := by
  by_cases hne : img.bytesPerRow.toNat ≠ img.width.toNat * b
  · rw [pixels_padded hb hP hne] at h
    cases h
    exact ⟨hne, rfl, rfl⟩
  · -- with the exact stride the errors are those of the bounds check and of the cast
    unfold pixels at h
    rw [checkedBpp_eq hb hP] at h
    dsimp only at h
    rw [mulUsize_of_lt (img.width_mul_lt (aspectBpp_bounds hb).2), ok_bind, if_neg hne] at h
    obtain ⟨r, hlen, h⟩ := bind_eq_ok.mp h
    cases r with
    | error e =>
      obtain rfl := checkedLen_error hlen
      cases h
    | ok need =>
      obtain ⟨bytes, -, h⟩ := bind_eq_ok.mp h
      obtain ⟨region, -, h⟩ := bind_eq_ok.mp h
      split at h <;> cases h

theorem rows_short (hb : img.aspectBpp = .ok b) (hP : P.size = b)
    (hshort : img.bytesPerRow.toNat < img.width.toNat * b) :
    img.rows cast base P = .ok (.error .truncated) := by
  unfold rows
  rw [checkedBpp_eq hb hP]
  dsimp only
  rw [checkedLen_short (aspectBpp_bounds hb).2 hshort]
  rfl

theorem packedBytes_short (hb : img.aspectBpp = .ok b)
    (hshort : img.bytesPerRow.toNat < img.width.toNat * b) :
    img.packedBytes = .ok (.error .truncated) := by
  unfold packedBytes
  rw [hb]
  dsimp only
  rw [checkedLen_short (aspectBpp_bounds hb).2 hshort]
  rfl

/-- The views classify a stride alike exactly when it is not shorter than the row. On a
    shorter one `pixels` speaks of padding, with a row length that may be cut to 32 bits, and
    the other two of a truncated payload. -/
theorem strides_classified_iff (cast : TryCastSlice) (base : Nat) {P : Pod} {img : Image} {b : Nat}
    (hb : img.aspectBpp = .ok b) (hP : P.size = b) :
    (StridesClassified cast base P img b ↔ img.width.toNat * b ≤ img.bytesPerRow.toNat) ∧
    (img.bytesPerRow.toNat < img.width.toNat * b →
      img.pixels cast base P =
        .ok (.error (.padded img.bytesPerRow (UInt32.ofNat (img.width.toNat * b)))) ∧
      img.rows cast base P = .ok (.error .truncated) ∧
      img.packedBytes = .ok (.error .truncated)) := by
  refine ⟨⟨?_, ?_⟩, ?_⟩
  · intro h
    by_contra hshort
    have := (h.padded_only _ _ (pixels_padded hb hP (by omega))).1
    omega
  · intro hlong
    refine ⟨fun stride rowLen h => ?_, fun hshort => by omega⟩
    obtain ⟨hne, hstride, rfl⟩ := pixels_eq_padded hb hP h
    -- the row is shorter than a stride of 32 bits
    have hrow : img.width.toNat * b < 2 ^ 32 :=
      Nat.lt_of_le_of_lt hlong img.bytesPerRow.toNat_lt
    exact ⟨by omega, hstride, UInt32.toNat_ofNat_of_lt hrow⟩
  · intro hshort
    exact ⟨pixels_padded hb hP (by omega), rows_short hb hP hshort, packedBytes_short hb hshort⟩

/-- One row of two `R8Unorm` pixels. -/
def oneRow (stride : UInt32) : Image where
  width := 2
  height := 1
  bytesPerRow := stride
  pixelFormat := 10
  payload := ⟨AlignedBuf.fromBytes [7, 8, 0], 0, 3⟩

theorem strides_classified_iff_oneRow :
    StridesClassified plainCast 0 ⟨1, 1, by decide, by decide⟩ (oneRow 3) 1 :=
  (strides_classified_iff plainCast 0 (by decide) rfl).1.mpr (by decide)

/-- With a stride of one byte `pixels` calls the rows padded. -/
theorem short_stride_padded :
    ¬ ∀ (cast : TryCastSlice) (base : Nat) (P : Pod) (img : Image) (b : Nat),
      img.aspectBpp = .ok b → P.size = b → StridesClassified cast base P img b := by
  intro h
  have hpixels : (oneRow 1).pixels plainCast 0 ⟨1, 1, by decide, by decide⟩ =
      .ok (.error (.padded 1 2)) := by decide
  have := (h plainCast 0 _ (oneRow 1) 1 (by decide) rfl).padded_only 1 2 hpixels
  exact absurd this.1 (by decide)

end Views

end Image

end GputoolsReplay
