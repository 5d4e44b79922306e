/-
  Typed access to the pixels of an image (`image.rs`): as one slice, row by row, and as
  packed bytes. All geometry comes off the wire.

  * `Image.checkedLen_eq`: the bounds check never panics and is `Image.Fits`.
  * `Image.pixels_eq`, `Image.rows_eq`, `Image.packedBytes_eq`: what the three views return,
    on any image whose payload can be read.
-/
import GputoolsReplay.Hl.Error
import GputoolsReplay.Hl.Image

namespace GputoolsReplay

open RustSem

/-! ## Casts -/

/-- A `Pod` type, as far as a cast looks at it. -/
structure Pod where
  size : Nat
  align : Nat
  align_pos : 0 < align
  align_dvd_size : align ∣ size

/-- `bytemuck::try_cast_slice::<u8, P>` on the bytes at an address: the elements, each as the
    bytes it is made of. -/
abbrev TryCastSlice := Pod → Nat → Bytes → Option (List Bytes)

/-- The cast succeeds exactly when the bytes start aligned and are a whole number of elements,
    and then reinterprets them in place. -/
def TryCastSlice.Lawful (cast : TryCastSlice) : Prop :=
  ∀ (P : Pod) (addr : Nat) (bytes : Bytes), 0 < P.size →
    cast P addr bytes =
      if P.align ∣ addr ∧ P.size ∣ bytes.length then some (chunksExact P.size bytes) else none

/-- The cast that does nothing else. -/
def plainCast : TryCastSlice := fun P addr bytes =>
  if P.align ∣ addr ∧ P.size ∣ bytes.length then some (chunksExact P.size bytes) else none

theorem plainCast_lawful : plainCast.Lawful := fun _ _ _ _ => rfl

/-! ## `impl Image` -/

namespace Image

/-- `Image::raw_bytes`. -/
def rawBytes (img : Image) : Rust Bytes := img.payload.bytes

/-- `Image::aspect_bpp`. -/
def aspectBpp (img : Image) : Except Error Nat :=
  match formatKind img.pixelFormat with
  | .color c => .ok c.bytesPerPixel
  | .depthStencil d =>
    match d.depth, d.stencil with
    | some .unorm16, none => .ok 2
    | some .float32, none => .ok 4
    | none, some .uint8 => .ok 1
    | _, _ => .error (.wrongCategory "combined depth+stencil is fetched as separate aspects")
  | .compressed _ => .error (.wrongCategory "compressed: use blocks()")
  | .unknown => .error (.unknownFormat img.pixelFormat)

/-- `Image::checked_bpp`. -/
def checkedBpp (P : Pod) (img : Image) : Except Error Nat := do
  let bpp ← img.aspectBpp
  if P.size ≠ bpp then
    .error (.formatMismatch P.size bpp)
  else return bpp

/-- `Image::checked_len`. -/
def checkedLen (img : Image) (bpp : Nat) : Rust (Except Error Nat) :=
  match checkedMul img.width.toNat bpp with
  | none => return .error .truncated
  | some rowLen =>
    if img.bytesPerRow.toNat < rowLen then return .error .truncated
    else
      match checkedMul img.height.toNat img.bytesPerRow.toNat with
      | none => return .error .truncated
      | some need => do
        if (← img.rawBytes).length < need then return .error .truncated
        else return .ok need

section Typed

-- `base` is the address of the payload's buffer
variable (cast : TryCastSlice) (base : Nat) (P : Pod)

/-- `Image::pixels`. -/
def pixels (img : Image) : Rust (Except Error (List Bytes)) :=
  match img.checkedBpp P with
  | .error e => return .error e
  | .ok bpp => do
    let rowLen ← mulUsize img.width.toNat bpp
    if img.bytesPerRow.toNat ≠ rowLen then
      return .error (.padded img.bytesPerRow (UInt32.ofNat rowLen))
    else
      match ← img.checkedLen bpp with
      | .error e => return .error e
      | .ok need =>
        let region ← indexRange (← img.rawBytes) 0 need
        match cast P (base + img.payload.off) region with
        | none => return .error (.misaligned P.align)
        | some elems => return .ok elems

/-- The loop of `Image::rows` over the rows `ys` of `bytes`, which start at the address `addr`. -/
def rowsLoop (addr : Nat) (bytes : Bytes) (bpr w bpp : Nat) :
    List Nat → Rust (Except Error (List (List Bytes)))
  | [] => return .ok []
  | y :: ys => do
    let start ← mulUsize y bpr
    let row ← indexRange bytes start (← addUsize start (← mulUsize w bpp))
    match cast P (addr + start) row with
    | none => return .error (.misaligned P.align)
    | some row => return (← rowsLoop addr bytes bpr w bpp ys).map (row :: ·)

/-- `Image::rows`. -/
def rows (img : Image) : Rust (Except Error (List (List Bytes))) :=
  match img.checkedBpp P with
  | .error e => return .error e
  | .ok bpp => do
    match ← img.checkedLen bpp with
    | .error e => return .error e
    | .ok _ =>
      rowsLoop cast P (base + img.payload.off) (← img.rawBytes) img.bytesPerRow.toNat
        img.width.toNat bpp (List.range img.height.toNat)

end Typed

/-- `Image::packed_bytes`. -/
def packedBytes (img : Image) : Rust (Except Error Cow) :=
  match img.aspectBpp with
  | .error e => return .error e
  | .ok bpp => do
    match ← img.checkedLen bpp with
    | .error e => return .error e
    | .ok need =>
      let rowLen ← mulUsize img.width.toNat bpp
      let bpr := img.bytesPerRow.toNat
      if bpr = rowLen then
        return .ok (.borrowed (← indexRange (← img.rawBytes) 0 need))
      else
        let bytes ← img.rawBytes
        let h := img.height.toNat
        let _capacity ← mulUsize rowLen h
        let out ← (List.range h).foldlM (fun out y => do
          let start ← mulUsize y bpr
          return out ++ (← indexRange bytes start (← addUsize start rowLen))) []
        return .ok (.owned out)

/-! ## Sizes -/

theorem aspectBpp_of_color {img : Image} {c : ColorFormat}
    (h : formatKind img.pixelFormat = .color c) : img.aspectBpp = .ok c.bytesPerPixel := by
  unfold aspectBpp
  rw [h]

/-- An element of an aspect has 1 to 16 bytes. -/
theorem aspectBpp_bounds {img : Image} {bpp : Nat} (h : img.aspectBpp = .ok bpp) :
    0 < bpp ∧ bpp ≤ 16 := by
  unfold aspectBpp at h
  split at h
  case h_1 c hk =>
    cases h
    refine bytesPerPixel_bounds (?_ : (formatKind img.pixelFormat).bytesPerPixel = some _)
    rw [hk]
    rfl
  case h_2 d hk =>
    split at h <;> cases h <;> simp
  all_goals cases h

theorem checkedBpp_eq {img : Image} {P : Pod} {bpp : Nat} (h : img.aspectBpp = .ok bpp)
    (hP : P.size = bpp) : img.checkedBpp P = .ok bpp := by
  unfold checkedBpp
  rw [h, ok_bind, if_neg (by simp [hP])]
  rfl

/-- A size that `checked_bpp` returns is the aspect's and the element type's. -/
theorem checkedBpp_eq_ok {img : Image} {P : Pod} {bpp : Nat} (h : img.checkedBpp P = .ok bpp) :
    img.aspectBpp = .ok bpp ∧ P.size = bpp := by
  obtain ⟨b, hb, hsize⟩ := bind_eq_ok.mp h
  by_cases hP : P.size = b
  · rw [if_neg (by simp [hP])] at hsize
    cases hsize
    exact ⟨hb, hP⟩
  · rw [if_pos hP] at hsize
    cases hsize

/-! ## The bounds check -/

/-- The rows fit their stride, and the payload holds all of them. -/
def Fits (img : Image) (payload : Bytes) (bpp : Nat) : Prop :=
  img.width.toNat * bpp ≤ img.bytesPerRow.toNat ∧
    img.height.toNat * img.bytesPerRow.toNat ≤ payload.length

instance (img : Image) (payload : Bytes) (bpp : Nat) : Decidable (img.Fits payload bpp) :=
  inferInstanceAs (Decidable (_ ∧ _))

/-- The length of a row of pixels does not overflow. -/
theorem width_mul_lt (img : Image) {bpp : Nat} (hbpp : bpp ≤ 16) :
    img.width.toNat * bpp < usizeLimit :=
  mul_lt_usizeLimit img.width.toNat_lt (by omega)

/-- Nor does the length of all rows. -/
theorem height_mul_lt (img : Image) : img.height.toNat * img.bytesPerRow.toNat < usizeLimit :=
  mul_lt_usizeLimit img.height.toNat_lt img.bytesPerRow.toNat_lt

section Views

variable {img : Image} {payload : Bytes} {bpp : Nat}

theorem checkedLen_eq (hraw : img.rawBytes = .ok payload) (hbpp : bpp ≤ 16) :
    img.checkedLen bpp =
      .ok (if img.Fits payload bpp then .ok (img.height.toNat * img.bytesPerRow.toNat)
        else .error .truncated) := by
  unfold checkedLen
  rw [checkedMul_of_lt (img.width_mul_lt hbpp), checkedMul_of_lt img.height_mul_lt,
    hraw]
  dsimp only
  split
  · rw [if_neg (fun hfits => by have := hfits.1; omega)]
    rfl
  · rw [ok_bind]
    split
    · rw [if_neg (fun hfits => by have := hfits.2; omega)]
      rfl
    · rw [if_pos ⟨by omega, by omega⟩]
      rfl

/-- Row `y` ends within the payload, and its end does not overflow. -/
theorem row_in_range (hfits : img.Fits payload bpp) {y : Nat} (hy : y < img.height.toNat) :
    y * img.bytesPerRow.toNat + img.width.toNat * bpp ≤ payload.length ∧
      y * img.bytesPerRow.toNat + img.width.toNat * bpp < usizeLimit :=
  ⟨row_fits hfits.1 hfits.2 hy,
    Nat.lt_of_le_of_lt (row_end_le hfits.1 hy) img.height_mul_lt⟩

/-! ## The views -/

variable {cast : TryCastSlice} {base : Nat} {P : Pod}

/-- One turn of the loop of `rows`: the cast of one row. -/
def castRow (cast : TryCastSlice) (P : Pod) (addr : Nat) (row : Bytes) :
    Except Error (List Bytes) :=
  match cast P addr row with
  | none => .error (.misaligned P.align)
  | some row => .ok row

theorem rowsLoop_eq {addr bpr w : Nat} {ys : List Nat} (hys : ∀ y ∈ ys,
    y * bpr + w * bpp ≤ payload.length ∧ y * bpr + w * bpp < usizeLimit) :
    rowsLoop cast P addr payload bpr w bpp ys =
      .ok (ys.mapM fun y =>
        castRow cast P (addr + y * bpr) (window payload (y * bpr) (w * bpp))) := by
  induction ys with
  | nil => rfl
  | cons y ys ih =>
    obtain ⟨hrow, hlt⟩ := hys y (by simp)
    rw [rowsLoop, mulUsize_of_lt (by omega), ok_bind, mulUsize_of_lt (by omega), ok_bind,
      addUsize_of_lt hlt, ok_bind, indexRange_window hrow, ok_bind,
      ih fun y' hy' => hys y' (by simp [hy']), List.mapM_cons, castRow]
    cases cast P (addr + y * bpr) (window payload (y * bpr) (w * bpp)) with
    | none => rfl
    | some row =>
      simp only [ok_bind, pure_eq_ok]
      rfl

theorem rows_eq (hraw : img.rawBytes = .ok payload) (hbpp : img.checkedBpp P = .ok bpp) :
    img.rows cast base P =
      .ok (if img.Fits payload bpp then
        (List.range img.height.toNat).mapM fun y =>
          castRow cast P (base + img.payload.off + y * img.bytesPerRow.toNat)
            (window payload (y * img.bytesPerRow.toNat) (img.width.toNat * bpp))
        else .error .truncated) := by
  have hle := (aspectBpp_bounds (checkedBpp_eq_ok hbpp).1).2
  unfold rows
  rw [hbpp]
  dsimp only
  rw [checkedLen_eq hraw hle, ok_bind]
  by_cases hfits : img.Fits payload bpp
  · rw [if_pos hfits, if_pos hfits, hraw]
    dsimp only
    rw [ok_bind, rowsLoop_eq fun y hy => row_in_range hfits (List.mem_range.mp hy)]
  · rw [if_neg hfits, if_neg hfits]
    rfl

theorem pixels_eq (hraw : img.rawBytes = .ok payload) (hbpp : img.checkedBpp P = .ok bpp) :
    img.pixels cast base P =
      .ok (if img.bytesPerRow.toNat ≠ img.width.toNat * bpp then
          .error (.padded img.bytesPerRow (UInt32.ofNat (img.width.toNat * bpp)))
        else if img.Fits payload bpp then
          castRow cast P (base + img.payload.off)
            (payload.take (img.height.toNat * img.bytesPerRow.toNat))
        else .error .truncated) := by
  have hle := (aspectBpp_bounds (checkedBpp_eq_ok hbpp).1).2
  unfold pixels
  rw [hbpp]
  dsimp only
  rw [mulUsize_of_lt (img.width_mul_lt hle), ok_bind, checkedLen_eq hraw hle]
  split
  · rfl
  · rw [ok_bind]
    by_cases hfits : img.Fits payload bpp
    · rw [if_pos hfits, if_pos hfits, hraw]
      dsimp only
      rw [ok_bind, indexRange_take hfits.2, ok_bind, castRow]
      split <;> rfl
    · rw [if_neg hfits, if_neg hfits]
      rfl

theorem packedBytes_eq (hraw : img.rawBytes = .ok payload) (hbpp : img.aspectBpp = .ok bpp) :
    img.packedBytes =
      .ok (if img.Fits payload bpp then
          .ok (if img.bytesPerRow.toNat = img.width.toNat * bpp then
              .borrowed (payload.take (img.height.toNat * img.bytesPerRow.toNat))
            else
              .owned (RustSem.rows payload img.bytesPerRow.toNat (img.width.toNat * bpp)
                img.height.toNat).flatten)
        else .error .truncated) := by
  have hle := (aspectBpp_bounds hbpp).2
  unfold packedBytes
  rw [hbpp]
  dsimp only
  rw [checkedLen_eq hraw hle, ok_bind]
  by_cases hfits : img.Fits payload bpp
  · rw [if_pos hfits, if_pos hfits]
    dsimp only
    rw [mulUsize_of_lt (img.width_mul_lt hle), ok_bind, hraw]
    split
    · rw [ok_bind, indexRange_take hfits.2]
      rfl
    · have hrow : img.width.toNat * bpp < 2 ^ 32 :=
        Nat.lt_of_le_of_lt hfits.1 img.bytesPerRow.toNat_lt
      rw [ok_bind, mulUsize_of_lt (mul_lt_usizeLimit hrow img.height.toNat_lt), ok_bind,
        copyRows_eq hfits.1 hfits.2 img.height_mul_lt]
      rfl
  · rw [if_neg hfits, if_neg hfits]
    rfl

/-! ## No view panics -/

theorem exists_rows (cast : TryCastSlice) (base : Nat) (P : Pod)
    (hraw : img.rawBytes = .ok payload) : ∃ r, img.rows cast base P = .ok r := by
  cases hbpp : img.checkedBpp P with
  | ok bpp => exact ⟨_, rows_eq hraw hbpp⟩
  | error e => exact ⟨.error e, by unfold rows; rw [hbpp]; rfl⟩

theorem exists_pixels (cast : TryCastSlice) (base : Nat) (P : Pod)
    (hraw : img.rawBytes = .ok payload) : ∃ r, img.pixels cast base P = .ok r := by
  cases hbpp : img.checkedBpp P with
  | ok bpp => exact ⟨_, pixels_eq hraw hbpp⟩
  | error e => exact ⟨.error e, by unfold pixels; rw [hbpp]; rfl⟩

theorem exists_packedBytes (hraw : img.rawBytes = .ok payload) :
    ∃ r, img.packedBytes = .ok r := by
  cases hbpp : img.aspectBpp with
  | ok bpp => exact ⟨_, packedBytes_eq hraw hbpp⟩
  | error e => exact ⟨.error e, by unfold packedBytes; rw [hbpp]; rfl⟩

end Views

end Image

end GputoolsReplay
