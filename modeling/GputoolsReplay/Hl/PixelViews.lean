/-
  The three views of an image hold the same pixels (`image.rs`). The pixels are the grid
  that the geometry cuts out of the payload: row `y` starts at `y * bytes_per_row`, and its
  element `x` at `x * bpp` from there.

  * `Image.rows_eq_ok_iff`, `Image.pixels_eq_ok_iff`, `Image.packedBytes_eq_ok_iff`: a view is
    the grid, its rows put together, or their bytes, and nothing else.
  * `Image.pixel_views`: when each view is returned, and that the three agree.
-/
import GputoolsReplay.Hl.Pixels

namespace GputoolsReplay

open RustSem

namespace Image

/-! ## The grid -/

/-- The elements of row `y`. -/
def gridRow (img : Image) (payload : Bytes) (bpp y : Nat) : List Bytes :=
  (List.range img.width.toNat).map fun x =>
    window payload (y * img.bytesPerRow.toNat + x * bpp) bpp

/-- The elements of an image, row by row. -/
def grid (img : Image) (payload : Bytes) (bpp : Nat) : List (List Bytes) :=
  (List.range img.height.toNat).map (img.gridRow payload bpp)

/-- The element `e` is the pixel `(x, y)` of the payload, byte for byte. -/
def IsPixel (img : Image) (payload : Bytes) (bpp x y : Nat) (e : Bytes) : Prop :=
  e.length = bpp ∧ ∀ k < bpp, e[k]? = payload[y * img.bytesPerRow.toNat + x * bpp + k]?

section Grid

variable {img : Image} {payload : Bytes} {bpp : Nat}

theorem length_gridRow (y : Nat) : (img.gridRow payload bpp y).length = img.width.toNat := by
  simp [gridRow]

theorem length_grid : (img.grid payload bpp).length = img.height.toNat := by simp [grid]

theorem length_of_mem_grid : ∀ row ∈ img.grid payload bpp, row.length = img.width.toNat := by
  intro row hrow
  obtain ⟨y, -, rfl⟩ := List.mem_map.mp hrow
  exact length_gridRow y

/-- The element `(x, y)` of the grid. -/
theorem getElem?_grid {x y : Nat} (hx : x < img.width.toNat) (hy : y < img.height.toNat) :
    ((img.grid payload bpp)[y]?.bind fun row => row[x]?) =
      some (window payload (y * img.bytesPerRow.toNat + x * bpp) bpp) := by
  simp [grid, gridRow, hx, hy]

/-- The cast of a row is the row of the grid. -/
theorem chunksExact_row (hbpp : 0 < bpp) (hfits : img.Fits payload bpp) {y : Nat}
    (hy : y < img.height.toNat) :
    chunksExact bpp (window payload (y * img.bytesPerRow.toNat) (img.width.toNat * bpp)) =
      img.gridRow payload bpp y :=
  chunksExact_window hbpp (row_in_range hfits hy).1

/-- The rows of the payload, cast one by one. -/
theorem grid_eq (hbpp : 0 < bpp) (hfits : img.Fits payload bpp) :
    img.grid payload bpp =
      (RustSem.rows payload img.bytesPerRow.toNat (img.width.toNat * bpp)
        img.height.toNat).map (chunksExact bpp) := by
  unfold grid RustSem.rows
  rw [List.map_map]
  apply List.map_congr_left
  intro y hy
  exact (chunksExact_row hbpp hfits (List.mem_range.mp hy)).symm

/-- A row of the payload is a whole number of elements. -/
theorem dvd_length_row (hfits : img.Fits payload bpp) :
    ∀ row ∈ RustSem.rows payload img.bytesPerRow.toNat (img.width.toNat * bpp) img.height.toNat,
      bpp ∣ row.length := by
  intro row hrow
  rw [length_of_mem_rows hfits.1 hfits.2 row hrow]
  exact Nat.dvd_mul_left ..

/-- The elements of the grid, from the rows of the payload put together. -/
theorem flatten_grid (hbpp : 0 < bpp) (hfits : img.Fits payload bpp) :
    (img.grid payload bpp).flatten =
      chunksExact bpp (RustSem.rows payload img.bytesPerRow.toNat (img.width.toNat * bpp)
        img.height.toNat).flatten := by
  rw [chunksExact_flatten hbpp (dvd_length_row hfits), grid_eq hbpp hfits]

/-- The bytes of the grid are the rows of the payload without their padding. -/
theorem flatten_flatten_grid (hbpp : 0 < bpp) (hfits : img.Fits payload bpp) :
    (img.grid payload bpp).flatten.flatten =
      (RustSem.rows payload img.bytesPerRow.toNat (img.width.toNat * bpp)
        img.height.toNat).flatten := by
  rw [flatten_grid hbpp hfits]
  apply flatten_chunksExact
  rw [length_flatten (length_of_mem_rows hfits.1 hfits.2), ← Nat.mul_assoc]
  exact Nat.dvd_mul_left ..

/-- Every element of the grid lies in the payload. -/
theorem isPixel_window (hfits : img.Fits payload bpp) {x y : Nat} (hx : x < img.width.toNat)
    (hy : y < img.height.toNat) :
    img.IsPixel payload bpp x y
      (window payload (y * img.bytesPerRow.toNat + x * bpp) bpp) := by
  have hrow := (row_in_range hfits hy).1
  have hcol := Nat.mul_le_mul_right bpp hx
  rw [Nat.succ_mul] at hcol
  exact ⟨window_length (by omega), fun k hk => getElem?_window _ _ _ _ hk⟩

theorem length_of_mem_flatten_grid (hfits : img.Fits payload bpp) :
    ∀ e ∈ (img.grid payload bpp).flatten, e.length = bpp := by
  intro e he
  obtain ⟨row, hrow, he⟩ := List.mem_flatten.mp he
  obtain ⟨y, hy, rfl⟩ := List.mem_map.mp hrow
  obtain ⟨x, hx, rfl⟩ := List.mem_map.mp he
  exact (isPixel_window hfits (List.mem_range.mp hx) (List.mem_range.mp hy)).1

end Grid

/-! ## The views -/

section Views

variable {cast : TryCastSlice} (hcast : cast.Lawful) {img : Image} {payload : Bytes} {b : Nat}
  {P : Pod} (base : Nat) (hraw : img.rawBytes = .ok payload) (hb : img.aspectBpp = .ok b)
  (hP : P.size = b)

include hcast hb hP in
/-- The cast of whole elements fails on their alignment only. -/
theorem castRow_eq {addr : Nat} {row : Bytes} (hrow : b ∣ row.length) :
    castRow cast P addr row =
      if P.align ∣ addr then .ok (chunksExact b row) else .error (.misaligned P.align) := by
  have hpos := (aspectBpp_bounds hb).1
  subst hP
  unfold castRow
  rw [hcast P addr row hpos]
  by_cases haddr : P.align ∣ addr <;> simp [haddr, hrow]

include hcast hraw hb hP in
theorem rows_eq_ok_iff {rs : List (List Bytes)} :
    img.rows cast base P = .ok (.ok rs) ↔
      img.Fits payload b ∧
        (∀ y < img.height.toNat,
          P.align ∣ base + img.payload.off + y * img.bytesPerRow.toNat) ∧
        rs = img.grid payload b := by
  rw [rows_eq hraw (checkedBpp_eq hb hP), Except.ok.injEq]
  by_cases hfits : img.Fits payload b
  · have hrow : ∀ y ∈ List.range img.height.toNat,
        castRow cast P (base + img.payload.off + y * img.bytesPerRow.toNat)
            (window payload (y * img.bytesPerRow.toNat) (img.width.toNat * b)) =
          if P.align ∣ base + img.payload.off + y * img.bytesPerRow.toNat then
            .ok (img.gridRow payload b y) else .error (.misaligned P.align) := by
      intro y hy
      have hy' := List.mem_range.mp hy
      rw [castRow_eq hcast hb hP, chunksExact_row (aspectBpp_bounds hb).1 hfits hy']
      rw [window_length (row_in_range hfits hy').1]
      exact Nat.dvd_mul_left ..
    rw [if_pos hfits]
    constructor
    · intro hrs
      have hall : ∀ y < img.height.toNat,
          P.align ∣ base + img.payload.off + y * img.bytesPerRow.toNat := by
        intro y hy
        obtain ⟨row, hok⟩ := exists_mapM_ok_iff.mp ⟨rs, hrs⟩ y (List.mem_range.mpr hy)
        rw [hrow y (List.mem_range.mpr hy)] at hok
        by_contra hno
        rw [if_neg hno] at hok
        cases hok
      refine ⟨hfits, hall, ?_⟩
      rw [mapM_ok (g := img.gridRow payload b) fun y hy => by
        rw [hrow y hy, if_pos (hall y (List.mem_range.mp hy))]] at hrs
      cases hrs
      rfl
    · intro h
      obtain ⟨-, hall, rfl⟩ := h
      exact mapM_ok fun y hy => by rw [hrow y hy, if_pos (hall y (List.mem_range.mp hy))]
  · simp [hfits]

include hcast hraw hb hP in
theorem pixels_eq_ok_iff {p : List Bytes} :
    img.pixels cast base P = .ok (.ok p) ↔
      img.bytesPerRow.toNat = img.width.toNat * b ∧ img.Fits payload b ∧
        P.align ∣ base + img.payload.off ∧ p = (img.grid payload b).flatten := by
  rw [pixels_eq hraw (checkedBpp_eq hb hP), Except.ok.injEq]
  by_cases htight : img.bytesPerRow.toNat = img.width.toNat * b
  · rw [if_neg (by simp [htight])]
    by_cases hfits : img.Fits payload b
    · have hbytes : payload.take (img.height.toNat * img.bytesPerRow.toNat) =
          (img.grid payload b).flatten.flatten := by
        rw [flatten_flatten_grid (aspectBpp_bounds hb).1 hfits, htight, flatten_rows_tight]
      have hchunks : chunksExact b (img.grid payload b).flatten.flatten =
          (img.grid payload b).flatten := by
        rw [flatten_flatten_grid (aspectBpp_bounds hb).1 hfits,
          flatten_grid (aspectBpp_bounds hb).1 hfits]
      rw [if_pos hfits, hbytes, castRow_eq hcast hb hP, hchunks]
      · by_cases halign : P.align ∣ base + img.payload.off
        · simp [htight, hfits, halign, eq_comm]
        · simp [halign]
      · rw [length_flatten (length_of_mem_flatten_grid hfits)]
        exact Nat.dvd_mul_left ..
    · simp [hfits]
  · simp [htight]

include hraw hb in
theorem packedBytes_eq_ok_iff {c : Cow} :
    img.packedBytes = .ok (.ok c) ↔
      img.Fits payload b ∧
        c = if img.bytesPerRow.toNat = img.width.toNat * b then
            .borrowed (img.grid payload b).flatten.flatten
          else .owned (img.grid payload b).flatten.flatten := by
  rw [packedBytes_eq hraw hb, Except.ok.injEq]
  by_cases hfits : img.Fits payload b
  · rw [if_pos hfits, flatten_flatten_grid (aspectBpp_bounds hb).1 hfits]
    by_cases htight : img.bytesPerRow.toNat = img.width.toNat * b
    · rw [if_pos htight, if_pos htight, htight, flatten_rows_tight]
      simp [hfits, eq_comm]
    · simp [hfits, htight, eq_comm]
  · simp [hfits]

end Views

/-! ## Exactness -/

section Exact

variable {img : Image} {payload : Bytes} {b : Nat}

/-- The pixel `(x, y)` in the elements put together. -/
theorem getElem?_flatten_grid {x y : Nat} (hx : x < img.width.toNat) (hy : y < img.height.toNat) :
    (img.grid payload b).flatten[y * img.width.toNat + x]? =
      some (window payload (y * img.bytesPerRow.toNat + x * b) b) := by
  rw [getElem?_flatten length_of_mem_grid y hx, getElem?_grid hx hy]

/-- The pixel `(x, y)` in their bytes. -/
theorem window_flatten_flatten_grid (hfits : img.Fits payload b) {x y : Nat}
    (hx : x < img.width.toNat) (hy : y < img.height.toNat) :
    window (img.grid payload b).flatten.flatten ((y * img.width.toNat + x) * b) b =
      window payload (y * img.bytesPerRow.toNat + x * b) b := by
  have he : (img.grid payload b).flatten[y * img.width.toNat + x]? = some _ :=
    getElem?_flatten_grid hx hy
  obtain ⟨hlt, hget⟩ := List.getElem?_eq_some_iff.mp he
  rw [window_flatten (length_of_mem_flatten_grid hfits) hlt, hget]

theorem length_flatten_grid :
    (img.grid payload b).flatten.length = img.width.toNat * img.height.toNat := by
  rw [length_flatten length_of_mem_grid, length_grid, Nat.mul_comm]

theorem length_flatten_flatten_grid (hfits : img.Fits payload b) :
    (img.grid payload b).flatten.flatten.length = img.width.toNat * img.height.toNat * b := by
  rw [length_flatten (length_of_mem_flatten_grid hfits), length_flatten_grid]

/-- Unpadded rows start aligned when the first one does. -/
theorem align_row {P : Pod} (hP : P.size = b) (htight : img.bytesPerRow.toNat = img.width.toNat * b)
    {addr : Nat} (haddr : P.align ∣ addr) (y : Nat) :
    P.align ∣ addr + y * img.bytesPerRow.toNat := by
  have hb : P.align ∣ b := hP ▸ P.align_dvd_size
  rw [htight]
  exact Nat.dvd_add haddr (((hb.mul_left _)).mul_left _)

end Exact

/-- The three views agree and are exact. Each is returned exactly when the geometry fits the
    payload and what it casts is aligned; it then holds `width * height` elements, the element
    `(x, y)` being the bytes of the payload from `y * bytes_per_row + x * b`; the elements of
    `pixels` are those of `rows`, and the bytes of `rows` are `packed_bytes`. -/
theorem pixel_views {cast : TryCastSlice} (hcast : cast.Lawful) (base : Nat) {P : Pod}
    {img : Image} {payload : Bytes} {b : Nat} (hraw : img.rawBytes = .ok payload)
    (hb : img.aspectBpp = .ok b) (hP : P.size = b) :
    ((∃ rs, img.rows cast base P = .ok (.ok rs)) ↔
      img.width.toNat * b ≤ img.bytesPerRow.toNat ∧
        img.height.toNat * img.bytesPerRow.toNat ≤ payload.length ∧
        ∀ y < img.height.toNat,
          P.align ∣ base + img.payload.off + y * img.bytesPerRow.toNat) ∧
    ((∃ c, img.packedBytes = .ok (.ok c)) ↔
      img.width.toNat * b ≤ img.bytesPerRow.toNat ∧
        img.height.toNat * img.bytesPerRow.toNat ≤ payload.length) ∧
    ((∃ p, img.pixels cast base P = .ok (.ok p)) ↔
      img.bytesPerRow.toNat = img.width.toNat * b ∧
        img.height.toNat * img.bytesPerRow.toNat ≤ payload.length ∧
        P.align ∣ base + img.payload.off) ∧
    (∀ rs, img.rows cast base P = .ok (.ok rs) →
      rs.length = img.height.toNat ∧ (∀ row ∈ rs, row.length = img.width.toNat) ∧
        (∀ x < img.width.toNat, ∀ y < img.height.toNat,
          ∃ e, (rs[y]?.bind fun row => row[x]?) = some e ∧ img.IsPixel payload b x y e) ∧
        ∃ c, img.packedBytes = .ok (.ok c) ∧ c.bytes = rs.flatten.flatten) ∧
    (∀ p, img.pixels cast base P = .ok (.ok p) →
      p.length = img.width.toNat * img.height.toNat ∧
        (∀ x < img.width.toNat, ∀ y < img.height.toNat,
          ∃ e, p[y * img.width.toNat + x]? = some e ∧ img.IsPixel payload b x y e) ∧
        ∃ rs, img.rows cast base P = .ok (.ok rs) ∧ rs.flatten = p) ∧
    (∀ c, img.packedBytes = .ok (.ok c) →
      c.bytes.length = img.width.toNat * img.height.toNat * b ∧
        ∀ x < img.width.toNat, ∀ y < img.height.toNat,
          img.IsPixel payload b x y (window c.bytes ((y * img.width.toNat + x) * b) b)) := by
  have hrows rs : img.rows cast base P = .ok (.ok rs) ↔ _ := rows_eq_ok_iff hcast base hraw hb hP
  have hpixels p : img.pixels cast base P = .ok (.ok p) ↔ _ :=
    pixels_eq_ok_iff hcast base hraw hb hP
  have hpacked c : img.packedBytes = .ok (.ok c) ↔ _ := packedBytes_eq_ok_iff hraw hb
  -- the bytes of both paths of `packed_bytes`
  have hcow : ∀ c, img.packedBytes = .ok (.ok c) →
      img.Fits payload b ∧ c.bytes = (img.grid payload b).flatten.flatten := by
    intro c hc
    obtain ⟨hfits, rfl⟩ := (hpacked c).mp hc
    refine ⟨hfits, ?_⟩
    split <;> rfl
  refine ⟨?_, ?_, ?_, ?_, ?_, ?_⟩
  · simp only [hrows, Fits, and_assoc]
    simp
  · simp only [hpacked, Fits]
    simp
  · simp only [hpixels, Fits]
    constructor
    · intro h
      obtain ⟨p, htight, hfits, halign, -⟩ := h
      exact ⟨htight, hfits.2, halign⟩
    · intro h
      obtain ⟨htight, hlen, halign⟩ := h
      exact ⟨_, htight, ⟨by omega, hlen⟩, halign, rfl⟩
  · intro rs hrs
    obtain ⟨hfits, -, rfl⟩ := (hrows rs).mp hrs
    refine ⟨length_grid, length_of_mem_grid, fun x hx y hy => ?_, ?_⟩
    · exact ⟨_, getElem?_grid hx hy, isPixel_window hfits hx hy⟩
    · have hc := (hpacked _).mpr ⟨hfits, rfl⟩
      exact ⟨_, hc, (hcow _ hc).2⟩
  · intro p hp
    obtain ⟨htight, hfits, halign, rfl⟩ := (hpixels p).mp hp
    refine ⟨length_flatten_grid, fun x hx y hy => ?_, ?_⟩
    · exact ⟨_, getElem?_flatten_grid hx hy, isPixel_window hfits hx hy⟩
    · exact ⟨_, (hrows _).mpr ⟨hfits, fun y _ => align_row hP htight halign y, rfl⟩, rfl⟩
  · intro c hc
    obtain ⟨hfits, hbytes⟩ := hcow c hc
    rw [hbytes]
    refine ⟨length_flatten_flatten_grid hfits, fun x hx y hy => ?_⟩
    rw [window_flatten_flatten_grid hfits hx hy]
    exact isPixel_window hfits hx hy

/-- Two `R8Unorm` rows of one pixel, with a stride of two bytes. -/
def twoRows : Image where
  width := 1
  height := 2
  bytesPerRow := 2
  pixelFormat := 10
  payload := ⟨AlignedBuf.fromBytes [7, 0, 8, 0, 9], 0, 5⟩

theorem pixel_views_twoRows :
    ∃ rs c, twoRows.rows plainCast 0 ⟨1, 1, by decide, by decide⟩ = .ok (.ok rs) ∧
      twoRows.packedBytes = .ok (.ok c) ∧ c.bytes = rs.flatten.flatten ∧ c.bytes.length = 2 := by
  have hraw : twoRows.rawBytes = .ok [7, 0, 8, 0, 9] := by decide
  have hviews := pixel_views plainCast_lawful 0 (P := ⟨1, 1, by decide, by decide⟩) hraw
    (by decide) rfl
  obtain ⟨rs, hrs⟩ := hviews.1.mpr (by decide)
  obtain ⟨-, -, -, c, hc, hbytes⟩ := hviews.2.2.2.1 rs hrs
  exact ⟨rs, c, hrs, hc, hbytes, (hviews.2.2.2.2.2 c hc).1⟩

end Image

end GputoolsReplay
