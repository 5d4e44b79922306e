/-
  A fetched texture as a bitmap file (`probes/src/bin/texbmp.rs`): the probe whose two files are
  compared with what another tool exports. It decodes the reply with the probes' decoder and cuts
  the rows out itself.

  * `readBmp_file`: what a reader of the format finds in the file that `write_bmp` makes.
  * `dump_eq`: when a fetched payload is dumped, and the two files.
  * `dumped_texture`: the dump of any accepted reply, and the crate's own view of its texture.
-/
import GputoolsReplay.Hl.Accessors
import GputoolsReplay.Hl.PixelViews
import GputoolsReplay.Lib.Layout
import GputoolsReplay.Substrate.ProbeFetch
import GputoolsReplay.Substrate.ProbeReply
import GputoolsReplay.Substrate.RoundTrip

namespace GputoolsReplay.Probe

open RustSem

/-- What stops a probe: of the texts of other errors, the errors themselves. -/
inductive Failure where
  | session (e : SessionError)
  | reply (e : ReplyError)
  | text (message : String)
  deriving DecidableEq

/-- What `fetch_one` returns. -/
structure Fetched where
  payload : Bytes
  width : UInt32
  height : UInt32
  bytesPerRow : UInt32
  pixelFormat : UInt32
  deriving DecidableEq

/-- `fetch_one`, from what the session's fetch of `streamRef` answers. -/
def fetchOne (fromBytes : Bytes → Except String Value) (streamRef : UInt64) (answer : RawResult) :
    Except Failure Fetched := do
  let bytes ← answer.mapError .session
  let parsed ← (parseReply fromBytes bytes).mapError .reply
  let records ← (parseRecords parsed.info).mapError .reply
  match records.head? with
  | none => .error (.text s!"streamRef {streamRef} answered no record")
  | some r =>
    let off := r.dataOffset.toNat
    match getRange parsed.data off (off + r.size.toNat) with
    | none => .error (.text "payload out of range")
    | some payload => return {
        payload
        width := r.width
        height := r.height.toUInt32
        bytesPerRow := r.bytesPerRow
        pixelFormat := r.pixelFormat }

/-- `(n as u32).to_le_bytes()`. -/
def u32Bytes (n : Nat) : Bytes := leBytes 4 (UInt32.ofNat n).toNat

/-- The two headers that `write_bmp` writes, field by field. -/
def bmpHeader (w h imgSize fileSize : Nat) : List Bytes :=
  [[0x42, 0x4d], u32Bytes fileSize, u32Bytes 0, u32Bytes 54, u32Bytes 40, u32Bytes w, u32Bytes h,
    leBytes 2 1, leBytes 2 32, u32Bytes 0, u32Bytes imgSize, u32Bytes 2835, u32Bytes 2835,
    u32Bytes 0, u32Bytes 0]

/-- The loop of `write_bmp` over the rows `ys`. -/
def bmpRows (px : Bytes) (bpr rowBytes : Nat) : List Nat → Rust (Except Failure Bytes)
  | [] => return .ok []
  | y :: ys => do
    let start ← mulUsize y bpr
    match getRange px start (← addUsize start rowBytes) with
    | none => return .error (.text "row out of range")
    | some row => return (← bmpRows px bpr rowBytes ys).map (row ++ ·)

/-- `write_bmp`: the contents of the file. -/
def writeBmp (px : Bytes) (w h bpr : UInt32) : Rust (Except Failure Bytes) := do
  let rowBytes ← mulUsize w.toNat 4
  let imgSize ← mulUsize rowBytes h.toNat
  let fileSize ← addUsize 54 imgSize
  -- the last row first
  let pixels ← bmpRows px bpr.toNat rowBytes (List.range h.toNat).reverse
  return pixels.map ((bmpHeader w.toNat h.toNat imgSize fileSize).flatten ++ ·)

/-- The files of a dump. -/
structure Files where
  bgra : Bytes
  bmp : Bytes
  deriving DecidableEq

/-- The loop of `dump` that drops the padding of the rows. -/
def packRows (px : Bytes) (w bpr h : Nat) : Rust Bytes :=
  (List.range h).foldlM (fun packed y => do
    let s ← mulUsize y bpr
    return packed ++ (← indexRange px s (← addUsize s (← mulUsize w 4)))) []

/-- `dump`, where both files can be written. -/
def dump (fromBytes : Bytes → Except String Value) (streamRef : UInt64) (answer : RawResult) :
    Rust (Except Failure Files) :=
  match fetchOne fromBytes streamRef answer with
  | .error e => return .error e
  | .ok r => do
    let _capacity ← mulUsize (← mulUsize r.width.toNat r.height.toNat) 4
    let bgra ← packRows r.payload r.width.toNat r.bytesPerRow.toNat r.height.toNat
    return (← writeBmp r.payload r.width r.height r.bytesPerRow).map fun bmp => { bgra, bmp }

/-! ## Reading the file back -/

/-- An image: its rows from the top. -/
structure Bitmap where
  width : Nat
  height : Nat
  rows : List Bytes
  deriving DecidableEq

/-- A reader of bitmaps of 32 bits per pixel that are stored from the bottom: the headers are what
    the format asks for, and the sizes are positive `i32`s. -/
def readBmp (b : Bytes) : Option Bitmap :=
  let start := (le32 b 10).toNat
  let w := (le32 b 18).toNat
  let h := (le32 b 22).toNat
  if window b 0 2 = [0x42, 0x4d] ∧ (le32 b 2).toNat = b.length ∧ le32 b 14 = 40 ∧ w < 2 ^ 31 ∧
      h < 2 ^ 31 ∧ le16 b 26 = 1 ∧ le16 b 28 = 32 ∧ le32 b 30 = 0 ∧
      start + h * (w * 4) ≤ b.length then
    some ⟨w, h, (rows (b.drop start) (w * 4) (w * 4) h).reverse⟩
  else none

section Header

variable {w h : Nat} {pixels : Bytes}

/-- The file of an image whose rows are stored as `pixels`. -/
def file (w h : Nat) (pixels : Bytes) : Bytes :=
  (bmpHeader w h (w * 4 * h) (54 + w * 4 * h)).flatten ++ pixels

/-- The fields of the headers and where they start. -/
theorem placed_bmpHeader (w h imgSize fileSize : Nat) :
    placed 0 (bmpHeader w h imgSize fileSize) =
      [(0, [0x42, 0x4d]), (2, u32Bytes fileSize), (6, u32Bytes 0), (10, u32Bytes 54),
        (14, u32Bytes 40), (18, u32Bytes w), (22, u32Bytes h), (26, leBytes 2 1),
        (28, leBytes 2 32), (30, u32Bytes 0), (34, u32Bytes imgSize), (38, u32Bytes 2835),
        (42, u32Bytes 2835), (46, u32Bytes 0), (50, u32Bytes 0)] := rfl

theorem length_bmpHeader (w h imgSize fileSize : Nat) :
    (bmpHeader w h imgSize fileSize).flatten.length = 54 := rfl

/-- A field is found where it starts. -/
theorem window_file {o : Nat} {part : Bytes}
    (hpart : (o, part) ∈ placed 0 (bmpHeader w h (w * 4 * h) (54 + w * 4 * h))) :
    window (file w h pixels) o part.length = part := by
  obtain ⟨hroom, hwindow⟩ := window_of_mem_placed hpart
  rw [file, window_append_left hroom, hwindow]

theorem le32_file {o n : Nat}
    (hpart : (o, u32Bytes n) ∈ placed 0 (bmpHeader w h (w * 4 * h) (54 + w * 4 * h))) :
    le32 (file w h pixels) o = UInt32.ofNat n := le32_of_window (window_file hpart)

theorem le16_file {o : Nat} {x : UInt16}
    (hpart : (o, leBytes 2 x.toNat) ∈ placed 0 (bmpHeader w h (w * 4 * h) (54 + w * 4 * h))) :
    le16 (file w h pixels) o = x := le16_of_window (window_file hpart)

theorem drop_file : (file w h pixels).drop 54 = pixels := by
  rw [file, List.drop_append_of_le_length (length_bmpHeader ..).ge,
    List.drop_of_length_le (length_bmpHeader ..).le, List.nil_append]

theorem length_file : (file w h pixels).length = 54 + pixels.length := by
  rw [file, List.length_append, length_bmpHeader]

/-- What a reader finds in the file: the image, unless a size has been cut to its field. -/
theorem readBmp_file {ls : List Bytes} (hw : w < 2 ^ 32) (hls : ∀ row ∈ ls, row.length = w * 4)
    (hh : ls.length < 2 ^ 31) :
    readBmp (file w ls.length ls.reverse.flatten) =
      if 54 + w * 4 * ls.length < 2 ^ 32 ∧ w < 2 ^ 31 then some ⟨w, ls.length, ls⟩ else none := by
  have hrev : ∀ row ∈ ls.reverse, row.length = w * 4 := by simpa using hls
  have hlength : (file w ls.length ls.reverse.flatten).length = 54 + w * 4 * ls.length := by
    rw [length_file, length_flatten hrev, List.length_reverse, Nat.mul_comm]
  have hrows : (rows ls.reverse.flatten (w * 4) (w * 4) ls.length).reverse = ls := by
    have hfound := rows_flatten hrev
    rw [List.length_reverse] at hfound
    rw [hfound, List.reverse_reverse]
  -- every field of the headers, and `UInt32.ofNat` undone where it fits
  have hfields := placed_bmpHeader w ls.length (w * 4 * ls.length) (54 + w * 4 * ls.length)
  unfold readBmp
  rw [le32_file (o := 10) (n := 54) (by simp [hfields]),
    le32_file (o := 18) (n := w) (by simp [hfields]),
    le32_file (o := 22) (n := ls.length) (by simp [hfields]),
    le32_file (o := 2) (n := 54 + w * 4 * ls.length) (by simp [hfields]),
    le32_file (o := 14) (n := 40) (by simp [hfields]),
    le32_file (o := 30) (n := 0) (by simp [hfields]),
    le16_file (o := 26) (x := 1) (by simp [hfields]),
    le16_file (o := 28) (x := 32) (by simp [hfields])]
  have hmagic : window (file w ls.length ls.reverse.flatten) 0 2 = [0x42, 0x4d] :=
    @window_file _ _ _ 0 [0x42, 0x4d] (by simp [hfields])
  have hwidth : (UInt32.ofNat w).toNat = w := by
    rw [UInt32.toNat_ofNat', Nat.mod_eq_of_lt hw]
  have hheight : (UInt32.ofNat ls.length).toNat = ls.length := by
    rw [UInt32.toNat_ofNat', Nat.mod_eq_of_lt (by omega)]
  have hsize : (UInt32.ofNat (54 + w * 4 * ls.length)).toNat =
      (54 + w * 4 * ls.length) % 2 ^ 32 := UInt32.toNat_ofNat'
  have hstart : (UInt32.ofNat 54).toNat = 54 := rfl
  dsimp only
  rw [hmagic, hwidth, hheight, hsize, hstart, hlength, drop_file, hrows]
  apply if_congr _ rfl rfl
  constructor
  · intro h
    obtain ⟨-, hcut, -, hw31, -⟩ := h
    exact ⟨by omega, hw31⟩
  · intro h
    obtain ⟨hfits, hw31⟩ := h
    exact ⟨rfl, Nat.mod_eq_of_lt hfits, rfl, hw31, hh, rfl, rfl, rfl,
      by rw [Nat.mul_comm ls.length]⟩

end Header

/-! ## Dumping -/

section Dump

variable {px : Bytes} {w h bpr : Nat}

/-- Every row that a dump reads is in the payload. -/
def RowsIn (px : Bytes) (w bpr h : Nat) : Prop := ∀ y < h, y * bpr + w * 4 ≤ px.length

instance (px : Bytes) (w bpr h : Nat) : Decidable (RowsIn px w bpr h) :=
  inferInstanceAs (Decidable (∀ y < h, _))

/-- The end of a row does not overflow. -/
theorem row_end_lt (hw : w < 2 ^ 32) (hbpr : bpr < 2 ^ 32) (hh : h ≤ 2 ^ 16) {y : Nat}
    (hy : y < h) : y * bpr + w * 4 < usizeLimit := by
  have hstart : y * bpr ≤ 2 ^ 16 * 2 ^ 32 := Nat.mul_le_mul (by omega) (by omega)
  unfold usizeLimit
  omega

theorem packRows_eq (hw : w < 2 ^ 32) (hbpr : bpr < 2 ^ 32) (hh : h ≤ 2 ^ 16) :
    packRows px w bpr h =
      if RowsIn px w bpr h then .ok (rows px bpr (w * 4) h).flatten else .error .sliceIndex := by
  induction h with
  | zero => simp [packRows, RowsIn, rows, pure_eq_ok]
  | succ h ih =>
    have hlt := row_end_lt hw hbpr hh (Nat.lt_succ_self h)
    have hrow : RowsIn px w bpr (h + 1) ↔ RowsIn px w bpr h ∧ h * bpr + w * 4 ≤ px.length :=
      Nat.forall_lt_succ_right
    have hloop := ih (by omega)
    unfold packRows at hloop ⊢
    rw [List.range_succ, List.foldlM_append, hloop]
    by_cases hin : RowsIn px w bpr h
    · rw [if_pos hin, ok_bind, List.foldlM_cons, mulUsize_of_lt (by omega), ok_bind,
        mulUsize_of_lt (by omega), ok_bind, addUsize_of_lt hlt, ok_bind]
      by_cases hlast : h * bpr + w * 4 ≤ px.length
      · rw [indexRange_window hlast, if_pos (hrow.mpr ⟨hin, hlast⟩)]
        simp [rows, List.range_succ, pure_eq_ok, ok_bind]
      · have hpanic : indexRange px (h * bpr) (h * bpr + w * 4) = .error .sliceIndex := by
          rw [indexRange, getRange_add, if_neg hlast]
        rw [hpanic, if_neg fun hall => hlast (hrow.mp hall).2]
        rfl
    · rw [if_neg hin, if_neg fun hall => hin (hrow.mp hall).1]
      rfl

/-- The loop of `write_bmp`, where every row is in range. -/
theorem bmpRows_eq {n : Nat} {ys : List Nat}
    (hys : ∀ y ∈ ys, y * bpr + n ≤ px.length ∧ y * bpr + n < usizeLimit) :
    bmpRows px bpr n ys = .ok (.ok (ys.map fun y => window px (y * bpr) n).flatten) := by
  induction ys with
  | nil => rfl
  | cons y ys ih =>
    obtain ⟨hrow, hlt⟩ := hys y (by simp)
    rw [bmpRows, mulUsize_of_lt (by omega), ok_bind, addUsize_of_lt hlt, ok_bind,
      getRange_window hrow, ih fun y' hy' => hys y' (by simp [hy'])]
    rfl

end Dump

section Files

variable {fromBytes : Bytes → Except String Value} {streamRef : UInt64} {answer : RawResult}
  {r : Fetched}

/-- The rows of a fetched texture, from the top. -/
def Fetched.rows (r : Fetched) : List Bytes :=
  RustSem.rows r.payload r.bytesPerRow.toNat (r.width.toNat * 4) r.height.toNat

theorem writeBmp_eq (hh : r.height.toNat < 2 ^ 16)
    (hin : RowsIn r.payload r.width.toNat r.bytesPerRow.toNat r.height.toNat) :
    writeBmp r.payload r.width r.height r.bytesPerRow =
      .ok (.ok (file r.width.toNat r.height.toNat r.rows.reverse.flatten)) := by
  have hw := r.width.toNat_lt
  have hsize : r.width.toNat * 4 * r.height.toNat ≤ 2 ^ 34 * 2 ^ 16 :=
    Nat.mul_le_mul (by omega) (by omega)
  have hys : ∀ y ∈ (List.range r.height.toNat).reverse,
      y * r.bytesPerRow.toNat + r.width.toNat * 4 ≤ r.payload.length ∧
        y * r.bytesPerRow.toNat + r.width.toNat * 4 < usizeLimit := by
    intro y hy
    have hlt : y < r.height.toNat := by simpa using hy
    exact ⟨hin y hlt, row_end_lt hw r.bytesPerRow.toNat_lt (by omega) hlt⟩
  unfold writeBmp
  rw [mulUsize_of_lt (by unfold usizeLimit; omega), ok_bind,
    mulUsize_of_lt (by unfold usizeLimit; omega), ok_bind,
    addUsize_of_lt (by unfold usizeLimit; omega), ok_bind, bmpRows_eq hys, List.map_reverse]
  rfl

/-- A dump of what was fetched: the panic of the first loop when a row leaves the payload, and
    else both files. The error of `write_bmp` is never met. -/
theorem dump_eq (hfetch : fetchOne fromBytes streamRef answer = .ok r)
    (hh : r.height.toNat < 2 ^ 16) :
    dump fromBytes streamRef answer =
      if RowsIn r.payload r.width.toNat r.bytesPerRow.toNat r.height.toNat then
        .ok (.ok ⟨r.rows.flatten, file r.width.toNat r.height.toNat r.rows.reverse.flatten⟩)
      else .error .sliceIndex := by
  have hw := r.width.toNat_lt
  have hsize : r.width.toNat * r.height.toNat ≤ 2 ^ 32 * 2 ^ 16 :=
    Nat.mul_le_mul (by omega) (by omega)
  unfold dump
  rw [hfetch]
  dsimp only
  rw [mulUsize_of_lt (by unfold usizeLimit; omega), ok_bind,
    mulUsize_of_lt (by unfold usizeLimit; omega), ok_bind,
    packRows_eq hw r.bytesPerRow.toNat_lt (by omega)]
  by_cases hin : RowsIn r.payload r.width.toNat r.bytesPerRow.toNat r.height.toNat
  · rw [if_pos hin, if_pos hin, ok_bind, writeBmp_eq hh hin]
    rfl
  · rw [if_neg hin, if_neg hin]
    rfl

theorem length_of_mem_rows_fetched
    (hin : RowsIn r.payload r.width.toNat r.bytesPerRow.toNat r.height.toNat) :
    ∀ row ∈ r.rows, row.length = r.width.toNat * 4 := by
  intro row hrow
  obtain ⟨y, hy, rfl⟩ := List.mem_map.mp hrow
  exact window_length (hin y (List.mem_range.mp hy))

end Files

/-! ## The texture of an accepted reply -/

/-- What `fetch_one` makes of a record of the crate and its payload. -/
def fetchedOf (r : TextureRecord) (payload : Bytes) : Fetched where
  payload := payload
  width := r.width
  height := r.height.toUInt32
  bytesPerRow := r.bytesPerRow
  pixelFormat := r.pixelFormat

/-- The packed bytes of a texture of four bytes a pixel are its rows. -/
theorem packed_rows {r : TextureRecord} {slice : Payload} {payload : Bytes} {c : Cow}
    (hslice : slice.bytes = .ok payload)
    (haspect : (Texture.fromParts r slice).image.aspectBpp = .ok 4)
    (hpacked : (Texture.fromParts r slice).image.packedBytes = .ok (.ok c)) :
    RowsIn payload r.width.toNat r.bytesPerRow.toNat r.height.toNat ∧
      c.bytes = (rows payload r.bytesPerRow.toNat (r.width.toNat * 4) r.height.toNat).flatten := by
  have hraw : (Texture.fromParts r slice).image.rawBytes = .ok payload := hslice
  obtain ⟨hfits, rfl⟩ := (Image.packedBytes_eq_ok_iff hraw haspect).mp hpacked
  have hheight : (Texture.fromParts r slice).image.height.toNat = r.height.toNat :=
    UInt16.toNat_toUInt32 _
  refine ⟨fun y hy => (Image.row_in_range hfits (hheight ▸ hy)).1, ?_⟩
  have hgrid := Image.flatten_flatten_grid (by decide : 0 < 4) hfits
  rw [hheight] at hgrid
  split <;> exact hgrid

section Accepted

variable {fromBytes : Bytes → Except String Value} {bytes : Bytes} {raw : RawReply}
  {reply : GputoolsReplay.Reply TextureRecord} {r : TextureRecord} {rest : List TextureRecord}
  (hparse : RawReply.parse fromBytes bytes = .ok raw)
  (hdec : Reply.decode TextureRecord raw = .ok (.ok reply)) (hr : reply.records = r :: rest)

include hparse hdec in
/-- The probes decode an archive that the crate accepts. -/
theorem parsed_accepted :
    parseReply fromBytes bytes = .ok ⟨raw.unknownLen, raw.info, raw.data⟩ ∧
      parseRecords raw.info = .ok ((chunksExact 80 raw.info).map InfoRecord.ofChunk) := by
  obtain ⟨⟨hlen, -⟩, -⟩ := (Reply.decode_eq_ok_iff raw reply).mp hdec
  exact ⟨(parseReply_eq_ok_iff fromBytes bytes _ _ _).mpr hparse,
    (parseRecords_eq raw.info).trans (if_pos (Nat.dvd_of_mod_eq_zero hlen))⟩

include hparse hdec hr in
/-- `fetch_one` finds the record that the crate finds first, with the same payload. -/
theorem fetchOne_accepted (streamRef : UInt64) :
    ∃ payload, reply.payload r = .ok payload ∧
      fetchOne fromBytes streamRef (.ok bytes) = .ok (fetchedOf r payload) := by
  obtain ⟨hreply, hrecords⟩ := parsed_accepted hparse hdec
  obtain ⟨⟨-, hfits⟩, rfl⟩ := (Reply.decode_eq_ok_iff raw reply).mp hdec
  obtain ⟨c, chunks, hchunks, rfl, -⟩ := List.map_eq_cons_iff.mp hr
  have hfit : RangeFits raw.data c := hfits c (by rw [hchunks]; simp)
  refine ⟨_, Reply.payload_ofChunk _ c hfit, ?_⟩
  have hrange : getRange raw.data (le32 c 0x18).toNat ((le32 c 0x18).toNat + (le32 c 0x1c).toNat) =
      some (window raw.data (le32 c 0x18).toNat (le32 c 0x1c).toNat) := getRange_window hfit
  unfold fetchOne
  simp only [Except.mapError, ok_bind, hreply, hrecords, hchunks, List.map_cons, List.head?_cons]
  dsimp only [InfoRecord.ofChunk]
  rw [hrange]
  rfl

include hparse hdec in
/-- Without a record there is nothing to dump. -/
theorem dump_of_no_record (hempty : reply.records = []) (streamRef : UInt64) :
    dump fromBytes streamRef (.ok bytes) =
      .ok (.error (.text s!"streamRef {streamRef} answered no record")) := by
  obtain ⟨hreply, hrecords⟩ := parsed_accepted hparse hdec
  obtain ⟨-, rfl⟩ := (Reply.decode_eq_ok_iff raw reply).mp hdec
  have hchunks : chunksExact 80 raw.info = [] := List.map_eq_nil_iff.mp hempty
  have hfetch : fetchOne fromBytes streamRef (.ok bytes) =
      .error (.text s!"streamRef {streamRef} answered no record") := by
    unfold fetchOne
    simp only [Except.mapError, ok_bind, hreply, hrecords, hchunks, List.map_nil, List.head?_nil]
  unfold dump
  rw [hfetch]
  rfl

include hparse hdec hr in
/-- The dump of the first record. -/
theorem dump_of_record (streamRef : UInt64) :
    ∃ payload, reply.payload r = .ok payload ∧
      let w := r.width.toNat
      let h := r.height.toNat
      let pixels := rows payload r.bytesPerRow.toNat (w * 4) h
      let image := (Texture.fromParts r (reply.slice r)).image
      ((∃ y < h, payload.length < y * r.bytesPerRow.toNat + w * 4) →
        dump fromBytes streamRef (.ok bytes) = .error .sliceIndex) ∧
      ((∀ y < h, y * r.bytesPerRow.toNat + w * 4 ≤ payload.length) →
        ∃ files, dump fromBytes streamRef (.ok bytes) = .ok (.ok files) ∧
          files.bgra = pixels.flatten ∧
          readBmp files.bmp =
            if 54 + w * 4 * h < 2 ^ 32 ∧ w < 2 ^ 31 then some ⟨w, h, pixels⟩ else none) ∧
      ∀ c, image.aspectBpp = .ok 4 → image.packedBytes = .ok (.ok c) →
        ∃ files, dump fromBytes streamRef (.ok bytes) = .ok (.ok files) ∧
          files.bgra = c.bytes := by
  obtain ⟨payload, hpayload, hfetch⟩ := fetchOne_accepted hparse hdec hr streamRef
  have hheight : (fetchedOf r payload).height.toNat = r.height.toNat := UInt16.toNat_toUInt32 _
  have hh : (fetchedOf r payload).height.toNat < 2 ^ 16 := hheight ▸ r.height.toNat_lt
  have hrows : (fetchedOf r payload).rows =
      rows payload r.bytesPerRow.toNat (r.width.toNat * 4) r.height.toNat := by
    rw [Fetched.rows, hheight]
    rfl
  have hdump := dump_eq hfetch hh
  rw [hrows, hheight] at hdump
  refine ⟨payload, hpayload, ?_, ?_, ?_⟩
  · intro h
    obtain ⟨y, hy, hout⟩ := h
    rw [hdump, if_neg fun hin => ?_]
    have hrow : y * r.bytesPerRow.toNat + r.width.toNat * 4 ≤ payload.length := hin y hy
    omega
  · intro hin
    refine ⟨_, hdump.trans (if_pos hin), rfl, ?_⟩
    have hlength : ∀ row ∈ (fetchedOf r payload).rows, row.length = r.width.toNat * 4 :=
      length_of_mem_rows_fetched (r := fetchedOf r payload) (by rw [hheight]; exact hin)
    rw [hrows] at hlength
    have hread := readBmp_file r.width.toNat_lt hlength
      (by rw [length_rows]; exact Nat.lt_trans r.height.toNat_lt (by decide))
    rw [length_rows] at hread
    exact hread
  · intro c haspect hpacked
    obtain ⟨payload', hpayload', hslice⟩ := bytes_slice hdec (r := r) (by rw [hr]; simp)
    obtain rfl : payload' = payload := Except.ok.inj (hpayload'.symm.trans hpayload)
    obtain ⟨hin, hbytes⟩ := packed_rows hslice haspect hpacked
    exact ⟨_, hdump.trans (if_pos hin), hbytes.symm⟩

include hparse hdec in
/-- The dump of a texture in a reply that the crate accepts. Without a record it fails with that
    text. With one it panics exactly when a row leaves the payload. Otherwise the first file holds
    the rows without their padding, and a reader of the second finds the same rows, unless the size
    of the file or the width is cut to its field. Where the crate packs the texture, of four bytes
    a pixel, the dump succeeds and its first file holds the packed bytes. -/
theorem dumped_texture (streamRef : UInt64) :
    (reply.records = [] → dump fromBytes streamRef (.ok bytes) =
      .ok (.error (.text s!"streamRef {streamRef} answered no record"))) ∧
    ∀ r rest, reply.records = r :: rest → ∃ payload, reply.payload r = .ok payload ∧
      let w := r.width.toNat
      let h := r.height.toNat
      let pixels := rows payload r.bytesPerRow.toNat (w * 4) h
      let image := (Texture.fromParts r (reply.slice r)).image
      ((∃ y < h, payload.length < y * r.bytesPerRow.toNat + w * 4) →
        dump fromBytes streamRef (.ok bytes) = .error .sliceIndex) ∧
      ((∀ y < h, y * r.bytesPerRow.toNat + w * 4 ≤ payload.length) →
        ∃ files, dump fromBytes streamRef (.ok bytes) = .ok (.ok files) ∧
          files.bgra = pixels.flatten ∧
          readBmp files.bmp =
            if 54 + w * 4 * h < 2 ^ 32 ∧ w < 2 ^ 31 then some ⟨w, h, pixels⟩ else none) ∧
      ∀ c, image.aspectBpp = .ok 4 → image.packedBytes = .ok (.ok c) →
        ∃ files, dump fromBytes streamRef (.ok bytes) = .ok (.ok files) ∧
          files.bgra = c.bytes :=
  ⟨fun hempty => dump_of_no_record hparse hdec hempty streamRef,
    fun _ _ hr => dump_of_record hparse hdec hr streamRef⟩

end Accepted

/-- A reply of one `BGRA8Unorm` texture of 1 by 2 pixels, with rows of six bytes. -/
def paddedTexture : RawReply :=
  laidOut 0 [⟨[(streamRefOff, 24), (widthOff, 1), (heightOff, 2), (pixelFormatOff, 80),
    (bytesPerRowOff, 6)], [1, 2, 3, 4, 0, 0, 5, 6, 7, 8, 0, 0]⟩]

/-- An archive of it. -/
def paddedFile : Bytes := replyFile paddedTexture.info paddedTexture.data

set_option maxRecDepth 20000 in
theorem dumped_texture_paddedTexture :
    ∃ files, dump (replyDecoder paddedTexture.info paddedTexture.data) 24 (.ok paddedFile) =
        .ok (.ok files) ∧
      files.bgra = [1, 2, 3, 4, 5, 6, 7, 8] ∧
      readBmp files.bmp = some ⟨1, 2, [[1, 2, 3, 4], [5, 6, 7, 8]]⟩ := by
  have hparse : RawReply.parse (replyDecoder paddedTexture.info paddedTexture.data) paddedFile =
      .ok paddedTexture := parse_replyFile _ _
  have hdec := (Reply.decode_eq_ok_iff (T := TextureRecord) paddedTexture _).mpr ⟨by decide, rfl⟩
  obtain ⟨payload, hpayload, -, hdumped, -⟩ := (dumped_texture hparse hdec 24).2 _ _ rfl
  obtain rfl : [1, 2, 3, 4, 0, 0, 5, 6, 7, 8, 0, 0] = payload := Except.ok.inj hpayload
  obtain ⟨files, hfiles, hbgra, hread⟩ := hdumped (by decide)
  exact ⟨files, hfiles, hbgra.trans rfl, hread.trans rfl⟩

end GputoolsReplay.Probe
