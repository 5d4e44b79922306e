/-
  The stride of a wireframe (`image.rs`). The record has none, so `Wireframe::from_parts`
  computes it, from a width that comes off the wire and in 32 bits.

  * `wireframe_stride_iff`: the stride is exact, and the pixels read back, exactly when
    `width * bytes_per_pixel` fits 32 bits. A record of an accepted reply may exceed them
    (`wireframe_stride_overflows`).
-/
import GputoolsReplay.Hl.Capture
import GputoolsReplay.Hl.PixelViews

namespace GputoolsReplay

open RustSem

/-- Bytes per pixel of a wireframe, as the format has them: 0 for a format without pixels. -/
def WireframeRecord.bytesPerPixel (r : WireframeRecord) : Nat :=
  (formatKind r.pixelFormat).bytesPerPixel.getD 0

/-- The cast of `bytes_per_pixel` to 32 bits loses nothing. -/
theorem WireframeRecord.bpp_toNat (r : WireframeRecord) : r.bpp.toNat = r.bytesPerPixel := by
  unfold WireframeRecord.bpp WireframeRecord.bytesPerPixel
  apply UInt32.toNat_ofNat_of_lt
  cases h : (formatKind r.pixelFormat).bytesPerPixel with
  | none => simp [UInt32.size]
  | some b =>
    have := (bytesPerPixel_bounds h).2
    simp only [Option.getD_some, UInt32.size]
    omega

/-- The stride of the wireframes built from a record is computed without overflow, in any
    build, and is the length of a row; for a colour format, a payload that holds the image
    reads back as `width * height` elements. -/
structure ExactStride (r : WireframeRecord) : Prop where
  no_panic : ∀ overflowChecks payload, ∃ w, Wireframe.fromParts overflowChecks r payload = .ok w
  exact : ∀ overflowChecks payload w, Wireframe.fromParts overflowChecks r payload = .ok w →
    w.bytesPerRow.toNat = r.width.toNat * r.bytesPerPixel
  reads_back : ∀ c, formatKind r.pixelFormat = .color c →
    ∀ overflowChecks payload w, Wireframe.fromParts overflowChecks r payload = .ok w →
    ∀ bytes, payload.bytes = .ok bytes →
    r.width.toNat * r.height.toNat * c.bytesPerPixel ≤ bytes.length →
    ∀ cast : TryCastSlice, cast.Lawful → ∀ base P, P.size = c.bytesPerPixel →
    P.align ∣ base + payload.off →
    ∃ p rs, w.pixels cast base P = .ok (.ok p) ∧ w.rows cast base P = .ok (.ok rs) ∧
      p.length = r.width.toNat * r.height.toNat ∧
      rs.flatten.length = r.width.toNat * r.height.toNat

/-- What `from_parts` builds, but for the stride. -/
theorem Wireframe.fromParts_eq_ok {overflowChecks : Bool} {r : WireframeRecord}
    {payload : Payload} {w : Wireframe} (h : Wireframe.fromParts overflowChecks r payload = .ok w) :
    mulU32 overflowChecks r.width r.bpp = .ok w.image.bytesPerRow ∧ w.image.width = r.width ∧
      w.image.height = r.height.toUInt32 ∧ w.image.pixelFormat = r.pixelFormat ∧
      w.image.payload = payload := by
  obtain ⟨bytesPerRow, hmul, hw⟩ := bind_eq_ok.mp h
  cases hw
  exact ⟨hmul, rfl, rfl, rfl, rfl⟩

/-- With an exact stride the views hold the image. -/
theorem Wireframe.reads_back {w : Wireframe} {c : ColorFormat} {bytes : Bytes}
    (hc : formatKind w.image.pixelFormat = .color c)
    (hstride : w.image.bytesPerRow.toNat = w.image.width.toNat * c.bytesPerPixel)
    (hraw : w.image.payload.bytes = .ok bytes)
    (hlen : w.image.width.toNat * w.image.height.toNat * c.bytesPerPixel ≤ bytes.length)
    {cast : TryCastSlice} (hcast : cast.Lawful) {base : Nat} {P : Pod}
    (hP : P.size = c.bytesPerPixel) (halign : P.align ∣ base + w.image.payload.off) :
    ∃ p rs, w.pixels cast base P = .ok (.ok p) ∧ w.rows cast base P = .ok (.ok rs) ∧
      p.length = w.image.width.toNat * w.image.height.toNat ∧
      rs.flatten.length = w.image.width.toNat * w.image.height.toNat := by
  have hb := Image.aspectBpp_of_color hc
  obtain ⟨-, -, hpixels, -, hpixel, -⟩ := Image.pixel_views hcast base hraw hb hP
  have hfits : w.image.height.toNat * w.image.bytesPerRow.toNat ≤ bytes.length := by
    calc w.image.height.toNat * w.image.bytesPerRow.toNat
        = w.image.width.toNat * w.image.height.toNat * c.bytesPerPixel := by
          rw [hstride, ← Nat.mul_assoc, Nat.mul_comm w.image.height.toNat]
      _ ≤ bytes.length := hlen
  obtain ⟨p, hp⟩ := hpixels.mpr ⟨hstride, hfits, halign⟩
  obtain ⟨hcount, -, rs, hrs, hflat⟩ := hpixel p hp
  exact ⟨p, rs, hp, hrs, hcount, by rw [hflat, hcount]⟩

/-- The stride of a wireframe record is exact, and its pixels read back, exactly when
    `width * bytes_per_pixel` fits 32 bits. -/
theorem wireframe_stride_iff (r : WireframeRecord) :
    ExactStride r ↔ r.width.toNat * r.bytesPerPixel < 2 ^ 32 := by
  constructor
  · intro h
    have hfits := (Wireframe.exists_fromParts_iff true r ⟨AlignedBuf.fromBytes [], 0, 0⟩).mp
      (h.no_panic _ _) rfl
    unfold WireframeRecord.StrideFits at hfits
    rwa [r.bpp_toNat] at hfits
  · intro hlt
    have hfits : r.StrideFits := by
      unfold WireframeRecord.StrideFits
      rwa [r.bpp_toNat]
    have hexact : ∀ overflowChecks payload w,
        Wireframe.fromParts overflowChecks r payload = .ok w →
        w.bytesPerRow.toNat = r.width.toNat * r.bytesPerPixel := by
      intro overflowChecks payload w hw
      rw [← r.bpp_toNat]
      exact toNat_mulU32 hfits (Wireframe.fromParts_eq_ok hw).1
    refine ⟨fun checks payload => ?_, hexact, ?_⟩
    · exact (Wireframe.exists_fromParts_iff checks r payload).mpr fun _ => hfits
    · intro c hc checks payload w hw bytes hraw hlen cast hcast base P hP halign
      obtain ⟨-, hwidth, hheight, hformat, hpayload⟩ := Wireframe.fromParts_eq_ok hw
      have hbpp : r.bytesPerPixel = c.bytesPerPixel := by
        unfold WireframeRecord.bytesPerPixel
        rw [hc]
        rfl
      have hstride := hexact checks payload w hw
      rw [hbpp, ← hwidth] at hstride
      have hheight' : w.image.height.toNat = r.height.toNat := by
        rw [hheight, UInt16.toNat_toUInt32]
      have hback := Wireframe.reads_back (c := c) (by rw [hformat, hc]) hstride
        (by rw [hpayload, hraw]) (by rw [hwidth, hheight']; exact hlen) hcast hP
        (by rw [hpayload]; exact halign)
      rwa [hwidth, hheight'] at hback

/-- A record of an accepted reply whose stride does not fit: `2 ^ 31 * 16`. -/
theorem wireframe_stride_overflows :
    ¬ ∀ (raw : RawReply) (reply : Reply WireframeRecord),
      Reply.decode WireframeRecord raw = .ok (.ok reply) →
      ∀ r ∈ reply.records, ExactStride r := by
  intro h
  have hall : ∀ r ∈ wideReply.records, r.width.toNat * r.bytesPerPixel < 2 ^ 32 := fun r hr =>
    (wireframe_stride_iff r).mp (h wideWireframe wideReply wideReply_decoded r hr)
  revert hall
  decide +kernel

end GputoolsReplay
