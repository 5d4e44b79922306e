/-
  The check of fetched pixels against known ones (`probes/src/bin/pixelcheck.rs`). An app fills
  each of its textures with one colour; the probe fetches them and says by its exit status whether
  the textures whose contents the capture stored came back as they were written.

  * `check_eq_some_iff`: the verdict on one record.
  * `pixelcheck_succeeds_iff`: the exit status, in terms of what the crate decodes.
-/
import GputoolsReplay.Hl.Texbmp

namespace GputoolsReplay.Probe

open RustSem

/-- `Truth`. -/
structure Truth where
  label : String
  /-- In memory order. -/
  bgra : Bytes
  /-- Of a blit destination, the region that was written. -/
  written : Option (Nat × Nat)
  /-- Whether the capture stores the contents. -/
  stored : Bool
  deriving DecidableEq, Repr

/-- `truth`: the textures of the fixture, by their width. -/
def truth (width : UInt32) : Option Truth :=
  match width.toNat with
  | 16 => some ⟨"private_rt_read", [0, 0, 255, 255], none, false⟩
  | 32 => some ⟨"shared_rt_read", [0, 255, 0, 255], none, false⟩
  | 48 => some ⟨"private_rt_only", [255, 0, 0, 255], none, false⟩
  | 64 => some ⟨"private_blit_src", [0, 255, 255, 255], none, true⟩
  | 80 => some ⟨"private_blit_dst", [0, 255, 255, 255], some (64, 64), true⟩
  | 96 => some ⟨"shared_cpu_upload", [255, 0, 255, 255], none, false⟩
  | 112 => some ⟨"late_created", [255, 255, 0, 255], none, false⟩
  | _ => none

/-- `Verdict`, without what only the report reads. -/
structure Verdict where
  label : String
  width : UInt32
  checked : Nat
  mismatches : Nat
  stored : Bool
  deriving DecidableEq, Repr

/-- One turn of the inner loop of `check`, on `checked` and `mismatches`. -/
def checkPixel (payload : Bytes) (bpr : Nat) (bgra : Bytes) (y : Nat) (counts : Nat × Nat)
    (x : Nat) : Nat × Nat :=
  let i := y * bpr + x * 4
  match getRange payload i (i + 4) with
  | none => counts
  | some px => (counts.1 + 1, if px ≠ bgra then counts.2 + 1 else counts.2)

/-- `check`. -/
def check (rec : InfoRecord) (data : Bytes) : Option Verdict := do
  let t ← truth rec.width
  let off := rec.dataOffset.toNat
  let payload ← getRange data off (off + rec.size.toNat)
  let w := rec.width.toNat
  let h := rec.height.toNat
  let (cw, ch) := t.written.getD (w, h)
  let (checked, mismatches) := (List.range (min ch h)).foldl (fun counts y =>
    (List.range (min cw w)).foldl (checkPixel payload rec.bytesPerRow.toNat t.bgra y) counts) (0, 0)
  return { label := t.label, width := rec.width, checked, mismatches, stored := t.stored }

/-- `phase`, from what the session's fetch answers. -/
def phase (fromBytes : Bytes → Except String Value) (answer : RawResult) :
    Except Failure (List Verdict) := do
  let bytes ← answer.mapError .session
  let parsed ← (parseReply fromBytes bytes).mapError .reply
  let records ← (parseRecords parsed.info).mapError .reply
  return records.filterMap fun rec => check rec parsed.data

/-- The exit status of `main` is success, from the answers before and after playback. -/
def pixelcheck (fromBytes : Bytes → Except String Value) (before after : RawResult) : Bool :=
  match phase fromBytes before, phase fromBytes after with
  | .ok before, .ok _ =>
    let stored := before.filter Verdict.stored
    !stored.isEmpty && (stored.filter fun v => v.mismatches > 0).length == 0
  | _, _ => false

/-! ## One record -/

/-- The part of a texture of this size that was written: so many columns and so many rows. -/
def Truth.region (t : Truth) (w h : Nat) : Nat × Nat :=
  (min (t.written.getD (w, h)).1 w, min (t.written.getD (w, h)).2 h)

/-- The pixels of the written part have the colour, as far as the payload holds them. -/
def Truth.Shown (t : Truth) (payload : Bytes) (w h bpr : Nat) : Prop :=
  ∀ y < (t.region w h).2, ∀ x < (t.region w h).1, y * bpr + x * 4 + 4 ≤ payload.length →
    window payload (y * bpr + x * 4) 4 = t.bgra

section Check

variable {payload : Bytes} {rec : InfoRecord} {data : Bytes} {v : Verdict}

/-- A loop that counts mismatches counts none exactly when nothing mismatches. -/
theorem foldl_snd_eq_zero_iff {α : Type} {l : List α} {step : Nat × Nat → α → Nat × Nat}
    {P : α → Prop} (hstep : ∀ counts a, (step counts a).2 = 0 ↔ counts.2 = 0 ∧ P a)
    (counts : Nat × Nat) : (l.foldl step counts).2 = 0 ↔ counts.2 = 0 ∧ ∀ a ∈ l, P a := by
  induction l generalizing counts with
  | nil => simp
  | cons a l ih => rw [List.foldl_cons, ih, hstep, List.forall_mem_cons, and_assoc]

theorem checkPixel_snd_eq_zero_iff (payload : Bytes) (bpr : Nat) (bgra : Bytes) (y : Nat)
    (counts : Nat × Nat) (x : Nat) :
    (checkPixel payload bpr bgra y counts x).2 = 0 ↔
      counts.2 = 0 ∧ (y * bpr + x * 4 + 4 ≤ payload.length →
        window payload (y * bpr + x * 4) 4 = bgra) := by
  unfold checkPixel
  dsimp only
  rw [getRange_add]
  by_cases hroom : y * bpr + x * 4 + 4 ≤ payload.length
  · rw [if_pos hroom]
    by_cases hpx : window payload (y * bpr + x * 4) 4 = bgra <;> simp [hroom, hpx]
  · simp [hroom]

/-- The verdict on a record of the fixture whose payload is in range. -/
theorem check_of_truth {t : Truth} (ht : truth rec.width = some t)
    (hpayload : getRange data rec.dataOffset.toNat (rec.dataOffset.toNat + rec.size.toNat) =
      some payload) :
    ∃ v, check rec data = some v ∧ v.stored = t.stored ∧
      (v.mismatches = 0 ↔
        t.Shown payload rec.width.toNat rec.height.toNat rec.bytesPerRow.toNat) := by
  have hrow := fun y => foldl_snd_eq_zero_iff
    (l := List.range (t.region rec.width.toNat rec.height.toNat).1)
    (checkPixel_snd_eq_zero_iff payload rec.bytesPerRow.toNat t.bgra y)
  have hall := foldl_snd_eq_zero_iff
    (l := List.range (t.region rec.width.toNat rec.height.toNat).2)
    (fun counts y => hrow y counts) (0, 0)
  have hcheck : check rec data = (truth rec.width).bind fun t =>
      (getRange data rec.dataOffset.toNat (rec.dataOffset.toNat + rec.size.toNat)).bind
        fun payload =>
          let region := t.region rec.width.toNat rec.height.toNat
          let counts := (List.range region.2).foldl (fun counts y =>
            (List.range region.1).foldl (checkPixel payload rec.bytesPerRow.toNat t.bgra y) counts)
            (0, 0)
          some ⟨t.label, rec.width, counts.1, counts.2, t.stored⟩ := rfl
  rw [ht, hpayload] at hcheck
  refine ⟨_, hcheck, rfl, hall.trans ?_⟩
  simp only [true_and, List.mem_range]
  exact Iff.rfl

/-- There is no verdict on another record. -/
theorem check_of_unknown (ht : truth rec.width = none) : check rec data = none := by
  unfold check
  rw [ht]
  rfl

end Check

/-! ## The exit status -/

section Accepted

variable {fromBytes : Bytes → Except String Value} {bytes : Bytes} {raw : RawReply}
  {reply : GputoolsReplay.Reply TextureRecord} {after : RawResult} {verdicts : List Verdict}

/-- The verdicts that decide: some texture is stored, and no stored one has a mismatch. -/
theorem pixelcheck_eq_true_iff {before : RawResult} {first : List Verdict}
    (hbefore : phase fromBytes before = .ok first) (hafter : phase fromBytes after = .ok verdicts) :
    pixelcheck fromBytes before after = true ↔
      (∃ v ∈ first, v.stored = true) ∧ ∀ v ∈ first, v.stored = true → v.mismatches = 0 := by
  unfold pixelcheck
  rw [hbefore, hafter]
  simp only [Bool.and_eq_true, Bool.not_eq_true', beq_iff_eq, List.length_eq_zero_iff,
    List.isEmpty_eq_false_iff_exists_mem, List.filter_eq_nil_iff, List.mem_filter]
  simp

/-- The verdict `v` on the crate's record `r`, of which `t` is known. -/
def Judges (reply : GputoolsReplay.Reply TextureRecord) (r : TextureRecord) (t : Truth)
    (v : Verdict) : Prop :=
  truth r.width = some t ∧ v.stored = t.stored ∧ ∃ payload, reply.payload r = .ok payload ∧
    (v.mismatches = 0 ↔ t.Shown payload r.width.toNat r.height.toNat r.bytesPerRow.toNat)

variable (hparse : RawReply.parse fromBytes bytes = .ok raw)
  (hdec : Reply.decode TextureRecord raw = .ok (.ok reply))

include hparse hdec in
/-- The verdicts of a phase are those on the records that the crate decodes, in order, where the
    width is known. -/
theorem phase_accepted : ∃ first, phase fromBytes (.ok bytes) = .ok first ∧
    (∀ v ∈ first, ∃ r ∈ reply.records, ∃ t, Judges reply r t v) ∧
    ∀ r ∈ reply.records, ∀ t, truth r.width = some t → ∃ v ∈ first, Judges reply r t v := by
  obtain ⟨hreply, hrecords⟩ := parsed_accepted hparse hdec
  obtain ⟨⟨-, hfits⟩, rfl⟩ := (Reply.decode_eq_ok_iff raw reply).mp hdec
  have hjudge : ∀ c ∈ chunksExact 80 raw.info, ∀ t, truth (InfoRecord.ofChunk c).width = some t →
      ∃ v, check (InfoRecord.ofChunk c) raw.data = some v ∧
        Judges ⟨raw, (chunksExact 80 raw.info).map LawfulRecord.ofChunk⟩
          (TextureRecord.ofChunk c) t v := by
    intro c hc t ht
    obtain ⟨v, hv, hstored, hshown⟩ :=
      check_of_truth ht (getRange_window (hfits c hc))
    exact ⟨v, hv, ht, hstored, _, Reply.payload_ofChunk _ c (hfits c hc), hshown⟩
  refine ⟨((chunksExact 80 raw.info).map InfoRecord.ofChunk).filterMap fun rec =>
    check rec raw.data, ?_, ?_, ?_⟩
  · unfold phase
    simp only [Except.mapError, ok_bind, hreply, hrecords]
    rfl
  · intro v hv
    obtain ⟨rec, hrec, hv⟩ := List.mem_filterMap.mp hv
    obtain ⟨c, hc, rfl⟩ := List.mem_map.mp hrec
    cases ht : truth (InfoRecord.ofChunk c).width with
    | none =>
      rw [check_of_unknown ht] at hv
      cases hv
    | some t =>
      obtain ⟨v', hv', hjudges⟩ := hjudge c hc t ht
      obtain rfl := Option.some.inj (hv.symm.trans hv')
      exact ⟨_, List.mem_map_of_mem hc, t, hjudges⟩
  · intro r hr t ht
    obtain ⟨c, hc, rfl⟩ := List.mem_map.mp hr
    obtain ⟨v, hv, hjudges⟩ := hjudge c hc t ht
    exact ⟨v, List.mem_filterMap.mpr ⟨_, List.mem_map_of_mem hc, hv⟩, hjudges⟩

/-- The pixels of the written part, in the crate's packed bytes. -/
theorem shown_packed {t : Truth} {r : TextureRecord} {slice : Payload} {payload : Bytes} {c : Cow}
    (hslice : slice.bytes = .ok payload)
    (haspect : (Texture.fromParts r slice).image.aspectBpp = .ok 4)
    (hpacked : (Texture.fromParts r slice).image.packedBytes = .ok (.ok c))
    (hshown : t.Shown payload r.width.toNat r.height.toNat r.bytesPerRow.toNat) {x y : Nat}
    (hx : x < (t.region r.width.toNat r.height.toNat).1)
    (hy : y < (t.region r.width.toNat r.height.toNat).2) :
    window c.bytes ((y * r.width.toNat + x) * 4) 4 = t.bgra := by
  have hraw : (Texture.fromParts r slice).image.rawBytes = .ok payload := hslice
  obtain ⟨hfits, hc⟩ := (Image.packedBytes_eq_ok_iff hraw haspect).mp hpacked
  have hheight : (Texture.fromParts r slice).image.height.toNat = r.height.toNat :=
    UInt16.toNat_toUInt32 _
  have hbytes : c.bytes =
      ((Texture.fromParts r slice).image.grid payload 4).flatten.flatten := by
    rw [hc]
    split <;> rfl
  have hx' : x < r.width.toNat := Nat.lt_of_lt_of_le hx (Nat.min_le_right ..)
  have hy' : y < (Texture.fromParts r slice).image.height.toNat :=
    hheight ▸ Nat.lt_of_lt_of_le hy (Nat.min_le_right ..)
  have hroom : y * r.bytesPerRow.toNat + r.width.toNat * 4 ≤ payload.length :=
    (Image.row_in_range hfits hy').1
  rw [hbytes]
  exact (Image.window_flatten_flatten_grid hfits hx' hy').trans (hshown y hy x hx (by omega))

include hparse hdec in
/-- The exit status, where the crate accepts the reply before playback. It is success exactly when
    the second phase has verdicts, some record is of a texture whose contents are stored, and of
    each such texture every written pixel that its payload holds has the known colour; a pixel that
    the payload does not hold is not looked at. Of the textures that the crate packs, with four
    bytes a pixel, every written pixel then has the known colour in the packed bytes. -/
theorem pixelcheck_succeeds_iff :
    (pixelcheck fromBytes (.ok bytes) after = true ↔
      (∃ verdicts, phase fromBytes after = .ok verdicts) ∧
      (∃ r ∈ reply.records, ∃ t, truth r.width = some t ∧ t.stored = true) ∧
      ∀ r ∈ reply.records, ∀ t payload, truth r.width = some t → t.stored = true →
        reply.payload r = .ok payload →
        t.Shown payload r.width.toNat r.height.toNat r.bytesPerRow.toNat) ∧
    (pixelcheck fromBytes (.ok bytes) after = true →
      ∀ r ∈ reply.records, ∀ t c, truth r.width = some t → t.stored = true →
        let image := (Texture.fromParts r (reply.slice r)).image
        image.aspectBpp = .ok 4 → image.packedBytes = .ok (.ok c) →
          ∀ x < (t.region r.width.toNat r.height.toNat).1,
          ∀ y < (t.region r.width.toNat r.height.toNat).2,
            window c.bytes ((y * r.width.toNat + x) * 4) 4 = t.bgra) := by
  obtain ⟨first, hfirst, hjudged, hjudge⟩ := phase_accepted hparse hdec
  have hiff : pixelcheck fromBytes (.ok bytes) after = true ↔
      (∃ verdicts, phase fromBytes after = .ok verdicts) ∧
      (∃ r ∈ reply.records, ∃ t, truth r.width = some t ∧ t.stored = true) ∧
      ∀ r ∈ reply.records, ∀ t payload, truth r.width = some t → t.stored = true →
        reply.payload r = .ok payload →
        t.Shown payload r.width.toNat r.height.toNat r.bytesPerRow.toNat := by
    cases hafter : phase fromBytes after with
    | error e => simp [pixelcheck, hfirst, hafter]
    | ok verdicts =>
      rw [pixelcheck_eq_true_iff hfirst hafter]
      constructor
      · intro h
        obtain ⟨⟨v, hv, hstored⟩, hgood⟩ := h
        obtain ⟨r, hr, t, ht, hvt, -⟩ := hjudged v hv
        refine ⟨⟨_, rfl⟩, ⟨r, hr, t, ht, hvt ▸ hstored⟩, fun r hr t payload ht hstored hpayload => ?_⟩
        obtain ⟨v, hv, -, hvt, payload', hpayload', hshown⟩ := hjudge r hr t ht
        obtain rfl : payload' = payload := Except.ok.inj (hpayload'.symm.trans hpayload)
        exact hshown.mp (hgood v hv (hvt.trans hstored))
      · intro h
        obtain ⟨-, ⟨r, hr, t, ht, hstored⟩, hgood⟩ := h
        obtain ⟨v, hv, -, hvt, -⟩ := hjudge r hr t ht
        refine ⟨⟨v, hv, hvt.trans hstored⟩, fun v hv hstored => ?_⟩
        obtain ⟨r, hr, t, ht, hvt, payload, hpayload, hshown⟩ := hjudged v hv
        exact hshown.mpr (hgood r hr t payload ht (hvt ▸ hstored) hpayload)
  refine ⟨hiff, fun h r hr t c ht hstored => ?_⟩
  intro image haspect hpacked x hx y hy
  obtain ⟨payload, hpayload, hslice⟩ := bytes_slice hdec hr
  exact shown_packed hslice haspect hpacked ((hiff.mp h).2.2 r hr t payload ht hstored hpayload) hx hy

end Accepted

/-- The colour of the sources of the blits, in a texture of 64 by 1 pixels. -/
def sourceItem (pixels : Nat) : Item :=
  ⟨[(streamRefOff, 24), (widthOff, 64), (heightOff, 1), (pixelFormatOff, 80),
    (bytesPerRowOff, 256)], (List.replicate pixels [0, 255, 255, 255]).flatten⟩

/-- A texture of which the reply carries one pixel, and a whole one. -/
def blitSources : RawReply := laidOut 0 [sourceItem 1, sourceItem 64]

def blitFile : Bytes := replyFile blitSources.info blitSources.data

/-- Every pixel that a source carries has its colour. -/
theorem shown_sourceItem (pixels w h bpr : Nat) (hbpr : 4 ∣ bpr) :
    (Truth.mk "private_blit_src" [0, 255, 255, 255] none true).Shown (sourceItem pixels).payload
      w h bpr := by
  intro y _ x _ hroom
  have hpixels : ∀ l ∈ List.replicate pixels ([0, 255, 255, 255] : Bytes), l.length = 4 := by
    intro l hl
    rw [List.eq_of_mem_replicate hl]
    rfl
  have hlength : (sourceItem pixels).payload.length = pixels * 4 := by
    rw [sourceItem, length_flatten hpixels, List.length_replicate]
  obtain ⟨k, rfl⟩ := hbpr
  have hplace : y * (4 * k) + x * 4 = (y * k + x) * 4 := by ring
  rw [hplace] at hroom ⊢
  have hlt : y * k + x < (List.replicate pixels ([0, 255, 255, 255] : Bytes)).length := by
    rw [List.length_replicate]
    omega
  rw [sourceItem, window_flatten hpixels hlt, List.getElem_replicate]

theorem pixelcheck_succeeds_iff_blitSources :
    ∃ reply, Reply.decode TextureRecord blitSources = .ok (.ok reply) ∧
      pixelcheck (replyDecoder blitSources.info blitSources.data) (.ok blitFile) (.ok blitFile) =
        true ∧
      ∃ r ∈ reply.records, ∃ c,
        (Texture.fromParts r (reply.slice r)).image.packedBytes = .ok (.ok c) ∧
        ∀ x < 64, window c.bytes ((0 * 64 + x) * 4) 4 = [0, 255, 255, 255] := by
  have hparse : RawReply.parse (replyDecoder blitSources.info blitSources.data) blitFile =
      .ok blitSources := parse_replyFile _ _
  have hwell : ∀ item ∈ [sourceItem 1, sourceItem 64], item.WellFormed := by decide
  obtain ⟨reply, hdec, hlength, hreads⟩ :=
    decode_laidOut .texture hwell (by decide +kernel) 0
  obtain ⟨first, hphase, -⟩ := phase_accepted hparse hdec
  have hrecord : ∀ r ∈ reply.records, ∃ pixels o,
      r = TextureRecord.ofWords ((sourceItem pixels).word o) ∧
        reply.payload r = .ok (sourceItem pixels).payload := by
    intro r hr
    obtain ⟨i, hi⟩ := List.getElem?_of_mem hr
    have hlt := (List.getElem?_eq_some_iff.mp hi).1
    rw [hlength] at hlt
    obtain ⟨pixels, hitem⟩ :
        ∃ pixels, [sourceItem 1, sourceItem 64][i]? = some (sourceItem pixels) := by
      rcases i with _ | _ | i
      · exact ⟨1, rfl⟩
      · exact ⟨64, rfl⟩
      · exact absurd hlt (by simp)
    obtain ⟨o, -, hword, hpayload⟩ := hreads i _ hitem
    obtain rfl := Option.some.inj (hi.symm.trans hword)
    exact ⟨pixels, o, rfl, hpayload⟩
  obtain ⟨o, -, hwhole, hpayload⟩ := hreads 1 (sourceItem 64) rfl
  have hmem := List.mem_of_getElem? hwhole
  obtain ⟨hiff, hpacks⟩ := @pixelcheck_succeeds_iff _ _ _ _ (.ok blitFile) hparse hdec
  have hsucceeds := hiff.mpr ⟨⟨first, hphase⟩, ⟨_, hmem, _, rfl, rfl⟩, by
    intro r hr t payload ht _ hpayload
    obtain ⟨pixels, o, rfl, hpayload'⟩ := hrecord r hr
    obtain rfl := Except.ok.inj (hpayload.symm.trans hpayload')
    obtain rfl := Option.some.inj ht
    exact shown_sourceItem pixels 64 1 256 (by decide)⟩
  obtain ⟨payload, hpayload', hslice⟩ := bytes_slice hdec hmem
  obtain rfl := Except.ok.inj (hpayload'.symm.trans hpayload)
  let r := TextureRecord.ofWords ((sourceItem 64).word o)
  let image := (Texture.fromParts r (reply.slice r)).image
  have haspect : image.aspectBpp = .ok 4 := rfl
  have hraw : image.rawBytes = .ok (sourceItem 64).payload := hslice
  have hfits : image.Fits (sourceItem 64).payload 4 := by
    show 64 * 4 ≤ 256 ∧ 1 * 256 ≤ (sourceItem 64).payload.length
    decide +kernel
  have hpacked := (Image.packedBytes_eq_ok_iff hraw haspect).mpr ⟨hfits, rfl⟩
  refine ⟨reply, hdec, hsucceeds, _, hmem, _, hpacked, fun x hx => ?_⟩
  exact hpacks hsucceeds r hmem _ _ rfl rfl haspect hpacked x hx 0 Nat.zero_lt_one

end GputoolsReplay.Probe
