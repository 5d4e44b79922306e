/-
  `MTLPixelFormat` metadata (`format.rs`): what each raw format value is made of. The
  source's `match` over raw values is the table `formatTable`, in the same order.
-/
import Mathlib.Data.List.Lookmap

namespace GputoolsReplay

/-! ## Format kinds -/

inductive Component where
  | r | g | b | a
  deriving DecidableEq, Repr

structure Channel where
  component : Component
  bits : Nat
  deriving DecidableEq, Repr

inductive NumericKind where
  | unorm | snorm | float | uint | sint | sharedExponent
  deriving DecidableEq, Repr

structure ColorFormat where
  channels : List Channel
  numeric : NumericKind
  srgb : Bool
  bytesPerPixel : Nat
  byteAligned : Bool
  deriving DecidableEq, Repr

inductive DepthKind where
  | unorm16 | float32
  deriving DecidableEq, Repr

inductive StencilKind where
  | uint8
  deriving DecidableEq, Repr

structure DepthStencilFormat where
  depth : Option DepthKind
  stencil : Option StencilKind
  bytesPerPixel : Nat
  deriving DecidableEq, Repr

inductive CompressionScheme where
  | astc | etc2 | eac | pvrtc | bc | other
  deriving DecidableEq, Repr

structure CompressedFormat where
  scheme : CompressionScheme
  block : Nat × Nat
  blockBytes : Nat
  srgb : Bool
  deriving DecidableEq, Repr

/-- `FormatKind`. -/
inductive FormatKind where
  | color (c : ColorFormat)
  | depthStencil (d : DepthStencilFormat)
  | compressed (k : CompressedFormat)
  | unknown
  deriving DecidableEq, Repr

/-- `is_combined_depth_stencil`: both a depth and a stencil aspect. -/
def FormatKind.isCombinedDepthStencil : FormatKind → Bool
  | .depthStencil d => d.depth.isSome && d.stencil.isSome
  | _ => false

/-- `FormatKind::bytes_per_pixel`. -/
def FormatKind.bytesPerPixel : FormatKind → Option Nat
  | .color c => some c.bytesPerPixel
  | .depthStencil d => some d.bytesPerPixel
  | .compressed _ | .unknown => none

/-- `FormatKind::byte_aligned`. -/
def FormatKind.byteAligned : FormatKind → Bool
  | .color c => c.byteAligned
  | .depthStencil d => d.depth.isSome != d.stencil.isSome
  | .compressed _ | .unknown => false

/-! ## The table -/

def a8 : List Channel := [⟨.a, 8⟩]
def r8 : List Channel := [⟨.r, 8⟩]
def rg8 : List Channel := [⟨.r, 8⟩, ⟨.g, 8⟩]
def rgba8 : List Channel := [⟨.r, 8⟩, ⟨.g, 8⟩, ⟨.b, 8⟩, ⟨.a, 8⟩]
def bgra8 : List Channel := [⟨.b, 8⟩, ⟨.g, 8⟩, ⟨.r, 8⟩, ⟨.a, 8⟩]
def r16 : List Channel := [⟨.r, 16⟩]
def rg16 : List Channel := [⟨.r, 16⟩, ⟨.g, 16⟩]
def rgba16 : List Channel := [⟨.r, 16⟩, ⟨.g, 16⟩, ⟨.b, 16⟩, ⟨.a, 16⟩]
def r32 : List Channel := [⟨.r, 32⟩]
def rg32 : List Channel := [⟨.r, 32⟩, ⟨.g, 32⟩]
def rgba32 : List Channel := [⟨.r, 32⟩, ⟨.g, 32⟩, ⟨.b, 32⟩, ⟨.a, 32⟩]
def b5g6r5 : List Channel := [⟨.b, 5⟩, ⟨.g, 6⟩, ⟨.r, 5⟩]
def a1bgr5 : List Channel := [⟨.a, 1⟩, ⟨.b, 5⟩, ⟨.g, 5⟩, ⟨.r, 5⟩]
def abgr4 : List Channel := [⟨.a, 4⟩, ⟨.b, 4⟩, ⟨.g, 4⟩, ⟨.r, 4⟩]
def bgr5a1 : List Channel := [⟨.b, 5⟩, ⟨.g, 5⟩, ⟨.r, 5⟩, ⟨.a, 1⟩]
def rgb10a2 : List Channel := [⟨.r, 10⟩, ⟨.g, 10⟩, ⟨.b, 10⟩, ⟨.a, 2⟩]
def bgr10a2 : List Channel := [⟨.b, 10⟩, ⟨.g, 10⟩, ⟨.r, 10⟩, ⟨.a, 2⟩]
def rg11b10 : List Channel := [⟨.r, 11⟩, ⟨.g, 11⟩, ⟨.b, 10⟩]
def rgb9e5 : List Channel := [⟨.r, 9⟩, ⟨.g, 9⟩, ⟨.b, 9⟩]

/-- A colour format whose size and alignment follow from its channels. -/
def color (channels : List Channel) (numeric : NumericKind) (srgb : Bool) : ColorFormat where
  channels := channels
  numeric := numeric
  srgb := srgb
  bytesPerPixel := channels.foldl (fun total c => total + c.bits) 0 / 8
  byteAligned := channels.all fun c =>
    some c.bits == channels.head?.map Channel.bits && c.bits % 8 == 0

def depthStencil (depth : Option DepthKind) (stencil : Option StencilKind) (bytesPerPixel : Nat) :
    DepthStencilFormat := { depth, stencil, bytesPerPixel }

def compressed (scheme : CompressionScheme) (block : Nat × Nat) (blockBytes : Nat) (srgb : Bool) :
    CompressedFormat := { scheme, block, blockBytes, srgb }

/-- The arms of `format_kind`. -/
def formatTable : List (UInt32 × FormatKind) := [
    -- Ordinary 1-channel colour
    (1, .color (color a8 .unorm false)),
    (10, .color (color r8 .unorm false)),
    (11, .color (color r8 .unorm true)),
    (12, .color (color r8 .snorm false)),
    (13, .color (color r8 .uint false)),
    (14, .color (color r8 .sint false)),
    (20, .color (color r16 .unorm false)),
    (22, .color (color r16 .snorm false)),
    (23, .color (color r16 .uint false)),
    (24, .color (color r16 .sint false)),
    (25, .color (color r16 .float false)),
    (53, .color (color r32 .uint false)),
    (54, .color (color r32 .sint false)),
    (55, .color (color r32 .float false)),
    -- Ordinary 2-channel colour
    (30, .color (color rg8 .unorm false)),
    (31, .color (color rg8 .unorm true)),
    (32, .color (color rg8 .snorm false)),
    (33, .color (color rg8 .uint false)),
    (34, .color (color rg8 .sint false)),
    (60, .color (color rg16 .unorm false)),
    (62, .color (color rg16 .snorm false)),
    (63, .color (color rg16 .uint false)),
    (64, .color (color rg16 .sint false)),
    (65, .color (color rg16 .float false)),
    (103, .color (color rg32 .uint false)),
    (104, .color (color rg32 .sint false)),
    (105, .color (color rg32 .float false)),
    -- Packed 16-bit colour
    (40, .color (color b5g6r5 .unorm false)),
    (41, .color (color a1bgr5 .unorm false)),
    (42, .color (color abgr4 .unorm false)),
    (43, .color (color bgr5a1 .unorm false)),
    -- Ordinary 4-channel 8-bit colour
    (70, .color (color rgba8 .unorm false)),
    (71, .color (color rgba8 .unorm true)),
    (72, .color (color rgba8 .snorm false)),
    (73, .color (color rgba8 .uint false)),
    (74, .color (color rgba8 .sint false)),
    (80, .color (color bgra8 .unorm false)),
    (81, .color (color bgra8 .unorm true)),
    -- Packed 32-bit colour
    (90, .color (color rgb10a2 .unorm false)),
    (91, .color (color rgb10a2 .uint false)),
    (92, .color (color rg11b10 .float false)),
    (93, .color {
      channels := rgb9e5, numeric := .sharedExponent, srgb := false, bytesPerPixel := 4,
      byteAligned := false }),
    (94, .color (color bgr10a2 .unorm false)),
    -- Ordinary 4-channel 16-bit colour
    (110, .color (color rgba16 .unorm false)),
    (112, .color (color rgba16 .snorm false)),
    (113, .color (color rgba16 .uint false)),
    (114, .color (color rgba16 .sint false)),
    (115, .color (color rgba16 .float false)),
    -- Ordinary 4-channel 32-bit colour
    (123, .color (color rgba32 .uint false)),
    (124, .color (color rgba32 .sint false)),
    (125, .color (color rgba32 .float false)),
    -- BC (DirectX-style block compression)
    (130, .compressed (compressed .bc (4, 4) 8 false)),
    (131, .compressed (compressed .bc (4, 4) 8 true)),
    (132, .compressed (compressed .bc (4, 4) 16 false)),
    (133, .compressed (compressed .bc (4, 4) 16 true)),
    (134, .compressed (compressed .bc (4, 4) 16 false)),
    (135, .compressed (compressed .bc (4, 4) 16 true)),
    (140, .compressed (compressed .bc (4, 4) 8 false)),
    (141, .compressed (compressed .bc (4, 4) 8 false)),
    (142, .compressed (compressed .bc (4, 4) 16 false)),
    (143, .compressed (compressed .bc (4, 4) 16 false)),
    (150, .compressed (compressed .bc (4, 4) 16 false)),
    (151, .compressed (compressed .bc (4, 4) 16 false)),
    (152, .compressed (compressed .bc (4, 4) 16 false)),
    (153, .compressed (compressed .bc (4, 4) 16 true)),
    -- PVRTC
    (160, .compressed (compressed .pvrtc (8, 4) 8 false)),
    (161, .compressed (compressed .pvrtc (8, 4) 8 true)),
    (162, .compressed (compressed .pvrtc (4, 4) 8 false)),
    (163, .compressed (compressed .pvrtc (4, 4) 8 true)),
    (164, .compressed (compressed .pvrtc (8, 4) 8 false)),
    (165, .compressed (compressed .pvrtc (8, 4) 8 true)),
    (166, .compressed (compressed .pvrtc (4, 4) 8 false)),
    (167, .compressed (compressed .pvrtc (4, 4) 8 true)),
    -- EAC / ETC2
    (170, .compressed (compressed .eac (4, 4) 8 false)),
    (172, .compressed (compressed .eac (4, 4) 8 false)),
    (174, .compressed (compressed .eac (4, 4) 16 false)),
    (176, .compressed (compressed .eac (4, 4) 16 false)),
    (178, .compressed (compressed .eac (4, 4) 16 false)),
    (179, .compressed (compressed .eac (4, 4) 16 true)),
    (180, .compressed (compressed .etc2 (4, 4) 8 false)),
    (181, .compressed (compressed .etc2 (4, 4) 8 true)),
    (182, .compressed (compressed .etc2 (4, 4) 8 false)),
    (183, .compressed (compressed .etc2 (4, 4) 8 true)),
    -- ASTC (sRGB variants)
    (186, .compressed (compressed .astc (4, 4) 16 true)),
    (187, .compressed (compressed .astc (5, 4) 16 true)),
    (188, .compressed (compressed .astc (5, 5) 16 true)),
    (189, .compressed (compressed .astc (6, 5) 16 true)),
    (190, .compressed (compressed .astc (6, 6) 16 true)),
    (192, .compressed (compressed .astc (8, 5) 16 true)),
    (193, .compressed (compressed .astc (8, 6) 16 true)),
    (194, .compressed (compressed .astc (8, 8) 16 true)),
    (195, .compressed (compressed .astc (10, 5) 16 true)),
    (196, .compressed (compressed .astc (10, 6) 16 true)),
    (197, .compressed (compressed .astc (10, 8) 16 true)),
    (198, .compressed (compressed .astc (10, 10) 16 true)),
    (199, .compressed (compressed .astc (12, 10) 16 true)),
    (200, .compressed (compressed .astc (12, 12) 16 true)),
    -- ASTC (LDR)
    (204, .compressed (compressed .astc (4, 4) 16 false)),
    (205, .compressed (compressed .astc (5, 4) 16 false)),
    (206, .compressed (compressed .astc (5, 5) 16 false)),
    (207, .compressed (compressed .astc (6, 5) 16 false)),
    (208, .compressed (compressed .astc (6, 6) 16 false)),
    (210, .compressed (compressed .astc (8, 5) 16 false)),
    (211, .compressed (compressed .astc (8, 6) 16 false)),
    (212, .compressed (compressed .astc (8, 8) 16 false)),
    (213, .compressed (compressed .astc (10, 5) 16 false)),
    (214, .compressed (compressed .astc (10, 6) 16 false)),
    (215, .compressed (compressed .astc (10, 8) 16 false)),
    (216, .compressed (compressed .astc (10, 10) 16 false)),
    (217, .compressed (compressed .astc (12, 10) 16 false)),
    (218, .compressed (compressed .astc (12, 12) 16 false)),
    -- ASTC (HDR)
    (222, .compressed (compressed .astc (4, 4) 16 false)),
    (223, .compressed (compressed .astc (5, 4) 16 false)),
    (224, .compressed (compressed .astc (5, 5) 16 false)),
    (225, .compressed (compressed .astc (6, 5) 16 false)),
    (226, .compressed (compressed .astc (6, 6) 16 false)),
    (228, .compressed (compressed .astc (8, 5) 16 false)),
    (229, .compressed (compressed .astc (8, 6) 16 false)),
    (230, .compressed (compressed .astc (8, 8) 16 false)),
    (231, .compressed (compressed .astc (10, 5) 16 false)),
    (232, .compressed (compressed .astc (10, 6) 16 false)),
    (233, .compressed (compressed .astc (10, 8) 16 false)),
    (234, .compressed (compressed .astc (10, 10) 16 false)),
    (235, .compressed (compressed .astc (12, 10) 16 false)),
    (236, .compressed (compressed .astc (12, 12) 16 false)),
    -- Depth / stencil
    (250, .depthStencil (depthStencil (some .unorm16) none 2)),
    (252, .depthStencil (depthStencil (some .float32) none 4)),
    (253, .depthStencil (depthStencil none (some .uint8) 1)),
    (260, .depthStencil (depthStencil (some .float32) (some .uint8) 8)),
    (261, .depthStencil (depthStencil none (some .uint8) 8)),
    (262, .depthStencil (depthStencil none (some .uint8) 4))]

/-- `format_kind`. -/
def formatKind (raw : UInt32) : FormatKind := (formatTable.lookup raw).getD .unknown

/-- A property of every row of the table and of `unknown` holds of every format. -/
theorem formatKind_forall {P : UInt32 → FormatKind → Prop} (hu : ∀ raw, P raw .unknown)
    (ht : ∀ e ∈ formatTable, P e.1 e.2) (raw : UInt32) : P raw (formatKind raw) := by
  unfold formatKind
  cases h : formatTable.lookup raw with
  | none => exact hu raw
  | some k =>
    obtain ⟨l, r, hl, -⟩ := List.lookup_eq_some_iff.mp h
    exact ht (raw, k) (by rw [hl]; simp)

/-- A pixel of a colour or depth/stencil format has 1 to 16 bytes. -/
theorem bytesPerPixel_bounds {raw : UInt32} {b : Nat}
    (h : (formatKind raw).bytesPerPixel = some b) : 0 < b ∧ b ≤ 16 := by
  have ht : ∀ e ∈ formatTable, ∀ b ∈ e.2.bytesPerPixel, 0 < b ∧ b ≤ 16 := by decide +kernel
  exact formatKind_forall (P := fun _ k => ∀ b ∈ k.bytesPerPixel, 0 < b ∧ b ≤ 16)
    (fun _ b hb => by cases hb) ht raw b h

/-- The blocks of a compressed format have texels and bytes. -/
theorem compressed_bounds {raw : UInt32} {c : CompressedFormat}
    (h : formatKind raw = .compressed c) :
    (0 < c.block.1 ∧ c.block.1 < 256) ∧ (0 < c.block.2 ∧ c.block.2 < 256) ∧
      0 < c.blockBytes ∧ c.blockBytes < 256 := by
  let good (k : FormatKind) : Bool := match k with
    | .compressed c => 0 < c.block.1 && c.block.1 < 256 && (0 < c.block.2 && c.block.2 < 256) &&
      (0 < c.blockBytes && c.blockBytes < 256)
    | _ => true
  have ht : ∀ e ∈ formatTable, good e.2 = true := by decide +kernel
  have hgood := formatKind_forall (P := fun _ k => good k = true) (fun _ => rfl) ht raw
  rw [h] at hgood
  simpa [good, and_assoc] using hgood

/-- The colour formats that are not byte-aligned: those with channels of 1 to 11 bits. -/
theorem packed_color_iff (raw : UInt32) :
    (∃ c, formatKind raw = .color c ∧ c.byteAligned = false) ↔
      raw ∈ [40, 41, 42, 43, 90, 91, 92, 93, 94] := by
  constructor
  · intro h
    let packed (k : FormatKind) : Bool := match k with
      | .color c => !c.byteAligned
      | _ => false
    have ht : ∀ e ∈ formatTable, packed e.2 = true →
        e.1 ∈ ([40, 41, 42, 43, 90, 91, 92, 93, 94] : List UInt32) := by decide +kernel
    obtain ⟨c, hc, hpacked⟩ := h
    refine formatKind_forall (P := fun raw k => packed k = true →
      raw ∈ ([40, 41, 42, 43, 90, 91, 92, 93, 94] : List UInt32)) (fun _ h => by cases h) ht raw ?_
    rw [hc]
    simpa [packed] using hpacked
  · intro h
    have hall : ([40, 41, 42, 43, 90, 91, 92, 93, 94] : List UInt32).all (fun raw =>
        match formatKind raw with
        | .color c => !c.byteAligned
        | _ => false) = true := by decide +kernel
    have hraw := List.all_eq_true.mp hall raw h
    split at hraw
    · next c hc => exact ⟨c, hc, by simpa using hraw⟩
    · cases hraw

/-- A byte-aligned format is a colour format whose channels are whole bytes of one width, or
    it has either a depth or a stencil aspect. -/
theorem byteAligned_iff (raw : UInt32) :
    (formatKind raw).byteAligned = true ↔
      (∃ c, formatKind raw = .color c ∧
        ∃ bits, bits % 8 = 0 ∧ ∀ ch ∈ c.channels, ch.bits = bits) ∨
      ∃ d, formatKind raw = .depthStencil d ∧ (d.depth.isSome ↔ ¬ d.stencil.isSome) := by
  let whole (k : FormatKind) : Bool := match k with
    | .color c => c.byteAligned == (c.channels.all fun ch =>
        ch.bits == (c.channels.headD ⟨.r, 0⟩).bits && (c.channels.headD ⟨.r, 0⟩).bits % 8 == 0) &&
        !c.channels.isEmpty
    | _ => true
  have ht : ∀ e ∈ formatTable, whole e.2 = true := by decide +kernel
  have hwhole := formatKind_forall (P := fun _ k => whole k = true) (fun _ => rfl) ht raw
  cases hk : formatKind raw with
  | color c =>
    rw [hk] at hwhole
    simp only [whole, Bool.and_eq_true, beq_iff_eq, Bool.not_eq_true'] at hwhole
    obtain ⟨hal, hne⟩ := hwhole
    obtain ⟨ch, rest, hch⟩ := List.exists_cons_of_ne_nil (by simpa using hne)
    simp only [FormatKind.byteAligned, hal, hch, List.headD_cons, List.all_eq_true,
      Bool.and_eq_true, beq_iff_eq, FormatKind.color.injEq, reduceCtorEq, false_and, exists_false,
      or_false]
    constructor
    · intro h
      exact ⟨c, rfl, ch.bits, (h ch (List.mem_cons_self ..)).2, by
        rw [hch]
        exact fun x hx => (h x hx).1⟩
    · intro h
      obtain ⟨c', rfl, bits, hbits, hall⟩ := h
      rw [hch] at hall
      have hhead := hall ch (List.mem_cons_self ..)
      exact fun x hx => ⟨(hall x hx).trans hhead.symm, hhead ▸ hbits⟩
  | depthStencil d =>
    cases hd : d.depth <;> cases hs : d.stencil <;> simp [FormatKind.byteAligned, hd, hs]
  | compressed k => simp [FormatKind.byteAligned]
  | unknown => simp [FormatKind.byteAligned]

end GputoolsReplay
