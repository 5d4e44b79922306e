/-
  Acceleration structures (`accel.rs`): the header fields, and the triangle vertices, whose
  number the header declares.

  * `AccelStructure.triangles_eq`: what `triangles` returns on any payload that can be read.
  * `AccelStructure.triangles_bounded`: the vertices are those of the declared count, each
    component where the layout has it; what else the payload holds does not matter.
-/
import GputoolsReplay.Hl.Handles

namespace GputoolsReplay

open RustSem

/-- `Aabb`, each coordinate as the bits of its `f32`. -/
structure Aabb where
  min : UInt32 × UInt32 × UInt32
  max : UInt32 × UInt32 × UInt32
  deriving DecidableEq, Repr

namespace AccelStructure

def triangleCountOffset : Nat := 0x2c
def verticesOffset : Nat := 0x418

/-- `read_u64`. -/
def readU64 (b : Bytes) (off : Nat) : Option UInt64 :=
  (getRange b off (off + 8)).map fun w => UInt64.ofNat (leNat w)

/-- `read_u32`. -/
def readU32 (b : Bytes) (off : Nat) : Option UInt32 :=
  (getRange b off (off + 4)).map fun w => UInt32.ofNat (leNat w)

/-- `read_f32`, as the bits of the `f32`. -/
def readF32 (b : Bytes) (off : Nat) : Option UInt32 :=
  (getRange b off (off + 4)).map fun w => UInt32.ofNat (leNat w)

/-- `AccelStructure::total_size`. -/
def totalSize (a : AccelStructure) : Rust (Option UInt64) :=
  return readU64 (← a.rawBytes) 0x08

/-- `AccelStructure::aabb`. -/
def aabb (a : AccelStructure) : Rust (Option Aabb) := do
  let b ← a.rawBytes
  return do
    return {
      min := (← readF32 b 0x0a0, ← readF32 b 0x0a4, ← readF32 b 0x0a8)
      max := (← readF32 b 0x0ac, ← readF32 b 0x0b0, ← readF32 b 0x0b4) }

/-- `[f32; 3]`. -/
def vertexPod : Pod where
  size := 12
  align := 4
  align_pos := by decide
  align_dvd_size := by decide

/-- `AccelStructure::triangles`: the vertices, each as its twelve bytes. `base` is the address of
    the payload's buffer. -/
def triangles (cast : TryCastSlice) (base : Nat) (a : AccelStructure) :
    Rust (Except Error (List Bytes)) := do
  let b ← a.rawBytes
  match readU32 b triangleCountOffset with
  | none => return .error .truncated
  | some count =>
    match (checkedMul count.toNat 3).bind fun verts => checkedMul verts vertexPod.size with
    | none => return .error .truncated
    | some need =>
      match checkedAdd verticesOffset need with
      | none => return .error .truncated
      | some bound =>
        match getRange b verticesOffset bound with
        | none => return .error .truncated
        | some region =>
          match cast vertexPod (base + a.payload.off + verticesOffset) region with
          | none => return .error (.misaligned vertexPod.align)
          | some verts => return .ok verts

/-! ## The header -/

section Header

variable (b : Bytes) (off : Nat)

theorem readU64_eq :
    readU64 b off = if off + 8 ≤ b.length then some (le64 b off) else none := by
  unfold readU64
  rw [getRange_add]
  split <;> rfl

theorem readU32_eq :
    readU32 b off = if off + 4 ≤ b.length then some (le32 b off) else none := by
  unfold readU32
  rw [getRange_add]
  split <;> rfl

end Header

section Triangles

variable {cast : TryCastSlice} {base : Nat} {a : AccelStructure} {b : Bytes}

theorem totalSize_eq (hraw : a.rawBytes = .ok b) :
    a.totalSize = .ok (if 0x10 ≤ b.length then some (le64 b 0x08) else none) := by
  unfold totalSize
  rw [hraw, ok_bind, readU64_eq]
  rfl

/-! ## The vertices -/

/-- The payload holds the count field, and the vertices of as many triangles as it says. -/
def HoldsTriangles (b : Bytes) : Prop :=
  0x30 ≤ b.length ∧ 0x418 + 36 * (le32 b 0x2c).toNat ≤ b.length

instance (b : Bytes) : Decidable (HoldsTriangles b) := inferInstanceAs (Decidable (_ ∧ _))

/-- The vertices of the declared triangles. -/
def vertices (b : Bytes) : List Bytes :=
  chunksExact 12 (window b 0x418 (36 * (le32 b 0x2c).toNat))

/-- The count is a `u32`, so the size of the vertices is a `usize`. -/
theorem need_eq (count : UInt32) :
    ((checkedMul count.toNat 3).bind fun verts => checkedMul verts vertexPod.size) =
      some (36 * count.toNat) := by
  have hcount := count.toNat_lt
  have hsize : vertexPod.size = 12 := rfl
  rw [checkedMul_of_lt (by unfold usizeLimit; omega), Option.bind_some, hsize,
    checkedMul_of_lt (by unfold usizeLimit; omega)]
  congr 1
  omega

theorem bound_eq (count : UInt32) :
    checkedAdd verticesOffset (36 * count.toNat) = some (0x418 + 36 * count.toNat) := by
  have hcount := count.toNat_lt
  exact checkedAdd_of_lt (by unfold verticesOffset usizeLimit; omega)

theorem triangles_eq (hcast : cast.Lawful) (hraw : a.rawBytes = .ok b) :
    a.triangles cast base = .ok (
      if HoldsTriangles b then
        if 4 ∣ base + a.payload.off + 0x418 then .ok (vertices b) else .error (.misaligned 4)
      else .error .truncated) := by
  unfold triangles
  rw [hraw, ok_bind, readU32_eq]
  by_cases hcount : triangleCountOffset + 4 ≤ b.length
  · rw [if_pos hcount]
    dsimp only
    rw [need_eq]
    dsimp only
    rw [show triangleCountOffset = 0x2c from rfl, bound_eq]
    dsimp only
    rw [show verticesOffset = 0x418 from rfl, getRange_add]
    by_cases hroom : 0x418 + 36 * (le32 b 0x2c).toNat ≤ b.length
    · have hlong : HoldsTriangles b := ⟨hcount, hroom⟩
      have hwhole : vertexPod.size ∣ (window b 0x418 (36 * (le32 b 0x2c).toNat)).length := by
        rw [window_length hroom]
        exact Dvd.dvd.mul_right (by decide) _
      rw [if_pos hroom, if_pos hlong]
      dsimp only
      rw [hcast _ _ _ (by decide)]
      by_cases halign : 4 ∣ base + a.payload.off + 0x418
      · rw [if_pos ⟨halign, hwhole⟩, if_pos halign]
        rfl
      · rw [if_neg fun h => halign h.1, if_neg halign]
        rfl
    · rw [if_neg hroom, if_neg fun h : HoldsTriangles b => hroom h.2]
      rfl
  · rw [if_neg hcount, if_neg fun h : HoldsTriangles b => hcount h.1]
    rfl

/-- Vertex `k`. -/
theorem vertices_eq (hlong : HoldsTriangles b) :
    vertices b = (List.range (3 * (le32 b 0x2c).toNat)).map fun k =>
      window b (0x418 + k * 12) 12 := by
  unfold vertices
  have hsize : 36 * (le32 b 0x2c).toNat = 3 * (le32 b 0x2c).toNat * 12 := by omega
  rw [hsize, chunksExact_window (by decide)]
  rw [← hsize]
  exact hlong.2

/-- Component `c` of vertex `k` is the four bytes at its place in the payload. -/
theorem component_of_vertices (hlong : HoldsTriangles b) {k c : Nat} {v : Bytes}
    (hv : (vertices b)[k]? = some v) (hc : c < 3) :
    window v (4 * c) 4 = window b (0x418 + 12 * k + 4 * c) 4 := by
  rw [vertices_eq hlong, List.getElem?_map] at hv
  obtain ⟨k', hk', rfl⟩ := Option.map_eq_some_iff.mp hv
  obtain ⟨_, hget⟩ := List.getElem?_eq_some_iff.mp hk'
  rw [List.getElem_range] at hget
  subst hget
  rw [window_window b (by omega), Nat.mul_comm k 12]

/-- Payloads with the same count and the same bytes where the vertices are have the same ones. -/
theorem vertices_congr {b' : Bytes} (hcount : window b 0x2c 4 = window b' 0x2c 4)
    (hbytes : window b 0x418 (36 * (le32 b 0x2c).toNat) =
      window b' 0x418 (36 * (le32 b 0x2c).toNat)) : vertices b = vertices b' := by
  have hn : le32 b 0x2c = le32 b' 0x2c := congrArg (fun w => UInt32.ofNat (leNat w)) hcount
  unfold vertices
  rw [hbytes, hn]

/-- In a 16-aligned buffer the address of the vertices is as aligned as their offset. -/
theorem dvd_address_iff (hbase : 16 ∣ base) :
    4 ∣ base + a.payload.off + 0x418 ↔ 4 ∣ a.payload.off + 0x418 := by
  omega

theorem triangles_eq_ok_iff (hcast : cast.Lawful) (hbase : 16 ∣ base)
    (hraw : a.rawBytes = .ok b) (verts : List Bytes) :
    a.triangles cast base = .ok (.ok verts) ↔
      HoldsTriangles b ∧ 4 ∣ a.payload.off + 0x418 ∧ verts = vertices b := by
  rw [triangles_eq hcast hraw]
  by_cases hlong : HoldsTriangles b
  · by_cases halign : 4 ∣ a.payload.off + 0x418
    · simp [dvd_address_iff hbase, hlong, halign, eq_comm]
    · simp [dvd_address_iff hbase, hlong, halign]
  · simp [hlong]

theorem triangles_eq_misaligned_iff (hcast : cast.Lawful) (hbase : 16 ∣ base)
    (hraw : a.rawBytes = .ok b) (align : Nat) :
    a.triangles cast base = .ok (.error (.misaligned align)) ↔
      HoldsTriangles b ∧ ¬ 4 ∣ a.payload.off + 0x418 ∧ align = 4 := by
  rw [triangles_eq hcast hraw]
  by_cases hlong : HoldsTriangles b
  · by_cases halign : 4 ∣ a.payload.off + 0x418
    · simp [dvd_address_iff hbase, hlong, halign]
    · simp [dvd_address_iff hbase, hlong, halign, eq_comm]
  · simp [hlong]

end Triangles

/-- For a payload at any offset of a 16-aligned buffer: `triangles` is `Ok` exactly when the
    payload holds the declared vertices and they start at a multiple of 4; it then returns those
    vertices and no more, each component as it lies in the payload. A payload that is too short
    is `Truncated`, and `Misaligned` is only ever the alignment. Nothing but the count and the
    vertices matters to the result. -/
theorem triangles_bounded {cast : TryCastSlice} (hcast : cast.Lawful) {base : Nat}
    (hbase : 16 ∣ base) {a : AccelStructure} {b : Bytes} (hraw : a.rawBytes = .ok b) :
    ((∃ verts, a.triangles cast base = .ok (.ok verts)) ↔
      HoldsTriangles b ∧ 4 ∣ a.payload.off + 0x418) ∧
    (∀ verts, a.triangles cast base = .ok (.ok verts) →
      verts.length = 3 * (le32 b 0x2c).toNat ∧
      ∀ k v, verts[k]? = some v → v.length = 12 ∧
        ∀ c < 3, window v (4 * c) 4 = window b (0x418 + 12 * k + 4 * c) 4) ∧
    (¬ HoldsTriangles b → a.triangles cast base = .ok (.error .truncated)) ∧
    (∀ align, a.triangles cast base = .ok (.error (.misaligned align)) ↔
      HoldsTriangles b ∧ ¬ 4 ∣ a.payload.off + 0x418 ∧ align = 4) ∧
    (∀ (base' : Nat) (a' : AccelStructure) (b' : Bytes) (verts verts' : List Bytes),
      16 ∣ base' → a'.rawBytes = .ok b' →
      a.triangles cast base = .ok (.ok verts) → a'.triangles cast base' = .ok (.ok verts') →
      window b 0x2c 4 = window b' 0x2c 4 →
      window b 0x418 (36 * (le32 b 0x2c).toNat) = window b' 0x418 (36 * (le32 b 0x2c).toNat) →
      verts = verts') := by
  have hok := triangles_eq_ok_iff hcast hbase hraw
  refine ⟨?_, ?_, ?_, ?_, ?_⟩
  · constructor
    · intro h
      obtain ⟨verts, h⟩ := h
      obtain ⟨hlong, halign, -⟩ := (hok verts).mp h
      exact ⟨hlong, halign⟩
    · intro h
      exact ⟨_, (hok _).mpr ⟨h.1, h.2, rfl⟩⟩
  · intro verts h
    obtain ⟨hlong, -, rfl⟩ := (hok verts).mp h
    refine ⟨by simp [vertices_eq hlong], ?_⟩
    intro k v hv
    refine ⟨length_of_mem_chunksExact (List.mem_of_getElem? hv), ?_⟩
    intro c hc
    exact component_of_vertices hlong hv hc
  · intro hshort
    rw [triangles_eq hcast hraw, if_neg hshort]
  · intro align
    exact triangles_eq_misaligned_iff hcast hbase hraw align
  · intro base' a' b' verts verts' hbase' hraw' h h' hcount hbytes
    obtain ⟨-, -, rfl⟩ := (hok verts).mp h
    obtain ⟨-, -, rfl⟩ := (triangles_eq_ok_iff hcast hbase' hraw' verts').mp h'
    exact vertices_congr hcount hbytes

/-- A structure of two triangles, with a byte behind their vertices. -/
def twoTriangles : Bytes :=
  List.replicate 0x2c 0 ++ [2, 0, 0, 0] ++ List.replicate 0x3e8 0 ++
    (List.range 73).map UInt8.ofNat

/-- The structure in a buffer of its own. -/
def twoTrianglesStructure : AccelStructure :=
  fromParts ⟨AlignedBuf.fromBytes twoTriangles, 0, twoTriangles.length⟩

theorem triangles_bounded_twoTriangles :
    ∃ verts v, twoTrianglesStructure.triangles plainCast 0 = .ok (.ok verts) ∧
      verts.length = 6 ∧ verts[3]? = some v ∧ window v 4 4 = [40, 41, 42, 43] := by
  have hlength : twoTriangles.length = 0x461 := by decide +kernel
  have hcount : le32 twoTriangles 0x2c = 2 := by decide +kernel
  have hraw : twoTrianglesStructure.rawBytes = .ok (window twoTriangles 0 twoTriangles.length) :=
    Payload.bytes_fromBytes (by omega) (by rw [hlength]; decide)
  have hwhole : window twoTriangles 0 twoTriangles.length = twoTriangles := by simp [window]
  rw [hwhole] at hraw
  obtain ⟨hiff, hverts, -⟩ := triangles_bounded plainCast_lawful (Nat.dvd_zero 16) hraw
  have hlong : HoldsTriangles twoTriangles := by
    unfold HoldsTriangles
    rw [hlength, hcount]
    decide
  obtain ⟨verts, h⟩ := hiff.mpr ⟨hlong, by decide⟩
  obtain ⟨hsix, hbytes⟩ := hverts verts h
  rw [hcount] at hsix
  have hthird : verts[3]? = some (verts.get ⟨3, by rw [hsix]; decide⟩) :=
    List.getElem?_eq_getElem _
  obtain ⟨-, hcomponents⟩ := hbytes 3 _ hthird
  exact ⟨verts, _, h, hsix, hthird, (hcomponents 1 (by decide)).trans (by decide +kernel)⟩

end AccelStructure

end GputoolsReplay
