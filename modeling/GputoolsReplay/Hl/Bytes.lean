/-
  The shared payload buffer of the high-level handles (`bytes.rs`): a reply's `data` copied
  into 16-byte units, and the sub-slices of it that the handles hold.
-/
import GputoolsReplay.Lib.Strided
import GputoolsReplay.Lib.Words

namespace GputoolsReplay

open RustSem

/-- `AlignedBuf`: 16-byte units and the number of bytes in use. -/
structure AlignedBuf where
  data : List Bytes
  len : Nat
  deriving DecidableEq

/-- `AlignedBuf::from_bytes`. -/
def AlignedBuf.fromBytes (src : Bytes) : AlignedBuf :=
  let n := max ((src.length + 15) / 16) 1
  { data := chunksExact 16 (src ++ List.replicate (16 * n - src.length) 0), len := src.length }

/-- `AlignedBuf::as_slice`. -/
def AlignedBuf.asSlice (buf : AlignedBuf) : Rust Bytes := indexRange buf.data.flatten 0 buf.len

/-- `Payload`: the bytes `off..off + len` of a buffer. -/
structure Payload where
  buf : AlignedBuf
  off : Nat
  len : Nat
  deriving DecidableEq

/-- `Payload::bytes`. -/
def Payload.bytes (p : Payload) : Rust Bytes := do
  indexRange (← p.buf.asSlice) p.off (← addUsize p.off p.len)

/-- `Cow<'_, [u8]>`. -/
inductive Cow where
  | borrowed (bytes : Bytes)
  | owned (bytes : Bytes)
  deriving DecidableEq, Repr

def Cow.bytes : Cow → Bytes
  | .borrowed bytes => bytes
  | .owned bytes => bytes

/-- The copied buffer reads back as the bytes it was made from. -/
theorem AlignedBuf.asSlice_fromBytes (src : Bytes) :
    (AlignedBuf.fromBytes src).asSlice = .ok src := by
  unfold AlignedBuf.asSlice AlignedBuf.fromBytes
  dsimp only
  rw [flatten_chunksExact (by
    rw [List.length_append, List.length_replicate]
    omega)]
  rw [indexRange_take (by simp), List.take_left]

/-- A sub-slice of the buffer is read exactly when it is one of the bytes that the buffer was
    made from, and reads back as the same sub-slice of them. -/
theorem Payload.bytes_fromBytes_iff {src bytes : Bytes} {o n : Nat} :
    Payload.bytes ⟨AlignedBuf.fromBytes src, o, n⟩ = .ok bytes ↔
      o + n ≤ src.length ∧ o + n < usizeLimit ∧ bytes = window src o n := by
  unfold Payload.bytes
  rw [AlignedBuf.asSlice_fromBytes, ok_bind, bind_eq_ok]
  constructor
  · intro h
    obtain ⟨bound, hbound, hslice⟩ := h
    obtain ⟨hlt, rfl⟩ := addUsize_eq_ok.mp hbound
    obtain ⟨-, hle, rfl⟩ := indexRange_eq_ok.mp hslice
    rw [Nat.add_sub_cancel_left]
    exact ⟨hle, hlt, rfl⟩
  · intro h
    obtain ⟨hle, hlt, rfl⟩ := h
    exact ⟨o + n, addUsize_of_lt hlt, indexRange_window hle⟩

theorem Payload.bytes_fromBytes {src : Bytes} {o n : Nat} (h : o + n ≤ src.length)
    (hlt : o + n < usizeLimit) :
    Payload.bytes ⟨AlignedBuf.fromBytes src, o, n⟩ = .ok (window src o n) :=
  Payload.bytes_fromBytes_iff.mpr ⟨h, hlt, rfl⟩

/-- Any bytes are the payload of some buffer. -/
theorem Payload.exists_bytes {src : Bytes} (h : src.length < usizeLimit) :
    ∃ p : Payload, p.bytes = .ok src := by
  refine ⟨⟨AlignedBuf.fromBytes src, 0, src.length⟩, ?_⟩
  rw [bytes_fromBytes (by omega) (by omega)]
  simp [window]

/-- The length of a payload that can be read. -/
theorem Payload.length_of_bytes {p : Payload} {bytes : Bytes} (h : p.bytes = .ok bytes) :
    bytes.length = p.len ∧ p.len < usizeLimit := by
  obtain ⟨buf, -, hrest⟩ := bind_eq_ok.mp h
  obtain ⟨bound, hbound, hslice⟩ := bind_eq_ok.mp hrest
  obtain ⟨hlt, rfl⟩ := addUsize_eq_ok.mp hbound
  obtain ⟨-, hle, rfl⟩ := indexRange_eq_ok.mp hslice
  rw [Nat.add_sub_cancel_left]
  exact ⟨window_length hle, by omega⟩

end GputoolsReplay
