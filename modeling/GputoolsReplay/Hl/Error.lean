/-
  The error type of the high-level layer (`error.rs`).
-/
import GputoolsReplay.Substrate.Error

namespace GputoolsReplay

/-- `Error`. -/
inductive Error where
  | fetch (e : FetchError)
  | formatMismatch (requested actual : Nat)
  | wrongCategory (message : String)
  | padded (bytesPerRow rowLen : UInt32)
  | unknownFormat (raw : UInt32)
  | misaligned (align : Nat)
  | truncated
  | badPipeline (message : String)
  deriving DecidableEq, Repr

end GputoolsReplay
