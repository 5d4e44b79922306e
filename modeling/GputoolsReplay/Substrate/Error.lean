/-
  The error types of the substrate (`error.rs`).
-/

namespace GputoolsReplay

/-- `UnlockEnvError`: what the variable was set to instead of `"0"`. -/
structure UnlockEnvError where
  found : Option String
  deriving DecidableEq, Repr

/-- `SessionError`. The text of `UnlockEnv` is that of the error `e`. -/
inductive SessionError where
  | alreadyOpen
  | unlockEnv (e : UnlockEnvError)
  | badBundle (message : String)
  | apr (code : Int32)
  | replayer (message : String)
  | loadFailed (bundle : String)
  deriving DecidableEq, Repr

/-- `FetchError`. -/
inductive FetchError where
  | emptyBatch
  | noToken
  | timeout
  | noResponse
  | noData
  | replayer (message : String)
  | parse (message : String)
  | setup (message : String)
  deriving DecidableEq, Repr

/-- `HarvesterError`. -/
inductive HarvesterError where
  | badMagic
  | truncated
  | wrongType (ty : UInt16)
  deriving DecidableEq, Repr

end GputoolsReplay
