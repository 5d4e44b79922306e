/-
  The error observer (`session.rs`): an append-only list of messages that the replayer's
  queues add to and that every fetch reads from a mark of its own.

  * `firstErrorSince_eq`: the first message behind the mark.
-/
import GputoolsReplay.Substrate.Plist

namespace GputoolsReplay

/-- `truncate`: at most 512 characters of a description. -/
def truncate (s : String) : String :=
  if s.toList[512]? = none then s
  else String.ofList (s.toList.take 512) ++ " ... (truncated)"

/-- The object `-notifyError:` is handed. -/
inductive Notification where
  | nsError (localizedDescription : String)
  | nsObject (description : String)
  | other
  | nil
  deriving DecidableEq, Repr

/-- The message `notify_error` records. -/
def Notification.message : Notification → String
  | .nsError localizedDescription => truncate localizedDescription
  | .nsObject description => truncate description
  | .other => "(no description)"
  | .nil => "(nil)"

/-- `ErrorObserver::record`. -/
def record (errors : List String) (message : String) : List String := errors ++ [message]

/-- `ErrorObserver::error_count`. -/
def errorCount (errors : List String) : Nat := errors.length

/-- `ErrorObserver::first_error_since`. -/
def firstErrorSince (errors : List String) (mark : Nat) : Option String :=
  (if mark ≤ errors.length then some (errors.drop mark) else none).bind List.head?

theorem firstErrorSince_eq (errors : List String) (mark : Nat) :
    firstErrorSince errors mark = (errors.drop mark).head? := by
  unfold firstErrorSince
  by_cases h : mark ≤ errors.length
  · rw [if_pos h]
    rfl
  · rw [if_neg h, List.drop_eq_nil_of_le (by omega)]
    rfl

end GputoolsReplay
