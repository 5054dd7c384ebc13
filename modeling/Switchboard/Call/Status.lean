/-
**The status of a call.**

A call is new, then dialing, then bridged, and it ends: with a hangup, or with a dial attempt that
failed before the call was ever bridged. `rank` is the place along that way.
-/

namespace Switchboard

/-- How a call ended. -/
inductive EndReason where
  | hungUp
  | failed
  deriving DecidableEq, Repr

/-- Where a call stands. -/
inductive CallStatus where
  | new
  | dialing
  | bridged
  | ended (reason : EndReason)
  deriving DecidableEq, Repr

namespace CallStatus

/-- The word for a status. -/
def word : CallStatus → String
  | new => "new"
  | dialing => "dialing"
  | bridged => "bridged"
  | ended .hungUp => "ended"
  | ended .failed => "failed_not_bridged"

/-- The place of a status along the life of a call. -/
def rank : CallStatus → Nat
  | new => 0
  | dialing => 1
  | bridged => 2
  | ended _ => 3

/-- Whether the call is over. -/
def isTerminal : CallStatus → Bool
  | ended _ => true
  | _ => false

/-- A call is over exactly when it has the highest rank. -/
theorem isTerminal_iff (status : CallStatus) : status.isTerminal = true ↔ status.rank = 3 := by
  cases status <;> simp [isTerminal, rank]

end CallStatus

end Switchboard
