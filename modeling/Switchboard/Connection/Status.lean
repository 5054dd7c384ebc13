/-
**The status of a connection.**
-/

import Switchboard.Error

namespace Switchboard

/-- Where a connection stands. -/
inductive ConnectionStatus where
  | disconnected
  | connecting
  | authenticating
  | ready
  | failed (reason : DisconnectReason)
  deriving DecidableEq, Repr

/-- The wording of a status. -/
def ConnectionStatus.message : ConnectionStatus → String
  | disconnected => "disconnected"
  | connecting => "connecting"
  | authenticating => "authenticating"
  | ready => "ready"
  | failed reason => "failed (" ++ reason.message ++ ")"

end Switchboard
