/-
**What can go wrong.**

`DisconnectReason` says why a session ended. `BridgeError` is every way in which a request to the
bridge can fail, each with a code for programs (`code`) and a wording for people (`message`).

* `concernsConnection`: the switch could not be reached or stopped answering, as against bad input
  or a refusal in good order;
* `isTimeout`: a time limit passed.
-/

namespace Switchboard

/-- Why a session ended. -/
inductive DisconnectReason where
  /-- The other side closed the stream. -/
  | connectionClosed
  /-- The stream failed. -/
  | ioError (message : String)
  /-- Connecting, the login or the probe failed. -/
  | connectFailed (message : String)
  /-- The client asked for it. -/
  | clientRequested
  deriving DecidableEq, Repr

/-- The wording of a reason. -/
def DisconnectReason.message : DisconnectReason → String
  | connectionClosed => "connection closed"
  | ioError message => "I/O error: " ++ message
  | connectFailed message => "connect failed: " ++ message
  | clientRequested => "client requested disconnect"

/-- Why a request failed. -/
inductive BridgeError where
  | connection (text : String)
  | connectTimeout (host : String) (port limitMs : Nat)
  | notReady (status : String)
  | authFailed (text : String)
  | actionTimeout (action : String) (limitMs : Nat)
  | protocolViolation (text : String)
  | disconnected (reason : DisconnectReason)
  | validation (text : String)
  | stream (text : String)
  | configuration (text : String)
  | queue (text : String)
  | serialization (text : String)
  deriving DecidableEq, Repr

namespace BridgeError

/-- The code of an error, for programs. -/
def code : BridgeError → String
  | connection _ => "connection_error"
  | connectTimeout .. => "connect_timeout"
  | notReady _ => "not_ready"
  | authFailed _ => "auth_failed"
  | actionTimeout .. => "action_timeout"
  | protocolViolation _ => "protocol_error"
  | disconnected _ => "disconnected"
  | validation _ => "validation_error"
  | stream _ => "io_error"
  | configuration _ => "config_error"
  | queue _ => "queue_error"
  | serialization _ => "serialization_error"

/-- The wording of an error, for people. -/
def message : BridgeError → String
  | connection text => "Connection error: " ++ text
  | connectTimeout host port limitMs => s!"Connect to {host}:{port} timed out after {limitMs}ms"
  | notReady status => s!"Connection not ready (status: {status})"
  | authFailed text => "Authentication failed: " ++ text
  | actionTimeout action limitMs => s!"Action {action} timed out after {limitMs}ms"
  | protocolViolation text => "Protocol error: " ++ text
  | disconnected reason => "Disconnected: " ++ reason.message
  | validation text => "Validation error: " ++ text
  | stream text => "IO error: " ++ text
  | configuration text => "Configuration error: " ++ text
  | queue text => "Task queue error: " ++ text
  | serialization text => "Serialization error: " ++ text

/-- The switch could not be reached or stopped answering. -/
def concernsConnection : BridgeError → Bool
  | connection _ | connectTimeout .. | notReady _ | authFailed _ | actionTimeout ..
  | disconnected _ | stream _ => true
  | protocolViolation _ | validation _ | configuration _ | queue _ | serialization _ => false

/-- A time limit passed. -/
def isTimeout : BridgeError → Bool
  | actionTimeout .. | connectTimeout .. => true
  | _ => false

end BridgeError

end Switchboard
