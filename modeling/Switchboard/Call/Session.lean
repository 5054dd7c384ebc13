/-
**Sessions: the record of one call.**

A session takes in the events of its call one after the other (`apply`). Every event enters the
history. What else it does depends on the status, which only moves forward, and an event that does
not fit the status changes nothing more. Some changes are worth telling others (`SessionChange`).

* `note`: what every event does;
* `react`: what the kind of the event does;
* `metadata`: the snapshot that goes out with every notification;
* `toJson`: the whole record.
-/

import Switchboard.Call.Event
import Switchboard.Call.Status
import Switchboard.Json

namespace Switchboard

/-- An event in the history of a call. -/
structure HistoryEntry where
  eventName : String
  receivedAt : Timestamp
  deriving DecidableEq, Repr

/-- A change of a session that others should know of. -/
inductive SessionChange where
  /-- The first ringing channel with the number of a caller. -/
  | conversationStarted (callerNumber : String) (callerName channelState : Option String)
  /-- Anything else, with the status before it. -/
  | updated (previous : CallStatus) (summary : String)
  deriving DecidableEq, Repr

/-- The record of one call. -/
structure Session where
  callId : String
  status : CallStatus
  lastEventName : Option String
  callerNumber : Option String
  callerName : Option String
  channel : Option String
  destId : Option String
  bridgeId : Option String
  dialString : Option String
  dialStatus : Option String
  bridgePeer : Option String
  hangupCause : Option String
  recordingPath : Option String
  conversationStarted : Bool
  answered : Bool
  bridgeLeft : Bool
  history : List HistoryEntry
  createdAt : Timestamp
  updatedAt : Timestamp
  deriving DecidableEq, Repr

namespace Session

/-- The record of a call of which nothing is known yet. -/
def new (callId : String) (time : Timestamp) : Session :=
  { callId
    status := .new
    lastEventName := none
    callerNumber := none
    callerName := none
    channel := none
    destId := none
    bridgeId := none
    dialString := none
    dialStatus := none
    bridgePeer := none
    hangupCause := none
    recordingPath := none
    conversationStarted := false
    answered := false
    bridgeLeft := false
    history := []
    createdAt := time
    updatedAt := time }

/-- Whether the call is or was connected, as far as the record shows. -/
def wasBridged (session : Session) : Bool :=
  session.bridgePeer.isSome || session.bridgeId.isSome || session.status == .bridged

/-- Takes an event into the history. -/
def note (session : Session) (eventName : String) (time : Timestamp) : Session :=
  { session with
    history := session.history ++ [⟨eventName, time⟩]
    lastEventName := some eventName
    updatedAt := time }

/-- A new channel tells the channel once, and starts the conversation once: when it rings, names
the caller's number, and the call is not over. -/
def onNewChannel (session : Session) (channelState callerNumber callerName channel : Option String) :
    Session × Option SessionChange :=
  let session := { session with channel := session.channel.or channel }
  match callerNumber with
  | none => (session, none)
  | some number =>
    if session.conversationStarted || session.status.isTerminal ||
        !(CallEvent.newChannel channelState callerNumber callerName channel).isRinging then
      (session, none)
    else
      ({ session with
          conversationStarted := true
          callerNumber := some number
          callerName },
        some (.conversationStarted number callerName channelState))

/-- A dial attempt begins, unless the call is connected or over. -/
def onDialBegin (session : Session) (dialString destId : Option String) :
    Session × Option SessionChange :=
  match session.status with
  | .new | .dialing =>
    ({ session with
        status := .dialing
        dialString
        destId := destId.or session.destId },
      some (.updated session.status ("Call dialing to " ++ dialString.getD "unknown" ++ "...")))
  | .bridged | .ended _ => (session, none)

/-- A dial attempt ends. It ends the call if it failed, no attempt was answered and the call was
never bridged. -/
def onDialEnd (session : Session) (dialStatus : Option String) : Session × Option SessionChange :=
  match session.status with
  | .dialing =>
    let given := dialStatus.getD ""
    let change := some (SessionChange.updated .dialing ("Call attempt ended. Status: " ++ given))
    let session := { session with dialStatus }
    if isAnsweredDial given then
      ({ session with answered := true }, change)
    else if isFailedDial given && !session.answered && !session.wasBridged then
      ({ session with status := .ended .failed }, change)
    else (session, change)
  | .new | .bridged | .ended _ => (session, none)

/-- A channel joins a bridge. A call that is bridged already takes over what is told, quietly. -/
def onBridgeEnter (session : Session) (bridgeId peer : Option String) :
    Session × Option SessionChange :=
  match session.status with
  | .new | .dialing =>
    ({ session with
        status := .bridged
        bridgeId
        bridgePeer := peer
        bridgeLeft := false },
      some (.updated session.status "Call connected."))
  | .bridged =>
    ({ session with
        bridgeId := bridgeId.or session.bridgeId
        bridgePeer := peer.or session.bridgePeer
        bridgeLeft := false },
      none)
  | .ended _ => (session, none)

/-- A channel leaves the bridge, which is told once. -/
def onBridgeLeave (session : Session) : Session × Option SessionChange :=
  match session.status, session.bridgeLeft with
  | .bridged, false =>
    ({ session with bridgeLeft := true }, some (.updated .bridged "Call disconnected from bridge."))
  | _, _ => (session, none)

/-- A hangup ends the call; a later one can only add the cause. -/
def onHangup (session : Session) (cause : Option String) : Session × Option SessionChange :=
  match session.status with
  | .ended _ => ({ session with hangupCause := session.hangupCause.or cause }, none)
  | .new | .dialing | .bridged =>
    ({ session with
        status := .ended .hungUp
        hangupCause := cause },
      some (.updated session.status ("Call hung up. Reason: " ++ cause.getD "unknown")))

/-- A recording is there, which is told once for each path. -/
def onRecording (session : Session) (path : String) : Session × Option SessionChange :=
  if session.recordingPath = some path then (session, none)
  else
    ({ session with recordingPath := some path },
      some (.updated session.status ("Call recording available: " ++ path)))

/-- What the kind of an event does to the record. -/
def react (session : Session) : CallEvent → Session × Option SessionChange
  | .newChannel channelState callerNumber callerName channel =>
    session.onNewChannel channelState callerNumber callerName channel
  | .dialBegin dialString destId => session.onDialBegin dialString destId
  | .dialEnd dialStatus _ => session.onDialEnd dialStatus
  | .bridgeEnter bridgeId peer => session.onBridgeEnter bridgeId peer
  | .bridgeLeave _ => session.onBridgeLeave
  | .hangup cause => session.onHangup cause
  | .recording path => session.onRecording path
  | .ignoredVariable | .other => (session, none)

/-- Takes one event of the call into the record. -/
def apply (session : Session) (event : CallEvent) (eventName : String) (time : Timestamp) :
    Session × Option SessionChange :=
  (session.note eventName time).react event

/-- The snapshot that goes out with every notification. -/
def metadata (session : Session) : Json :=
  .obj [
    ("call_id", .str session.callId),
    ("call_status", .str session.status.word),
    ("last_event", .ofText? session.lastEventName),
    ("caller_number", .ofText? session.callerNumber),
    ("caller_name", .ofText? session.callerName),
    ("channel", .ofText? session.channel),
    ("dest_id", .ofText? session.destId),
    ("bridge_id", .ofText? session.bridgeId),
    ("dial_string", .ofText? session.dialString),
    ("dial_status", .ofText? session.dialStatus),
    ("bridge_peer", .ofText? session.bridgePeer),
    ("hangup_cause", .ofText? session.hangupCause),
    ("recording_path", .ofText? session.recordingPath),
    ("event_count", .int session.history.length)]

/-- The record without its times. -/
def untimedFields (session : Session) : List (String × Json) := [
  ("call_id", .str session.callId),
  ("status", .str session.status.word),
  ("last_event_name", .ofText? session.lastEventName),
  ("caller_number", .ofText? session.callerNumber),
  ("caller_name", .ofText? session.callerName),
  ("channel", .ofText? session.channel),
  ("dest_id", .ofText? session.destId),
  ("bridge_id", .ofText? session.bridgeId),
  ("dial_string", .ofText? session.dialString),
  ("dial_status", .ofText? session.dialStatus),
  ("bridge_peer", .ofText? session.bridgePeer),
  ("hangup_cause", .ofText? session.hangupCause),
  ("recording_path", .ofText? session.recordingPath),
  ("conversation_started", .bool session.conversationStarted),
  ("answered", .bool session.answered),
  ("bridge_left", .bool session.bridgeLeft)]

/-- The whole record. -/
def toJson (session : Session) : Json :=
  let entry (past : HistoryEntry) : Json :=
    .obj [("event_name", .str past.eventName), ("received_at", .str past.receivedAt.text)]
  .obj (session.untimedFields ++ [
    ("history", .arr (session.history.map entry)),
    ("created_at", .str session.createdAt.text),
    ("updated_at", .str session.updatedAt.text)])

/-- The record with the order of events, but no times. -/
def toUntimedJson (session : Session) : Json :=
  .obj (session.untimedFields ++ [
    ("history", .arr (session.history.map fun past => .str past.eventName))])

end Session

end Switchboard
