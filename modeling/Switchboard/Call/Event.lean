/-
**Call events: what an event of the switch says about a call.**

Seven kinds of event drive the life of a call. `CallEvent.ofEvent` picks the kind by the name of
the event, in any case, and takes over the few headers that matter, trimmed; a header that is
blank counts as missing.

* `opensSession`: the kinds from which an unknown call may be learned of;
* `isRinging`: a new channel that rings;
* `isFailedDial`, `isAnsweredDial`: the two classes of dial statuses.
-/

import Switchboard.Event

namespace Switchboard

open Text

/-- What an event says about a call. -/
inductive CallEvent where
  | newChannel (channelState callerNumber callerName channel : Option String)
  | dialBegin (dialString destId : Option String)
  | dialEnd (dialStatus destId : Option String)
  | bridgeEnter (bridgeId peer : Option String)
  | bridgeLeave (bridgeId : Option String)
  | hangup (cause : Option String)
  /-- The path of a recording, told by the variable that is set aside for it. -/
  | recording (path : String)
  /-- Some other variable was set. -/
  | ignoredVariable
  | other
  deriving DecidableEq, Repr

/-- The dial statuses of an attempt that failed. -/
def failedDialStatuses : List String := ["BUSY", "NOANSWER", "CONGESTION", "CANCEL", "CHANUNAVAIL"]

/-- Whether a dial status means that the attempt failed. -/
def isFailedDial (status : String) : Bool :=
  failedDialStatuses.any (sameName status)

/-- Whether a dial status means that the call was answered. -/
def isAnsweredDial (status : String) : Bool :=
  sameName status "ANSWER"

/-- The channel states that ring. -/
def ringingStates : List String := ["Ring", "Ringing"]

/-- The names of the events that drive the life of a call. -/
def callEventNames : List String :=
  ["Newchannel", "DialBegin", "DialEnd", "BridgeEnter", "BridgeLeave", "Hangup", "VarSet"]

/-- The text without blanks at its ends, if anything is left. -/
def trimmed? (text : String) : Option String :=
  nonBlank? (trim text)

namespace CallEvent

/-- What an event says about a call, where `recordingVariable` is the variable that tells the path
of a recording. -/
def ofEvent (event : Event) (recordingVariable : String) : CallEvent :=
  let given (key : String) : Option String := (event.header key).bind trimmed?
  if event.isNamed "Newchannel" then
    .newChannel (given "ChannelStateDesc") (event.callerNumber.bind trimmed?)
      (event.callerName.bind trimmed?) (event.channel.bind trimmed?)
  else if event.isNamed "DialBegin" then
    .dialBegin (given "DialString") (given "DestUniqueid")
  else if event.isNamed "DialEnd" then
    .dialEnd (given "DialStatus") (given "DestUniqueid")
  else if event.isNamed "BridgeEnter" then
    .bridgeEnter (given "BridgeUniqueid") (given "ConnectedLineNum")
  else if event.isNamed "BridgeLeave" then
    .bridgeLeave (given "BridgeUniqueid")
  else if event.isNamed "Hangup" then
    .hangup (given "Cause-txt")
  else if event.isNamed "VarSet" then
    match given "Value" with
    | some path =>
      if sameName (trim ((event.header "Variable").getD "")) recordingVariable then
        .recording path
      else .ignoredVariable
    | none => .ignoredVariable
  else .other

/-- Whether a session may begin with this event. -/
def opensSession : CallEvent → Bool
  | other | ignoredVariable => false
  | _ => true

/-- Whether this is a new channel that rings. -/
def isRinging : CallEvent → Bool
  | newChannel (some state) _ _ _ => ringingStates.any (sameName state)
  | _ => false

end CallEvent

end Switchboard
