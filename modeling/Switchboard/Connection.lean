/-
**A connection to a switch: one link at a time, and a status that tells the truth about it.**

Callers may use a connection only while its status is `ready`. What happens to its link, the
frames that arrive and the end of the stream, goes on beside them; `Happening` is one such step.
A link that is over stays among the `past` ones, because a caller may still wait to learn what
became of its action. Its reader is given some time to stop, the grace; one that takes longer is cut
off, and what it is doing at that moment it may still do, to the status too (`straggle`).

* `happen`: one step of the reader or of the handlers;
* `send`, `request`: one action, without and with the wait for its response;
* `originate`: a call, checked before anything is written;
* `teardown`, `disconnect`: the end of the link.
-/

import Switchboard.Connection.Link
import Switchboard.Connection.Settings
import Switchboard.Connection.Status
import Switchboard.Originate

namespace Switchboard

/-- A connection to a switch. -/
structure Connection where
  settings : ConnectionSettings
  status : ConnectionStatus
  link : Option Link
  /-- The links that are over, the latest first. -/
  past : List Link
  /-- The version that the greeting of the latest link named. -/
  version : Option String
  /-- How many events found the event queue full in the links that are over. -/
  dropped : Nat
  /-- The readers of past links that were cut off, and have not done their last yet. -/
  stragglers : List Reader
  deriving DecidableEq, Repr

/-- What a reader that has been cut off may still do. -/
inductive LateAct where
  /-- It deals with the frame that it has at hand, and is gone. -/
  | heard (frame : Frame)
  /-- It finds that the stream has ended. -/
  | ended (reason : DisconnectReason)
  /-- It reports why the stream ended, and is gone. -/
  | reported
  deriving DecidableEq, Repr

/-- What may happen beside the callers, one thing at a time. -/
inductive Happening where
  /-- The reader deals with a frame. -/
  | heard (frame : Frame)
  /-- The stream ends, and the reader releases all who wait. -/
  | ended (reason : DisconnectReason)
  /-- The reader that has released all who waited reports the reason. -/
  | reported
  /-- The handlers take an event. -/
  | taken
  /-- The handlers are done with an event. -/
  | handled
  /-- A reader that has been cut off, told by its place among those, still does something. -/
  | late (place : Nat) (act : LateAct)
  deriving DecidableEq, Repr

/-- How the end of a link goes. -/
structure LinkEnding where
  /-- How long the reader takes to stop once it is told to. -/
  readerMs : Nat
  /-- What happens beside the client from then on, until it goes on. -/
  late : List Happening
  deriving DecidableEq, Repr

/-- The reader stops at once, and nothing happens late. -/
def LinkEnding.prompt : LinkEnding := { readerMs := 0, late := [] }

namespace Connection

/-- A connection that has never been opened. -/
def new (settings : ConnectionSettings) : Connection :=
  { settings
    status := .disconnected
    link := none
    past := []
    version := none
    dropped := 0
    stragglers := [] }

/-- Whether callers may use the connection. -/
def isReady (connection : Connection) : Bool :=
  connection.status == .ready

/-- How many events found the event queue full, over all links. -/
def droppedEvents (connection : Connection) : Nat :=
  match connection.link with
  | some link => link.events.dropped
  | none => connection.dropped

/-! ### What happens beside the callers -/

/-- The version that is known behind a frame. -/
def versionBehind (version : Option String) : Frame → Option String
  | .banner named => some named
  | _ => version

/-- The reader of the link deals with a frame. -/
def hear (connection : Connection) (link : Link) (frame : Frame) : Connection :=
  { connection with
    link := some (link.hear frame)
    version := versionBehind connection.version frame }

/-- The status after a reader has reported why it ended: an end that the client asked for says
nothing new. -/
def reportedStatus (status : ConnectionStatus) (reason : DisconnectReason) : ConnectionStatus :=
  if reason = .clientRequested then status else .failed reason

/-- A reader that has been cut off does what it was doing. Nobody waits on its link any more; but the
version and the status are those of the connection. -/
def straggle (connection : Connection) (place : Nat) (act : LateAct) : Connection :=
  match connection.stragglers[place]?, act with
  | some .reading, .heard frame =>
    { connection with
      version := versionBehind connection.version frame
      stragglers := connection.stragglers.eraseIdx place }
  | some .reading, .ended reason =>
    { connection with stragglers := connection.stragglers.set place (.closing reason) }
  | some (.closing reason), .reported =>
    { connection with
      status := reportedStatus connection.status reason
      stragglers := connection.stragglers.eraseIdx place }
  | _, _ => connection

/-- One step beside the callers; a step that cannot be taken changes nothing. -/
def happen (connection : Connection) (happening : Happening) : Connection :=
  match connection.link, happening with
  | _, .late place act => connection.straggle place act
  | none, _ => connection
  | some link, happening =>
    match happening, link.reader with
    | .heard frame, .reading => connection.hear link frame
    | .ended reason, .reading =>
      { connection with link := some (link.release reason) }
    | .reported, .closing reason =>
      { connection with
        link := some (link.stop reason)
        status := reportedStatus connection.status reason }
    | .taken, _ =>
      { connection with link := some { link with events := link.events.take } }
    | .handled, _ =>
      { connection with link := some { link with events := link.events.finish } }
    | _, _ => connection

/-- Steps beside the callers, one after the other. -/
def happenAll (connection : Connection) (happenings : List Happening) : Connection :=
  happenings.foldl happen connection

/-! ### One action -/

/-- The refusal of a caller while the connection is not ready. -/
def notReady (connection : Connection) : BridgeError :=
  .notReady connection.status.message

/-- Sends an action on the link that is there, ready or not. -/
def sendOn (connection : Connection) (link : Link) (action : Action)
    (fault : Option WriteFault) : Except BridgeError Pending × Connection :=
  let (result, link) := link.send action fault
  (result, { connection with link := some link })

/-- Sends an action, if the connection is ready. -/
def send (connection : Connection) (action : Action) (fault : Option WriteFault) :
    Except BridgeError Pending × Connection :=
  if connection.isReady then
    match connection.link with
    | some link => connection.sendOn link action fault
    | none => (.error (.notReady ConnectionStatus.disconnected.message), connection)
  else (.error connection.notReady, connection)

/-- What the caller gets out of the link in which it got in line, at the latest when its time is
up. -/
def await (connection : Connection) (pending : Pending) (limitMs : Nat) :
    Except BridgeError Response × Connection :=
  match connection.link with
  | some link =>
    let (result, link) := link.collect pending limitMs
    (result, { connection with link := some link })
  | none =>
    match connection.past with
    | link :: earlier =>
      let (result, link) := link.collect pending limitMs
      (result, { connection with past := link :: earlier })
    | [] => (.error (.disconnected .connectionClosed), connection)

/-- Sends an action on the link that is there, and waits for the response while other things
happen. -/
def requestOn (connection : Connection) (link : Link) (action : Action)
    (fault : Option WriteFault) (meanwhile : List Happening) (limitMs : Nat) :
    Except BridgeError Response × Connection :=
  match connection.sendOn link action fault with
  | (.error refusal, connection) => (.error refusal, connection)
  | (.ok pending, connection) => (connection.happenAll meanwhile).await pending limitMs

/-- Sends an action, if the connection is ready, and waits for the response while other things
happen. Unless a limit is given, that of the settings holds. -/
def request (connection : Connection) (action : Action) (fault : Option WriteFault)
    (meanwhile : List Happening) (limitMs : Option Nat) :
    Except BridgeError Response × Connection :=
  match connection.send action fault with
  | (.error refusal, connection) => (.error refusal, connection)
  | (.ok pending, connection) =>
    (connection.happenAll meanwhile).await pending
      (limitMs.getD connection.settings.actionTimeoutMs)

/-- Asks the switch to place a call. What is wrong with the request is told first, then that the
connection is not ready; that the switch refuses is a result. -/
def originate (connection : Connection) (channel : ChannelSettings) (request : OriginateRequest)
    (fault : Option WriteFault) (meanwhile : List Happening) :
    Except BridgeError OriginateOutcome × Connection :=
  match buildAction channel request with
  | .error refusal => (.error refusal, connection)
  | .ok action =>
    let (result, connection) := connection.request action fault meanwhile none
    (result.map (OriginateOutcome.ofResponse action), connection)

/-! ### The end of a link -/

/-- Ends the link, if there is one, with its reader gone. A reader that was about to report why the
stream ended has done so. -/
def retire (connection : Connection) : Connection :=
  let reported := connection.happen .reported
  match reported.link with
  | none => reported
  | some link =>
    { reported with
      link := none
      past := link.retire :: connection.past
      dropped := link.events.dropped }

/-- The readers that have been cut off, when one more is. One that has stopped does nothing late. -/
def withStraggler (stragglers : List Reader) : Reader → List Reader
  | .stopped _ => stragglers
  | reader => reader :: stragglers

/-- Ends the link, if there is one, with its reader cut off wherever it is. -/
def cutOff (connection : Connection) : Connection :=
  match connection.link with
  | none => connection
  | some link =>
    { connection with
      link := none
      past := link.abandon :: connection.past
      dropped := link.events.dropped
      stragglers := withStraggler connection.stragglers link.reader }

/-- Ends the link, if there is one. Its reader is waited for, but no longer than the grace. -/
def teardown (connection : Connection) (ending : LinkEnding) : Connection :=
  match connection.link with
  | none => connection
  | some _ =>
    let left :=
      if ending.readerMs ≤ connection.settings.shutdownGraceMs then connection.retire
      else connection.cutOff
    left.happenAll ending.late

/-- Logs off when the connection is ready, and ends the link. The identifier of the logoff keeps
its response from those who wait without one; whether a response comes makes no difference. -/
def disconnect (connection : Connection) (logoffId : String) (fault : Option WriteFault)
    (meanwhile : List Happening) (ending : LinkEnding) : Connection :=
  let loggedOff :=
    match connection.isReady, connection.link with
    | true, some link =>
      (connection.requestOn link (Action.logoff.withActionId logoffId) fault meanwhile
        connection.settings.logoffTimeoutMs).2
    | _, _ => connection
  { loggedOff.teardown ending with status := .disconnected }

end Connection

end Switchboard
