/-
**A link: one stream to the switch while it lasts.**

Many callers write to the stream, one reader reads it. A caller gets in line for its response and
writes its block in one step, so the order of the line is the order of the stream. The reader gives
responses to the correlator and events to the event queue, and it never waits for either.

A link ends when its reader stops. The reader then takes two steps: it releases everybody who
waits, and it reports the reason. `Reader` says how far it has come.

* `send`: one action to the stream, of which a failing write may leave a part there;
* `hear`: one frame from the stream;
* `release`, `stop`: the two steps of a reader that ends;
* `retire`, `abandon`: the client ends the link, with its reader gone or not.
-/

import Switchboard.Connection.EventQueue
import Switchboard.Correlator
import Switchboard.Frame

namespace Switchboard

/-- How far the reader of a link has come. -/
inductive Reader where
  | reading
  /-- All who waited have been released; the reason is still to be reported. -/
  | closing (reason : DisconnectReason)
  | stopped (reason : DisconnectReason)
  deriving DecidableEq, Repr

/-- A write that fails: what is said of it, and how many bytes the stream has taken before. -/
structure WriteFault where
  text : String
  sent : Nat
  deriving DecidableEq, Repr

/-- One stream to the switch. -/
structure Link where
  correlator : Correlator
  reader : Reader
  events : EventQueue
  /-- The bytes that have been written to the stream. -/
  written : List UInt8
  deriving DecidableEq, Repr

namespace Link

/-- A link whose stream has just been opened. -/
def new (queueSize dropped : Nat) : Link :=
  { correlator := Correlator.new
    reader := .reading
    events := EventQueue.new queueSize dropped
    written := [] }

/-- The wording of the refusal to send an action with a line end in one of its fields. -/
def lineBreakText (action : Action) (field : String) : String :=
  s!"line break in field '{field}' of action {action.name}"

/-- Gets in line for the response to an action and writes the action. When the write fails, with the
fault that is given, the caller leaves the line again, and only the bytes that the stream has taken
before are on it. -/
def send (link : Link) (action : Action) (fault : Option WriteFault) :
    Except BridgeError Pending × Link :=
  match action.framingFault? with
  | some field => (.error (.validation (lineBreakText action field)), link)
  | none =>
    match link.correlator.register action with
    | .error refusal => (.error refusal, link)
    | .ok (pending, correlator) =>
      match fault with
      | some fault =>
        (.error (.stream fault.text),
          { link with
            correlator := correlator.cancel pending
            written := link.written ++ (Text.Utf8.bytesOf action.wire).take fault.sent })
      | none =>
        (.ok pending,
          { link with
            correlator
            written := link.written ++ Text.Utf8.bytesOf action.wire })

/-- The caller has waited long enough, or is gone. -/
def giveUp (link : Link) (pending : Pending) : Link :=
  { link with correlator := link.correlator.abandon pending }

/-- What the caller gets, at the latest when its time is up; it does not listen after that. -/
def collect (link : Link) (pending : Pending) (limitMs : Nat) :
    Except BridgeError Response × Link :=
  let (result, correlator) := link.correlator.collect pending limitMs
  (result, { link with correlator })

/-- The reader deals with a frame. A greeting and a block with a fault change nothing here. -/
def hear (link : Link) : Frame → Link
  | .response response => { link with correlator := link.correlator.resolve response }
  | .event event => { link with events := link.events.offer event }
  | .banner _ | .malformed _ => link

/-- The reader goes on after every frame. -/
@[simp]
theorem hear_reader (link : Link) (frame : Frame) : (link.hear frame).reader = link.reader := by
  cases frame <;> rfl

/-- The reader stops, and releases all who wait. -/
def release (link : Link) (reason : DisconnectReason) : Link :=
  { link with
    correlator := link.correlator.close reason
    reader := .closing reason }

/-- The reader is gone, and no event comes any more. -/
def stop (link : Link) (reason : DisconnectReason) : Link :=
  { link with
    reader := .stopped reason
    events := link.events.endOfEvents }

/-- The link when the client has given it up, whatever its reader is doing: no handlers, nobody in
line. -/
def abandon (link : Link) : Link :=
  { link with
    correlator := link.correlator.close .clientRequested
    events := link.events.cancel }

/-- The link when the client has ended it: no reader, no handlers, nobody in line. -/
def retire (link : Link) : Link :=
  { link with
    correlator := link.correlator.close .clientRequested
    reader :=
      match link.reader with
      | .reading => .stopped .clientRequested
      | .closing reason | .stopped reason => .stopped reason
    events := link.events.cancel }

end Link

end Switchboard
