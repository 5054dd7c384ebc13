/-
**The tracker: a stream of events to sessions and jobs.**

The tracker sorts the events of one inbox by call, takes each into the session of its call, and
makes a job of every change that others should know of. An event passes four filters first:

* it names a call;
* it is not about a variable of no interest;
* its call has a session, or it is of a kind that opens one;
* it is no repeat of an event that was accepted lately.

`apply` is the whole step. `handle` also hands the job to a queue, which may refuse it; the session
has moved on then all the same.
-/

import Switchboard.Call.Session
import Switchboard.Error
import Switchboard.Job
import Switchboard.Settings
import Switchboard.Tracker.Window

namespace Switchboard

/-- A job on its way, addressed to an inbox of an account. -/
structure QueuedJob where
  tag : String
  accountId : Int
  inboxId : Int
  payload : Json
  deriving DecidableEq, Repr

/-- The sessions of one inbox, in the order in which they were opened, and the events accepted
lately. -/
structure Tracker where
  accountId : Int
  inboxId : Int
  recordingVariable : String
  sessions : List Session
  window : Window
  deriving DecidableEq, Repr

/-- The sessions with the given one in place of the one of the same call, or at the end. -/
def putSession (session : Session) : List Session → List Session
  | [] => [session]
  | first :: rest =>
    if first.callId = session.callId then session :: rest else first :: putSession session rest

namespace Tracker

/-- The name by which a tracker goes among the handlers of events. -/
def handlerName : String := "call-tracker"

/-- A tracker without sessions. -/
def new (accountId inboxId : Int) (settings : TrackerSettings) : Tracker :=
  { accountId
    inboxId
    recordingVariable := settings.recordingVariable
    sessions := []
    window := Window.new settings.dedupWindow }

/-- The session of a call. -/
def session? (tracker : Tracker) (callId : String) : Option Session :=
  tracker.sessions.find? (·.callId = callId)

/-- The sessions in the order of their calls' identifiers. -/
def sortedSessions (tracker : Tracker) : List Session :=
  tracker.sessions.mergeSort fun first second => first.callId ≤ second.callId

/-- The job that tells of a change, with the snapshot of the session after it. -/
def jobFor (session : Session) : SessionChange → Job
  | .conversationStarted callerNumber callerName channelState =>
    .conversationFromCall session.callId callerNumber callerName channelState
      s!"Incoming call from {shownName callerName callerNumber} ({callerNumber})" session.metadata
  | .updated _ summary => .updateCall session.callId summary session.metadata

/-- An event that the filters let through, with what it says and the call it is about. -/
structure Accepted where
  callId : String
  callEvent : CallEvent
  window : Window
  deriving DecidableEq, Repr

/-- Lets an event through the four filters. -/
def accept? [Digest] (tracker : Tracker) (event : Event) : Option Accepted :=
  match event.uniqueId with
  | none => none
  | some callId =>
    let callEvent := CallEvent.ofEvent event tracker.recordingVariable
    if callEvent = .ignoredVariable then none
    else if (tracker.session? callId).isNone && !callEvent.opensSession then none
    else
      (tracker.window.insert? event.fingerprint).map fun window => { callId, callEvent, window }

/-- Takes one event in. There may be a job to hand on. -/
def apply [Digest] (tracker : Tracker) (event : Event) : Tracker × Option Job :=
  match tracker.accept? event with
  | none => (tracker, none)
  | some accepted =>
    let before := (tracker.session? accepted.callId).getD (Session.new accepted.callId event.receivedAt)
    let (session, change) := before.apply accepted.callEvent event.name event.receivedAt
    ({ tracker with sessions := putSession session tracker.sessions, window := accepted.window },
      change.map (jobFor session))

/-- A job, addressed to the inbox of the tracker. -/
def address (tracker : Tracker) (job : Job) : QueuedJob :=
  { tag := job.tag
    accountId := tracker.accountId
    inboxId := tracker.inboxId
    payload := job.toPayload }

/-- Takes one event in and hands its job, if there is one, to a queue. -/
def handle [Digest] {σ : Type} (tracker : Tracker) (event : Event)
    (enqueue : QueuedJob → σ → Except BridgeError Unit × σ) (queue : σ) :
    Except BridgeError Unit × Tracker × σ :=
  match tracker.apply event with
  | (later, none) => (.ok (), later, queue)
  | (later, some job) =>
    let (result, queue) := enqueue (tracker.address job) queue
    (result, later, queue)

end Tracker

end Switchboard
