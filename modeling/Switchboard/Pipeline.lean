/-
**The pipeline: bytes from the switch to requests to the store.**

Bytes are decoded, events go through the dispatch table to the tracker, the tracker's jobs wait in
a queue, and the queue's worker performs them. The bytes of one arrival are decoded and dispatched
completely before the worker runs, so a queue may fill up within one arrival.

* `Route`: the ways in which the tracker may be registered;
* `Pipeline.arrive`: one arrival of bytes;
* `Pipeline.work`: the worker's turn.
-/

import Switchboard.Decoder
import Switchboard.Dispatch
import Switchboard.Job.Queue

namespace Switchboard

/-- Which events reach the tracker. -/
inductive Route where
  /-- All events. -/
  | any
  /-- The events that drive the life of a call. -/
  | named
  /-- Both, so that an event of a call arrives twice. -/
  | both
  deriving DecidableEq, Repr

/-- The registrations of a handler along a route. -/
def Route.registrations {η : Type} (route : Route) (handler : η) : List (Registration η) :=
  match route with
  | .any => [.onAny handler]
  | .named => [.onEach callEventNames handler]
  | .both => [.onEach callEventNames handler, .onAny handler]

/-- Everything between the bytes and the store. -/
structure Pipeline where
  decoder : Decoder
  table : DispatchTable Unit
  tracker : Tracker
  queue : JobQueue

/-- What became of a frame. -/
inductive FrameReport where
  /-- An event, the number of handlers it had and the number of those that failed. -/
  | dispatched (event : Event) (handlers failures : Nat)
  | passed (frame : Frame)
  deriving DecidableEq, Repr

namespace Pipeline

/-- A pipeline at the start of a stream. -/
def new (accountId inboxId : Int) (settings : TrackerSettings) (route : Route)
    (capacity : Nat) : Pipeline :=
  { decoder := Decoder.new true Decoder.defaultMaxBlockSize
    table := DispatchTable.ofRegistrations (route.registrations ())
    tracker := Tracker.new accountId inboxId settings
    queue := JobQueue.new "local" capacity }

/-- The tracker as a handler of events. -/
def runTracker [Digest] (_ : Unit) (event : Event) (state : Tracker × JobQueue) :
    Bool × Tracker × JobQueue :=
  match state.1.handle event JobQueue.enqueue state.2 with
  | (.ok _, later) => (true, later)
  | (.error _, later) => (false, later)

/-- Sends one frame on. -/
def route [Digest] (pipeline : Pipeline) (frame : Frame) : Pipeline × FrameReport :=
  match frame with
  | .event event =>
    let (failures, tracker, queue) :=
      pipeline.table.dispatch runTracker event (pipeline.tracker, pipeline.queue)
    ({ pipeline with tracker, queue },
      .dispatched event (pipeline.table.handlerCount event.name) failures)
  | frame => (pipeline, .passed frame)

/-- Sends frames on, one after the other. -/
def routeAll [Digest] (pipeline : Pipeline) : List Frame → Pipeline × List FrameReport
  | [] => (pipeline, [])
  | frame :: rest =>
    let (pipeline, report) := pipeline.route frame
    let (pipeline, reports) := pipeline.routeAll rest
    (pipeline, report :: reports)

/-- Decodes and dispatches the bytes of one arrival. -/
def arrive [Digest] (pipeline : Pipeline) (bytes : List UInt8) : Pipeline × List FrameReport :=
  let (frames, decoder) := (pipeline.decoder.feed bytes).drain
  { pipeline with decoder }.routeAll frames

/-- The worker's turn. -/
def work {σ : Type} (pipeline : Pipeline) (store : Store σ) (state : σ) : Pipeline × σ :=
  let (queue, state) := pipeline.queue.work store state
  ({ pipeline with queue }, state)

end Pipeline

end Switchboard
