/-
**The event queue of a link: between the reader and the handlers.**

The reader hands events over without ever waiting, so that responses are never held up by a slow
handler. When the queue is full the event is dropped and counted. The handlers work on one event at
a time, in the order of the wire.

* `offer`: the reader's side;
* `take`, `finish`: the handlers' side;
* `endOfEvents`: the reader is gone, and the handlers go on until nothing is left;
* `cancel`: the link is over, and what waits is not handled any more.
-/

import Switchboard.Event

namespace Switchboard

/-- Events on their way to the handlers. -/
structure EventQueue where
  capacity : Nat
  waiting : List Event
  /-- The event whose handlers are at work. -/
  inHand : Option Event
  /-- The reader may still hand over events. -/
  isFed : Bool
  /-- The handlers still take events. -/
  isServed : Bool
  /-- How many events found the queue full, over all links so far. -/
  dropped : Nat
  deriving DecidableEq, Repr

/-- What may happen to a queue of events, one thing at a time. -/
inductive EventQueue.Move where
  | offer (event : Event)
  | take
  | finish
  | endOfEvents
  | cancel
  deriving DecidableEq, Repr

namespace EventQueue

/-- An empty queue. It has room for at least one event; the count of lost events goes on. -/
def new (capacity dropped : Nat) : EventQueue :=
  { capacity := max capacity 1
    waiting := []
    inHand := none
    isFed := true
    isServed := true
    dropped }

/-- The reader hands over an event. One that finds the queue full is counted; one that finds no
handlers is not. -/
def offer (queue : EventQueue) (event : Event) : EventQueue :=
  if !queue.isServed then queue
  else if queue.waiting.length < queue.capacity then
    { queue with waiting := queue.waiting ++ [event] }
  else { queue with dropped := queue.dropped + 1 }

/-- The handlers take the next event, if they are idle and there is one. When there is none and
there will be none, they stop. -/
def take (queue : EventQueue) : EventQueue :=
  if !queue.isServed || queue.inHand.isSome then queue
  else
    match queue.waiting with
    | event :: later => { queue with waiting := later, inHand := some event }
    | [] => { queue with isServed := queue.isFed }

/-- The handlers are done with their event. -/
def finish (queue : EventQueue) : EventQueue :=
  { queue with inHand := none }

/-- The reader is gone. -/
def endOfEvents (queue : EventQueue) : EventQueue :=
  { queue with isFed := false }

/-- The link is over. The event in hand is still handled to its end. -/
def cancel (queue : EventQueue) : EventQueue :=
  { queue with waiting := [], isServed := false }

/-- The queue after one move. -/
def move (queue : EventQueue) : Move → EventQueue
  | .offer event => queue.offer event
  | .take => queue.take
  | .finish => queue.finish
  | .endOfEvents => queue.endOfEvents
  | .cancel => queue.cancel

/-- The event that a move completes. -/
def completed? (queue : EventQueue) : Move → Option Event
  | .finish => queue.inHand
  | _ => none

/-- The events that moves complete, in order, and the queue behind them. -/
def run (queue : EventQueue) : List Move → List Event × EventQueue
  | [] => ([], queue)
  | next :: rest =>
    let (handled, last) := (queue.move next).run rest
    ((queue.completed? next).toList ++ handled, last)

end EventQueue

end Switchboard
