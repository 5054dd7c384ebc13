/-
**Events on their way from the stream to the handlers.**

The reader of a link puts the events that it reads into the event queue, where there is room. The
dispatcher takes them out one by one and shows each to its handlers, one after the other; it goes on
when a handler has returned, whether it has failed or not. `Relay` follows both, in any order of
their steps, as long as the client does not end the link.

* `Orderly`: what has been handled, what is in hand and what waits are the events that found room,
  in the order of the stream, and the others are counted;
* `Sound.step`, `Sound.run`: every step keeps that;
* `backlog_run`: behind the end of the stream the dispatcher's steps are numbered;
* `handled_in_wire_order`: order, loss and end together.
-/

import Switchboard.Connection.Attempt
import Switchboard.Dispatch
import Switchboard.Proofs.Connection.Happening

namespace Switchboard

/-- Whether a reader has reported that it is over. -/
def Reader.isStopped : Reader → Bool
  | reading | closing _ => false
  | stopped _ => true

/-- Whether there is room for one event more. -/
def EventQueue.hasRoom (queue : EventQueue) : Bool :=
  queue.waiting.length < queue.capacity

namespace EventQueue

variable {queue : EventQueue} {event : Event}

theorem offer_of_room (served : queue.isServed = true) (room : queue.hasRoom = true) :
    queue.offer event = { queue with waiting := queue.waiting ++ [event] } := by
  unfold offer
  rw [served, if_neg (by decide), if_pos (of_decide_eq_true room)]

theorem offer_of_full (served : queue.isServed = true) (full : queue.hasRoom = false) :
    queue.offer event = { queue with dropped := queue.dropped + 1 } := by
  unfold offer
  rw [served, if_neg (by decide), if_neg (of_decide_eq_false full)]

theorem offer_isFed (queue : EventQueue) (event : Event) :
    (queue.offer event).isFed = queue.isFed := by
  unfold offer
  split
  · rfl
  · split <;> rfl

theorem take_isFed (queue : EventQueue) : queue.take.isFed = queue.isFed := by
  unfold take
  split
  · rfl
  · split <;> rfl

theorem take_of_gone (gone : queue.isServed = false) : queue.take = queue := by
  unfold take
  rw [gone]
  rfl

theorem take_of_nil (served : queue.isServed = true) (idle : queue.inHand = none)
    (nothing : queue.waiting = []) : queue.take = { queue with isServed := queue.isFed } := by
  unfold take
  rw [served, idle, nothing]
  rfl

theorem take_of_cons {later : List Event} (served : queue.isServed = true)
    (idle : queue.inHand = none) (waits : queue.waiting = event :: later) :
    queue.take = { queue with waiting := later, inHand := some event } := by
  unfold take
  rw [served, idle, waits]
  rfl

end EventQueue

/-- The reader of a connection and its dispatcher, and what has gone through them. -/
structure Relay (η : Type) where
  connection : Connection
  /-- The handlers that have not returned from the event in hand. -/
  due : List η
  /-- The events that have been read, each with whether there was room for it in the queue. -/
  read : List (Event × Bool)
  /-- The events from which all handlers have returned. -/
  handled : List Event
  /-- The handlers that have returned, each with its event and whether it succeeded. -/
  returned : List (Event × η × Bool)

namespace Relay

/-- What may happen, one thing at a time. -/
inductive Move where
  /-- The reader deals with a frame. -/
  | hear (frame : Frame)
  /-- The stream ends. -/
  | endOfStream (reason : DisconnectReason)
  /-- The reader reports why, and is gone. -/
  | report
  /-- The dispatcher goes on: it takes an event, or hears from the next handler whether it has
  succeeded, or is done with the event. -/
  | proceed (succeeds : Bool)
  deriving DecidableEq, Repr

/-- Whether a step is one of the dispatcher. -/
def Move.isProceed : Move → Bool
  | proceed _ => true
  | _ => false

section Steps

variable {η : Type}

/-- A connection whose stream has just been opened. -/
def start (origin : Connection) : Relay η :=
  { connection := (Attempt.start origin).connection
    due := []
    read := []
    handled := []
    returned := [] }

/-- The event that a reader reads in a frame, and whether there is room for it. -/
def reads? (link : Link) : Frame → Option (Event × Bool)
  | .event event => if link.reader = .reading then some (event, link.events.hasRoom) else none
  | .banner _ | .response _ | .malformed _ => none

/-- The reader deals with a frame, if it is still there. -/
def hear (relay : Relay η) (frame : Frame) : Relay η :=
  { relay with
    connection := relay.connection.happen (.heard frame)
    read := relay.read ++ (relay.connection.link.bind fun link => reads? link frame).toList }

/-- The handlers of the event that is in hand. -/
def called (table : DispatchTable η) (queue : EventQueue) : List η :=
  queue.inHand.toList.flatMap fun event => table.handlers event.name

/-- The dispatcher goes on. -/
def proceed (table : DispatchTable η) (relay : Relay η) (succeeds : Bool) : Relay η :=
  match relay.connection.link with
  | none => relay
  | some link =>
    match link.events.inHand, relay.due with
    | none, _ =>
      { relay with
        connection := relay.connection.happen .taken
        due := called table link.events.take }
    | some event, handler :: later =>
      { relay with due := later, returned := relay.returned ++ [(event, handler, succeeds)] }
    | some event, [] =>
      { relay with
        connection := relay.connection.happen .handled
        handled := relay.handled ++ [event] }

/-- The relay after one step; a step for which there is nothing to do changes nothing. -/
def step (table : DispatchTable η) (relay : Relay η) : Move → Relay η
  | .hear frame => relay.hear frame
  | .endOfStream reason =>
    { relay with connection := relay.connection.happen (.ended reason) }
  | .report => { relay with connection := relay.connection.happen .reported }
  | .proceed succeeds => relay.proceed table succeeds

/-- The relay after steps, one after the other. -/
def run (table : DispatchTable η) (relay : Relay η) (moves : List Move) : Relay η :=
  moves.foldl (step table) relay

/-- The events that found room in the queue, in the order of the stream. -/
def admitted (relay : Relay η) : List Event :=
  (relay.read.filter Prod.snd).map Prod.fst

/-- How many events found no room. -/
def lost (relay : Relay η) : Nat :=
  (relay.read.filter fun entry => !entry.2).length

/-- An event with each of its handlers. -/
def calls (table : DispatchTable η) (event : Event) : List (Event × η) :=
  (table.handlers event.name).map (Prod.mk event)

end Steps

section Record

variable {η : Type} {table : DispatchTable η} {relay : Relay η} {queue : EventQueue}

theorem called_of_idle (idle : queue.inHand = none) : called table queue = [] := by
  unfold called
  rw [idle]
  rfl

/-- The record of a relay that has read one event more. -/
theorem admitted_append (connection : Connection) (event : Event) (room : Bool) :
    admitted { relay with connection, read := relay.read ++ [(event, room)] } =
      relay.admitted ++ if room then [event] else [] := by
  unfold admitted
  rw [List.filter_append, List.map_append]
  cases room <;> rfl

theorem lost_append (connection : Connection) (event : Event) (room : Bool) :
    lost { relay with connection, read := relay.read ++ [(event, room)] } =
      relay.lost + if room then 0 else 1 := by
  unfold lost
  rw [List.filter_append, List.length_append]
  cases room <;> rfl

end Record

/-! ### What every step keeps -/

section Orderly

variable {η : Type} {table : DispatchTable η} {origin : Connection} {relay : Relay η}
  {queue : EventQueue}

/-- Whether all events that have been read are accounted for: those that found room are handled, in
hand or in the queue, in order, and the others are counted. Every event that is handled has been
shown to all of its handlers, in order. -/
structure Orderly (table : DispatchTable η) (origin : Connection) (relay : Relay η)
    (queue : EventQueue) : Prop where
  kept : relay.handled ++ queue.inHand.toList ++ queue.waiting = relay.admitted
  counted : queue.dropped = origin.dropped + relay.lost
  capacity : queue.capacity = max origin.settings.eventQueueSize 1
  room : queue.waiting.length ≤ queue.capacity
  /-- The dispatcher does not stop before the reader, nor before everything is handled. -/
  served : queue.isServed = false → queue.isFed = false ∧ queue.inHand = none ∧ queue.waiting = []
  shown : (relay.handled ++ queue.inHand.toList).flatMap (calls table) =
    (relay.returned.map fun entry => (entry.1, entry.2.1)) ++
      queue.inHand.toList.flatMap fun event => relay.due.map (Prod.mk event)
  idle : queue.inHand = none → relay.due = []

theorem orderly_start (table : DispatchTable η) (origin : Connection) :
    Orderly table origin (start origin)
      (EventQueue.new origin.settings.eventQueueSize origin.dropped) where
  kept := rfl
  counted := rfl
  capacity := rfl
  room := Nat.zero_le _
  served := nofun
  shown := rfl
  idle _ := rfl

/-- An event that the reader hands over is kept if there is room for it, and counted if not. -/
theorem Orderly.offer (orderly : Orderly table origin relay queue) (fed : queue.isFed = true)
    (event : Event) (connection : Connection) :
    Orderly table origin
      { relay with connection, read := relay.read ++ [(event, queue.hasRoom)] }
      (queue.offer event) := by
  have served : queue.isServed = true := by
    by_contra gone
    rw [(orderly.served (Bool.eq_false_iff.mpr gone)).1] at fed
    cases fed
  by_cases room : queue.hasRoom = true
  · rw [EventQueue.offer_of_room served room, room]
    exact { orderly with
      kept := by
        rw [admitted_append, if_pos rfl, ← orderly.kept, List.append_assoc _ queue.waiting]
      counted := by rw [lost_append, orderly.counted]; rfl
      room := by
        rw [List.length_append]
        exact of_decide_eq_true room
      served := fun gone => nomatch served.symm.trans gone }
  · rw [Bool.not_eq_true] at room
    rw [EventQueue.offer_of_full served room, room]
    exact { orderly with
      kept := by
        rw [admitted_append, orderly.kept]
        exact (List.append_nil _).symm
      counted := by
        rw [lost_append, orderly.counted]
        rfl }

/-- A dispatcher that is idle takes the next event, and has all of its handlers in front of it. -/
theorem Orderly.take (orderly : Orderly table origin relay queue) (idle : queue.inHand = none)
    (connection : Connection) :
    Orderly table origin { relay with connection, due := called table queue.take }
      queue.take := by
  have nothing : relay.due = [] := orderly.idle idle
  cases served : queue.isServed with
  | false =>
    rw [EventQueue.take_of_gone served, called_of_idle idle, ← nothing]
    exact { orderly with }
  | true =>
    cases waits : queue.waiting with
    | nil =>
      have idleStill : { queue with isServed := queue.isFed }.inHand = none := idle
      rw [EventQueue.take_of_nil served idle waits, called_of_idle idleStill, ← nothing]
      exact { orderly with served := fun unfed => ⟨unfed, idle, waits⟩ }
    | cons event later =>
      rw [EventQueue.take_of_cons served idle waits]
      have kept : relay.handled ++ event :: later = relay.admitted := by
        rw [← orderly.kept, idle, waits, Option.toList_none, List.append_nil]
      have room : (event :: later).length ≤ queue.capacity := waits ▸ orderly.room
      have shown : relay.handled.flatMap (calls table) =
          relay.returned.map fun entry => (entry.1, entry.2.1) := by
        simpa only [idle, nothing, Option.toList_none, List.append_nil, List.flatMap_nil]
          using orderly.shown
      exact { orderly with
        kept := (List.append_assoc relay.handled [event] later).trans kept
        room := Nat.le_of_succ_le room
        served := fun gone => nomatch served.symm.trans gone
        shown := by
          show (relay.handled ++ [event]).flatMap (calls table) = _ ++ [event].flatMap _
          rw [List.flatMap_append, shown, List.flatMap_singleton, List.flatMap_singleton]
          simp only [called, Option.toList_some, List.flatMap_singleton, calls]
        idle := nofun }

/-- A handler that returns leaves the others in front of the dispatcher, also when it fails. -/
theorem Orderly.handler_returned {event : Event} {handler : η} {later : List η}
    (orderly : Orderly table origin relay queue) (inHand : queue.inHand = some event)
    (due : relay.due = handler :: later) (succeeds : Bool) :
    Orderly table origin
      { relay with due := later, returned := relay.returned ++ [(event, handler, succeeds)] }
      queue :=
  { orderly with
    shown := by
      rw [orderly.shown, inHand, due]
      simp only [Option.toList_some, List.flatMap_singleton, List.map_append, List.map_cons,
        List.map_nil, List.append_assoc, List.singleton_append]
    idle := fun idle => nomatch inHand.symm.trans idle }

/-- An event is handled when all of its handlers have returned. -/
theorem Orderly.finish {event : Event} (orderly : Orderly table origin relay queue)
    (inHand : queue.inHand = some event) (due : relay.due = []) (connection : Connection) :
    Orderly table origin { relay with connection, handled := relay.handled ++ [event] }
      queue.finish := by
  have kept := orderly.kept
  have shown := orderly.shown
  rw [inHand, Option.toList_some] at kept shown
  exact { orderly with
    kept := by
      show relay.handled ++ [event] ++ [] ++ queue.waiting = _
      rw [List.append_nil]
      exact kept
    served := fun gone => ⟨(orderly.served gone).1, rfl, (orderly.served gone).2.2⟩
    shown := by
      show (relay.handled ++ [event] ++ []).flatMap (calls table) = _ ++ []
      rw [List.append_nil, shown, due]
      rfl
    idle := fun _ => due }

/-- That no event comes any more takes nothing away. -/
theorem Orderly.endOfEvents (orderly : Orderly table origin relay queue)
    (connection : Connection) :
    Orderly table origin { relay with connection } queue.endOfEvents :=
  { orderly with served := fun gone => ⟨rfl, (orderly.served gone).2⟩ }

end Orderly

/-! ### Every step of a relay -/

section Sound

variable {η : Type} {table : DispatchTable η} {origin : Connection} {relay : Relay η} {link : Link}

/-- Whether a relay has its link, and all events of the link are accounted for. -/
def Sound (table : DispatchTable η) (origin : Connection) (relay : Relay η) : Prop :=
  ∃ link, relay.connection.link = some link ∧ Orderly table origin relay link.events ∧
    link.events.isFed = !link.reader.isStopped

theorem Sound.orderly (sound : Sound table origin relay)
    (there : relay.connection.link = some link) :
    Orderly table origin relay link.events ∧ link.events.isFed = !link.reader.isStopped := by
  obtain ⟨_, known, orderly⟩ := sound
  cases Option.some.inj (there.symm.trans known)
  exact orderly

theorem sound_start (table : DispatchTable η) (origin : Connection) :
    Sound table origin (start origin) :=
  ⟨_, rfl, orderly_start table origin, rfl⟩

/-- What a frame does to a link, as far as events go: an event is offered to the queue while the
reader reads, and nothing else is done. -/
theorem heard_cases (link : Link) (frame : Frame) :
    (∃ event, frame = .event event ∧ link.reader = .reading ∧
      reads? link frame = some (event, link.events.hasRoom) ∧
      (link.happen (.heard frame)).events = link.events.offer event) ∨
    reads? link frame = none ∧ (link.happen (.heard frame)).events = link.events := by
  obtain ⟨correlator, reader, events, written⟩ := link
  cases frame with
  | event event =>
    cases reader with
    | reading => exact .inl ⟨event, rfl, rfl, rfl, rfl⟩
    | _ => exact .inr ⟨rfl, rfl⟩
  | _ => cases reader <;> exact .inr ⟨rfl, rfl⟩

theorem heard_reader (link : Link) (frame : Frame) :
    (link.happen (.heard frame)).reader = link.reader := by
  obtain ⟨correlator, reader, events, written⟩ := link
  cases reader with
  | reading => exact Link.hear_reader _ frame
  | _ => rfl

theorem hear_eq (there : relay.connection.link = some link) (frame : Frame) :
    relay.hear frame =
      { relay with
        connection := relay.connection.happen (.heard frame)
        read := relay.read ++ (reads? link frame).toList } := by
  unfold hear
  rw [there]
  rfl

theorem Sound.hear (sound : Sound table origin relay) (frame : Frame) :
    Sound table origin (relay.hear frame) := by
  obtain ⟨link, there, orderly, fed⟩ := sound
  rw [hear_eq there]
  refine ⟨_, Connection.happen_link there _, ?_⟩
  rw [heard_reader]
  rcases heard_cases link frame with ⟨event, -, reading, reads, offered⟩ | ⟨silent, same⟩
  · rw [reads, offered, EventQueue.offer_isFed]
    have isFed : link.events.isFed = true := by rw [fed, reading]; rfl
    exact ⟨orderly.offer isFed event _, fed⟩
  · rw [silent, same, Option.toList_none, List.append_nil]
    exact ⟨{ orderly with }, fed⟩

theorem Sound.endOfStream (sound : Sound table origin relay) (reason : DisconnectReason) :
    Sound table origin
      { relay with connection := relay.connection.happen (.ended reason) } := by
  obtain ⟨⟨correlator, reader, events, written⟩, there, orderly, fed⟩ := sound
  refine ⟨_, Connection.happen_link there _, ?_, ?_⟩ <;> cases reader
  case refine_1.reading | refine_1.closing | refine_1.stopped => exact { orderly with }
  all_goals exact fed

theorem Sound.report (sound : Sound table origin relay) :
    Sound table origin { relay with connection := relay.connection.happen .reported } := by
  obtain ⟨⟨correlator, reader, events, written⟩, there, orderly, fed⟩ := sound
  refine ⟨_, Connection.happen_link there _, ?_, ?_⟩ <;> cases reader
  case refine_1.closing => exact orderly.endOfEvents _
  case refine_1.reading | refine_1.stopped => exact { orderly with }
  case refine_2.closing => rfl
  all_goals exact fed

section Proceed

variable {event : Event} {handler : η} {later : List η}

theorem proceed_of_idle (there : relay.connection.link = some link)
    (idle : link.events.inHand = none) (succeeds : Bool) :
    relay.proceed table succeeds =
      { relay with
        connection := relay.connection.happen .taken
        due := called table link.events.take } := by
  unfold proceed
  rw [there]
  dsimp only
  rw [idle]

theorem proceed_of_due (there : relay.connection.link = some link)
    (inHand : link.events.inHand = some event) (due : relay.due = handler :: later)
    (succeeds : Bool) :
    relay.proceed table succeeds =
      { relay with
        due := later
        returned := relay.returned ++ [(event, handler, succeeds)] } := by
  unfold proceed
  rw [there]
  dsimp only
  rw [inHand, due]

theorem proceed_of_done (there : relay.connection.link = some link)
    (inHand : link.events.inHand = some event) (due : relay.due = []) (succeeds : Bool) :
    relay.proceed table succeeds =
      { relay with
        connection := relay.connection.happen .handled
        handled := relay.handled ++ [event] } := by
  unfold proceed
  rw [there]
  dsimp only
  rw [inHand, due]

theorem Sound.proceed (sound : Sound table origin relay) (succeeds : Bool) :
    Sound table origin (relay.proceed table succeeds) := by
  obtain ⟨link, there, orderly, fed⟩ := sound
  cases inHand : link.events.inHand with
  | none =>
    rw [proceed_of_idle there inHand]
    exact ⟨link.happen .taken, Connection.happen_link there .taken, orderly.take inHand _,
      (EventQueue.take_isFed link.events).trans fed⟩
  | some event =>
    cases due : relay.due with
    | nil =>
      rw [proceed_of_done there inHand due]
      exact ⟨link.happen .handled, Connection.happen_link there .handled,
        orderly.finish inHand due _, fed⟩
    | cons handler later =>
      rw [proceed_of_due there inHand due]
      exact ⟨link, there, orderly.handler_returned inHand due succeeds, fed⟩

end Proceed

/-- **Every step keeps account of all events.** -/
theorem Sound.step (sound : Sound table origin relay) (move : Move) :
    Sound table origin (relay.step table move) := by
  cases move with
  | hear frame => exact sound.hear frame
  | endOfStream reason => exact sound.endOfStream reason
  | report => exact sound.report
  | proceed succeeds => exact sound.proceed succeeds

theorem Sound.run (sound : Sound table origin relay) (moves : List Move) :
    Sound table origin (relay.run table moves) := by
  induction moves generalizing relay with
  | nil => exact sound
  | cons move rest ih => exact ih (sound.step move)

end Sound

/-! ### What has been read -/

section Wire

variable {η : Type} {table : DispatchTable η} {relay : Relay η} {link : Link}

/-- The events that come along until the stream ends, in order. -/
def wire : List Move → List Event
  | [] => []
  | .hear (.event event) :: rest => event :: wire rest
  | .endOfStream _ :: _ => []
  | _ :: rest => wire rest

/-- What a step does to the reader of a link. -/
def turned (reader : Reader) : Move → Reader
  | .endOfStream reason =>
    match reader with
    | .reading => .closing reason
    | _ => reader
  | .report =>
    match reader with
    | .closing reason => .stopped reason
    | _ => reader
  | .hear _ | .proceed _ => reader

theorem step_link (table : DispatchTable η) (there : relay.connection.link = some link)
    (move : Move) :
    ∃ later, (relay.step table move).connection.link = some later ∧
      later.reader = turned link.reader move := by
  cases move with
  | hear frame =>
    refine ⟨_, ?_, heard_reader link frame⟩
    show (relay.hear frame).connection.link = _
    rw [hear_eq there]
    exact Connection.happen_link there _
  | endOfStream reason =>
    refine ⟨_, Connection.happen_link there _, ?_⟩
    obtain ⟨correlator, reader, events, written⟩ := link
    cases reader <;> rfl
  | report =>
    refine ⟨_, Connection.happen_link there _, ?_⟩
    obtain ⟨correlator, reader, events, written⟩ := link
    cases reader <;> rfl
  | proceed succeeds =>
    show ∃ later, (relay.proceed table succeeds).connection.link = _ ∧ _
    cases inHand : link.events.inHand with
    | none =>
      rw [proceed_of_idle there inHand]
      exact ⟨link.happen .taken, Connection.happen_link there .taken, rfl⟩
    | some event =>
      cases due : relay.due with
      | nil =>
        rw [proceed_of_done there inHand due]
        exact ⟨link.happen .handled, Connection.happen_link there .handled, rfl⟩
      | cons handler later =>
        rw [proceed_of_due there inHand due]
        exact ⟨link, there, rfl⟩

/-- The event that a step reads, and whether there is room for it. -/
def stepReads? (link : Link) : Move → Option (Event × Bool)
  | .hear frame => reads? link frame
  | _ => none

theorem step_read (there : relay.connection.link = some link) (move : Move) :
    (relay.step table move).read = relay.read ++ (stepReads? link move).toList := by
  cases move with
  | hear frame =>
    show (relay.hear frame).read = _
    rw [hear_eq there]
    rfl
  | proceed succeeds =>
    refine Eq.trans ?_ (List.append_nil _).symm
    show (relay.proceed table succeeds).read = _
    unfold proceed
    rw [there]
    dsimp only
    split <;> rfl
  | _ => exact (List.append_nil _).symm

/-- What a reader makes of what comes along: nothing once it has ended. -/
def readIn (reader : Reader) (moves : List Move) : List Event :=
  if reader = .reading then wire moves else []

theorem readIn_cons (link : Link) (move : Move) (rest : List Move) :
    readIn link.reader (move :: rest) =
      (stepReads? link move).toList.map Prod.fst ++ readIn (turned link.reader move) rest := by
  obtain ⟨correlator, reader, events, written⟩ := link
  cases move with
  | hear frame => cases frame <;> cases reader <;> rfl
  | _ => cases reader <;> rfl

theorem run_read (there : relay.connection.link = some link) (moves : List Move) :
    (relay.run table moves).read.map Prod.fst =
      relay.read.map Prod.fst ++ readIn link.reader moves := by
  induction moves generalizing relay link with
  | nil =>
    have nothing : readIn link.reader [] = [] := ite_self _
    rw [nothing, List.append_nil]
    rfl
  | cons move rest ih =>
    obtain ⟨later, thereafter, reader⟩ := step_link table there move
    calc ((relay.step table move).run table rest).read.map Prod.fst
        = (relay.step table move).read.map Prod.fst ++ readIn later.reader rest := ih thereafter
      _ = relay.read.map Prod.fst ++ readIn link.reader (move :: rest) := by
        rw [step_read there, List.map_append, reader, readIn_cons, List.append_assoc]

/-- An event is lost only when the queue is full, and then it is counted. -/
theorem lost_step {origin : Connection} (there : relay.connection.link = some link)
    (orderly : Orderly table origin relay link.events) (move : Move) :
    (relay.step table move).lost = relay.lost ∨
      (∃ event, move = .hear (.event event)) ∧ link.events.waiting.length = link.events.capacity ∧
        (relay.step table move).lost = relay.lost + 1 := by
  have count : (relay.step table move).lost =
      relay.lost + ((stepReads? link move).toList.filter fun entry => !entry.2).length := by
    unfold lost
    rw [step_read there, List.filter_append, List.length_append]
  cases move with
  | hear frame =>
    rcases heard_cases link frame with ⟨event, rfl, -, reads, -⟩ | ⟨silent, -⟩
    · have reads : stepReads? link (.hear (.event event)) = some (event, link.events.hasRoom) :=
        reads
      rw [count, reads]
      cases room : link.events.hasRoom with
      | true => exact .inl rfl
      | false =>
        have full : link.events.capacity ≤ link.events.waiting.length :=
          Nat.le_of_not_lt (of_decide_eq_false room)
        exact .inr ⟨⟨event, rfl⟩, Nat.le_antisymm orderly.room full, rfl⟩
    · have silent : stepReads? link (.hear frame) = none := silent
      rw [count, silent]
      exact .inl rfl
  | _ => exact .inl count

end Wire

/-! ### Behind the end of the stream -/

section Drain

variable {η : Type} {table : DispatchTable η} {origin : Connection} {relay : Relay η} {link : Link}

/-- How many steps a dispatcher spends on events: it takes each, hears from each of its handlers and
is done with it. -/
def stepsFor (table : DispatchTable η) : List Event → Nat
  | [] => 0
  | event :: later => (table.handlers event.name).length + 2 + stepsFor table later

/-- How many steps a dispatcher has in front of it at a queue into which nothing comes any more. At
last it finds nothing there, and stops. -/
def stepsLeft (table : DispatchTable η) (queue : EventQueue) (due : List η) : Nat :=
  if queue.isServed then
    (queue.inHand.elim 0 fun _ => due.length + 1) + stepsFor table queue.waiting + 1
  else 0

/-- How many steps the dispatcher of a relay has in front of it. -/
def backlog (table : DispatchTable η) (relay : Relay η) : Nat :=
  relay.connection.link.elim 0 fun link => stepsLeft table link.events relay.due

theorem backlog_eq (there : relay.connection.link = some link) :
    backlog table relay = stepsLeft table link.events relay.due := by
  unfold backlog
  rw [there]
  rfl

/-- A link whose reader has stopped is changed by its dispatcher only. -/
theorem step_of_stopped (table : DispatchTable η) (there : relay.connection.link = some link)
    (stopped : link.reader.isStopped = true) (move : Move) :
    (∃ succeeds, move = .proceed succeeds) ∨
      move.isProceed = false ∧ (relay.step table move).connection.link = some link ∧
        (relay.step table move).due = relay.due := by
  obtain ⟨correlator, reader, events, written⟩ := link
  cases reader with
  | stopped reason =>
    cases move with
    | hear frame =>
      show _ ∨ _ ∧ (relay.hear frame).connection.link = _ ∧ (relay.hear frame).due = _
      rw [hear_eq there]
      exact .inr ⟨rfl, Connection.happen_link there _, rfl⟩
    | endOfStream reason => exact .inr ⟨rfl, Connection.happen_link there _, rfl⟩
    | report => exact .inr ⟨rfl, Connection.happen_link there _, rfl⟩
    | proceed succeeds => exact .inl ⟨succeeds, rfl⟩
  | _ => cases stopped

/-- Each step of the dispatcher is one step less in front of it. -/
theorem backlog_proceed (there : relay.connection.link = some link)
    (orderly : Orderly table origin relay link.events) (unfed : link.events.isFed = false)
    (succeeds : Bool) :
    backlog table (relay.proceed table succeeds) = backlog table relay - 1 := by
  rw [backlog_eq there]
  cases inHand : link.events.inHand with
  | none =>
    rw [proceed_of_idle there inHand, backlog_eq (Connection.happen_link there .taken)]
    show stepsLeft table link.events.take (called table link.events.take) = _
    cases served : link.events.isServed with
    | false =>
      rw [EventQueue.take_of_gone served]
      simp only [stepsLeft, served, Bool.false_eq_true, if_false]
    | true =>
      cases waits : link.events.waiting with
      | nil =>
        rw [EventQueue.take_of_nil served inHand waits]
        simp only [stepsLeft, served, inHand, waits, unfed]
        rfl
      | cons event later =>
        rw [EventQueue.take_of_cons served inHand waits]
        simp only [stepsLeft, stepsFor, called, served, inHand, waits, if_true, Option.elim_some,
          Option.elim_none, Option.toList_some, List.flatMap_singleton]
        omega
  | some event =>
    have served : link.events.isServed = true := by
      by_contra gone
      have idle := (orderly.served (Bool.eq_false_iff.mpr gone)).2.1
      exact nomatch inHand.symm.trans idle
    cases due : relay.due with
    | nil =>
      rw [proceed_of_done there inHand due, backlog_eq (Connection.happen_link there .handled)]
      show stepsLeft table link.events.finish relay.due = _
      simp only [stepsLeft, EventQueue.finish, served, inHand, due, if_true, Option.elim_some,
        Option.elim_none, List.length_nil]
      omega
    | cons handler later =>
      have still : backlog table (relay.proceed table succeeds) =
          stepsLeft table link.events later := by
        rw [proceed_of_due there inHand due]
        exact backlog_eq there
      rw [still]
      simp only [stepsLeft, served, inHand, if_true, Option.elim_some, List.length_cons]
      omega

/-- What is left of a backlog behind a step: only the dispatcher's steps count. -/
theorem backlog_step (sound : Sound table origin relay) (there : relay.connection.link = some link)
    (stopped : link.reader.isStopped = true) (move : Move) :
    backlog table (relay.step table move) =
      backlog table relay - if move.isProceed then 1 else 0 := by
  obtain ⟨orderly, fed⟩ := sound.orderly there
  rw [stopped] at fed
  rcases step_of_stopped table there stopped move with
    ⟨succeeds, rfl⟩ | ⟨other, same, due⟩
  · exact backlog_proceed there orderly fed succeeds
  · rw [backlog_eq same, backlog_eq there, due, other]
    rfl

/-- **Behind the end of the stream** nothing is read any more, and every step of the dispatcher
shortens what it has in front of it. -/
theorem backlog_run (sound : Sound table origin relay) (there : relay.connection.link = some link)
    (stopped : link.reader.isStopped = true) (moves : List Move) :
    (relay.run table moves).read = relay.read ∧
      backlog table (relay.run table moves) =
        backlog table relay - moves.countP Move.isProceed := by
  induction moves generalizing relay link with
  | nil => exact ⟨rfl, rfl⟩
  | cons move rest ih =>
    obtain ⟨later, thereafter, turn⟩ := step_link table there move
    have still : later.reader.isStopped = true := by
      rw [turn]
      cases reader : link.reader with
      | stopped reason => cases move <;> rfl
      | _ =>
        rw [reader] at stopped
        cases stopped
    have silent : stepReads? link move = none := by
      cases move with
      | hear frame =>
        cases frame with
        | event event =>
          refine if_neg fun reading => ?_
          rw [reading] at stopped
          cases stopped
        | _ => rfl
      | _ => rfl
    obtain ⟨read, left⟩ := ih (sound.step move) thereafter still
    constructor
    · calc ((relay.step table move).run table rest).read
          = (relay.step table move).read := read
        _ = relay.read := by rw [step_read there, silent]; exact List.append_nil _
    · calc backlog table ((relay.step table move).run table rest)
          = backlog table relay - (if move.isProceed then 1 else 0) -
              rest.countP Move.isProceed := by rw [left, backlog_step sound there stopped]
        _ = backlog table relay - (move :: rest).countP Move.isProceed := by
          rw [List.countP_cons, Nat.sub_sub, Nat.add_comm]

/-- A dispatcher that has nothing in front of it has stopped. -/
theorem gone_of_backlog (there : relay.connection.link = some link)
    (nothing : backlog table relay = 0) : link.events.isServed = false := by
  rw [backlog_eq there, stepsLeft] at nothing
  split at nothing
  · cases nothing
  · next gone => exact Bool.eq_false_iff.mpr gone

end Drain

/-! ### Order, loss and end -/

section Account

variable {η : Type} {table : DispatchTable η} {origin : Connection} {relay : Relay η} {link : Link}

theorem droppedEvents_eq (there : relay.connection.link = some link) :
    relay.connection.droppedEvents = link.events.dropped := by
  unfold Connection.droppedEvents
  rw [there]

/-- Each event that has been read found room or is lost. -/
theorem length_admitted (relay : Relay η) :
    relay.admitted.length + relay.lost = relay.read.length := by
  unfold admitted lost
  rw [List.length_map, ← List.countP_eq_length_filter, ← List.countP_eq_length_filter,
    List.length_eq_countP_add_countP Prod.snd]
  simp only [Bool.not_eq_true, Bool.decide_eq_false]

/-- The count of lost events goes up by one at an event that finds the queue full, and at no other
step. -/
theorem droppedEvents_step (sound : Sound table origin relay)
    (there : relay.connection.link = some link) (move : Move) :
    (relay.step table move).connection.droppedEvents = relay.connection.droppedEvents ∨
      (∃ event, move = .hear (.event event)) ∧
        link.events.waiting.length = max origin.settings.eventQueueSize 1 ∧
        (relay.step table move).connection.droppedEvents =
          relay.connection.droppedEvents + 1 := by
  obtain ⟨orderly, -⟩ := sound.orderly there
  obtain ⟨later, thereafter, orderlyThen, -⟩ := sound.step move
  rw [droppedEvents_eq there, droppedEvents_eq thereafter, orderly.counted, orderlyThen.counted,
    ← orderly.capacity]
  rcases lost_step there orderly move with same | ⟨event, full, more⟩
  · exact .inl (by rw [same])
  · exact .inr ⟨event, full, by rw [more, Nat.add_assoc]⟩

/-- A dispatcher that has stopped has handled everything, behind a reader that has stopped. -/
theorem handled_of_gone (sound : Sound table origin relay)
    (there : relay.connection.link = some link) (gone : link.events.isServed = false) :
    link.reader.isStopped = true ∧ relay.handled = relay.admitted := by
  obtain ⟨orderly, fed⟩ := sound.orderly there
  obtain ⟨unfed, idle, nothing⟩ := orderly.served gone
  constructor
  · cases stopped : link.reader.isStopped with
    | true => rfl
    | false =>
      rw [unfed, stopped] at fed
      cases fed
  · rw [← orderly.kept, idle, nothing, List.append_nil]
    exact (List.append_nil _).symm

/-- Behind the end of the stream the dispatcher comes to its end when it has taken as many steps as
it has in front of it, and has then handled everything. -/
theorem drained (sound : Sound table origin relay) (there : relay.connection.link = some link)
    (stopped : link.reader.isStopped = true) (moves : List Move)
    (enough : backlog table relay ≤ moves.countP Move.isProceed) :
    ∃ last, (relay.run table moves).connection.link = some last ∧
      last.events.isServed = false ∧ (relay.run table moves).handled = relay.admitted := by
  obtain ⟨read, left⟩ := backlog_run sound there stopped moves
  obtain ⟨last, thereAtLast, -⟩ := sound.run moves
  have gone := gone_of_backlog thereAtLast (left.trans (Nat.sub_eq_zero_of_le enough))
  refine ⟨last, thereAtLast, gone, ?_⟩
  rw [(handled_of_gone (sound.run moves) thereAtLast gone).2, admitted, read, admitted]

end Account

/-- **Events are handled in the order of the stream, and every loss is counted.** Whatever the
reader and the dispatcher do in turn, and whatever handlers fail: what has been handled, what is in
hand and what waits are events of the stream, in its order, each at most once; with those that the
connection has counted as lost they are all that has been read. An event is lost only when the queue
is full. Every event goes to all of its handlers, in order. Behind the end of the stream the
dispatcher handles all that waits, and stops no sooner. -/
theorem handled_in_wire_order {η : Type} (table : DispatchTable η) (origin : Connection)
    (moves : List Move) :
    let begun : Relay η := start origin
    let now := begun.run table moves
    ∃ link, now.connection.link = some link ∧
      let inHand := link.events.inHand.toList
      let kept := now.handled ++ inHand ++ link.events.waiting
      kept.Sublist (wire moves) ∧
      begun.connection.droppedEvents + (wire moves).length =
        now.connection.droppedEvents + kept.length ∧
      (now.handled ++ inHand).flatMap (calls table) =
        (now.returned.map fun entry => (entry.1, entry.2.1)) ++
          inHand.flatMap (fun event => now.due.map (Prod.mk event)) ∧
      (∀ move,
        (now.step table move).connection.droppedEvents = now.connection.droppedEvents ∨
        (∃ event, move = .hear (.event event)) ∧
          link.events.waiting.length = max origin.settings.eventQueueSize 1 ∧
          (now.step table move).connection.droppedEvents = now.connection.droppedEvents + 1) ∧
      (link.events.isServed = false → link.reader.isStopped = true ∧ now.handled = kept) ∧
      (link.reader.isStopped = true → ∀ more,
        backlog table now ≤ more.countP Move.isProceed →
          ∃ last, (now.run table more).connection.link = some last ∧
            last.events.isServed = false ∧ (now.run table more).handled = kept) := by
  intro begun now
  have sound : Sound table origin now := (sound_start table origin).run moves
  have begun_link : begun.connection.link =
      some (Link.new origin.settings.eventQueueSize origin.dropped) := rfl
  have read : now.read.map Prod.fst = wire moves := run_read begun_link moves
  obtain ⟨link, there, orderly, -⟩ := id sound
  refine ⟨link, there, ?_⟩
  intro inHand kept
  have admitted : kept = now.admitted := orderly.kept
  refine ⟨?order, ?conserved, orderly.shown, droppedEvents_step sound there, ?safe, ?live⟩
  case order =>
    rw [admitted, ← read]
    exact List.filter_sublist.map Prod.fst
  case conserved =>
    show origin.dropped + _ = _
    rw [droppedEvents_eq there, orderly.counted, admitted, ← read, List.length_map,
      ← length_admitted, Nat.add_assoc, Nat.add_comm now.lost]
  case safe =>
    rw [admitted]
    exact handled_of_gone sound there
  case live =>
    rw [admitted]
    exact drained sound there

/-- Three events of a call, of which the last finds the queue full; then the stream ends. -/
def crowded : List Move :=
  [ .hear (.event (Event.new "Newchannel" [])), .proceed true,
    .hear (.event (Event.new "DialBegin" [])), .hear (.event (Event.new "Hangup" [])),
    .endOfStream .connectionClosed, .report ]

/-- The first two are handled although every handler fails, and the third is counted. -/
theorem handled_in_wire_order_crowded :
    let table := DispatchTable.ofRegistrations [.onAny "journal", .onAny "tracker"]
    let settings := ConnectionSettings.new "pbx.local" 5038 "bridge" "secret"
    let origin := Connection.new { settings with eventQueueSize := 1 }
    let now := (start origin).run table crowded
    let last := now.run table (List.replicate 8 (.proceed false))
    now.connection.droppedEvents = 1 ∧ now.handled = [] ∧
      last.handled = [Event.new "Newchannel" [], Event.new "DialBegin" []] := by
  intro table settings origin now last
  obtain ⟨link, there, -, -, -, -, -, live⟩ := handled_in_wire_order table origin crowded
  have known : now.connection.link = some link := there
  have stopped : (now.connection.link.map fun link => link.reader.isStopped) = some true := by
    decide +kernel
  have waits : (now.connection.link.map fun link =>
      now.handled ++ link.events.inHand.toList ++ link.events.waiting) =
        some [Event.new "Newchannel" [], Event.new "DialBegin" []] := by decide +kernel
  rw [known] at stopped waits
  obtain ⟨-, -, -, handled⟩ :=
    live (Option.some.inj stopped) (List.replicate 8 (.proceed false)) (by decide +kernel)
  exact ⟨by decide +kernel, by decide +kernel, handled.trans (Option.some.inj waits)⟩

end Relay

end Switchboard
