/-
**A pipeline at work, one thing at a time.**

The pipeline decodes and dispatches an arrival as a whole, and its worker empties the queue as a
whole. A flow takes the same steps one by one and in any order: bytes arrive while handlers still
have events to see, and the worker takes a job out and performs it whenever it likes. Other handlers
than the tracker may be registered, and each of them may fail. A flow also keeps a record of what
went through: the frames that were decoded, the events that the tracker heard, the jobs that it
offered to the queue with what the queue said, and the requests that the store has had.

* `Flow.step`, `Flow.run`: what the moves do;
* `Flow.run_deliveries`: the events of one dispatch, delivered one by one;
* `Flow.AtRest.run`: a pipeline that takes its own steps, one arrival or one turn of its worker
  after the other, is a flow.
-/

import Switchboard.Pipeline
import Switchboard.Proofs.Job.Queue

namespace Switchboard

/-- How a pipeline is set up: who sees which events, which of the handlers are the tracker, and what
becomes of the requests to the store. -/
structure Wiring (η σ : Type) where
  table : DispatchTable η
  isTracker : η → Bool
  store : Store σ

/-- A pipeline in the middle of its work, and what has gone through it. -/
structure Flow (η σ : Type) where
  decoder : Decoder
  /-- The events that handlers are still to see, each with its handler, in order. -/
  due : List (Event × η)
  tracker : Tracker
  queue : JobQueue
  /-- The job that the worker has taken out and not performed yet. -/
  inHand : Option QueuedJob
  /-- The requests that the store has had, and its state. -/
  store : List StoreCall × σ
  /-- The frames that have been decoded. -/
  frames : List Frame
  /-- The events that the tracker has seen, one for each time. -/
  heard : List Event
  /-- The jobs that the tracker has offered to the queue, and whether the queue took them. -/
  offers : List (Job × Bool)
  /-- How many times a handler has failed. -/
  failures : Nat

namespace Flow

variable {η σ : Type}

/-- What may happen, one thing at a time. -/
inductive Move where
  | arrive (bytes : List UInt8)
  /-- The next event is shown to its handler. A handler other than the tracker may fail. -/
  | deliver (succeeds : Bool)
  /-- The worker takes a job out of the queue. -/
  | take
  /-- The worker performs the job that it has taken. -/
  | perform
  deriving DecidableEq, Repr

/-- The bytes that a move brings. -/
def Move.bytes? : Move → Option (List UInt8)
  | .arrive bytes => some bytes
  | _ => none

/-- A pipeline in front of which nothing has arrived yet. -/
def start (decoder : Decoder) (accountId inboxId : Int) (settings : TrackerSettings)
    (capacity : Nat) (state : σ) : Flow η σ :=
  { decoder
    due := []
    tracker := Tracker.new accountId inboxId settings
    queue := JobQueue.new "local" capacity
    inHand := none
    store := ([], state)
    frames := []
    heard := []
    offers := []
    failures := 0 }

/-- The requests that the store has had, in order. -/
def requests (flow : Flow η σ) : List StoreCall :=
  flow.store.1

/-- The jobs that the queue has taken, in order. -/
def taken (flow : Flow η σ) : List Job :=
  (flow.offers.filter Prod.snd).map Prod.fst

/-- The requests that are still to come of the jobs that the queue has taken. -/
def ahead (flow : Flow η σ) : List StoreCall :=
  (flow.inHand.toList ++ flow.queue.waiting).filterMap QueuedJob.request?

end Flow

namespace Wiring

variable {η σ : Type} (wiring : Wiring η σ)

/-- The handlers that are to see a frame, each with the event. -/
def deliveries : Frame → List (Event × η)
  | .event event => (wiring.table.handlers event.name).map (Prod.mk event)
  | .banner _ | .response _ | .malformed _ => []

/-- The event of each delivery to the tracker. -/
def toTracker (due : List (Event × η)) : List Event :=
  (due.filter fun delivery => wiring.isTracker delivery.2).map Prod.fst

/-- What a handler does to the tracker and the queue, and whether it succeeds. `behaves` says
whether a handler other than the tracker does. -/
def handle [Digest] (behaves : η → Event → Bool) (handler : η) (event : Event)
    (state : Tracker × JobQueue) : Bool × Tracker × JobQueue :=
  if wiring.isTracker handler then Pipeline.runTracker () event state
  else (behaves handler event, state)

/-- The wiring of a pipeline: nobody but the tracker sees events. -/
def ofRoute (route : Route) (store : Store σ) : Wiring Unit σ :=
  { table := DispatchTable.ofRegistrations (route.registrations ())
    isTracker := fun _ => true
    store }

end Wiring

namespace Flow

variable [Digest] {η σ : Type} (wiring : Wiring η σ)

/-- Bytes are decoded as far as they go, and the events among the frames fall due. -/
def arrive (flow : Flow η σ) (bytes : List UInt8) : Flow η σ :=
  let decoded := (flow.decoder.feed bytes).drain
  { flow with
    decoder := decoded.2
    due := flow.due ++ decoded.1.flatMap wiring.deliveries
    frames := flow.frames ++ decoded.1 }

/-- One failure more, unless the handler succeeds. -/
def count (succeeds : Bool) (failures : Nat) : Nat :=
  if succeeds then failures else failures + 1

/-- The tracker sees an event, and offers the job to the queue if there is one. -/
def hear (flow : Flow η σ) (event : Event) : Flow η σ :=
  let outcome := Pipeline.runTracker () event (flow.tracker, flow.queue)
  { flow with
    tracker := outcome.2.1
    queue := outcome.2.2
    heard := flow.heard ++ [event]
    offers := flow.offers ++ ((flow.tracker.apply event).2.map (·, outcome.1)).toList
    failures := count outcome.1 flow.failures }

/-- The next event is shown to its handler. -/
def deliver (flow : Flow η σ) (succeeds : Bool) : Flow η σ :=
  match flow.due with
  | [] => flow
  | (event, handler) :: later =>
    if wiring.isTracker handler then { flow with due := later }.hear event
    else { flow with due := later, failures := count succeeds flow.failures }

/-- The worker takes the next job out, unless it has one in hand. -/
def take (flow : Flow η σ) : Flow η σ :=
  match flow.inHand, flow.queue.take? with
  | none, some (job, queue) => { flow with queue, inHand := some job }
  | _, _ => flow

/-- The worker performs the job that it has in hand. -/
def perform (flow : Flow η σ) : Flow η σ :=
  match flow.inHand with
  | some job =>
    { flow with
      inHand := none
      store := JobQueue.performOne wiring.store.recording flow.store job }
  | none => flow

/-- The flow after one move; a move for which there is nothing to do changes nothing. -/
def step (flow : Flow η σ) : Move → Flow η σ
  | .arrive bytes => flow.arrive wiring bytes
  | .deliver succeeds => flow.deliver wiring succeeds
  | .take => flow.take
  | .perform => flow.perform wiring

/-- The flow after moves, one after the other. -/
def run (flow : Flow η σ) (moves : List Move) : Flow η σ :=
  moves.foldl (step wiring) flow

theorem run_append (flow : Flow η σ) (first second : List Move) :
    flow.run wiring (first ++ second) = (flow.run wiring first).run wiring second :=
  List.foldl_append

/-! ### A dispatch, one delivery after the other -/

section Deliver

variable {flow : Flow η σ} {event : Event} {handler : η} {later : List (Event × η)}

theorem deliver_of_own (due : flow.due = (event, handler) :: later)
    (own : wiring.isTracker handler = true) (succeeds : Bool) :
    flow.deliver wiring succeeds = { flow with due := later }.hear event := by
  unfold deliver
  rw [due]
  exact if_pos own

theorem deliver_of_other (due : flow.due = (event, handler) :: later)
    (other : ¬wiring.isTracker handler = true) (succeeds : Bool) :
    flow.deliver wiring succeeds =
      { flow with due := later, failures := count succeeds flow.failures } := by
  unfold deliver
  rw [due]
  exact if_neg other

theorem deliver_eq (due : flow.due = (event, handler) :: later) (behaves : η → Event → Bool) :
    let outcome := wiring.handle behaves handler event (flow.tracker, flow.queue)
    ∃ heard offers, flow.deliver wiring (behaves handler event) =
      { flow with
        due := later
        failures := count outcome.1 flow.failures
        tracker := outcome.2.1
        queue := outcome.2.2
        heard
        offers } := by
  intro outcome
  by_cases own : wiring.isTracker handler = true
  · have same : outcome = Pipeline.runTracker () event (flow.tracker, flow.queue) := if_pos own
    rw [deliver_of_own wiring due own, same]
    exact ⟨_, _, rfl⟩
  · have same : outcome = (behaves handler event, flow.tracker, flow.queue) := if_neg own
    rw [deliver_of_other wiring due own, same]
    exact ⟨_, _, rfl⟩

end Deliver

/-- **A dispatch is one delivery after the other.** The handlers that an event goes to do to the
tracker and the queue what the dispatch does, with as many failures. -/
theorem run_deliveries (behaves : η → Event → Bool) (event : Event) (handlers : List η)
    {flow : Flow η σ} {rest : List (Event × η)}
    (due : flow.due = handlers.map (Prod.mk event) ++ rest) :
    let outcome := DispatchTable.runAll (wiring.handle behaves) event handlers
      (flow.failures, flow.tracker, flow.queue)
    ∃ heard offers,
      flow.run wiring (handlers.map fun handler => .deliver (behaves handler event)) =
        { flow with
          due := rest
          failures := outcome.1
          tracker := outcome.2.1
          queue := outcome.2.2
          heard
          offers } := by
  induction handlers generalizing flow with
  | nil => exact ⟨flow.heard, flow.offers, by rw [← (show flow.due = rest from due)]; rfl⟩
  | cons handler others ih =>
    obtain ⟨heard, offers, first⟩ := deliver_eq wiring due behaves
    have dueLater : (flow.deliver wiring (behaves handler event)).due =
        others.map (Prod.mk event) ++ rest := by rw [first]; rfl
    obtain ⟨heard, offers, further⟩ := ih dueLater
    refine ⟨heard, offers, ?_⟩
    show (flow.deliver wiring (behaves handler event)).run wiring _ = _
    rw [further, first]
    rfl

/-! ### The worker's turn -/

/-- The worker performs what it has in hand, and then one job after the other. -/
def settling (flow : Flow η σ) : List Move :=
  .perform :: (List.replicate flow.queue.waiting.length [Move.take, .perform]).flatten

theorem run_take_perform {flow : Flow η σ} (free : flow.inHand = none) {job : QueuedJob}
    {rest : List QueuedJob} (next : flow.queue.waiting = job :: rest) :
    flow.run wiring [.take, .perform] =
      { flow with
        queue := { flow.queue with waiting := rest }
        inHand := none
        store := JobQueue.performOne wiring.store.recording flow.store job } := by
  have taken : flow.take =
      { flow with queue := { flow.queue with waiting := rest }, inHand := some job } := by
    unfold take JobQueue.take?
    rw [free, next]
  show (flow.take).perform wiring = _
  rw [taken]
  rfl

/-- The worker performs the jobs that wait, one after the other. -/
theorem run_turns (waiting : List QueuedJob) {flow : Flow η σ} (free : flow.inHand = none)
    (there : flow.queue.waiting = waiting) :
    flow.run wiring (List.replicate waiting.length [Move.take, .perform]).flatten =
      { flow with
        queue := { flow.queue with waiting := [] }
        inHand := none
        store := waiting.foldl (JobQueue.performOne wiring.store.recording) flow.store } := by
  induction waiting generalizing flow with
  | nil =>
    obtain ⟨_, _, _, ⟨_, _, _, _⟩, _, _, _, _, _, _⟩ := flow
    cases free
    cases there
    rfl
  | cons job rest ih =>
    rw [List.length_cons, List.replicate_succ, List.flatten_cons, run_append,
      run_take_perform wiring free there]
    exact ih rfl rfl

/-- When the worker has had its turn, every job that the queue has taken has been performed. -/
theorem run_settling (flow : Flow η σ) :
    flow.run wiring flow.settling =
      { flow with
        queue := { flow.queue with waiting := [] }
        inHand := none
        store := (flow.requests ++ flow.ahead,
          (flow.inHand.toList ++ flow.queue.waiting).foldl (JobQueue.performOne wiring.store)
            flow.store.2) } := by
  have freed : (flow.perform wiring).inHand = none ∧
      (flow.perform wiring).queue = flow.queue ∧
      flow.perform wiring =
        { flow with
          inHand := none
          store := flow.inHand.toList.foldl (JobQueue.performOne wiring.store.recording)
            flow.store } := by
    obtain ⟨_, _, _, _, inHand, _, _, _, _, _⟩ := flow
    cases inHand <;> exact ⟨rfl, rfl, rfl⟩
  obtain ⟨free, same, freed⟩ := freed
  show (flow.perform wiring).run wiring _ = _
  rw [run_turns wiring flow.queue.waiting free (congrArg JobQueue.waiting same), freed]
  simp only [← List.foldl_append, JobQueue.foldl_performOne_recording, requests, ahead,
    List.filterMap_append, List.append_assoc]

end Flow

/-! ### The pipeline's own steps -/

namespace Pipeline

/-- What a pipeline does in one go. -/
inductive Turn where
  | arrive (bytes : List UInt8)
  /-- The worker empties the queue. -/
  | work
  deriving DecidableEq, Repr

/-- The bytes that a turn brings. -/
def Turn.bytes? : Turn → Option (List UInt8)
  | .arrive bytes => some bytes
  | .work => none

variable [Digest] {σ : Type}

/-- The pipeline and the store after one turn. -/
def turn (pipeline : Pipeline) (store : Store σ) (state : σ) : Turn → Pipeline × σ
  | .arrive bytes => ((pipeline.arrive bytes).1, state)
  | .work => pipeline.work store state

/-- The pipeline and the store after turns, one after the other. -/
def run (pipeline : Pipeline) (store : Store σ) (state : σ) (turns : List Turn) : Pipeline × σ :=
  turns.foldl (fun reached next => reached.1.turn store reached.2 next) (pipeline, state)

end Pipeline

/-- What handlers do to the state does not depend on how many have failed before. -/
theorem DispatchTable.runAll_snd {η σ : Type} (run : η → Event → σ → Bool × σ) (event : Event)
    (handlers : List η) (first second : Nat) (state : σ) :
    (runAll run event handlers (first, state)).2 =
      (runAll run event handlers (second, state)).2 := by
  induction handlers generalizing first second state with
  | nil => rfl
  | cons handler rest ih => exact ih _ _ _

namespace Flow

variable {σ : Type} (wiring : Wiring Unit σ)

/-- The pipeline of which this is a flow. -/
def pipeline (flow : Flow Unit σ) : Pipeline :=
  { decoder := flow.decoder
    table := wiring.table
    tracker := flow.tracker
    queue := flow.queue }

/-- A flow at rest has nothing due and nothing in hand, and is all that a pipeline and a store that
writes down its requests show of it. -/
structure AtRest (wiring : Wiring Unit σ) (flow : Flow Unit σ)
    (shown : Pipeline × List StoreCall × σ) : Prop where
  idle : flow.due = []
  free : flow.inHand = none
  same : (flow.pipeline wiring, flow.store) = shown

theorem atRest_start (route : Route) (store : Store σ) (accountId inboxId : Int)
    (settings : TrackerSettings) (capacity : Nat) (state : σ) :
    AtRest (Wiring.ofRoute route store)
      (start (Decoder.new true Decoder.defaultMaxBlockSize) accountId inboxId settings capacity
        state)
      (Pipeline.new accountId inboxId settings route capacity, [], state) where
  idle := rfl
  free := rfl
  same := rfl

theorem bytes_delivering {η : Type} (due : List (Event × η)) :
    (due.map fun _ => Move.deliver true).filterMap Move.bytes? = [] := by
  rw [List.filterMap_map]
  exact List.filterMap_eq_nil_iff.mpr fun _ _ => rfl

theorem bytes_settling {η : Type} (flow : Flow η σ) :
    flow.settling.filterMap Move.bytes? = [] := by
  rw [List.filterMap_eq_nil_iff]
  intro move member
  rcases List.mem_cons.mp member with rfl | behind
  · rfl
  · obtain ⟨turn, turns, inTurn⟩ := List.mem_flatten.mp behind
    rw [List.eq_of_mem_replicate turns] at inTurn
    rcases List.mem_cons.mp inTurn with rfl | last
    · rfl
    · cases List.mem_singleton.mp last
      rfl

variable [Digest] {wiring}

/-- To deliver an event to the tracker, as often as it is registered for it, is to send the frame
on. -/
theorem run_frame (own : wiring.isTracker () = true) (frame : Frame) {flow : Flow Unit σ}
    {rest : List (Event × Unit)} (due : flow.due = wiring.deliveries frame ++ rest) :
    let later := flow.run wiring ((wiring.deliveries frame).map fun _ => .deliver true)
    later.due = rest ∧ later.pipeline wiring = ((flow.pipeline wiring).route frame).1 ∧
      later.inHand = flow.inHand ∧ later.store = flow.store := by
  cases frame with
  | event event =>
    have ours : wiring.handle (fun _ _ => true) = Pipeline.runTracker := by
      funext handler event state
      exact if_pos own
    obtain ⟨heard, offers, delivered⟩ := run_deliveries wiring (fun _ _ => true) event
      (wiring.table.handlers event.name) due
    rw [ours] at delivered
    have moves : (wiring.deliveries (.event event)).map (fun _ => Move.deliver true) =
        (wiring.table.handlers event.name).map fun _ => Move.deliver true :=
      List.map_map
    intro later
    have reached : later = _ := (congrArg (flow.run wiring) moves).trans delivered
    have state := DispatchTable.runAll_snd Pipeline.runTracker event
      (wiring.table.handlers event.name) flow.failures 0 (flow.tracker, flow.queue)
    rw [reached]
    refine ⟨rfl, ?_, rfl, rfl⟩
    simp only [pipeline, state]
    rfl
  | banner version => exact ⟨due, rfl, rfl, rfl⟩
  | response response => exact ⟨due, rfl, rfl, rfl⟩
  | malformed fault => exact ⟨due, rfl, rfl, rfl⟩

theorem run_frames (own : wiring.isTracker () = true) (frames : List Frame) {flow : Flow Unit σ}
    (due : flow.due = frames.flatMap wiring.deliveries) :
    let later := flow.run wiring ((frames.flatMap wiring.deliveries).map fun _ => .deliver true)
    later.due = [] ∧ later.pipeline wiring = ((flow.pipeline wiring).routeAll frames).1 ∧
      later.inHand = flow.inHand ∧ later.store = flow.store := by
  induction frames generalizing flow with
  | nil => exact ⟨due, rfl, rfl, rfl⟩
  | cons frame rest ih =>
    obtain ⟨dueThen, same, hand, store⟩ := run_frame own frame due
    obtain ⟨dueLast, sameLast, handLast, storeLast⟩ := ih dueThen
    rw [List.flatMap_cons, List.map_append, run_append]
    refine ⟨dueLast, sameLast.trans ?_, handLast.trans hand, storeLast.trans store⟩
    rw [same]
    rfl

/-- **An arrival is a run of the flow**: the bytes are decoded, and the events are delivered one by
one. -/
theorem run_arrive (own : wiring.isTracker () = true) {flow : Flow Unit σ} (idle : flow.due = [])
    (bytes : List UInt8) :
    let deliveries := (flow.decoder.feed bytes).drain.1.flatMap wiring.deliveries
    let later := flow.run wiring (.arrive bytes :: deliveries.map fun _ => .deliver true)
    later.due = [] ∧ later.pipeline wiring = ((flow.pipeline wiring).arrive bytes).1 ∧
      later.inHand = flow.inHand ∧ later.store = flow.store := by
  intro deliveries
  have due : (flow.arrive wiring bytes).due = deliveries := by
    show flow.due ++ _ = _
    rw [idle, List.nil_append]
  exact run_frames own (flow.decoder.feed bytes).drain.1 due

/-- **The worker's turn is a run of the flow**: it takes the jobs out and performs them one by
one. -/
theorem run_work (wiring : Wiring Unit σ) {flow : Flow Unit σ} (free : flow.inHand = none) :
    let later := flow.run wiring flow.settling
    later.due = flow.due ∧ later.inHand = none ∧
      (later.pipeline wiring, later.store) =
        (flow.pipeline wiring).work wiring.store.recording flow.store := by
  intro later
  have settled : later = _ := run_settling wiring flow
  rw [settled]
  refine ⟨rfl, rfl, ?_⟩
  simp only [Pipeline.work, JobQueue.work, JobQueue.foldl_performOne_recording, ahead, free]
  rfl

/-- A turn of the pipeline is a run of the flow. -/
theorem AtRest.turn {flow : Flow Unit σ} {shown : Pipeline × List StoreCall × σ}
    (rests : AtRest wiring flow shown) (own : wiring.isTracker () = true) (turn : Pipeline.Turn) :
    ∃ moves, moves.filterMap Move.bytes? = turn.bytes?.toList ∧
      AtRest wiring (flow.run wiring moves) (shown.1.turn wiring.store.recording shown.2 turn) := by
  obtain ⟨idle, free, rfl⟩ := rests
  cases turn with
  | arrive bytes =>
    obtain ⟨due, same, hand, store⟩ := run_arrive own idle bytes
    refine ⟨_, ?_, due, hand.trans free, Prod.ext same store⟩
    exact congrArg (bytes :: ·) (bytes_delivering _)
  | work =>
    obtain ⟨due, hand, same⟩ := run_work wiring free
    exact ⟨_, bytes_settling flow, due.trans idle, hand, same⟩

/-- **A pipeline at work is a flow.** -/
theorem AtRest.run {flow : Flow Unit σ} {shown : Pipeline × List StoreCall × σ}
    (rests : AtRest wiring flow shown) (own : wiring.isTracker () = true)
    (turns : List Pipeline.Turn) :
    ∃ moves, moves.filterMap Move.bytes? = turns.filterMap Pipeline.Turn.bytes? ∧
      AtRest wiring (flow.run wiring moves)
        (shown.1.run wiring.store.recording shown.2 turns) := by
  induction turns generalizing flow shown with
  | nil => exact ⟨[], rfl, rests⟩
  | cons turn rest ih =>
    obtain ⟨first, brings, restsThen⟩ := rests.turn own turn
    obtain ⟨further, bringFurther, restsLast⟩ := ih restsThen
    refine ⟨first ++ further, ?_, ?_⟩
    · rw [List.filterMap_append, brings, bringFurther, List.filterMap_cons]
      cases turn.bytes? <;> rfl
    · rw [run_append]
      exact restsLast

end Flow

end Switchboard
