/-
**A tracker may be registered more than once.**

A tracker that sees an event again at once, before anything else comes, refuses it: either the event
was not accepted and is not accepted now, or it is the last that the window remembers. So the event
is over with the first delivery, whatever the queue has said to its job, and a table in which the
tracker is registered for the events of a call and for all events does what a table with one
registration does: `registered_twice`.

* `asHandler`: the tracker as a handler of events, with a queue of any kind;
* `asHandler_again`: the second delivery;
* `submitting`: a queue that also writes down what is offered to it.
-/

import Switchboard.Pipeline
import Switchboard.Proofs.Dispatch.Table
import Switchboard.Proofs.Tracker.Refusal

namespace Switchboard

open Text

namespace Tracker

variable {σ : Type} {enqueue : QueuedJob → σ → Except BridgeError Unit × σ}
  {tracker : Tracker} {event : Event} {queue : σ}

/-- A queue that also writes down what is offered to it. -/
def submitting (enqueue : QueuedJob → σ → Except BridgeError Unit × σ) (job : QueuedJob)
    (state : List QueuedJob × σ) : Except BridgeError Unit × List QueuedJob × σ :=
  ((enqueue job state.2).1, state.1 ++ [job], (enqueue job state.2).2)

/-! ### The routes -/

/-- The table of a tracker that is registered along a route. -/
def table (route : Route) : DispatchTable Unit :=
  DispatchTable.ofRegistrations (route.registrations ())

/-- How often a tracker that is registered for the events of a call sees the events of a name. -/
def sightings (name : String) : Nat :=
  (callEventNames.filter fun other => sameName other name).length

theorem handlers_table (route : Route) (name : String) :
    (table route).handlers name =
      match route with
      | .any => [()]
      | .named => List.replicate (sightings name) ()
      | .both => List.replicate (sightings name + 1) () := by
  have named : (Registration.onEach callEventNames ()).byName name =
      List.replicate (sightings name) () := List.map_const'
  unfold table
  rw [DispatchTable.handlers_ofRegistrations]
  cases route with
  | any => rfl
  | named =>
    show (_ ++ []) ++ ([] ++ []) = _
    simp only [named, List.append_nil]
  | both =>
    show (_ ++ ([] ++ [])) ++ ([] ++ ([()] ++ [])) = _
    simp only [named, List.append_nil, List.nil_append, List.replicate_succ']

theorem sightings_pos {name : String} (called : ∃ other ∈ callEventNames, event.isNamed other = true)
    (own : event.name = name) : 0 < sightings name := by
  obtain ⟨other, member, named⟩ := called
  refine List.length_pos_of_mem (List.mem_filter.mpr ⟨member, ?_⟩)
  rw [← own, sameName_comm]
  exact named

/-! ### The tracker as a handler -/

section Run

variable [Digest]

/-- The tracker as a handler of events: it fails where its queue refuses a job. -/
def asHandler (enqueue : QueuedJob → σ → Except BridgeError Unit × σ) (_ : Unit) (event : Event)
    (state : Tracker × σ) : Bool × Tracker × σ :=
  match state.1.handle event enqueue state.2 with
  | (.ok _, later) => (true, later)
  | (.error _, later) => (false, later)

/-- The handler of the pipeline is the tracker with the pipeline's queue. -/
theorem asHandler_enqueue : asHandler JobQueue.enqueue = Pipeline.runTracker := by
  funext handler event state
  unfold asHandler Pipeline.runTracker
  obtain ⟨result, later⟩ := state.1.handle event JobQueue.enqueue state.2
  cases result <;> rfl

/-! ### The same event again -/

theorem asHandler_of_silent (silent : (tracker.apply event).2 = none) :
    asHandler enqueue () event (tracker, queue) = (true, (tracker.apply event).1, queue) := by
  unfold asHandler
  rw [handle_of_silent silent]

theorem asHandler_tracker :
    (asHandler enqueue () event (tracker, queue)).2.1 = (tracker.apply event).1 := by
  have moved : (tracker.handle event enqueue queue).2.1 = (tracker.apply event).1 := handle_tracker
  rw [← moved]
  unfold asHandler
  split <;> next same => rw [same]

theorem capacity_apply (tracker : Tracker) (event : Event) :
    (tracker.apply event).1.window.capacity = tracker.window.capacity := by
  cases passes : tracker.accept? event with
  | none => rw [apply_of_refused passes]
  | some passed =>
    rw [window_apply passes, Window.capacity_of_insert? (window_of_accept? passes)]

/-- An event that has just been taken in, accepted or not, is not accepted again. -/
theorem apply_again (roomy : 0 < tracker.window.capacity) (event : Event) :
    (tracker.apply event).1.apply event = ((tracker.apply event).1, none) := by
  refine apply_of_refused ?_
  cases passes : tracker.accept? event with
  | none => rw [apply_of_refused passes, passes]
  | some passed =>
    refine refused_of_contains ?_
    rw [window_apply passes]
    exact Window.contains_of_insert? roomy (window_of_accept? passes)

/-- A tracker that is shown the same event again succeeds and does nothing, whatever became of the
job the first time. -/
theorem asHandler_again (roomy : 0 < tracker.window.capacity) :
    let later := (asHandler enqueue () event (tracker, queue)).2
    asHandler enqueue () event later = (true, later) := by
  intro later
  have moved : later.1 = (tracker.apply event).1 := asHandler_tracker
  have again := apply_again roomy event
  rw [← moved] at again
  have silent : asHandler enqueue () event (later.1, later.2) =
      (true, (later.1.apply event).1, later.2) := asHandler_of_silent (congrArg Prod.snd again)
  rw [again] at silent
  exact silent

/-- To show a tracker an event several times over is to show it once. -/
theorem runAll_replicate (roomy : 0 < tracker.window.capacity) (times : Nat) :
    DispatchTable.runAll (asHandler enqueue) event (List.replicate (times + 1) ())
        (0, tracker, queue) =
      DispatchTable.runAll (asHandler enqueue) event [()] (0, tracker, queue) := by
  have again : asHandler enqueue () event (asHandler enqueue () event (tracker, queue)).2 =
      (true, (asHandler enqueue () event (tracker, queue)).2) := asHandler_again roomy
  have idle (more failures : Nat) :
      DispatchTable.runAll (asHandler enqueue) event (List.replicate more ())
        (failures, (asHandler enqueue () event (tracker, queue)).2) =
      (failures, (asHandler enqueue () event (tracker, queue)).2) := by
    induction more with
    | zero => rfl
    | succ more ih =>
      rw [List.replicate_succ, DispatchTable.runAll, again]
      exact ih
  rw [List.replicate_succ, DispatchTable.runAll]
  exact idle times _

/-! ### Any route for the catch-all -/

/-- A table that shows a tracker an event at least once does what the catch-all does. -/
theorem dispatch_eq_any {route : Route} {times : Nat}
    (shown : (table route).handlers event.name = List.replicate (times + 1) ())
    (roomy : 0 < tracker.window.capacity) :
    (table route).dispatch (asHandler enqueue) event (tracker, queue) =
      (table .any).dispatch (asHandler enqueue) event (tracker, queue) := by
  unfold DispatchTable.dispatch
  rw [shown, handlers_table, runAll_replicate roomy]

/-- So it makes no difference to a pipeline whether its tracker is registered along one route or
along both. -/
theorem dispatch_runTracker (event : Event) (queue : JobQueue)
    (roomy : 0 < tracker.window.capacity) :
    (table .both).dispatch Pipeline.runTracker event (tracker, queue) =
      (table .any).dispatch Pipeline.runTracker event (tracker, queue) := by
  rw [← asHandler_enqueue]
  exact dispatch_eq_any (handlers_table .both event.name) roomy

theorem dispatchAll_eq_any {route : Route} {events : List Event}
    (shown : ∀ event ∈ events, ∃ times, (table route).handlers event.name =
      List.replicate (times + 1) ())
    (roomy : 0 < tracker.window.capacity) :
    (table route).dispatchAll (asHandler enqueue) (tracker, queue) events =
      (table .any).dispatchAll (asHandler enqueue) (tracker, queue) events := by
  refine (DispatchTable.dispatchAll_congr (fun state => 0 < state.1.window.capacity) ?keeps ?same
    roomy).symm
  case keeps =>
    rintro event ⟨tracker, queue⟩ roomy
    unfold DispatchTable.dispatch
    rw [handlers_table]
    show 0 < (asHandler enqueue () event (tracker, queue)).2.1.window.capacity
    rw [asHandler_tracker, capacity_apply]
    exact roomy
  case same =>
    rintro event member ⟨tracker, queue⟩ roomy
    obtain ⟨times, often⟩ := shown event member
    exact (dispatch_eq_any often roomy).symm

/-- **To register a tracker twice is harmless.** Let a tracker in any state, with a window of the
size that its settings give, work for a queue of any kind. Where it is registered for the events of
a call and for all events, each event has as many failures, the jobs that are offered to the queue
are the same and in the same order, and the tracker and the queue end up the same as where it is
registered for all events alone. Where only events of a call come, the same is true if it is
registered for these alone. -/
theorem registered_twice {dedupWindow : Nat}
    (sized : tracker.window.capacity = max dedupWindow 1)
    (enqueue : QueuedJob → σ → Except BridgeError Unit × σ) (queue : σ) (events : List Event) :
    let outcome (route : Route) :=
      (table route).dispatchAll (asHandler (submitting enqueue)) (tracker, [], queue) events
    outcome .both = outcome .any ∧
      ((∀ event ∈ events, ∃ name ∈ callEventNames, event.isNamed name = true) →
        outcome .named = outcome .any) := by
  intro outcome
  have roomy : 0 < tracker.window.capacity := by
    rw [sized]
    exact Nat.lt_of_lt_of_le Nat.zero_lt_one (Nat.le_max_right _ _)
  refine ⟨dispatchAll_eq_any (fun event _ => ⟨_, handlers_table .both event.name⟩) roomy,
    fun called => dispatchAll_eq_any (fun event member => ?_) roomy⟩
  obtain ⟨times, often⟩ := Nat.exists_eq_add_one.mpr (sightings_pos (called event member) rfl)
  exact ⟨times, (handlers_table .named event.name).trans (by rw [← often])⟩

end Run

open scoped SipHash

/-- A ringing channel is reported to a tracker with the smallest window, and its queue refuses the
job. There is one failure, although the tracker is shown the event twice. -/
theorem registered_twice_refused :
    let tracker := new 1 7 narrow
    let outcome (route : Route) :=
      (table route).dispatchAll (asHandler (submitting refuseAll)) (tracker, [], []) [ring]
    tracker.window.capacity = max narrow.dedupWindow 1 ∧
    (∀ event ∈ [ring], ∃ name ∈ callEventNames, event.isNamed name = true) ∧
    (table .both).handlers ring.name = [(), ()] ∧
    (outcome .both).1 = [1] ∧ (outcome .both).2.2.1.length = 1 ∧ outcome .named = outcome .any := by
  intro tracker outcome
  have sized : tracker.window.capacity = max narrow.dedupWindow 1 := rfl
  have called : ∀ event ∈ [ring], ∃ name ∈ callEventNames, event.isNamed name = true := by
    decide +kernel
  obtain ⟨both, named⟩ := registered_twice sized refuseAll [] [ring]
  have once : (outcome .any).1 = [1] ∧ (outcome .any).2.2.1.length = 1 := by decide +kernel
  refine ⟨sized, called, by decide +kernel, ?_, ?_, named called⟩
  · exact (congrArg Prod.fst both).trans once.1
  · exact (congrArg (fun state => state.2.2.1.length) both).trans once.2

end Tracker

end Switchboard
