/-
**Runs of a tracker.**

A tracker takes in events one after the other. `after` is the tracker behind them, `jobs` is what it
says to each, and `accepted` are those among them that the filters let through.
-/

import Switchboard.Tracker

namespace Switchboard.Tracker

variable [Digest]

/-- The tracker behind events. -/
def after (tracker : Tracker) (events : List Event) : Tracker :=
  events.foldl (fun now event => (now.apply event).1) tracker

/-- What the tracker answers to each event. -/
def jobs (tracker : Tracker) : List Event → List (Option Job)
  | [] => []
  | event :: rest => (tracker.apply event).2 :: (tracker.apply event).1.jobs rest

/-- The events that are accepted, in order. -/
def accepted (tracker : Tracker) : List Event → List Event
  | [] => []
  | event :: rest =>
    if (tracker.accept? event).isSome then event :: (tracker.apply event).1.accepted rest
    else (tracker.apply event).1.accepted rest

theorem after_append (tracker : Tracker) (first second : List Event) :
    tracker.after (first ++ second) = (tracker.after first).after second :=
  List.foldl_append

theorem length_jobs (tracker : Tracker) (events : List Event) :
    (tracker.jobs events).length = events.length := by
  induction events generalizing tracker with
  | nil => rfl
  | cons event rest ih => exact congrArg (· + 1) (ih _)

theorem jobs_concat (tracker : Tracker) (events : List Event) (last : Event) :
    tracker.jobs (events ++ [last]) =
      tracker.jobs events ++ [((tracker.after events).apply last).2] := by
  induction events generalizing tracker with
  | nil => rfl
  | cons event rest ih => exact congrArg (List.cons _) (ih _)

theorem accepted_concat (tracker : Tracker) (events : List Event) (last : Event) :
    tracker.accepted (events ++ [last]) =
      tracker.accepted events ++
        if ((tracker.after events).accept? last).isSome then [last] else [] := by
  induction events generalizing tracker with
  | nil => exact (List.nil_append _).symm
  | cons event rest ih =>
    rw [List.cons_append, accepted, accepted, ih]
    split <;> rfl

theorem accepted_append (tracker : Tracker) (first second : List Event) :
    tracker.accepted (first ++ second) =
      tracker.accepted first ++ (tracker.after first).accepted second := by
  induction first generalizing tracker with
  | nil => rfl
  | cons event rest ih =>
    rw [List.cons_append, accepted, accepted, ih]
    split <;> rfl

/-- The events that are accepted are some of those that came, in order. -/
theorem accepted_sublist (tracker : Tracker) (events : List Event) :
    (tracker.accepted events).Sublist events := by
  induction events generalizing tracker with
  | nil => exact .slnil
  | cons event rest ih =>
    rw [accepted]
    split
    · exact (ih _).cons_cons event
    · exact (ih _).cons event

/-- An event that is not accepted changes nothing, and there is no job for it. -/
theorem apply_of_refused {tracker : Tracker} {event : Event}
    (refused : tracker.accept? event = none) : tracker.apply event = (tracker, none) := by
  unfold apply
  rw [refused]

/-- An event that is accepted is new to the window, which remembers it then. -/
theorem window_of_accept? {tracker : Tracker} {event : Event} {passed : Accepted}
    (passes : tracker.accept? event = some passed) :
    tracker.window.insert? event.fingerprint = some passed.window := by
  unfold accept? at passes
  split at passes
  · cases passes
  · simp only at passes
    split at passes
    · cases passes
    · split at passes
      · cases passes
      · obtain ⟨window, inserted, rfl⟩ := Option.map_eq_some_iff.mp passes
        exact inserted

/-- An event that the window remembers is not accepted. -/
theorem refused_of_contains {tracker : Tracker} {event : Event}
    (remembered : tracker.window.contains event.fingerprint = true) :
    tracker.accept? event = none := by
  cases passes : tracker.accept? event with
  | none => rfl
  | some passed =>
    have inserted := window_of_accept? passes
    unfold Window.insert? at inserted
    rw [if_pos remembered] at inserted
    cases inserted

/-- The window behind an event that is accepted. -/
theorem window_apply {tracker : Tracker} {event : Event} {passed : Accepted}
    (passes : tracker.accept? event = some passed) :
    (tracker.apply event).1.window = passed.window := by
  unfold apply
  rw [passes]

end Switchboard.Tracker
