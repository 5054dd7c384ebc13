/-
**The window remembers the events that were accepted last.**

After any run of a new tracker the window holds the fingerprints of the accepted events, as many of
the last ones as it has room for (`window_run`). So an event stays in the window as long as fewer
events have been accepted behind it than the window has room for (`remembers`). Events that are not
accepted, repeats among them, do not make it older.
-/

import Switchboard.Proofs.Tracker.Run
import Switchboard.Proofs.Tracker.Window

namespace Switchboard

namespace Tracker

variable [Digest]

/-- After any run of a new tracker the window holds the last events that were accepted. -/
theorem window_run (accountId inboxId : Int) (settings : TrackerSettings) (events : List Event) :
    let tracker := new accountId inboxId settings
    (tracker.after events).window.Holds ((tracker.accepted events).map Event.fingerprint) ∧
      (tracker.after events).window.capacity = max settings.dedupWindow 1 := by
  intro tracker
  induction events using List.reverseRecOn with
  | nil => exact ⟨Window.holds_new settings.dedupWindow, rfl⟩
  | append_singleton events last ih =>
    obtain ⟨holds, capacity⟩ := ih
    rw [after_append, accepted_concat]
    show (((tracker.after events).apply last).1.window).Holds _ ∧
      ((tracker.after events).apply last).1.window.capacity = _
    cases passes : (tracker.after events).accept? last with
    | none =>
      rw [apply_of_refused passes, Option.isSome_none, if_neg Bool.false_ne_true, List.append_nil]
      exact ⟨holds, capacity⟩
    | some passed =>
      obtain ⟨more, same⟩ := holds.insert (window_of_accept? passes)
      rw [window_apply passes, Option.isSome_some, if_pos rfl, List.map_append, same]
      exact ⟨more, capacity⟩

/-- An event is remembered as long as fewer events have been accepted behind it than the window has
room for. -/
theorem remembers {accountId inboxId : Int} {settings : TrackerSettings} {events : List Event}
    {earlier since : List Event} {event : Event}
    (accepted : (new accountId inboxId settings).accepted events = earlier ++ event :: since)
    (young : since.length < max settings.dedupWindow 1) :
    ((new accountId inboxId settings).after events).window.contains event.fingerprint = true := by
  obtain ⟨holds, capacity⟩ := window_run accountId inboxId settings events
  rw [accepted, List.map_append, List.map_cons] at holds
  refine holds.contains ?_
  rw [List.length_map, capacity]
  exact young

end Tracker

end Switchboard
