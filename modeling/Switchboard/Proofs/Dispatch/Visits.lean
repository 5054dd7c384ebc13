/-
**Which handlers an event is shown to, and which of them fail.**

Handlers are watched: each records the event that it is shown and whether it succeeds, and otherwise
does what it did (`watched`). What is on record behind any number of events is then told from the
registrations alone, but for who failed: `dispatchAll_visits`.

* `Visit`: a handler that was shown an event, and its success;
* `runAll_watched`, `dispatchAll_watched`: a list of handlers, and a list of events.
-/

import Mathlib
import Switchboard.Proofs.Dispatch.Table

namespace Switchboard

open Text

/-- A handler that was shown an event, and whether it succeeded. -/
structure Visit (η : Type) where
  handler : η
  event : Event
  succeeded : Bool

/-- How many visits ended in a failure. -/
def Visit.failures {η : Type} (visits : List (Visit η)) : Nat :=
  visits.countP fun visit => !visit.succeeded

/-- Counting one more visit before the others is counting it among them. -/
theorem Visit.add_failures {η : Type} (earlier : Nat) (visit : Visit η) (visits : List (Visit η)) :
    (if visit.succeeded then earlier else earlier + 1) + failures visits =
      earlier + failures (visit :: visits) := by
  unfold failures
  rw [List.countP_cons]
  cases visit.succeeded with
  | true => rfl
  | false => exact Nat.add_right_comm _ _ _

namespace DispatchTable

variable {η σ : Type} (run : η → Event → σ → Bool × σ)

/-- What handlers do, on record: every visit is added to a list beside the state. -/
def watched (handler : η) (event : Event) (beside : List (Visit η) × σ) :
    Bool × (List (Visit η) × σ) :=
  let (succeeded, later) := run handler event beside.2
  (succeeded, beside.1 ++ [{ handler, event, succeeded }], later)

/-- Watched or not, handlers do the same. Each of them is on record, in order, and the failures are
those on record. -/
theorem runAll_watched (event : Event) (handlers : List η) (earlier : Nat)
    (record : List (Visit η)) (state : σ) :
    ∃ (visits : List (Visit η)) (last : σ),
      runAll (watched run) event handlers (earlier, record, state) =
        (earlier + Visit.failures visits, record ++ visits, last) ∧
      runAll run event handlers (earlier, state) = (earlier + Visit.failures visits, last) ∧
      visits.map (fun visit => (visit.handler, visit.event)) = handlers.map (·, event) := by
  induction handlers generalizing earlier record state with
  | nil => exact ⟨[], state, by rw [List.append_nil]; rfl, rfl, rfl⟩
  | cons handler rest ih =>
    let outcome := run handler event state
    let visit : Visit η := { handler, event, succeeded := outcome.1 }
    obtain ⟨visits, last, recorded, plain, shown⟩ :=
      ih (if visit.succeeded then earlier else earlier + 1) (record ++ [visit]) outcome.2
    rw [Visit.add_failures] at recorded plain
    refine ⟨visit :: visits, last, ?_, plain, ?_⟩
    · rw [List.append_cons]
      exact recorded
    · rw [List.map_cons, List.map_cons, shown]

/-- Watched or not, events come to the same. What is on record is what each event brings, one after
the other. -/
theorem dispatchAll_watched (table : DispatchTable η) (events : List Event)
    (record : List (Visit η)) (state : σ) :
    ∃ (visits : List (List (Visit η))) (last : σ),
      table.dispatchAll (watched run) (record, state) events =
        (visits.map Visit.failures, record ++ visits.flatten, last) ∧
      table.dispatchAll run state events = (visits.map Visit.failures, last) ∧
      List.Forall₂ (fun event visits =>
        visits.map (fun visit : Visit η => (visit.handler, visit.event)) =
          (table.handlers event.name).map (·, event)) events visits := by
  induction events generalizing record state with
  | nil => exact ⟨[], state, by rw [List.flatten_nil, List.append_nil]; rfl, rfl, .nil⟩
  | cons event rest ih =>
    obtain ⟨now, later, recorded, plain, shown⟩ :=
      runAll_watched run event (table.handlers event.name) 0 record state
    rw [Nat.zero_add] at recorded plain
    obtain ⟨further, last, recordedRest, plainRest, shownRest⟩ := ih (record ++ now) later
    refine ⟨now :: further, last, ?_, ?_, .cons shown shownRest⟩
    · rw [dispatchAll_cons, dispatch, recorded]
      dsimp only
      rw [recordedRest, List.flatten_cons, List.append_assoc]
      rfl
    · rw [dispatchAll_cons, dispatch, plain]
      dsimp only
      rw [plainRest]
      rfl

theorem handlerCount_eq (table : DispatchTable η) (name : String) :
    table.handlerCount name = (table.handlers name).length :=
  List.length_append.symm

/-- **An event is shown to exactly those that are registered for it.** Whatever was registered and
whatever the handlers do, watched or not, every event of a run is shown to the handlers of its name,
whatever the case, once for each time that a registration names it and in the order of the
registrations, and behind them to those of all events in their order. Who fails changes nothing in
this for the event nor for those behind it: the failures are counted, and as many handlers as the
table counts under any spelling of the name have seen the event. -/
theorem dispatchAll_visits (registrations : List (Registration η)) (events : List Event)
    (state : σ) :
    let table := ofRegistrations registrations
    ∃ (visits : List (List (Visit η))) (last : σ),
      table.dispatchAll (watched run) ([], state) events =
        (visits.map Visit.failures, visits.flatten, last) ∧
      table.dispatchAll run state events = (visits.map Visit.failures, last) ∧
      List.Forall₂ (fun event visits =>
        visits.map (fun visit : Visit η => (visit.handler, visit.event)) =
            (registrations.flatMap (Registration.byName event.name) ++
              registrations.flatMap Registration.always).map (·, event) ∧
          ∀ name, sameName name event.name = true → table.handlerCount name = visits.length)
        events visits := by
  intro table
  obtain ⟨visits, last, recorded, plain, shown⟩ :=
    dispatchAll_watched run table events [] state
  refine ⟨visits, last, recorded, plain, shown.imp fun event visits here => ⟨?_, ?_⟩⟩
  · rw [here, handlers_ofRegistrations]
  · intro name same
    have count := congrArg List.length here
    rw [List.length_map, List.length_map] at count
    rw [handlerCount_eq, count, handlers, handlers, sameName_iff.mp same]

end DispatchTable

end Switchboard
