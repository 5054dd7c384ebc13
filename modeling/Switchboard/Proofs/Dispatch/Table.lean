/-
**Who sees an event, read off the registrations.**

The table keeps a list of handlers for each folded name. Whoever sees the events of a name is there
once for each time that a registration names it, in any case, and those that see everything come
behind, each part in the order of registration: `handlers_ofRegistrations`.

* `Registration.byName`, `Registration.always`: what one registration contributes;
* `DispatchTable.dispatchAll`: events dispatched one after the other.
-/

import Switchboard.Dispatch

namespace Switchboard

open Text

namespace Registration

variable {η : Type}

/-- The handlers that a registration contributes to the events of a name: its handler, once for each
time that it names them. -/
def byName (name : String) : Registration η → List η
  | .on other handler => if sameName other name then [handler] else []
  | .onEach names handler => (names.filter fun other => sameName other name).map fun _ => handler
  | .onAny _ => []

/-- The handlers that a registration contributes to all events. -/
def always : Registration η → List η
  | .on _ _ | .onEach _ _ => []
  | .onAny handler => [handler]

end Registration

namespace DispatchTable

variable {η : Type}

/-! ### The handlers of a name -/

theorem lookup_append (name other : String) (handler : η) (lists : List (String × List η)) :
    lookup other (append name handler lists) =
      lookup other lists ++ if name = other then [handler] else [] := by
  induction lists with
  | nil => rfl
  | cons first rest ih =>
    obtain ⟨key, handlers⟩ := first
    unfold append
    by_cases own : key = name
    · rw [if_pos own, lookup, lookup, own]
      split
      · rfl
      · rw [List.append_nil]
    · rw [if_neg own, lookup, lookup, ih]
      by_cases here : key = other
      · have differ : name ≠ other := fun same => own (here.trans same.symm)
        rw [if_pos here, if_pos here, if_neg differ, List.append_nil]
      · rw [if_neg here, if_neg here]

theorem lookup_on (table : DispatchTable η) (name other : String) (handler : η) :
    lookup (fold name) (table.on other handler).byName =
      lookup (fold name) table.byName ++ (Registration.on other handler).byName name := by
  unfold on Registration.byName
  rw [lookup_append]
  simp only [sameName_iff]

theorem lookup_onEach (table : DispatchTable η) (name : String) (names : List String)
    (handler : η) :
    lookup (fold name) (table.register (.onEach names handler)).byName =
      lookup (fold name) table.byName ++ (Registration.onEach names handler).byName name := by
  induction names generalizing table with
  | nil => exact (List.append_nil _).symm
  | cons other rest ih =>
    have step : table.register (.onEach (other :: rest) handler) =
        (table.on other handler).register (.onEach rest handler) := rfl
    rw [step, ih, lookup_on, List.append_assoc]
    simp only [Registration.byName, List.filter_cons]
    split <;> rfl

theorem lookup_register (table : DispatchTable η) (name : String)
    (registration : Registration η) :
    lookup (fold name) (table.register registration).byName =
      lookup (fold name) table.byName ++ registration.byName name := by
  cases registration with
  | on other handler => exact table.lookup_on name other handler
  | onEach names handler => exact table.lookup_onEach name names handler
  | onAny handler => exact (List.append_nil _).symm

theorem catchAll_register (table : DispatchTable η) (registration : Registration η) :
    (table.register registration).catchAll = table.catchAll ++ registration.always := by
  cases registration with
  | on other handler => exact (List.append_nil _).symm
  | onEach names handler =>
    refine Eq.trans ?_ (List.append_nil _).symm
    show (names.foldl (fun table name => table.on name handler) table).catchAll = _
    induction names generalizing table with
    | nil => rfl
    | cons other rest ih => exact ih (table.on other handler)
  | onAny handler => rfl

/-- Whoever sees the events of a name does so by a registration for the name, or by one for all
events, which comes behind. -/
theorem handlers_ofRegistrations (registrations : List (Registration η)) (name : String) :
    (ofRegistrations registrations).handlers name =
      registrations.flatMap (Registration.byName name) ++
        registrations.flatMap Registration.always := by
  have lists (table : DispatchTable η) :
      lookup (fold name) (registrations.foldl register table).byName =
          lookup (fold name) table.byName ++ registrations.flatMap (Registration.byName name) ∧
        (registrations.foldl register table).catchAll =
          table.catchAll ++ registrations.flatMap Registration.always := by
    induction registrations generalizing table with
    | nil => exact ⟨(List.append_nil _).symm, (List.append_nil _).symm⟩
    | cons first rest ih =>
      obtain ⟨named, all⟩ := ih (table.register first)
      rw [List.foldl_cons, named, all, lookup_register, catchAll_register, List.flatMap_cons,
        List.flatMap_cons, List.append_assoc, List.append_assoc]
      exact ⟨rfl, rfl⟩
  obtain ⟨named, all⟩ := lists empty
  unfold handlers ofRegistrations
  rw [named, all]
  rfl

/-! ### Events one after the other -/

section Dispatch

variable {σ : Type} {run : η → Event → σ → Bool × σ}

/-- How many handlers fail on each event, and the state behind all of them. -/
def dispatchAll (table : DispatchTable η) (run : η → Event → σ → Bool × σ) (state : σ) :
    List Event → List Nat × σ
  | [] => ([], state)
  | event :: rest =>
    let (failures, later) := table.dispatch run event state
    let (more, last) := table.dispatchAll run later rest
    (failures :: more, last)

theorem dispatchAll_cons (table : DispatchTable η) (event : Event) (rest : List Event)
    (state : σ) :
    table.dispatchAll run state (event :: rest) =
      let now := table.dispatch run event state
      let further := table.dispatchAll run now.2 rest
      (now.1 :: further.1, further.2) := rfl

/-- Tables that come to the same with each event come to the same with all of them. What is known of
the state in between may help. -/
theorem dispatchAll_congr {first second : DispatchTable η} {events : List Event}
    (invariant : σ → Prop) (keeps : ∀ event state, invariant state →
      invariant (first.dispatch run event state).2)
    (same : ∀ event ∈ events, ∀ state, invariant state →
      first.dispatch run event state = second.dispatch run event state)
    {state : σ} (holds : invariant state) :
    first.dispatchAll run state events = second.dispatchAll run state events := by
  induction events generalizing state with
  | nil => rfl
  | cons event rest ih =>
    have now := same event List.mem_cons_self state holds
    have further := ih (fun next member => same next (List.mem_cons_of_mem _ member))
      (keeps event state holds)
    rw [dispatchAll_cons, dispatchAll_cons, ← now]
    dsimp only
    rw [further]

end Dispatch

end DispatchTable

end Switchboard
