/-
**Dispatch: which handlers see an event.**

A handler is registered for the events of one name, in any case, for each of several names, or for
all events. The registrations are folded into a table once: a list of handlers for each name, and
the list of those that see everything. An event goes to the handlers of its name first and then to
the others, each list in the order of registration.

* `DispatchTable.ofRegistrations`: the table;
* `DispatchTable.handlers`: who sees the events of a name, in order;
* `DispatchTable.dispatch`: runs them, and counts those that fail.
-/

import Switchboard.Event

namespace Switchboard

open Text

/-- One registration of a handler. -/
inductive Registration (η : Type) where
  | on (name : String) (handler : η)
  | onEach (names : List String) (handler : η)
  | onAny (handler : η)
  deriving Repr

/-- The handlers of each name, under its folded spelling, and the handlers of all events. -/
structure DispatchTable (η : Type) where
  byName : List (String × List η)
  catchAll : List η
  deriving Repr

namespace DispatchTable

variable {η : Type}

/-- A table without handlers. -/
def empty : DispatchTable η := { byName := [], catchAll := [] }

/-- The handlers under a folded name. -/
def lookup (name : String) : List (String × List η) → List η
  | [] => []
  | (other, handlers) :: rest => if other = name then handlers else lookup name rest

/-- One more handler under a folded name, behind those that are there. -/
def append (name : String) (handler : η) : List (String × List η) → List (String × List η)
  | [] => [(name, [handler])]
  | (other, handlers) :: rest =>
    if other = name then (other, handlers ++ [handler]) :: rest
    else (other, handlers) :: append name handler rest

/-- The table with a handler for the events of one name. -/
def on (table : DispatchTable η) (name : String) (handler : η) : DispatchTable η :=
  { table with byName := append (fold name) handler table.byName }

/-- The table with one more registration. -/
def register (table : DispatchTable η) : Registration η → DispatchTable η
  | .on name handler => table.on name handler
  | .onEach names handler => names.foldl (fun table name => table.on name handler) table
  | .onAny handler => { table with catchAll := table.catchAll ++ [handler] }

/-- The table that registrations make, in order. -/
def ofRegistrations (registrations : List (Registration η)) : DispatchTable η :=
  registrations.foldl register empty

/-- Whether no handler is registered. -/
def isEmpty (table : DispatchTable η) : Bool :=
  table.byName.isEmpty && table.catchAll.isEmpty

/-- Who sees the events of a name, in order. -/
def handlers (table : DispatchTable η) (name : String) : List η :=
  lookup (fold name) table.byName ++ table.catchAll

/-- How many see the events of a name. -/
def handlerCount (table : DispatchTable η) (name : String) : Nat :=
  (lookup (fold name) table.byName).length + table.catchAll.length

/-- Runs handlers one after the other. `run` says what a handler does to the state and whether it
succeeds; a failure stops nothing. The result is the number of failures. -/
def runAll {σ : Type} (run : η → Event → σ → Bool × σ) (event : Event) :
    List η → Nat × σ → Nat × σ
  | [], outcome => outcome
  | handler :: rest, (failures, state) =>
    let (succeeded, later) := run handler event state
    runAll run event rest (if succeeded then failures else failures + 1, later)

/-- Shows an event to everyone who should see it. -/
def dispatch {σ : Type} (table : DispatchTable η) (run : η → Event → σ → Bool × σ)
    (event : Event) (state : σ) : Nat × σ :=
  runAll run event (table.handlers event.name) (0, state)

end DispatchTable

end Switchboard
