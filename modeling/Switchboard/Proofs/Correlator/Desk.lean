/-
**A desk: one correlator and everybody who ever got in line at it.**

The correlator knows tickets only. A desk also knows who holds them, so that a run can be written
down as a list of moves: somebody gets in line, leaves it, goes away or waits until the time is up,
a response arrives, the correlator closes. The callers with an identifier and those without are
numbered apart, each in the order in which they got in line, so that a run still makes sense when
the moves of one kind are left out of it.

* `Desk.step`, `Desk.run`: what the moves do;
* `Desk.faces`: all that the callers of one kind can see.
-/

import Switchboard.Correlator

namespace Switchboard

/-- How the response to an action is found. -/
inductive Kind where
  /-- By its turn. -/
  | untagged
  /-- By its identifier. -/
  | tagged
  deriving DecidableEq, Repr

/-- The kind of an action or a response that carries this identifier, or none. -/
def Kind.of : Option String → Kind
  | none => .untagged
  | some _ => .tagged

/-- A caller, told by its kind and its place among those of that kind. -/
structure Handle where
  kind : Kind
  place : Nat
  deriving DecidableEq, Repr

/-- Somebody who got in line, and what its wait came to. -/
structure Caller where
  pending : Pending
  outcome : Option (Except BridgeError Response)

def Caller.kind (caller : Caller) : Kind :=
  Kind.of caller.pending.actionId

/-- All that a caller can see. -/
structure Face where
  action : String
  actionId : Option String
  mailbox : Mailbox
  outcome : Option (Except BridgeError Response)

/-- A correlator and all who ever got in line at it. -/
structure Desk where
  correlator : Correlator
  callers : List Caller

namespace Desk

/-- What may happen at a desk, one thing at a time. -/
inductive Move where
  | register (action : Action)
  | cancel (handle : Handle)
  /-- A caller throws its handle away. -/
  | drop (handle : Handle)
  /-- A caller that still has its handle takes what is there when its time is up. -/
  | wait (handle : Handle) (limitMs : Nat)
  | resolve (response : Response)
  | close (reason : DisconnectReason)
  deriving DecidableEq, Repr

/-- A desk at which nobody has got in line. -/
def start : Desk :=
  { correlator := Correlator.new, callers := [] }

def caller? (desk : Desk) (handle : Handle) : Option Caller :=
  (desk.callers.filter (·.kind = handle.kind))[handle.place]?

/-- The callers, with the outcome of one of them written down. -/
def record (desk : Desk) (ticket : Nat) (outcome : Except BridgeError Response) : List Caller :=
  desk.callers.map fun caller =>
    if caller.pending.ticket = ticket then { caller with outcome := some outcome } else caller

/-- The desk after one move; a move of somebody who is not there changes nothing. -/
def step (desk : Desk) : Move → Desk
  | .register action =>
    match desk.correlator.register action with
    | .ok (pending, correlator) =>
      { correlator, callers := desk.callers ++ [{ pending, outcome := none }] }
    | .error _ => desk
  | .cancel handle =>
    match desk.caller? handle with
    | some caller => { desk with correlator := desk.correlator.cancel caller.pending }
    | none => desk
  | .drop handle =>
    match desk.caller? handle with
    | some caller => { desk with correlator := desk.correlator.abandon caller.pending }
    | none => desk
  | .wait handle limitMs =>
    match desk.caller? handle with
    | some caller =>
      if desk.correlator.isHeld caller.pending.ticket then
        let (outcome, correlator) := desk.correlator.collect caller.pending limitMs
        { correlator, callers := desk.record caller.pending.ticket outcome }
      else desk
    | none => desk
  | .resolve response => { desk with correlator := desk.correlator.resolve response }
  | .close reason => { desk with correlator := desk.correlator.close reason }

/-- The desk after moves, one after the other. -/
def run (moves : List Move) : Desk :=
  moves.foldl step start

/-- What a caller can see. -/
def face (desk : Desk) (caller : Caller) : Face :=
  { action := caller.pending.action
    actionId := caller.pending.actionId
    mailbox := desk.correlator.mailbox caller.pending.ticket
    outcome := caller.outcome }

/-- What the callers of one kind can see, in the order in which they got in line. -/
def faces (desk : Desk) (kind : Kind) : List Face :=
  (desk.callers.filter (·.kind = kind)).map desk.face

theorem run_concat (moves : List Move) (last : Move) :
    run (moves ++ [last]) = (run moves).step last := by
  unfold run
  rw [List.foldl_append]
  rfl

end Desk

end Switchboard
