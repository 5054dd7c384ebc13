/-
**The correlator: whose answer is this?**

Whoever sends an action registers for its response first. A response with an `ActionID` belongs to
the action of that identifier. A response without one belongs to the earliest action without an
identifier whose response has not been read yet, because the switch answers those in order.

Whoever registers gets a ticket. The ticket's mailbox holds what has been delivered. A caller may
give up; the ticket then stays in line, so that a late response is used up and does not reach the
next caller.

* `register`, `cancel`, `abandon`: getting in line, leaving it, and ceasing to listen;
* `resolve`: gives a response to the ticket it belongs to;
* `close`: releases everybody, and refuses those who come later;
* `collect`: what the caller of a ticket gets, at the latest when the time is up.
-/

import Switchboard.Action
import Switchboard.Error
import Switchboard.Response

namespace Switchboard

/-- What has been delivered under a ticket. -/
inductive Mailbox where
  /-- Nothing yet, and the caller listens. -/
  | waiting
  | answered (response : Response)
  | released (reason : DisconnectReason)
  /-- Nothing, and nothing can come any more. -/
  | orphaned
  /-- The caller does not listen. -/
  | abandoned
  deriving DecidableEq, Repr

/-- The caller's side of a registration. -/
structure Pending where
  ticket : Nat
  action : String
  actionId : Option String
  deriving DecidableEq, Repr

/-- Who waits for a response. -/
structure Correlator where
  /-- The tickets of actions without an identifier, in the order in which they were sent. -/
  inOrder : List Nat
  /-- The tickets of actions with an identifier. -/
  byId : List (String × Nat)
  /-- What has been delivered under each ticket. -/
  mailboxes : List Mailbox
  closed : Option DisconnectReason
  deriving DecidableEq, Repr

namespace Correlator

/-- Nobody waits. -/
def new : Correlator :=
  { inOrder := [], byId := [], mailboxes := [], closed := none }

/-- What has been delivered under a ticket. -/
def mailbox (correlator : Correlator) (ticket : Nat) : Mailbox :=
  correlator.mailboxes.getD ticket .abandoned

/-- Whether the caller of a ticket still listens for something to come. -/
def isListening (correlator : Correlator) (ticket : Nat) : Bool :=
  correlator.mailbox ticket == .waiting

/-- The last thing to come under a ticket, if its caller still listens. -/
def deliver (correlator : Correlator) (ticket : Nat) (content : Mailbox) : Correlator :=
  if correlator.isListening ticket then
    { correlator with mailboxes := correlator.mailboxes.set ticket content }
  else correlator

/-- The ticket of an identifier. -/
def ticketOf? (correlator : Correlator) (id : String) : Option Nat :=
  (correlator.byId.find? (·.1 = id)).map Prod.snd

/-- Nobody waits under the identifier. -/
def forget (correlator : Correlator) (id : String) : Correlator :=
  { correlator with byId := correlator.byId.filter (·.1 ≠ id) }

/-- Whether the ticket's mailbox can still be used: its caller has not gone. -/
def isHeld (correlator : Correlator) (ticket : Nat) : Bool :=
  correlator.mailbox ticket != .abandoned

/-- Gets in line for the response to an action. Who used the same identifier before is out of
line, and so is everybody with an identifier who does not listen any more. -/
def register (correlator : Correlator) (action : Action) :
    Except BridgeError (Pending × Correlator) :=
  match correlator.closed with
  | some reason => .error (.disconnected reason)
  | none =>
    let ticket := correlator.mailboxes.length
    let pending : Pending := { ticket, action := action.name, actionId := action.actionId }
    match action.actionId with
    | none =>
      .ok (pending,
        { correlator with
          inOrder := correlator.inOrder ++ [ticket]
          mailboxes := correlator.mailboxes ++ [.waiting] })
    | some id =>
      let kept := { correlator with
        byId := correlator.byId.filter fun entry => correlator.isHeld entry.2 }
      let cleared :=
        match kept.ticketOf? id with
        | some replaced => (kept.forget id).deliver replaced .orphaned
        | none => kept
      .ok (pending,
        { cleared with
          byId := cleared.byId ++ [(id, ticket)]
          mailboxes := cleared.mailboxes ++ [.waiting] })

/-- Leaves the line, because the action was not sent. -/
def cancel (correlator : Correlator) (pending : Pending) : Correlator :=
  match pending.actionId with
  | some id =>
    if correlator.ticketOf? id = some pending.ticket then
      (correlator.forget id).deliver pending.ticket .orphaned
    else correlator
  | none =>
    if pending.ticket ∈ correlator.inOrder then
      { correlator with inOrder := correlator.inOrder.filter (· ≠ pending.ticket) }.deliver
        pending.ticket .orphaned
    else correlator

/-- The caller ceases to listen, and stays in line. -/
def abandon (correlator : Correlator) (pending : Pending) : Correlator :=
  { correlator with mailboxes := correlator.mailboxes.set pending.ticket .abandoned }

/-- Gives a response to the ticket it belongs to, which is used up; a response that belongs to
nobody is discarded. -/
def resolve (correlator : Correlator) (response : Response) : Correlator :=
  match response.actionId with
  | some id =>
    match correlator.ticketOf? id with
    | some ticket => (correlator.forget id).deliver ticket (.answered response)
    | none => correlator
  | none =>
    match correlator.inOrder with
    | ticket :: later =>
      { correlator with inOrder := later }.deliver ticket (.answered response)
    | [] => correlator

/-- Releases everybody with a reason, and refuses those who come later with the first reason that
was ever given. -/
def close (correlator : Correlator) (reason : DisconnectReason) : Correlator :=
  let tickets := correlator.inOrder ++ correlator.byId.map Prod.snd
  tickets.foldl (fun correlator ticket => correlator.deliver ticket (.released reason))
    { correlator with
      inOrder := []
      byId := []
      closed := correlator.closed.or (some reason) }

/-- How many are in line, including those who do not listen any more. -/
def pendingCount (correlator : Correlator) : Nat :=
  correlator.inOrder.length + correlator.byId.length

/-- What the caller of a ticket has got, once there is something to get. -/
def arrived? (correlator : Correlator) (pending : Pending) : Option (Except BridgeError Response) :=
  match correlator.mailbox pending.ticket with
  | .waiting => none
  | .answered response => some (.ok response)
  | .released reason => some (.error (.disconnected reason))
  | .orphaned | .abandoned => some (.error (.disconnected .connectionClosed))

/-- What the caller of a ticket gets when the time is up, and ceases to listen then. -/
def collect (correlator : Correlator) (pending : Pending) (limitMs : Nat) :
    Except BridgeError Response × Correlator :=
  ((correlator.arrived? pending).getD (.error (.actionTimeout pending.action limitMs)),
    correlator.abandon pending)

end Correlator

end Switchboard
