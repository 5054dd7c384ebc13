/-
**Connecting again and again.**

A loop of attempts ends with the first success. It ends with the first rejected login, because the
same login will be rejected again. It ends with the error of the last attempt that the policy
allows. Otherwise it pauses, longer from one failure to the next, and makes another attempt.

* `Verdict.ofOutcome`: what an outcome means for the loop;
* `RetryAct`, `RetryLog`: what the loop does, act by act;
* `retry`: the loop, over attempts that change a state;
* `Connection.connectWithRetry`: the loop over attempts to connect.
-/

import Switchboard.Connection.Attempt

namespace Switchboard

/-- What the outcome of an attempt means for a loop of attempts. -/
inductive Verdict where
  | stop (outcome : Except BridgeError Unit)
  /-- Another attempt, after the pause for this many failures. -/
  | pause (failures : Nat)
  deriving Repr

/-- The verdict on the outcome of an attempt, the first attempt being 1. -/
def Verdict.ofOutcome (policy : ReconnectPolicy) (attempt : Nat) :
    Except BridgeError Unit → Verdict
  | .ok () => .stop (.ok ())
  | .error (.authFailed text) => .stop (.error (.authFailed text))
  | .error error =>
    if policy.isExhausted attempt then .stop (.error error) else .pause attempt

/-- The count of failures that a loop keeps: a word of 32 bits, which begins again at 0. -/
def failureCount (failures : Nat) : Nat := failures % wordCount 32

/-- What a loop of attempts does. -/
inductive RetryAct where
  | attempt (number : Nat)
  /-- The pause for this many failures: a delay of the policy for them. -/
  | pause (failures : Nat)
  deriving DecidableEq, Repr

/-- How many failures a pause is for. -/
def RetryAct.failures? : RetryAct → Option Nat
  | attempt _ => none
  | pause failures => some failures

/-- What a loop of attempts has done so far. -/
structure RetryLog (σ : Type) where
  /-- How the loop ended, if it has ended. -/
  outcome : Option (Except BridgeError Unit)
  attempts : Nat
  acts : List RetryAct
  state : σ

namespace RetryLog

/-- A loop that is about to make its first attempt. -/
def start {σ : Type} (state : σ) : RetryLog σ :=
  { outcome := none, attempts := 0, acts := [], state }

/-- One more attempt, if the loop has not ended, and the pause behind it, if there is one. The
attempt is told its number. -/
def attempt {σ : Type} (policy : ReconnectPolicy)
    (connect : Nat → σ → Except BridgeError Unit × σ) (log : RetryLog σ) : RetryLog σ :=
  match log.outcome with
  | some _ => log
  | none =>
    let number := log.attempts + 1
    let (outcome, state) := connect number log.state
    match Verdict.ofOutcome policy (failureCount number) outcome with
    | .stop outcome =>
      { outcome := some outcome, attempts := number, acts := log.acts ++ [.attempt number], state }
    | .pause failures =>
      { log with attempts := number, acts := log.acts ++ [.attempt number, .pause failures], state }

/-- How long each pause is, in milliseconds. For each of them a delay is drawn. -/
def pauses {σ : Type} (policy : ReconnectPolicy) (draws : Nat → Nat) (log : RetryLog σ) :
    List Nat :=
  (log.acts.filterMap RetryAct.failures?).mapIdx fun n failures => policy.delay failures (draws n)

end RetryLog

/-- The loop, for at most `bound` attempts. A policy without a limit may go on beyond any bound. -/
def retry {σ : Type} (policy : ReconnectPolicy)
    (connect : Nat → σ → Except BridgeError Unit × σ) (state : σ) (bound : Nat) : RetryLog σ :=
  bound.repeat (RetryLog.attempt policy connect) (RetryLog.start state)

/-- The loop over attempts to connect. The ending of the link of before, the reach and the schedule of
each attempt are given by its number. -/
def Connection.connectWithRetry (connection : Connection) (ending : Nat → LinkEnding)
    (reach : Nat → Reach) (schedule : Nat → List Move) (bound : Nat) : RetryLog Connection :=
  retry connection.settings.reconnect
    (fun number connection => connection.connect (ending number) (reach number) (schedule number))
    connection bound

end Switchboard
