/-
**Supervision: keeping connections alive.**

A supervisor connects, with retries, and watches. When its connection is no longer ready it pauses
and connects again. It stops when a loop of attempts has ended with an error, or when the cluster
is shut down; a shutdown closes every connection.

* `Supervisor.step`: one step of a supervisor beside its connection;
* `Supervised`: a connection and its supervisor, started and shut down;
* `Cluster`: the same for all connections of a bridge.
-/

import Switchboard.Connection.Retry

namespace Switchboard

/-- What a supervisor is doing. -/
inductive Supervisor where
  | connecting
  | watching
  | pausing
  | stopped
  deriving DecidableEq, Repr

/-- What a supervisor is behind a loop of attempts. -/
def Supervisor.behind : Option (Except BridgeError Unit) → Supervisor
  | some (.ok ()) => watching
  | some (.error _) => stopped
  | none => connecting

/-- One step of a supervisor: a loop of attempts of at most `bound`, a look at the status, or the
pause after a loss. -/
def Supervisor.step (supervisor : Supervisor) (connection : Connection) (ending : Nat → LinkEnding)
    (reach : Nat → Reach) (schedule : Nat → List Move) (bound : Nat) : Supervisor × Connection :=
  match supervisor with
  | connecting =>
    let log := connection.connectWithRetry ending reach schedule bound
    (behind log.outcome, log.state)
  | watching => (if connection.isReady then watching else pausing, connection)
  | pausing => (connecting, connection)
  | stopped => (stopped, connection)

/-- A connection, and its supervisor if there is one. -/
structure Supervised where
  connection : Connection
  supervisor : Option Supervisor
  deriving DecidableEq, Repr

namespace Supervised

/-- Gives the connection a supervisor. -/
def start (line : Supervised) : Supervised :=
  { line with supervisor := some .connecting }

/-- One step of the supervisor, if there is one. -/
def step (line : Supervised) (ending : Nat → LinkEnding) (reach : Nat → Reach)
    (schedule : Nat → List Move) (bound : Nat) : Supervised :=
  match line.supervisor with
  | none => line
  | some supervisor =>
    let (supervisor, connection) :=
      supervisor.step line.connection ending reach schedule bound
    { connection, supervisor := some supervisor }

/-- Stops the supervisor and closes the connection. -/
def shutdown (line : Supervised) (logoffId : String) (ending : LinkEnding) : Supervised :=
  { connection := line.connection.disconnect logoffId none [] ending
    supervisor := none }

end Supervised

/-- All connections of a bridge. -/
structure Cluster where
  lines : List Supervised
  deriving DecidableEq, Repr

namespace Cluster

/-- A cluster that has not been started. -/
def new (connections : List Connection) : Cluster :=
  { lines := connections.map fun connection => { connection, supervisor := none } }

/-- Gives every connection a supervisor. -/
def start (cluster : Cluster) : Cluster :=
  { lines := cluster.lines.map Supervised.start }

/-- Stops every supervisor and closes every connection. -/
def shutdown (cluster : Cluster) (logoffId : String) (ending : LinkEnding) : Cluster :=
  { lines := cluster.lines.map fun line => line.shutdown logoffId ending }

end Cluster

end Switchboard
