/-
**Queues of jobs.**

A queue holds a bounded number of jobs between those who hand them in and the worker who takes them
out in order. Handing in never waits: a full queue refuses the job, and a queue whose worker is gone
refuses every job. The worker reads each job and performs it on the store. A job that cannot be
read is dropped, and a request that fails ends nothing.

* `enqueue`: hands a job in;
* `take?`: the next job, for the worker;
* `work`: what the worker does until the queue is empty.
-/

import Switchboard.Tracker

namespace Switchboard

/-- Why a queue did not take a job. -/
inductive Refusal where
  | full (tag : String)
  | closed
  deriving DecidableEq, Repr

/-- A queue of jobs. -/
structure JobQueue where
  /-- The kind of queue, for the wording of refusals. -/
  label : String
  capacity : Nat
  waiting : List QueuedJob
  isOpen : Bool
  deriving DecidableEq, Repr

/-- What becomes of each request to a store whose state is `σ`. -/
abbrev Store (σ : Type) := StoreCall → σ → Except BridgeError Unit × σ

namespace JobQueue

/-- The error that a refusal by a queue of some kind amounts to. -/
def refusalError (label : String) : Refusal → BridgeError
  | .full tag => .queue s!"{label} task queue full, refusing {tag} job"
  | .closed => .queue s!"{label} task queue is closed"

/-- An empty queue. It has room for at least one job. -/
def new (label : String) (capacity : Nat) : JobQueue :=
  { label, capacity := max capacity 1, waiting := [], isOpen := true }

/-- The queue with one more job, unless it refuses. -/
def push (queue : JobQueue) (job : QueuedJob) : Except Refusal JobQueue :=
  if !queue.isOpen then .error .closed
  else if queue.capacity ≤ queue.waiting.length then .error (.full job.tag)
  else .ok { queue with waiting := queue.waiting ++ [job] }

/-- Hands a job in. -/
def enqueue (job : QueuedJob) (queue : JobQueue) : Except BridgeError Unit × JobQueue :=
  match queue.push job with
  | .ok later => (.ok (), later)
  | .error refusal => (.error (refusalError queue.label refusal), queue)

/-- The worker is gone, and the jobs in the queue with it. -/
def abort (queue : JobQueue) : JobQueue :=
  { queue with waiting := [], isOpen := false }

/-- The next job, and the queue behind it. -/
def take? (queue : JobQueue) : Option (QueuedJob × JobQueue) :=
  match queue.waiting with
  | [] => none
  | job :: rest => some (job, { queue with waiting := rest })

/-- Performs one job on a store, if it can be read. -/
def performOne {σ : Type} (store : Store σ) (state : σ) (queued : QueuedJob) : σ :=
  match Job.ofPayload? queued.payload with
  | none => state
  | some job => (store (job.perform queued.accountId queued.inboxId) state).2

/-- What the worker does until the queue is empty. -/
def work {σ : Type} (store : Store σ) (queue : JobQueue) (state : σ) : JobQueue × σ :=
  ({ queue with waiting := [] }, queue.waiting.foldl (performOne store) state)

end JobQueue

end Switchboard
