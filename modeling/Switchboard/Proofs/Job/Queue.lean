/-
**What a queue takes, and what its worker asks of the store.**

A queue whose worker is there takes a job exactly when it has room (`enqueue_open`), and one whose
worker is gone takes none (`enqueue_closed`). A store that writes down its requests shows what the
worker does with the jobs: one request for each that can be read, whatever the store makes of the
others (`foldl_performOne_recording`).
-/

import Switchboard.Job.Queue
import Switchboard.Proofs.Job.Payload

namespace Switchboard

/-- A store that also writes down its requests. -/
def Store.recording {σ : Type} (store : Store σ) : Store (List StoreCall × σ) :=
  fun request state => ((store request state.2).1, state.1 ++ [request], (store request state.2).2)

namespace JobQueue

variable {queue : JobQueue}

/-- A queue whose worker is there takes a job exactly when it has room. -/
theorem enqueue_open (isOpen : queue.isOpen = true) (job : QueuedJob) :
    enqueue job queue =
      if queue.capacity ≤ queue.waiting.length then
        (.error (refusalError queue.label (.full job.tag)), queue)
      else (.ok (), { queue with waiting := queue.waiting ++ [job] }) := by
  unfold enqueue push
  rw [isOpen]
  by_cases full : queue.capacity ≤ queue.waiting.length
  · simp [full]
  · simp [full]

/-- A queue whose worker is gone takes no job. -/
theorem enqueue_closed (isClosed : queue.isOpen = false) (job : QueuedJob) :
    enqueue job queue = (.error (refusalError queue.label .closed), queue) := by
  unfold enqueue push
  rw [isClosed]
  rfl

variable {σ : Type}

/-- The worker performs a job by one request, whatever the store makes of it. -/
theorem performOne_recording (store : Store σ) (state : List StoreCall × σ) (queued : QueuedJob) :
    performOne store.recording state queued =
      (state.1 ++ queued.request?.toList, performOne store state.2 queued) := by
  unfold performOne QueuedJob.request?
  cases Job.ofPayload? queued.payload with
  | none => exact Prod.ext (List.append_nil _).symm rfl
  | some job => rfl

theorem foldl_performOne_recording (store : Store σ) (queued : List QueuedJob)
    (state : List StoreCall × σ) :
    queued.foldl (performOne store.recording) state =
      (state.1 ++ queued.filterMap QueuedJob.request?,
        queued.foldl (performOne store) state.2) := by
  induction queued generalizing state with
  | nil => exact Prod.ext (List.append_nil _).symm rfl
  | cons first rest ih =>
    rw [List.foldl_cons, performOne_recording, ih, List.append_assoc, List.filterMap_cons]
    cases first.request? <;> rfl

end JobQueue

end Switchboard
