/-
**The webhook queue: jobs that are posted to an address.**

Instead of performing jobs here, a queue may post each of them as JSON to the webhook of another
system. The envelope names the job, the inbox it is addressed to, the host it comes from and the
time at which it is posted. An address that cannot be reached, that stays silent or that answers
with anything but success loses the job, and the next one is posted all the same.

* `Envelope.toJson`: what is posted;
* `Delivery.error?`: what each outcome amounts to;
* `WebhookQueue.work`: the posts that the worker makes.
-/

import Switchboard.Job.Queue

namespace Switchboard

/-- A job on its way to a webhook. -/
structure Envelope where
  job : QueuedJob
  originHost : String
  enqueuedAt : String
  deriving DecidableEq, Repr

/-- What is posted. -/
def Envelope.toJson (envelope : Envelope) : Json :=
  .obj [
    ("job_type", .str envelope.job.tag),
    ("account_id", .int envelope.job.accountId),
    ("inbox_id", .int envelope.job.inboxId),
    ("origin_host", .str envelope.originHost),
    ("enqueued_at", .str envelope.enqueuedAt),
    ("payload", envelope.job.payload)]

/-- What became of a post. -/
inductive Delivery where
  /-- The other side answered with an HTTP status. -/
  | answered (status : Nat)
  /-- The other side took the post and stayed silent. -/
  | silent
  /-- The other side could not be reached. -/
  | unreachable
  deriving DecidableEq, Repr

namespace Delivery

/-- Whether the other side saw the post. -/
def wasSeen : Delivery → Bool
  | unreachable => false
  | answered _ | silent => true

/-- The error that an outcome amounts to; a status from 200 to 299 is a success. -/
def error? : Delivery → Option BridgeError
  | answered status =>
    if 200 ≤ status ∧ status < 300 then none
    else some (.queue s!"webhook returned HTTP {status}")
  | silent => some (.queue "webhook timed out")
  | unreachable => some (.queue "webhook unreachable")

end Delivery

/-- A queue whose worker posts the jobs. -/
structure WebhookQueue where
  url : String
  originHost : String
  queue : JobQueue
  deriving DecidableEq, Repr

namespace WebhookQueue

/-- An empty queue for an address. -/
def new (url originHost : String) (capacity : Nat) : WebhookQueue :=
  { url, originHost, queue := JobQueue.new "webhook" capacity }

/-- Hands a job in. -/
def enqueue (job : QueuedJob) (webhook : WebhookQueue) : Except BridgeError Unit × WebhookQueue :=
  let (result, queue) := webhook.queue.enqueue job
  (result, { webhook with queue })

/-- The posts that the worker makes until the queue is empty, each with its outcome. -/
def work (webhook : WebhookQueue) (post : Envelope → Delivery) (now : Timestamp) :
    WebhookQueue × List (Envelope × Delivery) :=
  let envelopes := webhook.queue.waiting.map fun job =>
    { job, originHost := webhook.originHost, enqueuedAt := now.text : Envelope }
  ({ webhook with queue := { webhook.queue with waiting := [] } },
    envelopes.map fun envelope => (envelope, post envelope))

end WebhookQueue

end Switchboard
