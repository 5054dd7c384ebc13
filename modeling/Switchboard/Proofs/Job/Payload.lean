/-
**A job survives the queue.**

The payload of a job is read back as the same job (`ofPayload?_toPayload`), so what the worker
performs is what was handed in: a request about the same call, with the same snapshot.
-/

import Switchboard.Job.Queue

namespace Switchboard

/-- The snapshot that a request carries. -/
def StoreCall.metadata : StoreCall → Json
  | ensureConversationStarted _ _ _ _ _ metadata => metadata
  | applyCallLifecycleUpdate _ _ _ _ metadata => metadata

/-- Whether a request starts a conversation. -/
def StoreCall.startsConversation : StoreCall → Bool
  | ensureConversationStarted .. => true
  | applyCallLifecycleUpdate .. => false

/-- Among keys that differ, every field is found under its own. -/
theorem Json.find?_of_mem {object : List (String × Json)} (distinct : (object.map Prod.fst).Nodup)
    {field : String × Json} (member : field ∈ object) :
    find? field.1 object = some field.2 := by
  induction object with
  | nil => cases member
  | cons head rest ih =>
    obtain ⟨fresh, others⟩ := List.nodup_cons.mp distinct
    rcases List.mem_cons.mp member with rfl | behind
    · exact if_pos rfl
    · have other : head.1 ≠ field.1 := by
        intro same
        exact fresh (same ▸ List.mem_map_of_mem behind)
      exact (if_neg other).trans (ih others behind)

namespace Job

theorem updateTag_ne_conversationTag : updateTag ≠ conversationTag := by decide

theorem optionalText?_ofText? (text : Option String) :
    optionalText? (.ofText? text) = some text := by
  cases text <;> rfl

/-! ### Reading a payload back -/

theorem valuesOf?_of_subset {object part : List (String × Json)} (optional : List String)
    (distinct : (object.map Prod.fst).Nodup) (within : part ⊆ object) :
    valuesOf? (part.map Prod.fst) optional object = some (part.map Prod.snd) := by
  induction part with
  | nil => rfl
  | cons field rest ih =>
    obtain ⟨here, others⟩ := List.cons_subset.mp within
    have behind := ih others
    unfold valuesOf? at behind ⊢
    rw [List.map_cons, List.mapM_cons, Json.find?_of_mem distinct here, behind]
    rfl

/-- The names of the fields that may be missing in a payload. -/
def optionalNames : Job → List String
  | conversationFromCall .. => ["caller_name", "channel_state"]
  | updateCall .. => []

/-- The tag of a job stands for the names of its fields. -/
theorem layout?_tag (job : Job) :
    layout? job.tag = some (job.fields.map Prod.fst, job.optionalNames) := by
  cases job with
  | conversationFromCall => exact if_pos rfl
  | updateCall => exact (if_neg updateTag_ne_conversationTag).trans (if_pos rfl)

theorem ofValues?_fields (job : Job) :
    ofValues? job.tag (job.fields.map Prod.snd) = some job := by
  cases job with
  | conversationFromCall callId callerNumber callerName channelState summary metadata =>
    refine (if_pos rfl).trans ?_
    simp only [fields, List.map_cons, List.map_nil, text?, optionalText?_ofText?]
    rfl
  | updateCall callId statusSummary metadata =>
    exact (if_neg updateTag_ne_conversationTag).trans (if_pos rfl)

theorem nodup_keys (job : Job) : (tagKey :: job.fields.map Prod.fst).Nodup := by
  cases job with
  | conversationFromCall =>
    show [tagKey, "call_id", "caller_number", "caller_name", "channel_state", "summary",
      "metadata"].Nodup
    decide
  | updateCall =>
    show [tagKey, "call_id", "status_summary", "metadata"].Nodup
    decide

/-- **The payload of a job is read back as the job.** -/
theorem ofPayload?_toPayload (job : Job) : ofPayload? job.toPayload = some job := by
  have values : valuesOf? (job.fields.map Prod.fst) job.optionalNames
      ((tagKey, .str job.tag) :: job.fields) = some (job.fields.map Prod.snd) :=
    valuesOf?_of_subset job.optionalNames job.nodup_keys (List.subset_cons_self _ _)
  have found : Json.find? tagKey ((tagKey, .str job.tag) :: job.fields) = some (.str job.tag) :=
    if_pos rfl
  unfold toPayload ofPayload?
  simp only [found, text?, job.layout?_tag, values, Option.bind_eq_bind, Option.bind_some,
    job.ofValues?_fields]

section Perform

variable (job : Job) (accountId inboxId : Int)

@[simp]
theorem callId_perform : (job.perform accountId inboxId).callId = job.callId := by
  cases job <;> rfl

@[simp]
theorem metadata_perform : (job.perform accountId inboxId).metadata = job.metadata := by
  cases job <;> rfl

theorem startsConversation_perform :
    (job.perform accountId inboxId).startsConversation = true ↔ job.tag = conversationTag := by
  cases job with
  | conversationFromCall => exact iff_of_true rfl rfl
  | updateCall => exact iff_of_false Bool.false_ne_true updateTag_ne_conversationTag

end Perform

end Job

/-- The request that a job in the queue makes, if it can be read. -/
def QueuedJob.request? (queued : QueuedJob) : Option StoreCall :=
  (Job.ofPayload? queued.payload).map fun job => job.perform queued.accountId queued.inboxId

theorem QueuedJob.request?_of_read {queued : QueuedJob} {job : Job}
    (read : Job.ofPayload? queued.payload = some job) :
    queued.request? = some (job.perform queued.accountId queued.inboxId) := by
  unfold QueuedJob.request?
  rw [read]
  rfl

theorem Tracker.request?_address (tracker : Tracker) (job : Job) :
    (tracker.address job).request? = some (job.perform tracker.accountId tracker.inboxId) :=
  QueuedJob.request?_of_read job.ofPayload?_toPayload

end Switchboard
