/-
**Jobs: what the rest of the system is told about a call.**

A job travels through a queue as a JSON payload. The payload carries the kind of the job under the
key `job_type`, beside the fields of the job (`toPayload`). Reading it back (`ofPayload?`) accepts
an object in which the two optional texts may be missing, or an array that lists the tag and then
every field in order; a field of the wrong kind, or an unknown tag, is refused.

* `perform`: the one call on the store that a job makes.
-/

import Switchboard.Json
import Switchboard.Text.Blank

namespace Switchboard

open Text

/-- A fact about the life of a call, for others. -/
inductive Job where
  | conversationFromCall (callId callerNumber : String) (callerName channelState : Option String)
      (summary : String) (metadata : Json)
  | updateCall (callId statusSummary : String) (metadata : Json)
  deriving DecidableEq, Repr

/-- A request to the store of conversations. -/
inductive StoreCall where
  | ensureConversationStarted (accountId inboxId : Int) (callerNumber callerName callId : String)
      (metadata : Json)
  | applyCallLifecycleUpdate (accountId inboxId : Int) (callId statusSummary : String)
      (metadata : Json)
  deriving DecidableEq, Repr

/-- The call that a request is about. -/
def StoreCall.callId : StoreCall → String
  | ensureConversationStarted _ _ _ _ callId _ => callId
  | applyCallLifecycleUpdate _ _ callId _ _ => callId

/-- The name to show for a caller: the number stands in for a name that is missing or blank. -/
def shownName (callerName : Option String) (callerNumber : String) : String :=
  (callerName.bind nonBlank?).getD callerNumber

namespace Job

/-- The key that holds the kind of a job. -/
def tagKey : String := "job_type"

/-- The tag of a conversation that starts with a call. -/
def conversationTag : String := "conversation_from_call"

/-- The tag of an update of a call. -/
def updateTag : String := "update_call"

/-- The tag of a job. -/
def tag : Job → String
  | conversationFromCall .. => conversationTag
  | updateCall .. => updateTag

/-- The call that a job is about. -/
def callId : Job → String
  | conversationFromCall callId .. => callId
  | updateCall callId .. => callId

/-- The snapshot of the session that a job carries. -/
def metadata : Job → Json
  | conversationFromCall _ _ _ _ _ metadata => metadata
  | updateCall _ _ metadata => metadata

/-- The fields of a job, by name and in order. -/
def fields : Job → List (String × Json)
  | conversationFromCall callId callerNumber callerName channelState summary metadata => [
    ("call_id", .str callId),
    ("caller_number", .str callerNumber),
    ("caller_name", .ofText? callerName),
    ("channel_state", .ofText? channelState),
    ("summary", .str summary),
    ("metadata", metadata)]
  | updateCall callId statusSummary metadata => [
    ("call_id", .str callId),
    ("status_summary", .str statusSummary),
    ("metadata", metadata)]

/-- The payload of a job. -/
def toPayload (job : Job) : Json :=
  .obj ((tagKey, .str job.tag) :: job.fields)

/-- A text. -/
def text? : Json → Option String
  | .str text => some text
  | _ => none

/-- A text or null. -/
def optionalText? : Json → Option (Option String)
  | .null => some none
  | .str text => some (some text)
  | _ => none

/-- The job of the given kind whose fields are these values, in order. -/
def ofValues? (tag : String) (values : List Json) : Option Job :=
  if tag = conversationTag then
    match values with
    | [callId, callerNumber, callerName, channelState, summary, metadata] => do
      return .conversationFromCall (← text? callId) (← text? callerNumber)
        (← optionalText? callerName) (← optionalText? channelState) (← text? summary) metadata
    | _ => none
  else if tag = updateTag then
    match values with
    | [callId, statusSummary, metadata] => do
      return .updateCall (← text? callId) (← text? statusSummary) metadata
    | _ => none
  else none

/-- The values of the named fields, in the order of the names; those after `optional` may be
missing, and are null then. -/
def valuesOf? (names optional : List String) (object : List (String × Json)) : Option (List Json) :=
  names.mapM fun name =>
    (Json.find? name object).or (if optional.contains name then some .null else none)

/-- The names of the fields of a kind of job, and the names that may be missing. -/
def layout? (tag : String) : Option (List String × List String) :=
  if tag = conversationTag then
    some (["call_id", "caller_number", "caller_name", "channel_state", "summary", "metadata"],
      ["caller_name", "channel_state"])
  else if tag = updateTag then some (["call_id", "status_summary", "metadata"], [])
  else none

/-- The job that a payload carries. -/
def ofPayload? : Json → Option Job
  | .obj object => do
    let tag ← text? (← Json.find? tagKey object)
    let (names, optional) ← layout? tag
    ofValues? tag (← valuesOf? names optional object)
  | .arr (tag :: values) => do ofValues? (← text? tag) values
  | _ => none

/-- The request that performs a job. -/
def perform (job : Job) (accountId inboxId : Int) : StoreCall :=
  match job with
  | conversationFromCall callId callerNumber callerName _ _ metadata =>
    .ensureConversationStarted accountId inboxId callerNumber
      (shownName callerName callerNumber) callId metadata
  | updateCall callId statusSummary metadata =>
    .applyCallLifecycleUpdate accountId inboxId callId statusSummary metadata

end Job

end Switchboard
