/-
**What is wrong with settings that can be read.**

Some numbers must not be zero, some texts must not be empty, the address for webhooks has to be a
URL, and the template of a channel has to mention the destination. Each violation is listed under
the path of its field.

* `violations`: all of them;
* `repeatedInbox?`: the first inbox that two channels claim.
-/

import Switchboard.Originate.Template
import Switchboard.Settings
import Switchboard.Url

namespace Switchboard.Config

/-- What may be wrong with a field. -/
inductive Fault where
  | zero
  | empty
  | notUrl
  | noPlaceholder
  deriving DecidableEq, Repr

/-- The code of a fault, for programs. -/
def Fault.code : Fault → String
  | zero => "range"
  | empty => "length"
  | notUrl => "url"
  | noPlaceholder => Template.missingPlaceholderCode

/-- The wording of a fault, where it has one. -/
def Fault.message? : Fault → Option String
  | noPlaceholder => some Template.missingPlaceholderMessage
  | zero | empty | notUrl => none

/-- A field and what is wrong with it. -/
structure Violation where
  path : String
  fault : Fault
  deriving DecidableEq, Repr

/-- Fields in which something is wrong. -/
def wrongFields (fault : Fault) (fields : List (String × Bool)) : List Violation :=
  fields.filterMap fun field => if field.2 then some ⟨field.1, fault⟩ else none

/-- The violations of the delays between attempts to connect. -/
def reconnectViolations (settings : ReconnectSettings) : List Violation :=
  wrongFields .zero [
    ("initial_delay_ms", settings.initialDelayMs = 0),
    ("max_delay_ms", settings.maxDelayMs = 0)]

/-- Violations of a part, under the path of the part. -/
def under (part : String) (violations : List Violation) : List Violation :=
  violations.map fun violation => { violation with path := part ++ "." ++ violation.path }

/-- The violations of the times and sizes of the manager protocol. -/
def managerViolations (settings : ManagerSettings) : List Violation :=
  wrongFields .zero [
    ("connect_timeout_ms", settings.connectTimeoutMs = 0),
    ("read_timeout_ms", settings.readTimeoutMs = 0),
    ("action_timeout_ms", settings.actionTimeoutMs = 0),
    ("event_queue_size", settings.eventQueueSize = 0)]
  ++ under "reconnect" (reconnectViolations settings.reconnect)

/-- The violations of the settings of the tracker. -/
def trackerViolations (settings : TrackerSettings) : List Violation :=
  wrongFields .zero [
    ("dedup_window", settings.dedupWindow = 0),
    ("webhook_timeout_ms", settings.webhookTimeoutMs = 0),
    ("job_queue_size", settings.jobQueueSize = 0)]
  ++ wrongFields .empty [("recording_variable", settings.recordingVariable.isEmpty)]

/-- The violations of one line of a switch. -/
def channelViolations (channel : ChannelSettings) : List Violation :=
  wrongFields .zero [
    ("port", channel.port = 0),
    ("default_priority", channel.defaultPriority = 0)]
  ++ wrongFields .empty [
    ("host", channel.host.isEmpty),
    ("username", channel.username.isEmpty),
    ("password", channel.password.isEmpty),
    ("default_caller_id", channel.defaultCallerId.isEmpty),
    ("default_context", channel.defaultContext.isEmpty),
    ("default_extension", channel.defaultExtension.isEmpty)]
  ++ wrongFields .notUrl [("webhook_url", !Url.isUrl channel.webhookUrl)]
  ++ wrongFields .noPlaceholder [
    ("originate_channel_string", !Template.mentionsDestination channel.originateTemplate)]

/-- The violations of the lines of a switch, the first of which has the given number. -/
def channelsViolations : (number : Nat) → List ChannelSettings → List Violation
  | _, [] => []
  | number, channel :: rest =>
    under s!"channels[{number}]" (channelViolations channel) ++ channelsViolations (number + 1) rest

/-- All violations of the settings of a bridge. -/
def violations (settings : BridgeSettings) : List Violation :=
  under "ami" (managerViolations settings.manager)
    ++ under "tracker" (trackerViolations settings.tracker)
    ++ channelsViolations 0 settings.channels

/-- The first inbox that was seen before. -/
def repeatedInboxAfter? (seen : List Int) : List ChannelSettings → Option Int
  | [] => none
  | channel :: rest =>
    if channel.inboxId ∈ seen then some channel.inboxId
    else repeatedInboxAfter? (channel.inboxId :: seen) rest

/-- The first inbox that two channels claim. -/
def repeatedInbox? (settings : BridgeSettings) : Option Int :=
  repeatedInboxAfter? [] settings.channels

end Switchboard.Config
