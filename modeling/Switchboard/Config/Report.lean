/-
**Settings as JSON.**

The settings of a bridge, each under the name by which it is read, and each channel with the address
of its switch.
-/

import Switchboard.Json
import Switchboard.Settings

namespace Switchboard

/-- The delays between attempts to connect, as JSON. -/
def ReconnectSettings.toJson (settings : ReconnectSettings) : Json :=
  .obj [
    ("initial_delay_ms", .int settings.initialDelayMs),
    ("max_delay_ms", .int settings.maxDelayMs),
    ("max_attempts", .int settings.maxAttempts)]

/-- The times and sizes of the manager protocol, as JSON. -/
def ManagerSettings.toJson (settings : ManagerSettings) : Json :=
  .obj [
    ("connect_timeout_ms", .int settings.connectTimeoutMs),
    ("read_timeout_ms", .int settings.readTimeoutMs),
    ("action_timeout_ms", .int settings.actionTimeoutMs),
    ("logoff_timeout_ms", .int settings.logoffTimeoutMs),
    ("shutdown_grace_ms", .int settings.shutdownGraceMs),
    ("event_queue_size", .int settings.eventQueueSize),
    ("parse_error_backoff_ms", .int settings.parseErrorBackoffMs),
    ("reconnect", settings.reconnect.toJson)]

/-- The settings of the tracker, as JSON. -/
def TrackerSettings.toJson (settings : TrackerSettings) : Json :=
  .obj [
    ("dedup_window", .int settings.dedupWindow),
    ("recording_variable", .str settings.recordingVariable),
    ("webhook_timeout_ms", .int settings.webhookTimeoutMs),
    ("job_queue_size", .int settings.jobQueueSize)]

/-- One line of a switch, as JSON. -/
def ChannelSettings.toJson (channel : ChannelSettings) : Json :=
  .obj [
    ("account_id", .int channel.accountId),
    ("inbox_id", .int channel.inboxId),
    ("host", .str channel.host),
    ("port", .int channel.port),
    ("username", .str channel.username),
    ("password", .str channel.password),
    ("webhook_url", .str channel.webhookUrl),
    ("default_caller_id", .str channel.defaultCallerId),
    ("default_context", .str channel.defaultContext),
    ("default_extension", .str channel.defaultExtension),
    ("default_priority", .int channel.defaultPriority),
    ("originate_channel_string", .str channel.originateTemplate),
    ("server_addr", .str channel.serverAddress)]

/-- All settings of a bridge, as JSON. -/
def BridgeSettings.toJson (settings : BridgeSettings) : Json :=
  .obj [
    ("ami", settings.manager.toJson),
    ("tracker", settings.tracker.toJson),
    ("channels", .arr (settings.channels.map ChannelSettings.toJson))]

end Switchboard
