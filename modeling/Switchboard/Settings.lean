/-
**Settings of the bridge.**

One record for each part: the manager protocol's times and sizes, the delays between attempts to
connect, the tracker, and the switch lines, one for each inbox. The values are those that hold
unless others are given. Times are in milliseconds.
-/

import Switchboard.Text.Quoted

namespace Switchboard

open Text

/-- Delays between attempts to connect. -/
structure ReconnectSettings where
  initialDelayMs : Nat
  maxDelayMs : Nat
  /-- How many attempts there may be, or 0 for any number. -/
  maxAttempts : Nat
  deriving DecidableEq, Repr

/-- One second at first, one minute at most, ten attempts. -/
def ReconnectSettings.default : ReconnectSettings :=
  { initialDelayMs := 1000, maxDelayMs := 60000, maxAttempts := 10 }

/-- Times and sizes of the manager protocol. -/
structure ManagerSettings where
  connectTimeoutMs : Nat
  /-- How long a read may take; it also bounds the login and the probe. -/
  readTimeoutMs : Nat
  actionTimeoutMs : Nat
  logoffTimeoutMs : Nat
  /-- How long a disconnect waits for what is still running. -/
  shutdownGraceMs : Nat
  eventQueueSize : Nat
  /-- The pause after a block that could not be understood. -/
  parseErrorBackoffMs : Nat
  reconnect : ReconnectSettings
  deriving DecidableEq, Repr

/-- The times and sizes that hold unless others are given. -/
def ManagerSettings.default : ManagerSettings :=
  { connectTimeoutMs := 5000
    readTimeoutMs := 2000
    actionTimeoutMs := 10000
    logoffTimeoutMs := 1000
    shutdownGraceMs := 2000
    eventQueueSize := 1000
    parseErrorBackoffMs := 100
    reconnect := ReconnectSettings.default }

/-- How a tracker and its queue are set up. -/
structure TrackerSettings where
  /-- How many accepted events are remembered. -/
  dedupWindow : Nat
  /-- The variable that tells the path of a recording. -/
  recordingVariable : String
  webhookTimeoutMs : Nat
  jobQueueSize : Nat
  deriving DecidableEq, Repr

/-- The tracker that is set up unless another is described. -/
def TrackerSettings.default : TrackerSettings :=
  { dedupWindow := 512
    recordingVariable := "CDR(recordingfile)"
    webhookTimeoutMs := 5000
    jobQueueSize := 1024 }

/-- One line of a switch, and the inbox it belongs to. -/
structure ChannelSettings where
  accountId : Int
  inboxId : Int
  host : String
  port : Nat
  username : String
  password : String
  webhookUrl : String
  defaultCallerId : String
  defaultContext : String
  defaultExtension : String
  defaultPriority : Nat
  /-- The pattern of the channels that are dialed. -/
  originateTemplate : String
  deriving DecidableEq, Repr

namespace ChannelSettings

/-- The port of the manager protocol. -/
def defaultPort : Nat := 5038

/-- The priority of a call unless another is given. -/
def usualPriority : Nat := 1

/-- The address of the switch. -/
def serverAddress (channel : ChannelSettings) : String :=
  channel.host ++ ":" ++ toString channel.port

end ChannelSettings

/-- All settings of a bridge. -/
structure BridgeSettings where
  manager : ManagerSettings
  tracker : TrackerSettings
  channels : List ChannelSettings
  deriving DecidableEq, Repr

/-- The channel of an inbox. -/
def BridgeSettings.channel? (settings : BridgeSettings) (inboxId : Int) : Option ChannelSettings :=
  settings.channels.find? (·.inboxId = inboxId)

/-- A record as it is shown in logs: its name, and its fields with their texts. -/
def recordText (name : String) (fields : List (String × String)) : String :=
  name ++ " \x7b " ++ ", ".intercalate (fields.map fun field => field.1 ++ ": " ++ field.2)
    ++ " \x7d"

/-- What is shown in place of a secret. -/
def redacted : String := quoted "[REDACTED]"

/-- A channel as it is shown in logs, without its password. -/
def ChannelSettings.describe (channel : ChannelSettings) : String :=
  recordText "ChannelConfig" [
    ("account_id", toString channel.accountId),
    ("inbox_id", toString channel.inboxId),
    ("host", quoted channel.host),
    ("port", toString channel.port),
    ("username", quoted channel.username),
    ("password", redacted),
    ("webhook_url", quoted channel.webhookUrl),
    ("default_caller_id", quoted channel.defaultCallerId),
    ("default_context", quoted channel.defaultContext),
    ("default_extension", quoted channel.defaultExtension),
    ("default_priority", toString channel.defaultPriority),
    ("originate_channel_string", quoted channel.originateTemplate)]

end Switchboard
