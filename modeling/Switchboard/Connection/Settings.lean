/-
**Settings of one connection.**

Everything that is needed to open a connection to a switch and to keep it. The settings come from a
channel and the settings of the protocol, or from an address and a login alone.
-/

import Switchboard.Reconnect
import Switchboard.Time.Duration

namespace Switchboard

open Text

/-- Everything needed to open a connection and to keep it. -/
structure ConnectionSettings where
  host : String
  port : Nat
  username : String
  secret : String
  connectTimeoutMs : Nat
  readTimeoutMs : Nat
  actionTimeoutMs : Nat
  logoffTimeoutMs : Nat
  shutdownGraceMs : Nat
  eventQueueSize : Nat
  parseErrorBackoffMs : Nat
  reconnect : ReconnectPolicy
  deriving DecidableEq, Repr

namespace ConnectionSettings

/-- The settings for an address and a login, with the times and sizes of the protocol. -/
def build (host : String) (port : Nat) (username secret : String) (manager : ManagerSettings) :
    ConnectionSettings :=
  { host
    port
    username
    secret
    connectTimeoutMs := manager.connectTimeoutMs
    readTimeoutMs := manager.readTimeoutMs
    actionTimeoutMs := manager.actionTimeoutMs
    logoffTimeoutMs := manager.logoffTimeoutMs
    shutdownGraceMs := manager.shutdownGraceMs
    eventQueueSize := manager.eventQueueSize
    parseErrorBackoffMs := manager.parseErrorBackoffMs
    reconnect := ReconnectPolicy.ofSettings manager.reconnect }

/-- The settings for an address and a login alone. -/
def new (host : String) (port : Nat) (username secret : String) : ConnectionSettings :=
  build host port username secret ManagerSettings.default

/-- The settings for a channel. -/
def ofChannel (channel : ChannelSettings) (manager : ManagerSettings) : ConnectionSettings :=
  build channel.host channel.port channel.username channel.password manager

/-- The name of the switch. -/
def serverId (settings : ConnectionSettings) : String :=
  settings.host ++ ":" ++ toString settings.port

/-- The settings as they are shown in logs, without the secret. -/
def describe (settings : ConnectionSettings) : String :=
  recordText "ConnectionSettings" [
    ("host", quoted settings.host),
    ("port", toString settings.port),
    ("username", quoted settings.username),
    ("secret", redacted),
    ("connect_timeout", durationText settings.connectTimeoutMs),
    ("read_timeout", durationText settings.readTimeoutMs),
    ("action_timeout", durationText settings.actionTimeoutMs),
    ("event_queue_size", toString settings.eventQueueSize)]

end ConnectionSettings

end Switchboard
