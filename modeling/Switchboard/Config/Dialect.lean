/-
**How settings are read out of values.**

Settings are read from configuration files, which are lenient, and from JSON, which is strict. A
`Dialect` says how one kind of value is understood; everything else is the same for both. A record
is a table of its fields, or a list of them in order. A field that has a usual value may be missing.

* `lenient`: numbers may be written as texts, truth values or fractions, and texts as any of these;
* `strict`: every value is of the kind that it has to be;
* `Dialect.bridge?`: all settings of a bridge.
-/

import Switchboard.Config.Value
import Switchboard.Json
import Switchboard.Number.Spelling
import Switchboard.Settings

namespace Switchboard.Config

open Text

/-- How values of some kind are understood. -/
structure Dialect (ν : Type) where
  fields? : ν → Option (List (String × ν))
  items? : ν → Option (List ν)
  /-- A number without a sign, of some count of bits. -/
  word? : (bits : Nat) → ν → Option Nat
  /-- A number with a sign, of 64 bits. -/
  int? : ν → Option Int
  text? : ν → Option String
  /-- A list may have more items than the record that it stands for has fields. -/
  allowsMore : Bool

/-! ### The two dialects -/

/-- The number that a word for a truth value stands for. -/
def switchWord? (text : String) : Option Nat :=
  if small text ∈ ["true", "on", "yes"] then some 1
  else if small text ∈ ["false", "off", "no"] then some 0
  else none

/-- The number without a sign that a value means. -/
def lenientWord? : Value → Option Nat
  | .int n => if 0 ≤ n then some n.toNat else none
  | .float x => some (x.roundedBetween 0 greatestWord64).toNat
  | .flag value => some value.toNat
  | .text text => (switchWord? text).or (wordOf? text)
  | .nothing | .list _ | .table _ => none

/-- The number with a sign that a value means. -/
def lenientInt? : Value → Option Int
  | .int n => some n
  | .float x => some (x.roundedBetween leastInt64 greatestInt64)
  | .flag value => some value.toNat
  | .text text => ((switchWord? text).map Int.ofNat).or (int64Of? text)
  | .nothing | .list _ | .table _ => none

/-- The text that a value means. -/
def lenientText? : Value → Option String
  | .text text => some text
  | .flag value => some (if value then "true" else "false")
  | .int n => some (toString n)
  | .float x => some x.text
  | .nothing | .list _ | .table _ => none

/-- The dialect of configuration files. -/
def lenient : Dialect Value where
  fields?
    | .table fields => some fields
    | _ => none
  items?
    | .list items => some items
    | _ => none
  word? bits value := (lenientWord? value).filter fun n => n < wordCount bits
  int? := lenientInt?
  text? := lenientText?
  allowsMore := true

/-- The dialect of JSON. -/
def strict : Dialect Json where
  fields?
    | .obj fields => some fields
    | _ => none
  items?
    | .arr items => some items
    | _ => none
  word? bits
    | .int n => if 0 ≤ n ∧ n < wordCount bits then some n.toNat else none
    | _ => none
  int?
    | .int n => if isInt64 n then some n else none
    | _ => none
  text?
    | .str text => some text
    | _ => none
  allowsMore := false

/-! ### Records -/

/-- A record under reading: the value of a field, given its place and its name. -/
abbrev Record (ν : Type) := Nat → String → Option ν

/-- The value under a name. -/
def lookup {ν : Type} (name : String) : List (String × ν) → Option ν
  | [] => none
  | (other, value) :: rest => if other = name then some value else lookup name rest

/-- A field that has to be there. -/
def needed {ν α : Type} (read : ν → Option α) (given : Option ν) : Option α :=
  given.bind read

/-- A field that has a usual value where it is missing. -/
def usual {ν α : Type} (read : ν → Option α) (default : α) : Option ν → Option α
  | some value => read value
  | none => some default

namespace Dialect

variable {ν : Type} (dialect : Dialect ν)

/-- A value as a record with a number of fields. -/
def record? (size : Nat) (value : ν) : Option (Record ν) :=
  match dialect.fields? value with
  | some fields => some fun _ name => lookup name fields
  | none => do
    let items ← dialect.items? value
    if dialect.allowsMore || items.length ≤ size then return fun place _ => items[place]?
    else none

/-- The delays between attempts to connect. -/
def reconnect? (value : ν) : Option ReconnectSettings := do
  let given ← dialect.record? 3 value
  let default := ReconnectSettings.default
  return {
    initialDelayMs :=
      ← usual (dialect.word? 64) default.initialDelayMs (given 0 "initial_delay_ms")
    maxDelayMs := ← usual (dialect.word? 64) default.maxDelayMs (given 1 "max_delay_ms")
    maxAttempts := ← usual (dialect.word? 32) default.maxAttempts (given 2 "max_attempts") }

/-- The times and sizes of the manager protocol. -/
def manager? (value : ν) : Option ManagerSettings := do
  let given ← dialect.record? 8 value
  let default := ManagerSettings.default
  let word := dialect.word? 64
  return {
    connectTimeoutMs := ← usual word default.connectTimeoutMs (given 0 "connect_timeout_ms")
    readTimeoutMs := ← usual word default.readTimeoutMs (given 1 "read_timeout_ms")
    actionTimeoutMs := ← usual word default.actionTimeoutMs (given 2 "action_timeout_ms")
    logoffTimeoutMs := ← usual word default.logoffTimeoutMs (given 3 "logoff_timeout_ms")
    shutdownGraceMs := ← usual word default.shutdownGraceMs (given 4 "shutdown_grace_ms")
    eventQueueSize := ← usual word default.eventQueueSize (given 5 "event_queue_size")
    parseErrorBackoffMs :=
      ← usual word default.parseErrorBackoffMs (given 6 "parse_error_backoff_ms")
    reconnect := ← usual dialect.reconnect? default.reconnect (given 7 "reconnect") }

/-- The settings of the tracker. -/
def tracker? (value : ν) : Option TrackerSettings := do
  let given ← dialect.record? 4 value
  let default := TrackerSettings.default
  let word := dialect.word? 64
  return {
    dedupWindow := ← usual word default.dedupWindow (given 0 "dedup_window")
    recordingVariable :=
      ← usual dialect.text? default.recordingVariable (given 1 "recording_variable")
    webhookTimeoutMs := ← usual word default.webhookTimeoutMs (given 2 "webhook_timeout_ms")
    jobQueueSize := ← usual word default.jobQueueSize (given 3 "job_queue_size") }

/-- One line of a switch. -/
def channel? (value : ν) : Option ChannelSettings := do
  let given ← dialect.record? 12 value
  return {
    accountId := ← needed dialect.int? (given 0 "account_id")
    inboxId := ← needed dialect.int? (given 1 "inbox_id")
    host := ← needed dialect.text? (given 2 "host")
    port := ← usual (dialect.word? 16) ChannelSettings.defaultPort (given 3 "port")
    username := ← needed dialect.text? (given 4 "username")
    password := ← needed dialect.text? (given 5 "password")
    webhookUrl := ← needed dialect.text? (given 6 "webhook_url")
    defaultCallerId := ← needed dialect.text? (given 7 "default_caller_id")
    defaultContext := ← needed dialect.text? (given 8 "default_context")
    defaultExtension := ← needed dialect.text? (given 9 "default_extension")
    defaultPriority :=
      ← usual (dialect.word? 32) ChannelSettings.usualPriority (given 10 "default_priority")
    originateTemplate := ← needed dialect.text? (given 11 "originate_channel_string") }

/-- The lines of a switch. -/
def channels? (value : ν) : Option (List ChannelSettings) := do
  (← dialect.items? value).mapM dialect.channel?

/-- All settings of a bridge. -/
def bridge? (value : ν) : Option BridgeSettings := do
  let given ← dialect.record? 3 value
  return {
    manager := ← usual dialect.manager? ManagerSettings.default (given 0 "ami")
    tracker := ← usual dialect.tracker? TrackerSettings.default (given 1 "tracker")
    channels := ← usual dialect.channels? [] (given 2 "channels") }

end Dialect

end Switchboard.Config
