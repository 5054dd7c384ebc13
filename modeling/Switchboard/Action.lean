/-
**Actions: the commands that a client writes to the switch.**

An action has a name, parameters with unique keys, and perhaps an identifier by which its response
is found. A parameter called `ActionID`, in any case, is that identifier.

* `param`, `withActionId`: the ways to build an action;
* `lines`: the pairs that go on the wire, in order;
* `wire`: those pairs as lines closed by CR LF, and a blank line;
* `framingFault?`: the first field that would break the lines apart.
-/

import Switchboard.Headers
import Switchboard.Text.Utf8

namespace Switchboard

open Text

/-- The end of a line on the wire. -/
def lineEnd : String := "\r\n"

/-- A command to the switch. -/
structure Action where
  name : String
  params : Headers
  actionId : Option String
  deriving DecidableEq, Repr

namespace Action

/-- The key under which an action's identifier travels. -/
def idKey : String := "ActionID"

/-- An action without parameters. -/
def new (name : String) : Action :=
  { name, params := Headers.empty, actionId := none }

/-- Gives the action an identifier, in place of any it had. -/
def withActionId (action : Action) (id : String) : Action :=
  { action with actionId := some id }

/-- Gives a parameter its value; the key `ActionID` in any case gives the identifier instead. -/
def param (action : Action) (key value : String) : Action :=
  if sameName key idKey then action.withActionId value
  else { action with params := action.params.set key value }

/-- Gives a parameter its value, if there is one. -/
def paramOpt (action : Action) (key : String) : Option String → Action
  | some value => action.param key value
  | none => action

/-- The value of a parameter. -/
def paramValue (action : Action) (key : String) : Option String :=
  action.params.get key

/-- The name of the action that opens a session. -/
def loginName : String := "Login"

/-- Whether the action opens a session, and so carries a secret. -/
def isLogin (action : Action) : Bool :=
  sameName action.name loginName

/-- Opens a session and asks for events. -/
def login (username secret : String) : Action :=
  (((new loginName).param "Username" username).param "Secret" secret).param "Events" "on"

/-- Asks the switch for a sign of life. -/
def ping : Action := new "Ping"

/-- Ends the session. -/
def logoff : Action := new "Logoff"

/-- The pairs that go on the wire, in order. -/
def lines (action : Action) : List (String × String) :=
  ("Action", action.name) ::
    (action.actionId.toList.map fun id => (idKey, id)) ++ action.params.pairs

/-- One line on the wire. -/
def wireLine (pair : String × String) : String :=
  pair.1 ++ ": " ++ pair.2 ++ lineEnd

/-- The block on the wire: one line for each pair, then a blank line. -/
def wire (action : Action) : String :=
  String.join (action.lines.map wireLine) ++ lineEnd

/-- Whether a text holds one of the two characters that end a line. -/
def breaksLine (text : String) : Bool :=
  text.toList.any fun c => c == '\r' || c == '\n'

/-- The field to blame when a line end stands in the name, the identifier or a parameter; a
parameter is named by its key. -/
def framingFault? (action : Action) : Option String :=
  if breaksLine action.name then some action.name
  else
    match action.actionId.filter breaksLine with
    | some id => some id
    | none =>
      (action.params.pairs.find? fun pair => breaksLine pair.1 || breaksLine pair.2).map Prod.fst

/-- A field with a line end in it, for which the action was not written. -/
structure LineBreak where
  field : String
  deriving DecidableEq, Repr

/-- The wording of a refusal to write. -/
def LineBreak.message (fault : LineBreak) : String :=
  s!"line break in action field '{fault.field}'"

/-- The output with the action's block added, or a refusal that adds nothing. -/
def encode (action : Action) (output : List UInt8) : Except LineBreak (List UInt8) :=
  match action.framingFault? with
  | some field => .error ⟨field⟩
  | none => .ok (output ++ Utf8.bytesOf action.wire)

/-- A line for logs. What a login carries stays out of it. -/
def describe (action : Action) : String :=
  if action.isLogin then
    action.name ++ " [REDACTED]"
  else
    action.name ++ (match action.actionId with
      | some id => s!" (ActionID {id})"
      | none => "")
    ++ String.join (action.params.pairs.map fun pair => " " ++ pair.1 ++ "=" ++ pair.2)

end Action

end Switchboard
