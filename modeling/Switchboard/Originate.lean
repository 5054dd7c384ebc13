/-
**Originating calls: asking the switch to place one.**

A request names a destination and may name a caller, a context, an extension and a priority; what it
leaves out or leaves blank comes from the channel. The request is checked before anything else, in
this order: there is a destination, the priority is not zero, the channel's template has room for
the destination.

* `buildAction`: the action that places the call, or what is wrong with the request;
* `OriginateOutcome.ofResponse`: what the switch said. That it refuses is a result, not an error.
-/

import Switchboard.Action
import Switchboard.Originate.Template
import Switchboard.Response
import Switchboard.Settings

namespace Switchboard

open Text

/-- What a caller asks for. -/
structure OriginateRequest where
  destination : String
  callerId : Option String
  context : Option String
  extension : Option String
  priority : Option Nat
  deriving DecidableEq, Repr

/-- The trimmed text, or the other one where nothing is left. -/
def pick (text : Option String) (default : String) : String :=
  ((text.map trim).bind nonBlank?).getD default

/-- The action that places a call. -/
def buildAction (channel : ChannelSettings) (request : OriginateRequest) :
    Except BridgeError Action :=
  let destination := trim request.destination
  if destination.isEmpty then .error (.validation "destination is required")
  else if request.priority = some 0 then .error (.validation "priority must be at least 1")
  else
    (Template.render channel.originateTemplate destination).map fun dialed =>
      (((((((Action.new "Originate").param "Channel" dialed)
        |>.param "Context" (pick request.context channel.defaultContext))
        |>.param "Exten" (pick request.extension channel.defaultExtension))
        |>.param "Priority" (toString (request.priority.getD channel.defaultPriority)))
        |>.param "CallerID" (pick request.callerId channel.defaultCallerId))
        |>.param "Async" "true")

/-- What the switch said to a request. -/
structure OriginateOutcome where
  accepted : Bool
  channel : String
  message : String
  attributes : Headers
  deriving DecidableEq, Repr

/-- What a response says to a request for the given action. -/
def OriginateOutcome.ofResponse (action : Action) (response : Response) : OriginateOutcome :=
  { accepted := response.succeeded
    channel := (action.paramValue "Channel").getD ""
    message := response.messageOrDefault
    attributes := response.attributes }

end Switchboard
