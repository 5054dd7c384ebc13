/-
**Responses: the answers of the switch.**

A block with a `Response` key answers an action. A response is read off its headers: the status,
whether it is one of the four that mean success, a message, and the identifier of the action.

* `ofHeaders?`: the response that a header list spells, if it has a `Response` key;
* `success`, `error`: responses made here, with a message.
-/

import Switchboard.Headers

namespace Switchboard

open Text

/-- An answer of the switch. -/
structure Response where
  succeeded : Bool
  status : String
  message : Option String
  actionId : Option String
  attributes : Headers
  /-- The lines without a key, which only a `Follows` response carries. -/
  output : List String
  deriving DecidableEq, Repr

namespace Response

/-- The key that makes a block a response. -/
def key : String := "Response"

/-- The statuses that mean success. -/
def successStatuses : List String := ["Success", "Goodbye", "Follows", "Pong"]

/-- Whether a status means success. -/
def isSuccessStatus (status : String) : Bool :=
  successStatuses.any (sameName status)

/-- The response that a header list spells. -/
def ofHeaders? (attributes : Headers) (output : List String) : Option Response :=
  (attributes.get key).map fun value =>
    { succeeded := isSuccessStatus (trim value)
      status := trim value
      message := attributes.getNonBlank "Message"
      actionId := attributes.getNonBlank "ActionID"
      attributes
      output }

/-- A response with a status and a message, and nothing else. -/
def made (status : String) (succeeded : Bool) (message : String) : Response :=
  { succeeded
    status
    message := some message
    actionId := none
    attributes := ⟨[(key, status), ("Message", message)]⟩
    output := [] }

/-- A success with a message. -/
def success (message : String) : Response := made "Success" true message

/-- A failure with a message. -/
def error (message : String) : Response := made "Error" false message

/-- The message, or a fixed one in its place. -/
def messageOrDefault (response : Response) : String :=
  response.message.getD (if response.succeeded then "OK" else "No message from switch")

/-- The first value under a key of the response. -/
def header (response : Response) (key : String) : Option String :=
  response.attributes.get key

end Response

end Switchboard
