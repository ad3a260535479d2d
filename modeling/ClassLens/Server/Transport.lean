import ClassLens.Json.Parser
import ClassLens.Json.Printer
import ClassLens.Server.Basic
/-
  Transport — messages as they go over a pipe

  A message is framed by a header that gives the number of bytes of its body,
  an empty line, and the body, which is JSON. A body with a method and an `id`
  is a request, and its answer bears the same `id`; a body with a method only
  is a notification. A body without a method answers a request of ours.

  What this holds:
    1. `contentLength?` and `frame`, the header and the whole of a message;
    2. `Incoming`, a message with the `id` to answer it under;
    3. `answerTo` and `Outgoing.toJson`, what goes back.
-/

namespace ClassLens

namespace Transport

/-- The name of the header field that matters. -/
def lengthField : Text := "Content-Length:".toList

/-- The number of bytes that a header line announces, if it is the line that does. -/
def contentLength? (line : Text) : Option Nat :=
  if Text.startsWith lengthField line then
    let digits := Text.trim (line.drop lengthField.length)
    if digits = [] ∨ !digits.all Char.isDigit then none else some (Json.decimal digits)
  else none

def frame (v : Json) : Text :=
  let body := v.compact
  lengthField ++ ' ' :: Text.ofNat (Text.bytes body) ++ "\r\n\r\n".toList ++ body

/-- A message from the editor, and the `id` to answer it under. -/
structure Incoming where
  id : Option Json
  message : Message
  deriving Repr

/-- The message that a body holds; the answer to a request of ours is none. -/
def Incoming.ofJson? (v : Json) : Option Incoming := do
  let method ← (← v.field? "method").text?
  let id := v.field? "id"
  return ⟨id, ⟨id.isSome, method, v.field? "params"⟩⟩

/-- A body with the version of the protocol and the given fields. -/
def envelope (fields : List (String × Json)) : Json :=
  Json.ofFields (("jsonrpc", .ofString "2.0") :: fields)

def errorAnswer (id : Json) (code : Int) (message : String) : Json :=
  envelope [("id", id),
    ("error", Json.ofFields [("code", .int code), ("message", .ofString message)])]

/-- The code for a body that is no JSON. -/
def parseErrorCode : Int := -32700

def unreadableAnswer : Json := errorAnswer .null parseErrorCode "Parse error"

/-- The answer to a request that came to a reply, if there is one. -/
def answerTo (id : Json) : Reply → Option Json
  | .result value => some (envelope [("id", id), ("result", value)])
  | .refused why => some (errorAnswer id why.code why.message)
  | .silence | .stopped _ | .gone => none

end Transport

/-- Whether the editor has to answer a message of ours. -/
def Outgoing.wantsAnswer (o : Outgoing) : Bool := o.method == "client/registerCapability"

/-- A message of ours as a body; `id` is the one to answer it under. -/
def Outgoing.toJson (o : Outgoing) (id : Nat) : Json :=
  let tagged := if o.wantsAnswer then [("id", Json.ofNat id)] else []
  Transport.envelope (tagged ++ [("method", .ofString o.method), ("params", o.params)])

end ClassLens
