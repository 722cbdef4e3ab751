import Courier.Console.Request
import Courier.Console.Redact
import Courier.Envelope.Codec

namespace Courier

/-! Answers about envelopes: decoding delivered bytes and materializing drafts. -/

namespace Console

def attributesJson (attributes : List (String × String)) : Json := Json.stringMap attributes

/-- Decode the bytes a request carries: the message, its text written again and
its attributes, or why it is malformed. -/
def decodeAnswer (request : Json) : Reading Json := do
  let bytes ← Request.bytes request
  match decodeMessage bytes with
  | .ok m =>
    return .object [("valid", .bool true), ("message", m.toJson), ("reencoded", .string m.text),
      ("attributes", attributesJson m.data.standardAttributes)]
  | .error e =>
    return .object [("valid", .bool false), ("reason", .string e.reason),
      ("detail", Json.optString e.detail?), ("message", .string e.message)]

/-- Materialize a draft for a service now, minting the identifier; the minted
values are hidden. A missing draft is an empty one. -/
def materializeAnswer (now : Instant) (request : Json) : Reading Json := do
  let serviceName ← Request.text request "service_name"
  let draft ← Request.draft ((request.field? "draft").getD (.object []))
  let envelope := draft.materialize serviceName (mintUuid 1) now
  return .object [("envelope", redactEnvelope now envelope.toJson),
    ("attributes", redactAttributes (attributesJson envelope.standardAttributes))]

end Console

end Courier
