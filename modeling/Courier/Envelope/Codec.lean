import Courier.Envelope.Basic
import Courier.Json.Reader

namespace Courier

/-! Turning wire messages into the broker's bytes and back.

Encoding writes the message's JSON form as UTF-8 and derives the four standard
attributes. Decoding never fails loudly: bytes that are not JSON, a document
without a non-empty string at `data.eventType`, and a document of the wrong
shape are each reported as a malformed payload, checked in that order. -/

/-- Why delivered bytes are not a wire message. -/
inductive Malformed where
  /-- The bytes are not a JSON document. -/
  | notStructured (error : ReadError)
  /-- `data.eventType` is absent, not a string, or empty. -/
  | missingEventType
  /-- A JSON document without the wire message's shape. -/
  | schema (error : ShapeError)
  deriving Repr

namespace Malformed

def reason : Malformed → String
  | .notStructured _ => "NotStructured"
  | .missingEventType => "MissingEventType"
  | .schema _ => "Schema"

/-- The underlying error's text, if there is one. -/
def detail? : Malformed → Option String
  | .notStructured e => some e.message
  | .missingEventType => none
  | .schema e => some e.message

def message : Malformed → String
  | .notStructured e => "payload is not structured data: " ++ e.message
  | .missingEventType => "payload has no data.eventType"
  | .schema e => "payload does not match the wire schema: " ++ e.message

end Malformed

structure EncodedMessage where
  data : ByteArray
  attributes : List (String × String)

def WireMessage.text (m : WireMessage) : String := m.toJson.compact

def WireMessage.encode (m : WireMessage) : EncodedMessage :=
  ⟨m.text.toUTF8, m.data.standardAttributes⟩

/-- Whether a document holds a non-empty string at `data.eventType`. -/
def hasEventType (document : Json) : Bool :=
  match (document.field? "data").bind (·.field? "eventType") with
  | some (.string t) => !t.isEmpty
  | _ => false

def decodeMessage (bytes : ByteArray) : Except Malformed WireMessage :=
  match Json.read bytes with
  | .error e => .error (.notStructured e)
  | .ok document =>
    if !hasEventType document then .error .missingEventType
    else match WireMessage.ofJson document with
      | .ok m => .ok m
      | .error e => .error (.schema e)

end Courier
