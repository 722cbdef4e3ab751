import Courier.Json.Value
import Courier.Text.Uuid
import Courier.Time.Rfc3339

namespace Courier

/-! Answers hide what is minted fresh on every run: identifiers in UUID form
become `<uuid>` and instants within an hour of the clock become `<now>`, so that
two runs at different times give the same answers. Only the places that hold
minted values are looked at: the identifier and time stamp of an envelope, the
identifier among a message's attributes, the two identifiers of its metadata
and the instant it was published. Payloads and other attributes are shown as
they are. -/

def uuidMark : String := "<uuid>"

def nowMark : String := "<now>"

/-- Whether two instants lie within an hour of each other. -/
def withinAnHour (a b : Instant) : Bool :=
  let nanos (t : Instant) : Int := t.unixSeconds * 1000000000 + t.nanos
  (nanos a - nanos b).natAbs ≤ 3600 * 1000000000

def redactId : Json → Json
  | .string text => .string (if isUuidV4 text then uuidMark else text)
  | other => other

/-- Hide an instant within an hour of `now`. -/
def redactInstant (now : Instant) : Json → Json
  | .string text =>
    match Instant.parse text with
    | .ok t => .string (if withinAnHour t now then nowMark else text)
    | .error _ => .string text
  | other => other

/-- Hide the identifier and the time stamp of an envelope. -/
def redactEnvelope (now : Instant) (envelope : Json) : Json :=
  (envelope.mapField "eventId" redactId).mapField "timestamp" (redactInstant now)

def redactAttributes (attributes : Json) : Json := attributes.mapField "eventId" redactId

/-- Hide the two identifiers of a message's metadata. -/
def redactMetadata (metadata : Json) : Json :=
  (metadata.mapField "correlationId" redactId).mapField "traceId" redactId

/-- Hide the minted values of a message as it travels: those of its envelope
and its metadata, and the instant it was published. -/
def redactWire (now : Instant) (wire : Json) : Json :=
  ((wire.mapField "data" (redactEnvelope now)).mapField "metadata" redactMetadata).mapField
    "publishedAt" (redactInstant now)

end Courier
