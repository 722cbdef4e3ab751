import Courier.Json.Shape
import Courier.Time.Rfc3339
import Courier.Config

namespace Courier

/-! The envelope of an event and the message that carries it.

A wire message holds the event's envelope (`data`), metadata minted for each
publish (`metadata`) and the instant it was published (`publishedAt`). The
envelope holds the event's identifier, type, creation instant, envelope
version, source service and payload. In JSON the keys are camel case and stand
in the order given here; instants are RFC 3339 text in UTC.

A draft is what a caller asks to publish. Materializing it stamps the engine's
defaults (a fresh identifier, the type `unknown`, the current instant, version
`1.0`, the service's name) and lays over them every field the caller gave that
is not blank; a timestamp the caller gave always wins. A source that ends up
empty becomes `unknown-service`. -/

structure EventEnvelope where
  eventId : String
  eventType : String
  timestamp : Instant
  version : String
  source : String
  payload : Json
  deriving Repr

structure EnvelopeMetadata where
  correlationId : String
  traceId : String
  deriving DecidableEq, Repr

structure WireMessage where
  data : EventEnvelope
  metadata : EnvelopeMetadata
  publishedAt : Instant
  deriving Repr

def envelopeVersion : String := "1.0"

/-- The event type of a draft that names none. -/
def unknownEventType : String := "unknown"

def Instant.toJson (t : Instant) : Json := .string t.render

def EventEnvelope.toJson (e : EventEnvelope) : Json :=
  .object [("eventId", .string e.eventId), ("eventType", .string e.eventType),
    ("timestamp", e.timestamp.toJson), ("version", .string e.version),
    ("source", .string e.source), ("payload", e.payload)]

def EnvelopeMetadata.toJson (m : EnvelopeMetadata) : Json :=
  .object [("correlationId", .string m.correlationId), ("traceId", .string m.traceId)]

def WireMessage.toJson (m : WireMessage) : Json :=
  .object [("data", m.data.toJson), ("metadata", m.metadata.toJson),
    ("publishedAt", m.publishedAt.toJson)]

def instantExpected : String := "an RFC 3339 formatted date and time string"

def Json.asInstant : Decoder Instant
  | .string text =>
    match Instant.parse text with
    | .ok t => .ok t
    | .error issue => .error (.refused issue.message)
  | other => .error (.invalidType other instantExpected)

def Json.asAny : Decoder Json := .ok

def EventEnvelope.ofJson (value : Json) : Except ShapeError EventEnvelope := do
  let fields ← value.recordFields "EventEnvelope"
    [.of "eventId" Json.asText, .of "eventType" Json.asText, .of "timestamp" Json.asInstant,
     .of "version" Json.asText, .of "source" Json.asText, .of "payload" Json.asAny]
  return {
    eventId := ← (fieldAt fields 0).asText
    eventType := ← (fieldAt fields 1).asText
    timestamp := ← (fieldAt fields 2).asInstant
    version := ← (fieldAt fields 3).asText
    source := ← (fieldAt fields 4).asText
    payload := fieldAt fields 5 }

def EnvelopeMetadata.ofJson (value : Json) : Except ShapeError EnvelopeMetadata := do
  let fields ← value.recordFields "EnvelopeMetadata"
    [.of "correlationId" Json.asText, .of "traceId" Json.asText]
  return ⟨← (fieldAt fields 0).asText, ← (fieldAt fields 1).asText⟩

def WireMessage.ofJson (value : Json) : Except ShapeError WireMessage := do
  let fields ← value.recordFields "WireMessage"
    [.of "data" EventEnvelope.ofJson, .of "metadata" EnvelopeMetadata.ofJson,
     .of "publishedAt" Json.asInstant]
  return ⟨← EventEnvelope.ofJson (fieldAt fields 0), ← EnvelopeMetadata.ofJson (fieldAt fields 1),
    ← (fieldAt fields 2).asInstant⟩

structure EventDraft where
  eventType : Option String
  payload : Json
  eventId : Option String
  timestamp : Option Instant
  version : Option String
  source : Option String
  deriving Repr

/-- A draft with a type and a payload only. -/
def EventDraft.ofPayload (eventType : String) (payload : Json) : EventDraft :=
  ⟨some eventType, payload, none, none, none, none⟩

/-- A field the caller gave that is not blank. -/
def nonBlank (value : Option String) : Option String := value.filter (!isBlank ·)

/-- The envelope of a draft, published by `serviceName` at `now`, with `freshId`
as the identifier unless the draft gives one. -/
def EventDraft.materialize (draft : EventDraft) (serviceName freshId : String) (now : Instant) :
    EventEnvelope :=
  let source := (nonBlank draft.source).getD serviceName
  { eventId := (nonBlank draft.eventId).getD freshId
    eventType := (nonBlank draft.eventType).getD unknownEventType
    timestamp := draft.timestamp.getD now
    version := (nonBlank draft.version).getD envelopeVersion
    source := if source.isEmpty then defaultServiceName else source
    payload := draft.payload }

/-- The four attributes every message carries, sorted by key. -/
def EventEnvelope.standardAttributes (e : EventEnvelope) : List (String × String) :=
  [("eventId", e.eventId), ("eventType", e.eventType), ("source", e.source),
   ("version", e.version)]

end Courier
