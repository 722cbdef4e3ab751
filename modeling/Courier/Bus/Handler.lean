import Courier.Envelope.Catalog
import Courier.Text.Uuid

namespace Courier

/-! # Scripted handlers

A consumer handler here is a script: data that says, for each event it is
given, whether to succeed, fail or panic, how long to take, whether to publish
a follow-up event and whether to read the payload as a catalog record. The
verdict is taken when the handler starts, before it sleeps; the call counter
that `failFirst` looks at counts every call of the handler. The follow-up event
is published after the sleep whatever the verdict. -/

-- Powers of numbers are those of the core library, also where more algebra is
-- in scope; a literal exponent is given its type so that no default instance picks it.
attribute [local instance (high)] instPowNat

structure ReceivedEvent where
  messageId : String
  envelope : EventEnvelope
  metadata : EnvelopeMetadata
  publishedAt : Instant
  attributes : List (String × String)
  attempt : Nat

/-- Whether the metadata carries two distinct version 4 identifiers. -/
def EnvelopeMetadata.hasDistinctUuids (m : EnvelopeMetadata) : Bool :=
  isUuidV4 m.correlationId && isUuidV4 m.traceId && m.correlationId != m.traceId

inductive Verdict where
  | ok
  | fail
  | panic
  deriving DecidableEq, Repr

def Verdict.label : Verdict → String
  | .ok => "ok"
  | .fail => "fail"
  | .panic => "panic"

structure HandlerScript where
  alwaysFail : Bool
  /-- Fail the first this many calls. -/
  failFirst : Nat
  /-- Fail every delivery attempt below this one. -/
  failAttemptsBelow : Nat
  failEventTypes : List String
  /-- Fail when the payload has each of these members. -/
  failPayload : Option (List (String × Json))
  panicEventTypes : List String
  sleepSecs : Nat
  /-- A payload member that adds its whole seconds to the sleep. -/
  sleepField : Option String
  /-- A topic and draft to publish after the sleep. -/
  publish : Option (String × EventDraft)
  /-- A catalog kind to read the payload as; other names read plain JSON. -/
  parseAs : Option String

namespace HandlerScript

def plain : HandlerScript := ⟨false, 0, 0, [], none, [], 0, none, none, none⟩

/-- The payload read as the script asks, or the reason it could not be read. -/
def reading (script : HandlerScript) (event : ReceivedEvent) : Option (Except String Json) :=
  script.parseAs.map fun kind =>
    match DomainEvent.ofName? kind with
    | some k => (k.readPayload event.envelope.payload).mapError (·.message)
    | none => .ok event.envelope.payload

/-- Whether the payload matches every member the script fails on. -/
def payloadMatches (members : List (String × Json)) (payload : Json) : Bool :=
  members.all fun (key, value) =>
    match payload.field? key with
    | some found => Json.same found value
    | none => false

/-- The verdict for the `call`-th call, given the payload reading. -/
def verdict (script : HandlerScript) (call : Nat) (event : ReceivedEvent)
    (reading : Option (Except String Json)) : Verdict :=
  let eventType := event.envelope.eventType
  if script.panicEventTypes.contains eventType then .panic
  else if script.alwaysFail || call ≤ script.failFirst || event.attempt < script.failAttemptsBelow
      || script.failEventTypes.contains eventType
      || (script.failPayload.map (payloadMatches · event.envelope.payload)).getD false
      || (match reading with | some (.error _) => true | _ => false) then .fail
  else .ok

/-- Whole seconds held by a payload member, zero unless it is a word. -/
def secondsIn (payload : Json) (field : String) : Nat :=
  match payload.field? field with
  | some (.number (.natural n)) => n
  | _ => 0

/-- How many seconds the handler sleeps for an event: the script's seconds and
the payload's, added as 64-bit words that wrap around. -/
def sleepFor (script : HandlerScript) (event : ReceivedEvent) : Nat :=
  (script.sleepSecs + (script.sleepField.map (secondsIn event.envelope.payload)).getD 0) % 2 ^ (64 : Nat)

end HandlerScript

/-- One call of a handler, as recorded when it started. -/
structure HandledRecord where
  subscription : String
  event : ReceivedEvent
  /-- Virtual milliseconds at the start of the call. -/
  atMillis : Nat
  verdict : Verdict
  reading : Option (Except String Json)

end Courier
