import Courier.Bus.Lifecycle
import Courier.Console.Request
import Courier.Envelope.Catalog

namespace Courier

/-! # The operations of a scenario

A scenario is a list of operations on buses sharing one broker. Each operation
is read from a JSON object naming it in `op`. An operation that cannot be read
stays in the list as an invalid one and answers its reason when its turn
comes; the operations around it are unaffected. -/

namespace Scenario

structure Subscribe where
  topic : String
  subscription : String
  eventTypes : Option (List String)
  ackDeadline : Option Duration
  maxConcurrency : Option Nat
  script : HandlerScript

/-- A scenario operation. `bus` numbers a bus of the scenario. -/
inductive Op where
  | addTopic (name : String)
  | addSubscription (name topic : String) (ackDeadline : Option Duration)
  | publish (bus : Nat) (topic : String) (draft : EventDraft) (options : PublishOptions)
  | publishBatch (bus : Nat) (topic : String) (drafts : List EventDraft)
  | domainEvent (bus : Nat) (kind : DomainEvent) (payload : Json)
  | publishRaw (topic : String) (data : ByteArray) (attributes : List (String × String))
  | subscribe (bus : Nat) (request : Subscribe)
  | unsubscribe (bus : Nat) (subscription : String)
  | shutdown (bus : Nat)
  | resolveTopic (bus : Nat) (topic : String)
  | resolveSubscription (bus : Nat) (topic subscription : String) (ackDeadline : Option Duration)
  | subscriptionSettings (subscription : String)
  | published (topic : String)
  | setUnavailable (value : Bool)
  | failPublish (topic : String) (successes : Nat)
  | failFlush (topic : String)
  | failClose (subscription : String)
  | raceTopicCreation (topic : String)
  | delayLookups (delay : Duration)
  | advance (span : Duration)
  | publisherPublish (topic : String) (draft : EventDraft) (options : PublishOptions)
  | publisherClose
  | publisherFlush
  | metrics
  /-- Operations run side by side. -/
  | concurrent (ops : List Op)
  /-- Operations run one after another. -/
  | sequence (ops : List Op)
  /-- An operation that could not be read, with the reason. -/
  | invalid (reason : String)
  /-- An operation whose reading broke down. -/
  | broken

/-- A number of whole seconds as a span. -/
def seconds? (request : Json) (key : String) : Reading (Option Duration) := do
  return (← Request.word? request key).map Duration.ofSecs

def strings? (request : Json) (key : String) : Reading (Option (List String)) := do
  match ← Request.list? request key with
  | none => return none
  | some items => return some (← items.mapM fun
      | .string s => pure s
      | _ => refuse (key ++ " must be a list of strings"))

/-- A draft field; a missing draft is an empty one, and `null` is no draft. -/
def draftField (request : Json) (key : String) : Reading EventDraft :=
  Request.draft ((request.field? key).getD (.object []))

/-- Read a handler script; every field is optional. -/
def readScript (value : Json) : Reading HandlerScript := do
  let publish ← match Request.get? value "publish" with
    | none => pure none
    | some spec => pure (some (← Request.text spec "topic", ← draftField spec "draft"))
  return {
    alwaysFail := (Request.flag? value "always_fail").getD false
    failFirst := (← Request.word? value "fail_first").getD 0
    failAttemptsBelow := (← Request.word? value "fail_attempts_below").getD 0
    failEventTypes := (← strings? value "fail_event_types").getD []
    failPayload := ← Request.object? value "fail_payload"
    panicEventTypes := (← strings? value "panic_event_types").getD []
    sleepSecs := (← Request.word? value "sleep_secs").getD 0
    sleepField := ← Request.text? value "sleep_field"
    publish
    parseAs := ← Request.text? value "parse_as" }

/-- The bus an operation names, bus 0 by default. -/
def busOf (request : Json) (buses : Nat) : Reading Nat := do
  let bus := (← Request.word? request "bus").getD 0
  if bus < buses then return bus else refuse ("unknown bus " ++ toString bus)

def publishOptions (request : Json) : Reading PublishOptions := do
  return ⟨← Request.text? request "ordering_key", (← Request.stringMap? request "attributes").getD []⟩

def readSimple (request : Json) (buses : Nat) (name : String) : Reading Op := do
  match name with
  | "add_topic" => return .addTopic (← Request.text request "name")
  | "add_subscription" =>
    return .addSubscription (← Request.text request "name") (← Request.text request "topic")
      (← seconds? request "ack_deadline_secs")
  | "publish" =>
    let topic ← Request.text request "topic"
    return .publish (← busOf request buses) topic (← draftField request "draft") (← publishOptions request)
  | "publish_batch" =>
    let topic ← Request.text request "topic"
    let drafts ← match ← Request.list? request "drafts" with
      | some items => items.mapM Request.draft
      | none => refuse "missing field drafts"
    return .publishBatch (← busOf request buses) topic drafts
  | "domain_event" =>
    let kindName ← Request.text request "kind"
    let some kind := DomainEvent.ofName? kindName | refuse ("unknown kind " ++ kindName)
    let payload := (Request.get? request "payload").getD .null
    match kind.readPayload payload with
    | .ok record => return .domainEvent (← busOf request buses) kind record
    | .error e => refuse ("bad payload: " ++ e.message)
  | "publish_raw" =>
    let topic ← Request.text request "topic"
    return .publishRaw topic (← Request.bytes request) ((← Request.stringMap? request "attributes").getD [])
  | "subscribe" =>
    let topic ← Request.text request "topic"
    let subscription ← Request.text request "subscription"
    let script ← match Request.get? request "handler" with
      | some value => readScript value
      | none => pure HandlerScript.plain
    return .subscribe (← busOf request buses)
      ⟨topic, subscription, ← strings? request "event_types", ← seconds? request "ack_deadline_secs",
       ← Request.word? request "max_concurrency", script⟩
  | "unsubscribe" => return .unsubscribe (← busOf request buses) (← Request.text request "subscription")
  | "shutdown" => return .shutdown (← busOf request buses)
  | "resolve_topic" => return .resolveTopic (← busOf request buses) (← Request.text request "topic")
  | "resolve_subscription" =>
    let topic ← Request.text request "topic"
    let subscription ← Request.text request "subscription"
    let bus ← busOf request buses
    let ackDeadline ← seconds? request "ack_deadline_secs"
    -- the concurrency limit is checked but plays no part here
    let _ ← Request.word? request "max_concurrency"
    return .resolveSubscription bus topic subscription ackDeadline
  | "subscription_settings" => return .subscriptionSettings (← Request.text request "subscription")
  | "published" => return .published (← Request.text request "topic")
  | "set_unavailable" => return .setUnavailable ((Request.flag? request "value").getD true)
  | "fail_publish" =>
    return .failPublish (← Request.text request "topic") ((← Request.word? request "after").getD 0)
  | "fail_flush" => return .failFlush (← Request.text request "topic")
  | "fail_close" => return .failClose (← Request.text request "subscription")
  | "race_topic_creation" => return .raceTopicCreation (← Request.text request "topic")
  | "delay_lookups" => return .delayLookups (.ofSecs ((← Request.word? request "secs").getD 0))
  | "advance" => return .advance (.ofSecs ((← Request.word? request "secs").getD 0))
  | "publisher_publish" =>
    let topic ← Request.text request "topic"
    return .publisherPublish topic (← draftField request "draft") (← publishOptions request)
  | "publisher_close" => return .publisherClose
  | "publisher_flush" => return .publisherFlush
  | "metrics" => return .metrics
  | other => refuse ("unknown scenario op " ++ other)

/-- The reading of a fallible result as an operation. -/
def Op.ofReading : Reading Op → Op
  | .ok op => op
  | .error (.invalid reason) => .invalid reason
  | .error .breakdown => .broken

/-- Read an operation nested at most `depth` groups deep. -/
def readOpWithin (buses : Nat) : Nat → Json → Op
  | 0, _ => .invalid "operations nest too deeply"
  | depth + 1, .object members =>
    match members.lookup "op" with
    | some (.string "concurrent") =>
      match members.lookup "ops" with
      | some (.array items) => .concurrent (items.map (readOpWithin buses depth))
      | _ => .invalid "ops must be a list"
    | some (.string "sequence") =>
      match members.lookup "ops" with
      | some (.array items) => .sequence (items.map (readOpWithin buses depth))
      | _ => .invalid "ops must be a list"
    | some (.string name) => Op.ofReading (readSimple (.object members) buses name)
    | some _ => .invalid "field op must be a string"
    | none => .invalid "missing field op"
  | _ + 1, _ => .invalid "missing field op"

/-- How deeply groups of operations may nest; the JSON reader's own nesting
limit is lower. -/
def nestingLimit : Nat := 256

def readOp (buses : Nat) (value : Json) : Op := readOpWithin buses nestingLimit value

end Scenario

end Courier
