import Courier.Scenario.Op
import Courier.Console.Configuration
import Courier.Console.Redact

namespace Courier

/-! # Observing a scenario

After each operation the scenario records what can be seen from outside: the
handler calls that started since the last record, and the state of the broker
and the buses. Only topics and subscriptions whose names the operations
themselves mention are shown: the `topic` field of an operation, a name given
to `add_topic`, each with its dead-letter topic, and the `subscription` field
of an operation or a name given to `add_subscription`. Names inside drafts,
payloads or handler scripts do not count; operations grouped under `ops` do.
Minted values in handler calls are hidden. -/

namespace Scenario

/-- The names a scenario mentions: topics and subscriptions. -/
structure KnownNames where
  topics : List String
  subscriptions : List String

def addName (names : List String) (name : String) : List String :=
  if names.contains name then names else names ++ [name]

/-- The string held by a member, if any. -/
def memberText (members : List (String × Json)) (key : String) : Option String :=
  match members.lookup key with
  | some (.string s) => some s
  | _ => none

mutual

/-- Collect the names an operation mentions, and those of the operations it groups. -/
def collectNames (acc : KnownNames) : Json → KnownNames
  | .object members =>
    let op := memberText members "op"
    let topics := (memberText members "topic").toList ++
      (if op = some "add_topic" then (memberText members "name").toList else [])
    let subscriptions := (memberText members "subscription").toList ++
      (if op = some "add_subscription" then (memberText members "name").toList else [])
    let acc := { topics := topics.foldl addName acc.topics,
                 subscriptions := subscriptions.foldl addName acc.subscriptions }
    collectGrouped acc members
  | _ => acc

/-- Collect the names mentioned by a list of operations. -/
def collectItems (acc : KnownNames) : List Json → KnownNames
  | [] => acc
  | item :: rest => collectItems (collectNames acc item) rest

/-- Collect the names mentioned by the operations an operation groups under `ops`. -/
def collectGrouped (acc : KnownNames) : List (String × Json) → KnownNames
  | [] => acc
  | ("ops", .array items) :: rest => collectGrouped (collectItems acc items) rest
  | _ :: rest => collectGrouped acc rest

end

/-- The names mentioned by the operations of a scenario, each topic with its
dead-letter topic. -/
def knownNames (ops : List Json) : KnownNames :=
  let found := collectItems ⟨[], []⟩ ops
  { found with topics := (found.topics.map deadLetterTopic).foldl addName found.topics }

/-- A handler call as JSON, its minted values hidden. -/
def recordJson (now : Instant) (r : HandledRecord) : Json :=
  let reading := match r.reading with
    | some (.ok value) => [("parsed", Json.object [("ok", value)])]
    | some (.error message) => [("parsed", Json.object [("error", .string message)])]
    | none => []
  .object ([("subscription", .string r.subscription),
    ("message_id", .string r.event.messageId),
    ("attempt", .nat r.event.attempt),
    ("at_ms", .nat r.atMillis),
    ("envelope", redactEnvelope now r.event.envelope.toJson),
    ("published_at", redactInstant now r.event.publishedAt.toJson),
    ("metadata_uuids", .bool r.event.metadata.hasDistinctUuids),
    ("attributes", redactAttributes (Json.stringMap r.event.attributes)),
    ("outcome", .string r.verdict.label)] ++ reading)

/-- The number a message id reads as; ids are decimal. -/
def idNumber (id : String) : Nat := id.toNat?.getD 0

/-- Whether one handler call is listed before another: by subscription, then
message id as a number, then attempt. -/
def recordBefore (a b : HandledRecord) : Bool :=
  if a.subscription != b.subscription then a.subscription < b.subscription
  else if idNumber a.event.messageId != idNumber b.event.messageId then
    idNumber a.event.messageId < idNumber b.event.messageId
  else a.event.attempt ≤ b.event.attempt

/-- The handler calls of a record, in listing order. -/
def recordsJson (now : Instant) (records : List HandledRecord) : Json :=
  .array ((records.mergeSort recordBefore).map (recordJson now))

def countersJson (c : Counters) : Json :=
  .object [("close", .nat c.close), ("create_subscription", .nat c.createSubscription),
    ("create_topic", .nat c.createTopic), ("flush", .nat c.flush),
    ("subscription_exists", .nat c.subscriptionExists), ("topic_exists", .nat c.topicExists)]

def sortedNames (names : List String) : List String := names.mergeSort (· ≤ ·)

def busJson (detail : Bool) (b : BusState) : Json :=
  let active := sortedNames (b.bindings.filterMap fun
    | (name, .running _) => some name
    | _ => none)
  let registrations := b.registrations.map fun r =>
    Json.object [("topic", .string r.topic), ("subscription", .string r.subscription),
      ("event_types", match r.eventTypes with
        | some types => Json.strings types
        | none => .null)]
  let topics := b.publishing.topics.names
  let base := [("active", Json.strings active), ("registrations", .array registrations),
    ("cached_topics", Json.strings (sortedNames topics)),
    ("cached_subscriptions", .nat b.subscriptions.length),
    ("shutting_down", .bool b.shuttingDown)]
  let extra := if detail then
      [("service_name", .string b.config.serviceName),
       ("policy", .string b.publishing.policy.name),
       ("cached_topic_count", .nat topics.length),
       ("topics_empty", .bool topics.isEmpty),
       ("subscriptions_empty", .bool b.subscriptions.isEmpty)]
    else []
  .object (base ++ extra)

/-- The state of the broker and the buses as JSON. -/
def stateJson (detail : Bool) (known : KnownNames) (w : World) : Json :=
  let b := w.broker
  let topics := known.topics.filterMap fun name =>
    (b.topic? name).map fun t => (name, Json.strings (t.messages.map (·.messageId)))
  let subscriptions := known.subscriptions.filterMap fun name =>
    (b.subscription? name).map fun s =>
      (name, Json.object [("acknowledged", Json.strings s.acknowledged),
        ("dead_lettered", Json.strings s.deadLettered),
        ("unsettled", .nat (b.unsettled name)),
        ("delivering", .bool (b.isDelivering name))])
  let base := [("topics", Json.object topics), ("subscriptions", Json.object subscriptions),
    ("counters", countersJson b.counters), ("buses", .array (w.buses.map (busJson detail)))]
  let publisher := if detail then
      [("publisher", Json.object [("service_name", .string w.standalone.serviceName),
        ("closed", .bool w.standalone.closed),
        ("cached_topics", Json.strings (sortedNames w.standalone.topics.names))])]
    else []
  .object (base ++ publisher)

end Scenario

end Courier
