import Courier.Scenario.Snapshot
import Courier.Json.Reader

namespace Courier

/-! # Running a scenario

Every operation runs on the main task and answers a result or an error object.
Operations of a concurrent group run side by side in the main task, each as
far as it can whenever the task runs, and answer in list order. After each
operation the main task sleeps one virtual millisecond, which lets every task
that is ready run, and then records a step: the answer, the handler calls that
started since the last step, the virtual time and the observed state. -/

namespace Scenario

/-- The answer of an operation: a result, or an error object. -/
abbrev Answer := Except Json Json

/-- A bus error as JSON; with `detail` it tells whether a resource was missing. -/
def busErrorJson (detail : Bool) (e : BusError) : Json :=
  let transport := match e with
    | .transport operation source => [("operation", Json.string operation), ("source", .string source.kind)]
    | _ => []
  let provisioning := if detail then [("provisioning", Json.bool e.isProvisioning)] else []
  .object ([("error", .string ("BusError::" ++ e.kind)), ("message", .string e.message)] ++
    transport ++ provisioning)

def gatewayErrorJson (e : GatewayError) : Json :=
  .object [("error", .string ("GatewayError::" ++ e.kind)), ("message", .string e.message)]

def invalidJson (reason : String) : Json :=
  .object [("error", .string "InvalidInput"), ("message", .string reason)]

def busAnswer {α : Type} (detail : Bool) (shape : α → Json) : Except BusError α → Answer
  | .ok a => .ok (shape a)
  | .error e => .error (busErrorJson detail e)

def messageIdJson (id : String) : Json := .object [("message_id", .string id)]

def hexText (bytes : ByteArray) : String :=
  String.join (bytes.toList.map fun b => hexPadded 2 b.toNat)

/-- Whether metadata holds two different identifiers: a missing identifier
differs from any present one, `null` included. -/
def distinctIds (fields : List (String × Json)) : Bool :=
  match fields.lookup "correlationId", fields.lookup "traceId" with
  | none, none => false
  | some a, some b => !Json.same a b
  | _, _ => true

/-- A stored message marked with whether the two identifiers of its metadata
differ: `null` metadata becomes an object holding only the mark, missing
metadata stays missing, and metadata of any other kind cannot be marked. -/
def markMetadata (members : List (String × Json)) : Option Json :=
  match members.lookup "metadata" with
  | none => some (.object members)
  | some .null => some (Json.setField (.object members) "metadata" (.object [("distinct", .bool false)]))
  | some (.object fields) =>
    some (Json.setField (.object members) "metadata"
      (Json.setField (.object fields) "distinct" (.bool (distinctIds fields))))
  | some _ => none

/-- Stored bytes as JSON: a JSON object when they hold one, with its metadata
marked and its minted values hidden; otherwise the text, or the hex of bytes
that are not UTF-8. None when the metadata cannot be marked. -/
def storedDataJson (now : Instant) (data : ByteArray) : Option Json :=
  match Json.read data with
  | .ok (.object members) => do
    let marked ← markMetadata members
    return .object [("json", redactWire now marked)]
  | _ =>
    match String.fromUTF8? data with
    | some text => some (.object [("text", .string text)])
    | none => some (.object [("hex", .string (hexText data))])

/-- What a topic holds, and how often it was published to; none when a message
cannot be shown. -/
def publishedJson (now : Instant) (b : Broker) (topic : String) : Option Json := do
  let messages := ((b.topic? topic).map (·.messages)).getD []
  let shown ← messages.mapM fun m => do
    let data ← storedDataJson now m.data
    return Json.object [("message_id", .string m.messageId),
      ("ordering_key", Json.optString m.orderingKey),
      ("attributes", redactAttributes (Json.stringMap m.attributes)), ("data", data)]
  return .object [("messages", .array shown),
    ("publish_calls", .nat ((b.counters.publish.lookup topic).getD 0))]

/-- Record that an observation could not be made; the answer is `null`. -/
def breakDown : Prog Answer := do
  Prog.alter fun w => { w with brokeDown := true }
  return .ok .null

def shutdownJson (r : ShutdownReport) : Json :=
  .object [("subscriptions_closed", .nat r.subscriptionsClosed),
    ("close_failures", Json.strings (sortedNames r.closeFailures)),
    ("topics_flushed", .nat r.topicsFlushed),
    ("flush_failures", Json.strings (sortedNames r.flushFailures)),
    ("clean", .bool r.isClean)]

/-- Bind a scripted handler to a subscription of a bus. -/
def subscribeWith (bus : Nat) (s : Subscribe) : Prog (Except BusError Unit) := do
  let handler ← Async.act fun w =>
    ({ w with handlers := w.handlers ++ [⟨s.script, s.subscription, bus, 0⟩] }, w.handlers.length)
  bind bus ⟨s.topic, s.subscription, handler, s.ackDeadline, s.maxConcurrency, s.eventTypes⟩

def onBrokerQuietly (f : Broker → Broker) : Prog Answer := do
  Prog.alter fun w => { w with broker := f w.broker }
  return .ok .null

/-- Run an operation that is not a group. -/
def runSimple (detail : Bool) : Op → Prog Answer
  | .addTopic name => onBrokerQuietly (·.addTopic name)
  | .addSubscription name topic ackDeadline => do
    Prog.onBroker fun b =>
      let (b, ns) := b.addSubscription name topic (SubscriptionSettings.forTopic topic ackDeadline)
      (b, (), ns)
    return .ok .null
  | .publish bus topic draft options =>
    return busAnswer detail messageIdJson (← publishVia (.bus bus) topic draft options)
  | .publishBatch bus topic drafts => do
    let result ← publishBatch (.bus bus) topic drafts
    return busAnswer detail (fun ids => .object [("message_ids", Json.strings ids)]) result
  | .domainEvent bus kind payload =>
    return busAnswer detail messageIdJson
      (← publishVia (.bus bus) kind.topic (.ofPayload kind.eventType payload) .none)
  | .publishRaw topic data attributes => do
    match ← Prog.onBroker (·.publishRaw topic data attributes) with
    | .ok id => return .ok (messageIdJson id)
    | .error e => return .error (gatewayErrorJson e)
  | .subscribe bus s => return busAnswer detail (fun () => .null) (← subscribeWith bus s)
  | .unsubscribe bus name => return busAnswer detail (fun () => .null) (← unsubscribe bus name)
  | .shutdown bus => return .ok (shutdownJson (← shutdown bus))
  | .resolveTopic bus topic => do
    let result ← (resolveTopic (.bus bus) topic).run
    return busAnswer detail (fun handle => .object [("topic", .string handle.name)]) result
  | .resolveSubscription bus topic name ackDeadline => do
    let result ← (resolveSubscription bus topic name ackDeadline).run
    return busAnswer detail (fun h => .object [("subscription", .string h.name),
      ("topic", .string h.topic), ("ack_deadline", Console.durationJson h.ackDeadline)]) result
  | .subscriptionSettings name => do
    let settings ← Prog.ask fun b => (b.subscription? name).map (·.settings)
    return .ok (.object [("settings", match settings with
      | some s => Console.settingsJson s
      | none => .null)])
  | .published topic => do
    match publishedJson (← Prog.view (·.clock)) (← Prog.ask id) topic with
    | some shown => return .ok shown
    | none => breakDown
  | .setUnavailable value => onBrokerQuietly (·.setUnavailable value)
  | .failPublish topic successes => onBrokerQuietly (·.failPublishAfter topic successes)
  | .failFlush topic => onBrokerQuietly (·.failFlush topic)
  | .failClose name => onBrokerQuietly (·.failClose name)
  | .raceTopicCreation topic => onBrokerQuietly (·.raceTopicCreation topic)
  | .delayLookups delay => onBrokerQuietly (·.delayLookups delay)
  | .advance span => do
    Async.sleep span.waitTicks
    return .ok .null
  | .publisherPublish topic draft options =>
    return busAnswer detail messageIdJson (← publishVia .standalone topic draft options)
  | .publisherClose => do
    closePublisher .standalone
    return .ok (.object [("closed", .bool true)])
  | .publisherFlush => do
    let report ← flushAll .standalone
    return .ok (.object [("flushed", .nat report.flushed), ("failed", Json.strings (sortedNames report.failed))])
  | .metrics => return .ok (.object [("lines", Json.strings (← Prog.view (·.metrics.render)))])
  | .invalid reason => return .error (invalidJson reason)
  | .broken => breakDown
  | .concurrent _ | .sequence _ => return .error (invalidJson "groups are run elsewhere")

/-- An answer as an entry of a group's list. -/
def entryJson : Answer → Json
  | .ok result => .object [("result", result)]
  | .error e => e

def leaveNote (id : Nat) (value : Json) : Prog Unit :=
  Prog.alter fun w => { w with notes := w.notes ++ [(id, value)] }

/-- Take the notes left under numbers, in the order of the numbers given. -/
def takeNotes (ids : List Nat) : Prog (List Json) :=
  Async.act fun w =>
    ({ w with notes := w.notes.filter fun (id, _) => !ids.contains id },
     ids.map fun id => (w.notes.lookup id).getD .null)

/-- Reserve a block of consecutive numbers; returns the first. -/
def reserveNumbers (count : Nat) : Prog Nat :=
  Async.act fun w => ({ w with nextObject := w.nextObject + count }, w.nextObject)

mutual

def runOp (detail : Bool) : Op → Prog Answer
  | .concurrent ops => do
    let base ← reserveNumbers ops.length
    Async.joinAll (sideBySide detail base ops)
    return .ok (.array (← takeNotes ((List.range ops.length).map (base + ·))))
  | .sequence ops => do
    return .ok (.array (← inTurn detail ops))
  | op => runSimple detail op

/-- The operations of a concurrent group, each leaving its entry under its number. -/
def sideBySide (detail : Bool) (base : Nat) : List Op → List (Prog Unit)
  | [] => []
  | op :: rest => (do leaveNote base (entryJson (← runOp detail op))) :: sideBySide detail (base + 1) rest

/-- Run operations one after another; returns their entries. -/
def inTurn (detail : Bool) : List Op → Prog (List Json)
  | [] => return []
  | op :: rest => do
    let first ← runOp detail op
    let others ← inTurn detail rest
    return entryJson first :: others

end

def stepJson (answer : Answer) (handled : Json) (time : Nat) (state : Json) : Json :=
  let head := match answer with
    | .ok result => [("result", result)]
    | .error (.object members) => members
    | .error other => [("error", other)]
  .object (head ++ [("handled", handled), ("time_ms", .nat time), ("state", state)])

/-- Run the operations of a scenario in turn, recording a step after each. -/
def runAll (detail : Bool) (known : KnownNames) (ops : List Op) : Prog Unit :=
  ops.forM fun op => do
    let answer ← runOp detail op
    Async.sleep 1
    Async.update fun m =>
      let w := m.world
      let step := stepJson answer (recordsJson w.clock w.handled) m.tasking.now (stateJson detail known w)
      ({ m with world := { w with handled := [], transcript := w.transcript ++ [step] } }, ())

end Scenario

end Courier
