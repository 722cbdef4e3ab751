import Courier.Bus.Resolve
import Courier.Envelope.Codec

namespace Courier

/-! # Publishing

A publish passes its publisher's gate as a reader and holds it until the broker
has answered. It then checks that the publisher is open, resolves the topic,
stamps the draft into an envelope with fresh identifiers, encodes it, lets the
caller's attributes win over the standard ones, and hands the message to the
broker. A successful publish is counted by topic and event type, a failed one by
topic.

Closing passes the gate as the writer: it waits for every publish already
admitted, and once it has passed no publish gets through. Flushing takes every
cached topic, seals the cache, and flushes each topic once. -/

/-- The broker-facing form of a draft published by a service: the envelope is
stamped at one reading of the clock and the message at a later one. -/
def outboundOf (draft : EventDraft) (serviceName : String) (eventId correlationId traceId : String)
    (stamped published : Instant) (options : PublishOptions) : WireMessage × EncodedMessage :=
  let envelope := draft.materialize serviceName eventId stamped
  let message : WireMessage := ⟨envelope, ⟨correlationId, traceId⟩, published⟩
  let encoded := message.encode
  let attributes := options.attributes.foldl (fun acc (k, v) => putAttribute k v acc) encoded.attributes
  (message, { encoded with attributes := attributes })

open BusProg in
def publishAdmitted (o : Outlet) (topic : String) (draft : EventDraft) (options : PublishOptions) :
    BusProg String := do
  let p ← lift (Prog.view (·.publishing o))
  lift Async.yieldNow
  if p.closed then throw .shuttingDown
  let handle ← resolveTopic o topic
  let eventId ← lift Prog.mint
  let stamped ← lift (Prog.view (·.clock))
  let correlationId ← lift Prog.mint
  let traceId ← lift Prog.mint
  let published ← lift (Prog.view (·.clock))
  let (message, encoded) := outboundOf draft p.serviceName eventId correlationId traceId stamped published options
  let id ← transport "publish" (← lift (Prog.onBroker
    (·.publish handle.name encoded.data encoded.attributes options.orderingKey)))
  lift (Prog.note (·.notePublished topic message.data.eventType))
  return id

/-- Publish a draft through an outlet; returns the broker's message id. -/
def publishVia (o : Outlet) (topic : String) (draft : EventDraft) (options : PublishOptions) :
    Prog (Except BusError String) := do
  Prog.enterRead o
  let result ← (publishAdmitted o topic draft options).run
  Prog.leave o false
  if result matches .error _ then Prog.note (·.notePublishFailure topic)
  return result

/-- Publish drafts in order; the first failure stops the rest. -/
def publishBatch (o : Outlet) (topic : String) : List EventDraft → Prog (Except BusError (List String))
  | [] => return .ok []
  | draft :: rest => do
    match ← publishVia o topic draft .none with
    | .error e => return .error e
    | .ok id =>
      match ← publishBatch o topic rest with
      | .error e => return .error e
      | .ok ids => return .ok (id :: ids)

/-- Refuse further publishes once those admitted have finished. -/
def closePublisher (o : Outlet) : Prog Unit := do
  Prog.enterWrite o
  Prog.alter fun w => w.modifyPublishing o ({ · with closed := true })
  Async.yieldNow
  Prog.leave o true

structure FlushReport where
  flushed : Nat
  failed : List String

/-- Flush one more topic, counting a flush that succeeds and noting the name of
one that fails. -/
def flushOne (report : FlushReport) (handle : TopicRef) : Prog FlushReport := do
  match ← Prog.quietly (·.flush handle.name) with
  | .ok () => return { report with flushed := report.flushed + 1 }
  | .error _ => return { report with failed := report.failed ++ [handle.name] }

/-- Flush every cached topic once, sealing the cache. -/
def flushAll (o : Outlet) : Prog FlushReport := do
  let handles ← Async.act fun w =>
    let (handles, cache) := (w.publishing o).topics.drain
    (w.modifyPublishing o ({ · with topics := cache }), handles)
  Async.yieldNow
  handles.foldlM flushOne ⟨0, []⟩

end Courier
