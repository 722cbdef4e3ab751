import Courier.Bus.Publish

namespace Courier

/-! # Delivering messages

The broker starts a watcher for every lease. The watcher waits for the
consumer's reply, at most until the ack deadline, counted from the watcher's
start. An acknowledgement settles the copy. A refusal, a dropped delivery or an
expired deadline sends the copy into backoff and then back to the front of the
backlog, or to the dead-letter topic once its attempts are used up.

A delivery loop runs for each bound subscription. It takes a permit, then a
delivery, and hands the delivery to a dispatch task holding the permit; a raised
stop flag ends the loop at either wait, and so does the end of the channel.
After the loop the consumer stops receiving, waits for its dispatch tasks at
most for the ack deadline, and then drops the deliveries still buffered.

A dispatch decodes the delivery. Malformed messages and filtered event types
are acknowledged without calling the handler; otherwise the handler's outcome
settles the delivery: success acknowledges, failure refuses, and a panic drops
the delivery unsettled and crashes the task. -/

/-- The reply in a slot, once there is one; a forgotten slot counts as dropped. -/
def settledReply (b : Broker) (slot : Nat) : Option Reply :=
  match b.reply? slot with
  | some .waiting => none
  | some r => some r
  | none => some .dropped

/-- Wait for a reply until a deadline, if there is one; an expired deadline
counts as a refusal. The reply is looked at before the deadline. -/
def awaitReply (slot : Nat) : Option Nat → Prog Reply
  | none => do
    if let some r ← Prog.ask (settledReply · slot) then return r
    Async.await (fun m => (settledReply m.world.broker slot).map (m, ·)) [.slot slot]
  | some deadline => do
    if let some r ← Prog.ask (settledReply · slot) then return r
    if deadline ≤ (← Async.now) then return .nack
    let key ← Async.task (·.arm deadline)
    Async.await (fun m =>
      match settledReply m.world.broker slot with
      | some r => some ({ m with tasking := m.tasking.disarm key }, r)
      | none => if deadline ≤ m.tasking.now then some (m, .nack) else none)
      [.slot slot, .timer key]

/-- Watch a lease until it is settled, and act on the outcome. -/
def watchLease (l : Lease) : Prog Unit := do
  let start ← Async.now
  let reply ← awaitReply l.slot (l.ackDeadline.deadlineAfter? start)
  Prog.alter fun w => { w with broker := w.broker.forgetSlot l.slot }
  if reply == .ack then
    Prog.onBroker fun b => let (b, ns) := b.acknowledge l.subscription l.pending; (b, (), ns)
  else
    match ← Prog.ask (·.retryPlan l.subscription l.pending) with
    | none => pure ()
    | some (_, some topic) =>
      Prog.onBroker fun b => let (b, ns) := b.deadLetter l.subscription l.pending topic; (b, (), ns)
    | some (delay, none) =>
      Prog.onBroker fun b => let (b, ns) := b.beginBackoff l.subscription; (b, (), ns)
      Async.sleep delay.waitTicks
      Prog.onBroker fun b => let (b, ns) := b.endBackoff l.subscription l.pending; (b, (), ns)

inductive HandlerOutcome where
  | succeeded
  | failed
  | panicked
  deriving DecidableEq, Repr

/-- Run a handler script on an event: record the call, sleep, publish the
follow-up event, then answer as the verdict says; a failed publish fails a call
that would succeed. -/
def runScript (handler : Nat) (event : ReceivedEvent) : Prog HandlerOutcome := do
  let some h ← Prog.view (·.handler? handler) | return .succeeded
  let call := h.calls + 1
  let reading := h.script.reading event
  let verdict := h.script.verdict call event reading
  let now ← Async.now
  Prog.alter fun w =>
    { w with handlers := w.handlers.mapIdx fun i s => if i = handler then { s with calls := call } else s,
             handled := w.handled ++ [⟨h.subscription, event, now, verdict, reading⟩] }
  let secs := h.script.sleepFor event
  if secs > 0 then Async.sleep (Duration.ofSecs secs).waitTicks
  let published ← match h.script.publish with
    | none => pure true
    | some (topic, draft) => do
      match ← publishVia (.bus h.bus) topic draft .none with
      | .ok _ => pure true
      | .error _ => pure false
  match verdict with
  | .panic => return .panicked
  | .fail => return .failed
  | .ok => return if published then .succeeded else .failed

def releasePermit (loop : Nat) : Prog Unit := do
  Prog.alter fun w => w.modifyLoop loop fun l => { l with permits := l.permits + 1 }
  Async.signal (.permits loop)

def settleDelivery (subscription : String) (d : Delivery) (outcome : DeliveryOutcome)
    (reply : Reply) : Prog Unit := do
  Prog.note (·.noteDelivery subscription outcome)
  Prog.onBroker fun b => let (b, ns) := b.settle d.slot reply; (b, (), ns)

/-- The end of a dispatch: it leaves the in-flight count and gives its permit back. -/
def finishDispatch (loop : Nat) : Prog Unit := do
  Prog.note (·.deliveryLeft)
  releasePermit loop

/-- Settle a delivery as its handler's outcome says. A panic leaves the
delivery to the broker and crashes the dispatch: the rejection is counted when
the loop joins the task. -/
def settleHandled (loop : Nat) (subscription : String) (d : Delivery) : HandlerOutcome → Prog Unit
  | .succeeded => do
    settleDelivery subscription d .ack .ack
    finishDispatch loop
  | .failed => do
    settleDelivery subscription d .nack .nack
    finishDispatch loop
  | .panicked => do
    Prog.note (·.deliveryLeft)
    Prog.onBroker fun b => let (b, ns) := b.settle d.slot .dropped; (b, (), ns)
    releasePermit loop
    Async.crash

def dispatchDelivery (loop : Nat) (d : Delivery) : Prog Unit := do
  let some l ← Prog.view (·.loop? loop) | pure ()
  let subscription := l.handle.name
  Prog.note (·.deliveryEntered)
  match decodeMessage d.data with
  | .error _ =>
    settleDelivery subscription d .malformed .ack
    finishDispatch loop
  | .ok message =>
    let event : ReceivedEvent :=
      ⟨d.messageId, message.data, message.metadata, message.publishedAt, d.attributes, d.attempt⟩
    let accepted := match l.allowed with
      | some allowed => allowed.contains event.envelope.eventType
      | none => true
    if !accepted then
      settleDelivery subscription d .filtered .ack
      finishDispatch loop
    else
      Prog.note (·.handlerStarted subscription)
      let outcome ← runScript l.handler event
      Prog.note (·.handlerEnded subscription)
      settleHandled loop subscription d outcome

/-- Join the dispatch tasks of a loop that have ended; a crashed one counts as a
refusal. Returns how many were joined. -/
def reapDispatches (loop : Nat) : Prog Nat := do
  let ended ← Async.update fun m =>
    match m.world.loop? loop with
    | none => (m, [])
    | some l =>
      let ended := l.inFlight.filterMap fun t => (m.tasking.endOf? t).map (t, ·)
      let left := l.inFlight.filter fun t => (m.tasking.endOf? t).isNone
      ({ m with world := m.world.modifyLoop loop ({ · with inFlight := left }) }, ended)
  let some l ← Prog.view (·.loop? loop) | return ended.length
  ended.forM fun (_, crashed) =>
    if crashed then Prog.note (·.noteDelivery l.handle.name .nack) else pure ()
  return ended.length

inductive LoopEvent where
  | stop
  | permit
  | delivery (d : Delivery)
  | closed

/-- Wait for a permit, unless the stop flag is raised first. -/
def awaitPermit (loop : Nat) : Prog LoopEvent :=
  Async.await (fun m =>
    match m.world.loop? loop with
    | none => some (m, .stop)
    | some l =>
      if l.stopped then some (m, .stop)
      else if l.permits > 0 then
        some ({ m with world := m.world.modifyLoop loop ({ · with permits := l.permits - 1 }) }, .permit)
      else none)
    [.flag loop, .permits loop]

/-- Wait for a delivery, unless the stop flag is raised first. -/
def awaitDelivery (loop channel : Nat) : Prog LoopEvent :=
  Async.await (fun m =>
    match m.world.loop? loop with
    | none => some (m, .stop)
    | some l =>
      if l.stopped then some (m, .stop)
      else match m.world.broker.receive channel with
        | some (b, some d) => some ({ m with world := { m.world with broker := b } }, .delivery d)
        | some (_, none) => some (m, .closed)
        | none => none)
    [.flag loop, .channel channel]

/-- One turn of a delivery loop: reap the dispatches that ended, then take a
permit and a delivery and hand the delivery to a dispatch task of its own. True
when the loop goes on; a stop, or a channel that ended, ends it. -/
def receiveTurn (loop channel : Nat) : Prog Bool := do
  let _ ← reapDispatches loop
  match ← awaitPermit loop with
  | .permit =>
    match ← awaitDelivery loop channel with
    | .delivery d =>
      let task ← Async.start (.dispatch loop d)
      Prog.alter fun w => w.modifyLoop loop fun l => { l with inFlight := l.inFlight ++ [task] }
      return true
    | _ =>
      -- the permit goes back unused; nobody waits for it
      Prog.alter fun w => w.modifyLoop loop fun l => { l with permits := l.permits + 1 }
      return false
  | _ => return false

/-- One turn of draining a stopped loop: reap the dispatches that ended, and
stop once none is left, or once the deadline, if there is one, has passed; those
still running then go on detached. Otherwise wait for one of them to end or for
the deadline, armed on a timer once. Returns the timer to go on with, or none
once the loop is drained. -/
def drainTurn (loop : Nat) (deadline timer : Option Nat) : Prog (Option (Option Nat)) := do
  let _ ← reapDispatches loop
  let pending ← Prog.view fun w => ((w.loop? loop).map (·.inFlight)).getD []
  let now ← Async.now
  if pending.isEmpty then
    if let some key := timer then Async.task fun t => (t.disarm key, ())
    return none
  else if deadline.any (· ≤ now) then
    Prog.alter fun w => w.modifyLoop loop ({ · with inFlight := [] })
    return none
  else
    let timer ← match timer, deadline with
      | some key, _ => pure (some key)
      | none, some d => some <$> Async.task (·.arm d)
      | none, none => pure none
    Async.await (fun m =>
      if deadline.any (· ≤ m.tasking.now) || pending.any fun t => (m.tasking.endOf? t).isSome then
        some (m, ())
      else none)
      (pending.map Key.task ++ timer.toList.map Key.timer)
    return some timer

/-- A turn of a delivery loop: take the next delivery, or, once the loop is
stopped or its channel has ended, close the receiving end and go on to drain. -/
def runLoop (loop : Nat) : Prog Unit := do
  let some l ← Prog.view (·.loop? loop) | pure ()
  if ← receiveTurn loop l.channel then
    Async.again (.deliver loop)
  else
    Prog.alter fun w => { w with broker := w.broker.closeReceiver l.channel }
    let start ← Async.now
    Async.again (.drain loop (l.handle.ackDeadline.deadlineAfter? start) none)

/-- A turn of draining a stopped loop; once it is drained, the loop lets go of
its channel. -/
def drainLoop (loop : Nat) (deadline timer : Option Nat) : Prog Unit := do
  match ← drainTurn loop deadline timer with
  | some timer => Async.again (.drain loop deadline timer)
  | none =>
    let some l ← Prog.view (·.loop? loop) | pure ()
    Prog.onBroker fun b => let (b, ns) := b.dropReceiver l.channel; (b, (), ns)

/-- Stop a delivery loop and wait for its task to end. -/
def stopLoop (a : ActiveSubscription) : Prog Unit := do
  Prog.raiseStop a.loop
  let _ ← Prog.joinTask a.task

def Job.program : Job → Prog Unit
  | .watch lease => watchLease lease
  | .deliver loop => runLoop loop
  | .drain loop deadline timer => drainLoop loop deadline timer
  | .dispatch loop delivery => dispatchDelivery loop delivery
  | .stop active => stopLoop active

def Job.start (job : Job) : Fut Job World := job.program fun _ => .done

end Courier
