import Courier.Bus.Delivery

namespace Courier

/-! # Binding, unbinding and shutting down

A subscribe call first reserves its name in the bus's table, so that a second
subscribe of the same name fails at once. It then resolves the subscription,
opens a delivery channel and starts the delivery loop. If shutdown took the
table in the meantime, the call stops the loop again, closes the subscription
and fails; otherwise the binding runs and its registration is recorded.

Shutdown happens once. It refuses new subscribe calls, takes the table and the
registrations, then the cached subscriptions, stops every loop side by side
(each draining its handlers for at most its ack deadline), closes each
subscription once, then closes the publisher and flushes each cached topic
once. Failures are reported, not raised.

The table, the registrations and the cache of subscriptions are each changed
under a lock of their own; the other tasks may run after each such change. -/

structure ShutdownReport where
  subscriptionsClosed : Nat
  closeFailures : List String
  topicsFlushed : Nat
  flushFailures : List String

/-- The report of a shutdown that had nothing to do. -/
def ShutdownReport.empty : ShutdownReport := ⟨0, [], 0, []⟩

def ShutdownReport.isClean (r : ShutdownReport) : Bool := r.closeFailures.isEmpty && r.flushFailures.isEmpty

structure BindRequest where
  topic : String
  subscription : String
  /-- The handler script, by number. -/
  handler : Nat
  ackDeadline : Option Duration
  maxConcurrency : Option Nat
  /-- The event types let through, or none for all. -/
  eventTypes : Option (List String)

/-- The binding of a name in a bus's table. -/
def BusState.binding? (b : BusState) (name : String) : Option Binding := b.bindings.lookup name

/-- Whether a name is reserved by a subscribe still resolving. -/
def BusState.isReserved (b : BusState) (name : String) : Bool :=
  match b.binding? name with
  | some .reserved => true
  | _ => false

def BusState.unbind (b : BusState) (name : String) : BusState :=
  { b with bindings := b.bindings.filter (·.1 != name) }

/-- Drop a reservation, if the name is still reserved. -/
def releaseReservation (bus : Nat) (name : String) : Prog Unit :=
  Prog.alter fun w => w.modifyBus bus fun b => if b.isReserved name then b.unbind name else b

def closeSubscription (handle : SubscriptionHandle) : Prog (Except BusError Unit) := do
  match ← Prog.onBroker (·.close handle.name) with
  | .ok () => return .ok ()
  | .error e => return .error (.transport "close" e)

open BusProg in
/-- Resolve a subscription and open its delivery channel. -/
def openSubscription (bus : Nat) (r : BindRequest) (limit : Nat) :
    BusProg (SubscriptionHandle × Nat) := do
  let handle ← resolveSubscription bus r.topic r.subscription r.ackDeadline
  let channel ← transport "open_delivery" (← lift (Prog.onBroker (·.openDelivery handle.name limit)))
  return (handle, channel)

/-- Start a delivery loop for an opened subscription. -/
def startLoop (bus : Nat) (r : BindRequest) (handle : SubscriptionHandle) (channel limit : Nat) :
    Prog ActiveSubscription := do
  let id ← Prog.allocate
  Prog.alter fun w => { w with loops := w.loops ++
    [⟨id, bus, handle, channel, r.handler, r.eventTypes, limit, false, []⟩] }
  let task ← Async.start (.deliver id)
  return ⟨handle, id, task⟩

/-- Bind a handler to a subscription of a bus. -/
def bind (bus : Nat) (r : BindRequest) : Prog (Except BusError Unit) := do
  let b ← Prog.view (·.bus bus)
  if b.shuttingDown then return .error .shuttingDown
  if (b.binding? r.subscription).isSome then return .error (.alreadySubscribed r.subscription)
  Prog.alter fun w => w.modifyBus bus fun b => { b with bindings := b.bindings ++ [(r.subscription, .reserved)] }
  Async.yieldNow
  let limit := Nat.max (r.maxConcurrency.getD b.config.maxConcurrency) 1
  match ← (openSubscription bus r limit).run with
  | .error e =>
    releaseReservation bus r.subscription
    return .error e
  | .ok (handle, channel) =>
    let active ← startLoop bus r handle channel limit
    let b ← Prog.view (·.bus bus)
    let reserved := b.isReserved r.subscription
    if reserved && !b.shuttingDown then
      Prog.alter fun w => w.modifyBus bus fun b =>
        { b with bindings := b.bindings.map fun (n, e) => if n == r.subscription then (n, .running active) else (n, e),
                 registrations := b.registrations ++ [⟨r.topic, r.subscription, r.eventTypes⟩] }
      return .ok ()
    else
      if reserved then Prog.alter fun w => w.modifyBus bus (·.unbind r.subscription)
      Async.yieldNow
      stopLoop active
      Prog.alter fun w => w.modifyBus bus fun b => { b with subscriptions := (b.subscriptions.remove r.subscription).1 }
      Async.yieldNow
      let _ ← closeSubscription handle
      return .error .shuttingDown

/-- Detach the handler of a subscription and close it. -/
def unsubscribe (bus : Nat) (name : String) : Prog (Except BusError Unit) := do
  let b ← Prog.view (·.bus bus)
  if b.isReserved name then return .ok ()
  let running := match b.binding? name with
    | some (.running active) => some active
    | _ => none
  Prog.alter fun w => w.modifyBus bus fun b =>
    { b.unbind name with registrations := b.registrations.filter (·.subscription != name) }
  Async.yieldNow
  let cached ← Async.act fun w =>
    let (cache, cached) := (w.bus bus).subscriptions.remove name
    (w.modifyBus bus ({ · with subscriptions := cache }), cached)
  Async.yieldNow
  match running, cached with
  | some active, cached =>
    stopLoop active
    closeSubscription (cached.getD active.handle)
  | none, some handle => closeSubscription handle
  | none, none => return .ok ()

/-- The running bindings of a table, sorted by name. -/
def runningBindings (bindings : List (String × Binding)) : List ActiveSubscription :=
  (bindings.mergeSort fun a b => a.1 ≤ b.1).filterMap fun
    | (_, .running active) => some active
    | _ => none

/-- The subscriptions a shutdown closes, given those it drained from the cache
and the running bindings it took from the table: the drained ones, then those of
running bindings that none of them names. -/
def closingOf (drained : List SubscriptionHandle) (running : List ActiveSubscription) :
    List SubscriptionHandle :=
  drained ++ (running.filter fun a => !drained.any (·.name == a.handle.name)).map (·.handle)

/-- The subscriptions a shutdown of a bus in this state closes: the cached ones,
sorted by name, then those of running bindings that none of them names. -/
def BusState.closing (b : BusState) : List SubscriptionHandle :=
  closingOf b.subscriptions.drain (runningBindings b.bindings)

/-- Close one more subscription, counting a close that succeeds and noting the
name of one that fails. -/
def closeOne : Nat × List String → SubscriptionHandle → Prog (Nat × List String)
  | (closed, failures), handle => do
    match ← closeSubscription handle with
    | .ok () => return (closed + 1, failures)
    | .error _ => return (closed, failures ++ [handle.name])

/-- Stop every loop of a bus side by side, then close each subscription once;
returns how many closed and which failed. -/
def closeAll (bus : Nat) : Prog (Nat × List String) := do
  let b ← Prog.view (·.bus bus)
  Prog.alter fun w => w.modifyBus bus fun b => { b with bindings := [], registrations := [] }
  Async.yieldNow
  let drained ← Async.act fun w =>
    ((w.modifyBus bus ({ · with subscriptions := [] })), (w.bus bus).subscriptions.drain)
  Async.yieldNow
  let running := runningBindings b.bindings
  let stoppers ← running.mapM fun active => Async.start (.stop active)
  Prog.joinTasks stoppers
  (closingOf drained running).foldlM closeOne (0, [])

/-- Shut a bus down; only the first call does anything. -/
def shutdown (bus : Nat) : Prog ShutdownReport := do
  let b ← Prog.view (·.bus bus)
  if b.shuttingDown then return .empty
  Prog.alter fun w => w.modifyBus bus ({ · with shuttingDown := true })
  Async.yieldNow
  let (closed, closeFailures) ← closeAll bus
  closePublisher (.bus bus)
  let flushed ← flushAll (.bus bus)
  return ⟨closed, closeFailures, flushed.flushed, flushed.failed⟩

end Courier
