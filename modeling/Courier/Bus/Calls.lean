import Courier.Bus.World

namespace Courier

/-! # Basic steps of bus programs

Broker calls are atomic steps on the world; what they announce is passed on
at once: an item put on a channel or a sending end let go wakes the consumer of
the channel, a settled reply wakes the watcher of its slot, and a new lease
starts a watcher task. Once the broker has answered, the other tasks may run
before the caller goes on. Waits for a gate, for a flag and for the end of tasks
are built from the task layer's waits. -/

namespace Prog

def view {α : Type} (f : World → α) : Prog α := Async.look (f ·.world)

def alter (f : World → World) : Prog Unit := Async.act fun w => (f w, ())

def note (f : Metrics → Metrics) : Prog Unit := alter fun w => { w with metrics := f w.metrics }

/-- A new number for a loop or a gate ticket. -/
def allocate : Prog Nat := Async.act World.allocate

def mint : Prog String := Async.act World.mint

def announce (notices : List Notice) : Prog Unit :=
  notices.forM fun
    | .delivered channel => Async.signal (.channel channel)
    | .leased lease => do let _ ← Async.start (.watch lease)
    | .replied slot => Async.signal (.slot slot)
    | .senderGone channel => Async.signal (.channel channel)

/-- Make a broker call and pass on what it announced. -/
def onBroker {α : Type} (call : Broker → Broker × α × List Notice) : Prog α := do
  let (a, notices) ← Async.act fun w =>
    let (b, a, notices) := call w.broker
    ({ w with broker := b }, (a, notices))
  announce notices
  Async.yieldNow
  return a

def quietly {α : Type} (call : Broker → Broker × α) : Prog α := do
  let a ← Async.act fun w => let (b, a) := call w.broker; ({ w with broker := b }, a)
  Async.yieldNow
  return a

/-- Read the broker, as the broker itself does within one of its steps. -/
def ask {α : Type} (f : Broker → α) : Prog α := view (f ·.broker)

/-- Ask the broker a question that changes nothing. -/
def query {α : Type} (f : Broker → α) : Prog α := do
  let a ← ask f
  Async.yieldNow
  return a

/-- Wait out the broker's pause before an existence check, when one is set. -/
def lookupPause : Prog Unit := do
  match ← ask (·.faults.lookupDelay) with
  | some delay => Async.sleep delay.waitTicks
  | none => pure ()

def raiseStop (loop : Nat) : Prog Unit := do
  alter fun w => w.modifyLoop loop ({ · with stopped := true })
  Async.signal (.flag loop)

/-- Wait for a task to end; true when it crashed. -/
def joinTask (task : Nat) : Prog Bool :=
  Async.await (fun m => (m.tasking.endOf? task).map (m, ·)) [.task task]

/-- Wait for every task of a list to end. -/
def joinTasks (tasks : List Nat) : Prog Unit :=
  Async.await (fun m => if tasks.all fun t => (m.tasking.endOf? t).isSome then some (m, ()) else none)
    (tasks.map Key.task)

/-! Passing a publisher's gate. -/

/-- Wait for a ticket's grant at a publisher's gate. -/
def awaitGrant (o : Outlet) (ticket : Nat) : Prog Unit :=
  Async.await (fun m =>
    ((m.world.publishing o).gate.pickUp ticket).map fun g =>
      ({ m with world := m.world.modifyPublishing o ({ · with gate := g }) }, ()))
    [.gate ticket]

def enterRead (o : Outlet) : Prog Unit := do
  let ticket ← allocate
  let admitted ← Async.act fun w =>
    let (g, admitted) := (w.publishing o).gate.requestRead ticket
    (w.modifyPublishing o ({ · with gate := g }), admitted)
  if !admitted then awaitGrant o ticket
  Async.yieldNow

def enterWrite (o : Outlet) : Prog Unit := do
  let ticket ← allocate
  let admitted ← Async.act fun w =>
    let (g, admitted) := (w.publishing o).gate.requestWrite ticket
    (w.modifyPublishing o ({ · with gate := g }), admitted)
  if !admitted then awaitGrant o ticket
  Async.yieldNow

/-- Leave a publisher's gate, waking those it lets in. -/
def leave (o : Outlet) (writer : Bool) : Prog Unit := do
  let granted ← Async.act fun w =>
    let gate := (w.publishing o).gate
    let (g, granted) := if writer then gate.releaseWrite else gate.releaseRead
    (w.modifyPublishing o ({ · with gate := g }), granted)
  granted.forM fun ticket => Async.signal (.gate ticket)
  Async.yieldNow

end Prog

end Courier
