import Courier.Broker.Operations
import Courier.Bus.Error
import Courier.Bus.Registry
import Courier.Bus.Gate
import Courier.Bus.Handler
import Courier.Config
import Courier.Telemetry.Metrics
import Courier.Tasks.Scheduler

namespace Courier

/-! # The world of running buses

Buses share one broker. Each bus owns a publisher with its registry of topics,
a registry of subscriptions, and a table of bound subscriptions, each bound to
a running delivery loop. A standalone publisher, with a registry of its own,
publishes to the same broker.

The world also holds what the tasks share: the delivery loops with their
permits and stop flags, the handler scripts with their call counts, the metrics,
and the record of handler calls. Tasks are started from jobs: a watcher for each
lease, a delivery loop for each bound subscription, a dispatch for each delivery
and a stopper for each loop stopped at shutdown. A delivery loop takes each of
its turns as a fresh run of a job: receiving, then draining once it stops. -/

/-- Where a publish goes through: the publisher of a bus, or the standalone one. -/
inductive Outlet where
  | bus (index : Nat)
  | standalone
  deriving DecidableEq, Repr

/-- A publisher together with the registry of topics it resolves through. -/
structure Publishing where
  serviceName : String
  policy : ProvisioningPolicy
  topics : TopicCache
  gate : Gate
  closed : Bool

def Publishing.fresh (serviceName : String) (policy : ProvisioningPolicy) : Publishing :=
  ⟨serviceName, policy, .empty, .empty, false⟩

/-- What a caller may add to a publish. -/
structure PublishOptions where
  orderingKey : Option String
  /-- Attributes that win over the standard ones. -/
  attributes : List (String × String)

def PublishOptions.none : PublishOptions := ⟨Option.none, []⟩

structure Registration where
  topic : String
  subscription : String
  /-- The event types let through, or none for all. -/
  eventTypes : Option (List String)

/-- A running delivery loop as its bus sees it. -/
structure ActiveSubscription where
  handle : SubscriptionHandle
  /-- The number of the loop. -/
  loop : Nat
  /-- The task running the loop. -/
  task : Nat

/-- An entry of the table of bound subscriptions. -/
inductive Binding where
  /-- A subscribe call for the name is resolving. -/
  | reserved
  | running (active : ActiveSubscription)

structure BusState where
  config : BusConfig
  publishing : Publishing
  subscriptions : SubscriptionCache
  bindings : List (String × Binding)
  registrations : List Registration
  shuttingDown : Bool

def BusState.fresh (config : BusConfig) : BusState :=
  ⟨config, .fresh config.serviceName config.provisioning, [], [], [], false⟩

/-- A delivery loop: it takes deliveries from its channel while it holds a
permit, and hands each to a dispatch task. -/
structure LoopState where
  id : Nat
  bus : Nat
  handle : SubscriptionHandle
  channel : Nat
  /-- The handler script, by number. -/
  handler : Nat
  allowed : Option (List String)
  permits : Nat
  stopped : Bool
  /-- Dispatch tasks not yet joined. -/
  inFlight : List Nat

/-- A handler script bound by a subscribe call, with the calls made so far. -/
structure HandlerState where
  script : HandlerScript
  subscription : String
  bus : Nat
  calls : Nat

structure World where
  broker : Broker
  buses : List BusState
  standalone : Publishing
  metrics : Metrics
  handlers : List HandlerState
  loops : List LoopState
  handled : List HandledRecord
  /-- The next number of a loop or a gate ticket. -/
  nextObject : Nat
  /-- Identifiers minted so far. -/
  minted : Nat
  /-- The wall-clock instant stamped on published events. -/
  clock : Instant
  /-- Values left by programs run side by side, by number. -/
  notes : List (Nat × Json)
  /-- Observations recorded as the world runs, in order. -/
  transcript : List Json
  /-- Whether recording broke down: an observation could not be made. -/
  brokeDown : Bool

inductive Job where
  /-- Watch a lease until it is settled or expires. -/
  | watch (lease : Lease)
  /-- Take the next delivery of a loop. -/
  | deliver (loop : Nat)
  /-- Wait for the dispatches of a stopped loop, until a deadline if there is one,
  with the timer armed for it so far. -/
  | drain (loop : Nat) (deadline timer : Option Nat)
  /-- Handle one delivery of a loop. -/
  | dispatch (loop : Nat) (delivery : Delivery)
  /-- Stop a delivery loop and wait for it. -/
  | stop (active : ActiveSubscription)

/-- A program of a task on the world. -/
abbrev Prog := Async Job World

namespace World

/-- A world of fresh buses around a broker. -/
def fresh (broker : Broker) (configs : List BusConfig) (clock : Instant) : World :=
  let first := (configs.head?).getD BusConfig.standard
  { broker := broker
    buses := configs.map BusState.fresh
    standalone := .fresh first.serviceName first.provisioning
    metrics := .empty
    handlers := []
    loops := []
    handled := []
    nextObject := 1
    minted := 0
    clock := clock
    notes := []
    transcript := []
    brokeDown := false }

/-- A bus by number, a fresh standard bus when there is none. -/
def bus (w : World) (i : Nat) : BusState := (w.buses[i]?).getD (.fresh .standard)

def modifyBus (w : World) (i : Nat) (f : BusState → BusState) : World :=
  { w with buses := w.buses.mapIdx fun j b => if j = i then f b else b }

def publishing (w : World) : Outlet → Publishing
  | .bus i => (w.bus i).publishing
  | .standalone => w.standalone

def modifyPublishing (w : World) (o : Outlet) (f : Publishing → Publishing) : World :=
  match o with
  | .bus i => w.modifyBus i fun b => { b with publishing := f b.publishing }
  | .standalone => { w with standalone := f w.standalone }

def loop? (w : World) (id : Nat) : Option LoopState := w.loops.find? (·.id == id)

def modifyLoop (w : World) (id : Nat) (f : LoopState → LoopState) : World :=
  { w with loops := w.loops.map fun l => if l.id == id then f l else l }

def handler? (w : World) (i : Nat) : Option HandlerState := w.handlers[i]?

/-- A new number for a loop or a gate ticket. -/
def allocate (w : World) : World × Nat := ({ w with nextObject := w.nextObject + 1 }, w.nextObject)

def mint (w : World) : World × String := ({ w with minted := w.minted + 1 }, mintUuid (w.minted + 1))

end World

end Courier
