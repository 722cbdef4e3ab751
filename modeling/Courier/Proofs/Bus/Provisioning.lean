import Courier.Proofs.Broker.Retry
import Courier.Proofs.Bus.Subscribing
import Courier.Proofs.Tasks.Pool

namespace Courier

/-! # Provisioning follows the policy

Clients publish and subscribe on buses that all provision under one policy,
while the background jobs run. Under every interleaving of their steps, what the
buses cached exists at the broker; a subscription is created only with the
standard settings of its topic, once the topic and its dead-letter topic exist,
and that dead-letter topic stays, so that a copy given up later is stored there;
under `requireExisting` nothing is ever created; and a call fails only as its
policy allows, never because a resource it asked to create had been made
already. -/

/-- A call a client makes on the buses: a publish, or a subscribe, filtered by
event types or not. -/
inductive Call where
  | publish (o : Outlet) (topic : String) (draft : EventDraft) (options : PublishOptions)
  | subscribe (bus : Nat) (request : BindRequest)

namespace Call

/-- Make the call; its error, if it failed. -/
def run : Call → Prog (Option BusError)
  | .publish o topic draft options => do
    match ← publishVia o topic draft options with
    | .ok _ => return none
    | .error e => return some e
  | .subscribe bus request => do
    match ← bind bus request with
    | .ok () => return none
    | .error e => return some e

def start (c : Call) : Fut Job World := c.run fun _ => .done

/-- The call goes through a publisher or a bus that provisions under `policy`. -/
def Under (policy : ProvisioningPolicy) (w : World) : Call → Prop
  | .publish o _ _ _ => (w.publishing o).policy = policy
  | .subscribe bus _ => (w.bus bus).config.provisioning = policy

def Failure (policy : ProvisioningPolicy) : Call → BusError → Prop
  | .publish _ topic _ _ => PublishFailure policy topic
  | .subscribe _ request => SubscribeFailure policy request.subscription

variable {policy : ProvisioningPolicy}

theorem Under.steady {w w' : World} (steady : Steady w w') {c : Call} (under : c.Under policy w) :
    c.Under policy w' := by
  cases c with
  | publish o _ _ _ => exact (steady.policy o).trans under
  | subscribe bus _ =>
    show (w'.bus bus).config.provisioning = policy
    rw [steady.config bus]
    exact under

/-- A call fails only as its policy allows, whatever the others do meanwhile,
under every guarantee that allows what callers do. -/
theorem fails_as_allowed {R G : World → World → Prop} [Guarantee.Caller policy G]
    (others : ∀ w w', R w w' → Change policy true w w') (c : Call) :
    Spec R G (fun w => Provisioned w ∧ c.Under policy w) c.run
      fun e _ => ∀ error, e = some error → c.Failure policy error := by
  cases c with
  | publish o topic draft options =>
    refine Spec.bind (publishVia_spec others o topic draft options) fun result => ?_
    cases result with
    | ok _ => exact (Spec.pure _).conseq (fun _ _ _ wrong => by cases wrong) fun _ _ done => done
    | error e =>
      exact (Spec.pure _).conseq (fun _ failed _ same => by cases same; exact failed e rfl) fun _ _ done => done
  | subscribe bus request =>
    refine Spec.bind (bind_spec others bus request) fun result => ?_
    cases result with
    | ok _ => exact (Spec.pure _).conseq (fun _ _ _ wrong => by cases wrong) fun _ _ done => done
    | error e =>
      exact (Spec.pure _).conseq (fun _ failed _ same => by cases same; exact failed e rfl) fun _ _ done => done

/-- A call fails only as its policy allows, whatever the other calls and the
jobs do meanwhile. -/
theorem run_spec (c : Call) :
    Spec (Change policy true) (Change policy true) (fun w => Provisioned w ∧ c.Under policy w) c.run
      fun e _ => ∀ error, e = some error → c.Failure policy error :=
  fails_as_allowed (fun _ _ change => change) c

end Call

namespace Change

theorem creations {caller : Bool} {w w' : World} (change : Change .requireExisting caller w w') :
    w'.broker.counters.createTopic = w.broker.counters.createTopic ∧
      w'.broker.counters.createSubscription = w.broker.counters.createSubscription := by
  cases change with
  | call w c _ => exact ⟨(c.retains w.broker).createTopic, (c.retains w.broker).createSubscription⟩
  | receive _ received =>
    exact ⟨(w.broker.retains_receive received).createTopic, (w.broker.retains_receive received).createSubscription⟩
  | createTopic _ _ allowed => cases allowed
  | createSubscription _ _ _ _ allowed _ _ => cases allowed
  | _ => simp [World.allocate, World.mint]

/-- The only change that counts a creation of a subscription creates it with
the standard settings of a topic that exists beside its dead-letter topic, under
a policy that creates. -/
theorem createSubscription_counted {policy : ProvisioningPolicy} {caller : Bool} {w w' : World}
    (change : Change policy caller w w')
    (counted : w'.broker.counters.createSubscription ≠ w.broker.counters.createSubscription) :
    ∃ name topic ackDeadline, policy.allowsCreate = true ∧ w.broker.hasTopic topic = true ∧
      w.broker.hasTopic (deadLetterTopic topic) = true ∧
      w' = { w with broker := (w.broker.createSubscription name topic (.forTopic topic ackDeadline)).1 } := by
  cases change with
  | createSubscription w name topic ackDeadline allowed present dead =>
    exact ⟨name, topic, ackDeadline, allowed, present, dead, rfl⟩
  | call w c _ => exact absurd (c.retains w.broker).createSubscription counted
  | receive _ received => exact absurd (w.broker.retains_receive received).createSubscription counted
  | createTopic w name _ => exact absurd (w.broker.retains_createTopic name).createSubscription counted
  | _ => simp [World.allocate, World.mint] at counted

end Change

/-- Tasks of buses that provision under `policy`: what the buses cached exists
and every handler publishes under `policy`; each step of each task is a change
of a bus task under `policy`. -/
def provisioning (policy : ProvisioningPolicy) : Protocol World Unit where
  inv w _ := Provisioned w ∧ HandlersUnder policy w
  rely := Relation.ReflTransGen (Change policy true)
  rely_refl _ := .refl
  rely_trans first second := first.trans second

variable {policy : ProvisioningPolicy}

theorem provisioning_keeps : ∀ w w', Change policy true w w' → ∀ γ,
    (provisioning policy).inv w γ → (provisioning policy).inv w' γ :=
  fun _ _ change _ holds => ⟨change.provisioned holds.1, change.steady.handlersUnder holds.2⟩

/-- A program specified among bus tasks that provision under `policy`, for a
guarantee of its own, is safe among them. -/
theorem Spec.provisioningSafe {α : Type} {G : World → World → Prop} [Guarantee policy G] {P : World → Prop}
    {prog : Prog α} {Q : α → World → Prop} (spec : Spec (Change policy true) G P prog Q) {m : Machine Job World}
    (holds : P m.world) : (provisioning policy).Safe G () m.world m (prog fun _ => .done) :=
  Protocol.Safe.lift (ρ := busTasks _) (provisioning policy) (fun _ _ related => related) (fun _ _ _ => trivial)
    (fun w w' step => provisioning_keeps w w' (Guarantee.toChange step)) (spec.safe holds)
    (Protocol.Update.refl _ _ _)

theorem jobs_provisioningSafe {G : World → World → Prop} [Guarantee policy G] :
    Pool.JobsSafe (provisioning policy) G Job.start :=
  fun job _ _ holds => (program_spec (fun _ _ change => change) job).provisioningSafe holds

/-- Calls on buses that all provision under one policy, started on a world where
what is cached exists and every handler publishes under that policy: at every
point of every run the cached resources exist; a step that asks the broker to
create a subscription asks it with the standard settings of a topic that exists
beside its dead-letter topic, and from then on that dead-letter topic exists, so
that a copy the subscription gives up is stored there and not dropped; under
`requireExisting` no creation is ever asked of the broker; and every call fails
only as its policy allows. -/
theorem provisioning_follows_policy {m : Machine Job World} {calls : List Call}
    (provisioned : Provisioned m.world) (handlers : HandlersUnder policy m.world)
    (under : ∀ c ∈ calls, c.Under policy m.world) {p : Pool Job World}
    (run : Relation.ReflTransGen (Pool.Step Job.start) ⟨m, calls.map Call.start, none⟩ p) :
    Provisioned p.machine.world ∧
    (∀ p', Pool.Step Job.start p p' →
      p'.machine.world.broker.counters.createSubscription ≠ p.machine.world.broker.counters.createSubscription →
      ∃ name topic ackDeadline, policy.allowsCreate = true ∧ p.machine.world.broker.hasTopic topic = true ∧
        p.machine.world.broker.hasTopic (deadLetterTopic topic) = true ∧
        p'.machine.world = { p.machine.world with
          broker := (p.machine.world.broker.createSubscription name topic (.forTopic topic ackDeadline)).1 } ∧
        ∀ q, Relation.ReflTransGen (Pool.Step Job.start) p' q →
          q.machine.world.broker.hasTopic (deadLetterTopic topic) = true ∧
          ∀ pending : Pending,
            (q.machine.world.broker.deadLetter name pending (deadLetterTopic topic)).1.messagesOf
                (deadLetterTopic topic) =
              q.machine.world.broker.messagesOf (deadLetterTopic topic) ++
                [q.machine.world.broker.nextMessage pending.message.data
                  (putAttribute deadLetterSourceAttribute name pending.message.attributes) none]) ∧
    (policy = .requireExisting →
      p.machine.world.broker.counters.createTopic = m.world.broker.counters.createTopic ∧
      p.machine.world.broker.counters.createSubscription = m.world.broker.counters.createSubscription) ∧
    ∀ c : Call, Spec (Change policy true) (Change policy true) (fun w => Provisioned w ∧ c.Under policy w)
      c.run fun e _ => ∀ error, e = some error → c.Failure policy error := by
  have others : ∀ w w', Change policy true w w' → (provisioning policy).rely w w' :=
    fun _ _ change => .single change
  -- every call is safe from every world the others may make before it first runs
  have each : ∀ (i : Nat) f g, (calls.map Call.start)[i]? = some f → (calls.map fun _ => ())[i]? = some g →
      (provisioning policy).Resumable (Change policy true) g m.world f := by
    intro i f g found _ m' _ related holds
    obtain ⟨c, called, rfl⟩ : ∃ c, calls[i]? = some c ∧ c.start = f := by simpa using found
    exact (Call.run_spec c).provisioningSafe
      ⟨holds.1, (under c (List.mem_of_getElem? called)).steady (Steady.of_changes related)⟩
  have good := Pool.Good.begin m (calls.map Call.start) (calls.map fun _ => ()) (by simp) each
    ⟨provisioned, handlers⟩
  refine ⟨good.keeps others jobs_provisioningSafe (fun _ _ change holds => change.provisioned holds)
    provisioned run, fun p' step counted => ?_, fun existing => ?_, Call.run_spec⟩
  · obtain ⟨_, _, good'⟩ := good.run others jobs_provisioningSafe run
    rcases good'.allows step with same | change
    · exact absurd (by rw [same]) counted
    obtain ⟨name, topic, ackDeadline, allowed, present, dead, made⟩ := change.createSubscription_counted counted
    refine ⟨name, topic, ackDeadline, allowed, present, dead, made, fun q later => ?_⟩
    -- no change removes a topic, so the dead-letter topic stays from the creation on
    obtain ⟨_, _, good''⟩ := good'.step others jobs_provisioningSafe step
    have stays : q.machine.world.broker.hasTopic (deadLetterTopic topic) = true :=
      good''.keeps others jobs_provisioningSafe (F := fun w => w.broker.hasTopic (deadLetterTopic topic) = true)
        (fun _ _ change present => change.steady.topics _ present) (change.steady.topics _ dead) later
    refine ⟨stays, fun pending => ?_⟩
    rw [Broker.messagesOf_deadLetter, if_pos ⟨rfl, stays⟩]
  · subst existing
    exact good.keeps others jobs_provisioningSafe
      (F := fun w => w.broker.counters.createTopic = m.world.broker.counters.createTopic ∧
        w.broker.counters.createSubscription = m.world.broker.counters.createSubscription)
      (fun _ _ change counts => ⟨change.creations.1.trans counts.1, change.creations.2.trans counts.2⟩)
      ⟨rfl, rfl⟩ run

/-! ## A busy machine

One bus of the standard configuration at work: it has cached the topic
"orders", cached the subscription "audit" to it and bound that subscription to
a running loop, against a broker that holds both topics of "orders" and the
subscription. -/

def auditHandle : SubscriptionHandle := ⟨"audit", "orders", Duration.ofSecs 10⟩

def busyBroker : Broker :=
  { Broker.empty none with
    topics := [⟨"orders", [], ["audit"]⟩, ⟨deadLetterTopic "orders", [], []⟩]
    subscriptions := [.fresh "audit" "orders" (.forTopic "orders" (some (Duration.ofSecs 10)))] }

def busyBus : BusState :=
  { BusState.fresh .standard with
    publishing := { Publishing.fresh BusConfig.standard.serviceName .autoProvision with
      topics := ⟨[⟨"orders", 1⟩], false⟩ }
    subscriptions := [auditHandle]
    bindings := [("audit", .running ⟨auditHandle, 2, 0⟩)]
    registrations := [⟨"orders", "audit", none⟩] }

def busyMachine : Machine Job World :=
  ⟨Tasking.initial,
    { World.fresh busyBroker [.standard] ⟨0, 0, 0⟩ with
      buses := [busyBus]
      handlers := [⟨HandlerScript.plain, "audit", 0, 0⟩]
      loops := [⟨2, 0, auditHandle, 0, 0, none, 1, false, []⟩]
      nextObject := 3 }⟩

theorem bus_busy (i : Nat) : busyMachine.world.bus i = if i = 0 then busyBus else .fresh .standard := by
  unfold World.bus
  cases i <;> simp [busyMachine, BusState.fresh]

theorem provisioned_busy : Provisioned busyMachine.world where
  topics o n cached := by
    cases o with
    | bus i =>
      by_cases first : i = 0
      · simp [World.publishing, bus_busy, first, busyBus, TopicCache.contains, TopicCache.names] at cached
        subst cached
        decide
      · simp [World.publishing, bus_busy, first, BusState.fresh, Publishing.fresh, TopicCache.contains,
          TopicCache.empty, TopicCache.names] at cached
    | standalone =>
      simp [busyMachine, World.fresh, World.publishing, Publishing.fresh, TopicCache.contains,
        TopicCache.empty, TopicCache.names] at cached
  subscriptions i h cached := by
    by_cases first : i = 0
    · simp [bus_busy, first, busyBus] at cached
      subst cached
      decide
    · simp [bus_busy, first, BusState.fresh] at cached

theorem handlersUnder_busy : HandlersUnder .autoProvision busyMachine.world := by
  intro h member
  simp only [busyMachine, List.mem_singleton] at member
  subst member
  rfl

/-- A subscribe on the busy bus that creates a second subscription to "orders". -/
def billing : Call := .subscribe 0 ⟨"orders", "billing", 0, none, none, none⟩

/-- The busy bus provisions as its policy says while a subscribe made on it
reads the bus and reserves its name. -/
theorem busy_buses_follow_policy :
    Provisioned busyMachine.world ∧ HandlersUnder .autoProvision busyMachine.world ∧
      ∃ p, Relation.ReflTransGen (Pool.Step Job.start) ⟨busyMachine, [billing].map Call.start, none⟩ p ∧
        (p.machine.world.bus 0).bindings = busyBus.bindings ++ [("billing", .reserved)] ∧
        Provisioned p.machine.world := by
  -- the subscribe reads the bus, then reserves its name
  have reading : Pool.Step Job.start ⟨busyMachine, [billing].map Call.start, none⟩ _ := .step (i := 0) rfl (.inl rfl)
  have reserving := (Relation.ReflTransGen.single reading).tail (.step (i := 0) rfl (.inr rfl))
  refine ⟨provisioned_busy, handlersUnder_busy, _, reserving, rfl, ?_⟩
  exact (provisioning_follows_policy provisioned_busy handlersUnder_busy
    (fun c (member : c ∈ [billing]) => by
      rw [List.mem_singleton.mp member]
      rfl) reserving).1

end Courier
