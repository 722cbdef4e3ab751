import Courier.Proofs.Bus.Caching

namespace Courier

/-! # A shutdown racing clients leaves its bus cleared

A shutdown refuses subscribers and takes the bus's table, its registrations and
its cache of subscriptions in one stretch, stops the loops it took while the
other tasks run, closes each subscription it took, and at last drains the cache
of topics of the bus's publisher. Clients go on subscribing and unsubscribing
meanwhile. No step of theirs binds or registers anything on a bus that refuses
subscribers, and a drained cache of topics is sealed, so once the shutdown has
returned the bus stays cleared and its cache of topics stays empty, however the
steps of the clients fall. The shutdown itself closes each subscription it took
exactly once. -/

theorem BusState.Cleared.modifyPublishing {w : World} {i : Nat} (cleared : (w.bus i).Cleared) (o : Outlet)
    (f : Publishing → Publishing) : ((w.modifyPublishing o f).bus i).Cleared := by
  cases o with
  | standalone => exact cleared
  | bus j =>
    rcases World.bus_modifyBus w j i (fun b => { b with publishing := f b.publishing }) with same | ⟨-, changed⟩
    · exact same ▸ cleared
    · rw [show w.modifyPublishing (.bus j) f = w.modifyBus j fun b => { b with publishing := f b.publishing } from rfl,
        changed]
      exact ⟨cleared.refusing, cleared.unbound, cleared.unregistered⟩

theorem World.closing_refuse (w : World) (bus : Nat) :
    ((w.modifyBus bus ({ · with shuttingDown := true })).bus bus).closing = (w.bus bus).closing := by
  rcases World.bus_modifyBus w bus bus ({ · with shuttingDown := true }) with same | ⟨-, changed⟩
  · rw [same]
  · rw [changed]
    rfl

section Shutdown

variable {R G : World → World → Prop} {policy : ProvisioningPolicy}

/-- The cache of topics of bus `bus`'s publisher is drained and sealed, if the
bus exists. -/
def TopicsSealed (bus : Nat) (w : World) : Prop :=
  (Outlet.bus bus).Within w → (w.publishing (.bus bus)).topics = ⟨[], true⟩

/-- No step of a bus task unseals a drained cache of topics. -/
theorem TopicsSealed.change {bus : Nat} {caller : Bool} {w w' : World} (holds : TopicsSealed bus w)
    (change : Change policy caller w w') : TopicsSealed bus w' := fun within =>
  (change.topicCache (.bus bus)).of_drained (holds (change.within within))

/-- A first shutdown of a bus, among others whose steps are those of bus tasks.
It keeps a fact `I` that holds once the bus refuses subscribers and a fact `C`
that holds once its table is cleared, both kept by the steps of the others and
`C` by its own. It ends where `C` holds, with the bus's cache of topics drained
and sealed, having closed once each, in order, the subscriptions it took from
the cache at a world of `C` and those of the running bindings it took from the
table at a world of `I` that none of them names. -/
theorem shutdown_keeps_portable {S : World → World → Prop} (free : ∀ w w', TableFree policy w w' → S w w')
    (others : ∀ w w', R w w' → Change policy true w w')
    {I C : World → Prop} (keptI : ∀ w w', I w → R w w' → I w') (keptC : ∀ w w', C w → R w w' → C w')
    (own : ∀ w w', C w → S w w' → C w') (bus : Nat) (w₀ : World) (accepting : (w₀.bus bus).shuttingDown = false)
    (refuse : S w₀ (w₀.modifyBus bus ({ · with shuttingDown := true })))
    (refused : I (w₀.modifyBus bus ({ · with shuttingDown := true })))
    (clear : ∀ w, I w → S w (w.modifyBus bus fun b => { b with bindings := [], registrations := [] }) ∧
      C (w.modifyBus bus fun b => { b with bindings := [], registrations := [] }))
    (drain : ∀ w, C w → S w (w.modifyBus bus ({ · with subscriptions := [] })) ∧
      C (w.modifyBus bus ({ · with subscriptions := [] }))) :
    Portable S R (· = w₀) (shutdown bus) fun report w => C w ∧ TopicsSealed bus w ∧
      ∃ w₁ w₂, C w₁ ∧ I w₂ ∧ ∃ b₁ b₁', Broker.ClosesAll (fun _ _ => True) (b₁, 0, [])
        (closingOf (w₁.bus bus).subscriptions.drain (runningBindings (w₂.bus bus).bindings))
        (b₁', report.subscriptionsClosed, report.closeFailures) := by
  have job : ∀ w w', C w → Change policy false w w' → C w' := fun w w' holds change =>
    own w w' holds (free w w' (.job change))
  unfold shutdown
  refine Portable.bind ((Portable.view (Q := fun b w => b = w₀.bus bus ∧ w = w₀) _).conseq
    (fun w same => ⟨by rw [same], same⟩) fun _ _ done => done) fun b => Portable.assume fun same => ?_
  subst same
  rw [if_neg (by simp [accepting])]
  refine Portable.bind (Portable.alter (Q := fun _ => I) _ fun w same => ?_) fun _ => ?_
  · subst same
    exact ⟨.inr refuse, refused⟩
  refine Portable.bind (Portable.yieldNow_keeps keptI) fun _ => ?_
  -- closing: the table at a world of `I`, then the cache at a world of `C`
  have closing : ∀ w₂, I w₂ → Portable S R (· = w₂) (closeAll bus) fun result w => ∃ w₂, I w₂ ∧ ∃ w₁ w₃, C w₁ ∧
      Relation.ReflTransGen R (w₁.modifyBus bus ({ · with subscriptions := [] })) w₃ ∧
      Broker.ClosesAll (fun _ _ => True) (w₃.broker, 0, [])
        (closingOf (w₁.bus bus).subscriptions.drain (runningBindings (w₂.bus bus).bindings))
        (w.broker, result) ∧ C w := fun w₂ holds =>
    (closeAll_portable (B := fun _ _ => True) (J := C) (fun _ _ _ => trivial) keptC
      (fun w c held => own _ _ held (free _ _ (.call w c))) (fun w w' step => free w w' step.tableFree)
      (I := C) keptC bus w₂ (clear w₂ holds).1 (clear w₂ holds).2 drain).conseq (fun _ same => same)
      fun _ _ done => ⟨w₂, holds, done⟩
  refine Portable.bind (Portable.of_pre closing) fun result => ?_
  obtain ⟨closed, failures⟩ := result
  refine Portable.of_pre fun w₃ ⟨w₂, held₂, w₁, _, held₁, _, closedAll, held₃⟩ => ?_
  -- the publisher closes while the others run
  have closes : Portable S R C (closePublisher (.bus bus)) fun _ => C :=
    (closePublisher_portable (.bus bus) keptC (fun w g holds => job _ _ holds (.gate w _ g))
      (fun w holds => job _ _ holds (.allocate w))
      fun w holds => own _ _ holds (free _ _ (.closePublisher w _))).widen free
  refine Portable.bind (closes.conseq (fun w same => same ▸ held₃) fun _ _ done => done)
    fun _ => Portable.of_pre fun w₄ held₄ => ?_
  -- the drained cache stays sealed and empty while the others run
  have drained : C (w₄.modifyPublishing (.bus bus) ({ · with topics := ⟨[], true⟩ })) ∧
      TopicsSealed bus (w₄.modifyPublishing (.bus bus) ({ · with topics := ⟨[], true⟩ })) :=
    ⟨own _ _ held₄ (free _ _ (.drainTopics w₄ _)), fun within => congrArg Publishing.topics
      (World.publishing_modifyPublishing_self w₄ (Outlet.within_modifyPublishing within) _)⟩
  refine Portable.bind ((flushAll_flushes (B := fun _ _ => True) (J := fun w => C w ∧ TopicsSealed bus w)
    (fun _ _ _ => trivial) (fun w w' holds step => ⟨keptC w w' holds.1 step, holds.2.change (others w w' step)⟩)
    (fun w c holds => ⟨own _ _ holds.1 (free _ _ (.call w c)), holds.2⟩) (.bus bus) w₄ drained).widen free)
    fun report => ?_
  refine (Portable.pure _).conseq (fun w flushedAll => ?_) fun _ _ done => done
  obtain ⟨_, _, _, sealed⟩ := flushedAll
  exact ⟨sealed.1, sealed.2, w₁, w₂, held₁, held₂, _, _, closedAll⟩

/-- Every shutdown among bus tasks takes only steps of its own kind. -/
theorem shutdown_spec [Guarantee.Caller policy G] (others : ∀ w w', R w w' → Change policy true w w') (bus : Nat) :
    Spec R G (fun _ => True) (shutdown bus) fun _ _ => True := by
  refine Spec.of_pre fun w₀ _ => ?_
  cases accepting : (w₀.bus bus).shuttingDown with
  | true => exact (shutdown_refused bus w₀ accepting).conseq (fun _ same => same) fun _ _ _ => trivial
  | false =>
    exact ((shutdown_keeps_portable (I := fun _ => True) (C := fun _ => True) Guarantee.allows_tableFree others
      (fun _ _ _ _ => trivial) (fun _ _ _ _ => trivial) (fun _ _ _ _ => trivial) bus w₀ accepting
      (Guarantee.Caller.table w₀ bus _ .refuse) trivial
      (fun w _ => ⟨Guarantee.Caller.table w bus _ .clear, trivial⟩)
      fun w _ => ⟨Guarantee.Caller.table w bus _ .drain, trivial⟩).toSpec).conseq (fun _ same => same)
      fun _ _ _ => trivial

/-- What a shutdown racing the others closed, from the cache `cached` and the
table `bindings` it took: each subscription of the cache and each one of a
running binding of the table, once each, in order, the names apart, the report
counting each close as done or failed. -/
structure ClosedTaken (report : ShutdownReport) (cached : SubscriptionCache) (bindings : List (String × Binding)) :
    Prop where
  closes : ∃ b₁ b₁', Broker.ClosesAll (fun _ _ => True) (b₁, 0, []) (closingOf cached.drain (runningBindings bindings))
    (b₁', report.subscriptionsClosed, report.closeFailures)
  counted : report.subscriptionsClosed + report.closeFailures.length =
    (closingOf cached.drain (runningBindings bindings)).length
  apart : ((closingOf cached.drain (runningBindings bindings)).map (·.name)).Nodup
  names : ∀ n, n ∈ (closingOf cached.drain (runningBindings bindings)).map (·.name) ↔
    n ∈ cached.map (·.name) ∨ ∃ a, (n, Binding.running a) ∈ bindings

/-- What a shutdown keeps of its bus while the tidy steps of the others run:
the bus exists, is consistent, refuses subscribers, and the world was reached
from where the shutdown began by tidy steps. -/
structure Refusing (policy : ProvisioningPolicy) (bus : Nat) (w₀ w : World) : Prop where
  within : bus < w.buses.length
  consistent : (w.bus bus).Consistent
  refusing : (w.bus bus).shuttingDown = true
  reached : Relation.ReflTransGen (TidyChange policy) w₀ w

/-- The same once the shutdown cleared the bus's table. -/
structure ClearedFrom (policy : ProvisioningPolicy) (bus : Nat) (w₀ w : World) : Prop where
  within : bus < w.buses.length
  consistent : (w.bus bus).Consistent
  cleared : (w.bus bus).Cleared
  reached : Relation.ReflTransGen (TidyChange policy) w₀ w

/-- A first shutdown of a bus that still accepts subscribers, racing the tidy
steps of the others, ends with the bus refusing subscribers, with no binding
and no registration, and with its cache of topics drained and sealed. It took
the table and, later, the cache of subscriptions at worlds of the run, and
closed each subscription that was cached or bound to a running loop there
exactly once, as `ClosedTaken` says. -/
theorem shutdown_clears (bus : Nat) (w₀ : World) (within : bus < w₀.buses.length)
    (consistent : (w₀.bus bus).Consistent) (accepting : (w₀.bus bus).shuttingDown = false) :
    Spec (TidyChange policy) (TidyChange policy) (· = w₀) (shutdown bus) fun report w => (w.bus bus).Cleared ∧
      (w.publishing (.bus bus)).topics = ⟨[], true⟩ ∧
      ∃ w₁ w₂, Relation.ReflTransGen (TidyChange policy) w₀ w₁ ∧ Relation.ReflTransGen (TidyChange policy) w₀ w₂ ∧
        ClosedTaken report (w₁.bus bus).subscriptions (w₂.bus bus).bindings := by
  -- a change of one bus that a tidy step allows, and the facts it keeps
  have tidy : ∀ w (f : BusState → BusState), TableChange (w.bus bus) (f (w.bus bus)) →
      TidyChange policy w (w.modifyBus bus f) := fun w f change => Guarantee.Caller.table w bus f change
  have keptI : ∀ w w', Refusing policy bus w₀ w → TidyChange policy w w' → Refusing policy bus w₀ w' :=
    fun w w' holds step => ⟨step.2.length ▸ holds.within, step.2.consistent bus holds.consistent,
      step.2.refusing bus holds.refusing, holds.reached.tail step⟩
  have keptC : ∀ w w', ClearedFrom policy bus w₀ w → TidyChange policy w w' → ClearedFrom policy bus w₀ w' :=
    fun w w' holds step => ⟨step.2.length ▸ holds.within, step.2.consistent bus holds.consistent,
      step.2.cleared bus holds.cleared, holds.reached.tail step⟩
  have refused : Refusing policy bus w₀ (w₀.modifyBus bus ({ · with shuttingDown := true })) := by
    have step := tidy w₀ ({ · with shuttingDown := true }) .refuse
    refine ⟨step.2.length.symm ▸ within, step.2.consistent bus consistent, ?_, .single step⟩
    rw [World.bus_modifyBus_self w₀ within]
  have clear : ∀ w, Refusing policy bus w₀ w →
      TidyChange policy w (w.modifyBus bus fun b => { b with bindings := [], registrations := [] }) ∧
        ClearedFrom policy bus w₀ (w.modifyBus bus fun b => { b with bindings := [], registrations := [] }) := by
    intro w holds
    have step := tidy w (fun b => { b with bindings := [], registrations := [] }) .clear
    refine ⟨step, step.2.length.symm ▸ holds.within, step.2.consistent bus holds.consistent, ?_,
      holds.reached.tail step⟩
    rw [World.bus_modifyBus_self w holds.within]
    exact ⟨holds.refusing, rfl, rfl⟩
  have drain : ∀ w, ClearedFrom policy bus w₀ w →
      TidyChange policy w (w.modifyBus bus ({ · with subscriptions := [] })) ∧
        ClearedFrom policy bus w₀ (w.modifyBus bus ({ · with subscriptions := [] })) := fun w holds =>
    have step := tidy w ({ · with subscriptions := [] }) .drain
    ⟨step, step.2.length.symm ▸ holds.within, step.2.consistent bus holds.consistent,
      step.2.cleared bus holds.cleared, holds.reached.tail step⟩
  refine ((shutdown_keeps_portable (I := Refusing policy bus w₀) (C := ClearedFrom policy bus w₀)
    Guarantee.allows_tableFree (fun _ _ step => step.1) keptI keptC keptC bus w₀ accepting (tidy w₀ ({ · with shuttingDown := true }) .refuse)
    refused clear drain).toSpec).conseq (fun _ same => same) fun report w done => ?_
  obtain ⟨held, sealed, w₁, w₂, held₁, held₂, closes⟩ := done
  have counted := closes.choose_spec.choose_spec.reported
  simp only [List.length_nil, Nat.add_zero, Nat.zero_add] at counted
  exact ⟨held.cleared, sealed held.within, w₁, w₂, held₁.reached, held₂.reached, closes, counted,
    BusState.nodup_closingOf held₁.consistent.cached held₂.consistent.bound held₂.consistent.named,
    BusState.mem_closingOf held₂.consistent.named⟩

end Shutdown

/-- A task racing shutdowns: a client's request, or a shutdown of a bus. -/
inductive RaceTask where
  | request (r : Request)
  | shutdown (bus : Nat)

namespace RaceTask

def start : RaceTask → Fut Job World
  | .request r => r.start
  | .shutdown bus => Courier.shutdown bus fun _ => .done

/-- The task goes through a publisher or a bus that provisions under `policy`. -/
def Under (policy : ProvisioningPolicy) (w : World) : RaceTask → Prop
  | .request r => r.Under policy w
  | .shutdown _ => True

variable {policy : ProvisioningPolicy}

theorem Under.steady {w w' : World} (steady : Steady w w') {t : RaceTask} (under : t.Under policy w) :
    t.Under policy w' := by
  cases t with
  | request r => exact Request.Under.steady steady under
  | shutdown _ => trivial

/-- What a task needs of its world survives any run of steps of callers. -/
theorem Under.stepped {w w' : World} (run : Relation.ReflTransGen (Stepped policy) w w') {t : RaceTask}
    (under : t.Under policy w) : t.Under policy w' :=
  Under.steady (Steady.of_changes (Relation.ReflTransGen.mono (fun _ _ step => Guarantee.toChange step) _ _ run))
    under

/-- A task of a race is safe among the tasks of buses that provision under
`policy`, and keeps their buses tidy. -/
theorem safe (t : RaceTask) {m : Machine Job World} (provisioned : Provisioned m.world)
    (under : t.Under policy m.world) :
    (provisioning policy).Safe (TidyChange policy) () m.world m t.start := by
  cases t with
  | request r => exact r.safe provisioned under
  | shutdown bus => exact (shutdown_spec (R := Change policy true) (fun _ _ change => change) bus).provisioningSafe trivial

end RaceTask

variable {policy : ProvisioningPolicy}

/-- Requests and shutdowns on buses that all provision under one policy, from a
world where what is cached exists and every handler publishes under that policy:
from every point of every run on, each step is a tidy change, so that what a
bus was when the run got there it stays as `BusesKept` says, and each cache of
topics follows the cache it was there. -/
theorem race_keeps {m : Machine Job World} {tasks : List RaceTask} (provisioned : Provisioned m.world)
    (handlers : HandlersUnder policy m.world) (under : ∀ t ∈ tasks, t.Under policy m.world)
    {p q : Pool Job World}
    (run : Relation.ReflTransGen (Pool.Step Job.start) ⟨m, tasks.map RaceTask.start, none⟩ p)
    (later : Relation.ReflTransGen (Pool.Step Job.start) p q) :
    BusesKept p.machine.world q.machine.world ∧
      ∀ o, (p.machine.world.publishing o).topics.Follows (q.machine.world.publishing o).topics := by
  obtain ⟨_, good⟩ := tidy_good RaceTask.start (fun w t => t.Under policy w) RaceTask.Under.steady RaceTask.safe
    provisioned handlers under
  obtain ⟨_, _, good'⟩ := good.run tidy_rely jobs_provisioningSafe run
  exact good'.keeps tidy_rely jobs_provisioningSafe
    (F := fun w => BusesKept p.machine.world w ∧
      ∀ o, (p.machine.world.publishing o).topics.Follows (w.publishing o).topics)
    (fun _ _ step holds => ⟨holds.1.trans step.2, fun o => (holds.2 o).step (step.1.topicCache o)⟩)
    ⟨.refl _, fun o => .refl _⟩ later

/-- Requests of clients and shutdowns racing on buses that provision under one
policy, from a world where what is cached exists, every handler publishes under
that policy and every bus is consistent. At every point of every run, a
shutdown of a bus that still accepts subscribers, racing the tidy steps of the
others, ends with the bus refusing subscribers, with no binding and no
registration, and with its cache of topics drained and sealed; it has closed
each subscription that was cached or bound to a running loop when it began
exactly once, and counts each close as done or failed. From every point on, a
bus that is cleared stays cleared and a cache of topics that is drained stays
drained, whatever the requests and shutdowns still running do. -/
theorem shutdown_race_clears {m : Machine Job World} {tasks : List RaceTask} (provisioned : Provisioned m.world)
    (handlers : HandlersUnder policy m.world) (consistent : ∀ i, (m.world.bus i).Consistent)
    (under : ∀ t ∈ tasks, t.Under policy m.world) {p : Pool Job World}
    (run : Relation.ReflTransGen (Pool.Step Job.start) ⟨m, tasks.map RaceTask.start, none⟩ p) (bus : Nat) :
    ((p.machine.world.bus bus).shuttingDown = false → bus < p.machine.world.buses.length →
      Spec (TidyChange policy) (TidyChange policy) (· = p.machine.world) (shutdown bus)
        fun report w => (w.bus bus).Cleared ∧ (w.publishing (.bus bus)).topics = ⟨[], true⟩ ∧
          ∃ w₁ w₂, Relation.ReflTransGen (TidyChange policy) p.machine.world w₁ ∧
            Relation.ReflTransGen (TidyChange policy) p.machine.world w₂ ∧
            ClosedTaken report (w₁.bus bus).subscriptions (w₂.bus bus).bindings) ∧
    ∀ q, Relation.ReflTransGen (Pool.Step Job.start) p q →
      ((p.machine.world.bus bus).Cleared → (q.machine.world.bus bus).Cleared) ∧
      ((p.machine.world.publishing (.bus bus)).topics = ⟨[], true⟩ →
        (q.machine.world.publishing (.bus bus)).topics = ⟨[], true⟩) := by
  -- the bus is consistent where the shutdown begins
  have tidy : (p.machine.world.bus bus).Consistent :=
    (race_keeps provisioned handlers under .refl run).1.consistent bus (consistent bus)
  refine ⟨fun accepting within => shutdown_clears bus _ within tidy accepting, fun q later => ?_⟩
  obtain ⟨kept, follows⟩ := race_keeps provisioned handlers under run later
  refine ⟨kept.cleared bus, fun drained => ?_⟩
  have along := follows (.bus bus)
  rw [drained] at along
  exact along.drained

/-- A subscribe, an unsubscribe of the running subscription and a shutdown
racing on the busy bus: once the subscribe has reserved its name, a shutdown of
the bus from there clears it. -/
theorem busy_shutdown_race_clears :
    ∃ p, Relation.ReflTransGen (Pool.Step Job.start)
        ⟨busyMachine, [RaceTask.request (.call billing), .request (.unsubscribe 0 "audit"), .shutdown 0].map
          RaceTask.start, none⟩ p ∧
      (p.machine.world.bus 0).bindings = [("audit", .running ⟨auditHandle, 2, 0⟩), ("billing", .reserved)] ∧
      Spec (TidyChange .autoProvision) (TidyChange .autoProvision) (· = p.machine.world) (shutdown 0)
        fun report w => (w.bus 0).Cleared ∧ (w.publishing (.bus 0)).topics = ⟨[], true⟩ ∧
          ∃ w₁ w₂, Relation.ReflTransGen (TidyChange .autoProvision) p.machine.world w₁ ∧
            Relation.ReflTransGen (TidyChange .autoProvision) p.machine.world w₂ ∧
            ClosedTaken report (w₁.bus 0).subscriptions (w₂.bus 0).bindings := by
  let tasks := [RaceTask.request (.call billing), .request (.unsubscribe 0 "audit"), .shutdown 0]
  have under : ∀ t ∈ tasks, t.Under .autoProvision busyMachine.world := by
    intro t member
    simp only [tasks, List.mem_cons, List.not_mem_nil, or_false] at member
    rcases member with rfl | rfl | rfl
    · rfl
    · trivial
    · trivial
  -- the subscribe reads the bus, then reserves its name
  have reading : Pool.Step Job.start ⟨busyMachine, tasks.map RaceTask.start, none⟩ _ := .step (i := 0) rfl (.inl rfl)
  have reserving := (Relation.ReflTransGen.single reading).tail (.step (i := 0) rfl (.inr rfl))
  have raced := shutdown_race_clears provisioned_busy handlersUnder_busy consistent_busy under reserving 0
  exact ⟨_, reserving, rfl, raced.1 rfl (by decide)⟩

end Courier
