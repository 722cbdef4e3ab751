import Mathlib
import Courier.Proofs.Bus.Passing
import Courier.Proofs.Bus.Racing

namespace Courier

/-! # No publish outlives the close of its publisher

Clients publish, subscribe, unsubscribe and shut buses down side by side, with
the background jobs running and the handlers they call publishing too. Every
task keeps the protocol of passes: a publish holds a reader's pass from its
publisher's gate until it leaves it, a shutdown holds the writer's pass while it
sets the flag, and every other step needs no pass at all.

So a publish is refused as shutting down only on a closed publisher and then
changes nothing; otherwise it found the publisher open and keeps it open, with
every broker call it makes, until it leaves the gate, and the close that comes
after it sets the flag only then. A publish that succeeds ends with its topic in
the cache, where the topic stays until the cache is drained, and flushing the
closed publisher drains the cache, flushes each topic it held once, and leaves
it empty and sealed for good. -/

variable {policy : ProvisioningPolicy}

/-! ## Jobs -/

/-- A handler's call keeps the protocol of passes: the publish it may make holds
a reader's pass from the gate until it leaves it. -/
theorem runScript_passes (handler : Nat) (event : ReceivedEvent) (g : Multiset Pass) :
    (admissions policy).Triple (Stepped policy) ((admissions policy).Holding g fun _ => True)
      (runScript handler event) fun _ => (admissions policy).Holding g fun _ => True := by
  unfold runScript
  -- every handler publishes under the policy, as the world's account says
  refine Protocol.Triple.give g (HandlersUnder policy)
    (fun _ _ valid => ⟨Protocol.Update.refl _ g _, by obtain ⟨_, admitted⟩ := valid; exact admitted.handlers⟩) ?_
  refine Protocol.Triple.bind (((Portable.view (Q := fun found w =>
      ∀ h, found = some h → (w.publishing (.bus h.bus)).policy = policy) _).conseq
    (fun w holds h found => holds h (List.mem_of_getElem? found)) fun _ _ done => done).passFree g) fun found => ?_
  cases found with
  | none => exact (Portable.pure_true _).passFree g
  | some h =>
    dsimp only
    have kept : ∀ w w', (w.publishing (.bus h.bus)).policy = policy → Stepped policy w w' →
        (w'.publishing (.bus h.bus)).policy = policy := fun _ _ under step => step.same_policy _ under
    refine Protocol.Triple.bind (((Portable.now (Q := fun _ w => (w.publishing (.bus h.bus)).policy = policy)).conseq
      (fun _ holds _ => holds h rfl) fun _ _ done => done).passFree g) fun now => ?_
    refine Protocol.Triple.bind ((Portable.alter (Q := fun _ w => (w.publishing (.bus h.bus)).policy = policy) _
      fun w under => ⟨.inr (.handle _ _ _ _), under⟩).admitted passFree_job g) fun _ => ?_
    split
    -- with or without the sleep, the call may publish and then answers its verdict
    on_goal 1 =>
      refine Protocol.Triple.bind ((Portable.sleep (Q := fun _ w => (w.publishing (.bus h.bus)).policy = policy) _
        fun _ _ under related => rely_keeps kept under related).passFree g) fun _ => ?_
    all_goals
      split
      on_goal 2 =>
        refine Protocol.Triple.bind (Q := fun _ => (admissions policy).Holding g fun _ => True)
          ((publishVia_passes _ _ _ _ g).conseq (fun _ _ _ holds => holds)
            fun _ _ _ _ done => ⟨done.update, done.valid, trivial⟩) fun answer => ?_
        split
      -- whatever the publish gave, the call answers its verdict
      all_goals
        refine Protocol.Triple.bind ((Portable.pure_true _).passFree g) fun _ => ?_
        split <;> exact (Portable.pure_true _).passFree g

/-- A dispatch keeps the protocol of passes: it settles its delivery with steps
that need no pass, and its handler's publish holds a reader's pass. -/
theorem dispatchDelivery_passes (loop : Nat) (d : Delivery) (g : Multiset Pass) :
    (admissions policy).Triple (Stepped policy) ((admissions policy).Holding g fun _ => True)
      (dispatchDelivery loop d) fun _ => (admissions policy).Holding g fun _ => True := by
  unfold dispatchDelivery
  refine Protocol.Triple.bind ((Portable.view (Q := fun _ _ => True) _).passFree g)
    fun found => ?_
  cases found with
  | none => exact (Portable.pure_true _).passFree g
  | some l =>
    dsimp only
    refine Protocol.Triple.bind ((note_portable (Q := fun _ _ => True) _ fun _ _ => trivial).admitted passFree_job g)
      fun _ => ?_
    -- an undecodable or filtered delivery is settled at once, the others go to the handler
    have settled : ∀ outcome reply, (admissions policy).Triple (Stepped policy)
        ((admissions policy).Holding g fun _ => True)
        (do settleDelivery l.handle.name d outcome reply; finishDispatch loop)
        fun _ => (admissions policy).Holding g fun _ => True := fun _ _ =>
      (Portable.bind (settleDelivery_portable _ _ _ _) fun _ => finishDispatch_portable loop).admitted passFree_job g
    have handled : ∀ event, (admissions policy).Triple (Stepped policy)
        ((admissions policy).Holding g fun _ => True)
        (do
          Prog.note fun x => x.handlerStarted l.handle.name
          let outcome ← runScript l.handler event
          Prog.note fun x => x.handlerEnded l.handle.name
          settleHandled loop l.handle.name d outcome)
        fun _ => (admissions policy).Holding g fun _ => True := fun event => by
      refine Protocol.Triple.bind ((note_portable (Q := fun _ _ => True) _ fun _ _ => trivial).admitted
        passFree_job g) fun _ => ?_
      refine Protocol.Triple.bind (runScript_passes l.handler event g) fun outcome => ?_
      refine Protocol.Triple.bind ((note_portable (Q := fun _ _ => True) _ fun _ _ => trivial).admitted
        passFree_job g) fun _ => ?_
      exact (settleHandled_portable loop _ d outcome).admitted passFree_job g
    split
    · exact settled _ _
    · -- the loop accepts every event type, or those it lists
      cases allowed : l.allowed with
      | none => exact handled _
      | some types =>
        dsimp only
        split
        · exact settled _ _
        · exact handled _

/-- A program specified for the steps that need no pass is safe in a task of
the protocol of passes, holding any passes it does not change. -/
theorem Spec.admittedSafe {α : Type} {P : World → Prop} {prog : Prog α} {Q : α → World → Prop}
    (spec : Spec (Stepped policy) (PassFree policy) P prog Q) {m : Machine Job World} (holds : P m.world)
    {g : Multiset Pass} {w₀ : World} (kept : (admissions policy).Update g w₀ g m.world) :
    (admissions policy).Safe (Stepped policy) g w₀ m (prog fun _ => .done) :=
  Protocol.Safe.mono _ (fun _ _ step => step.1)
    (Protocol.Safe.lift (ρ := busTasks (Stepped policy)) (admissions policy) (fun _ _ related => related)
      (fun _ _ _ => trivial) (fun _ _ step γ holds => step.2 γ holds) (spec.safe holds) kept)

theorem jobs_admittedSafe : Pool.JobsSafe (admissions policy) (Stepped policy) Job.start := by
  intro job m frame holds
  cases job with
  | watch lease => exact (watchLease_spec lease).admittedSafe trivial (Protocol.Update.refl _ 0 _)
  | deliver loop => exact (runLoop_spec loop).admittedSafe trivial (Protocol.Update.refl _ 0 _)
  | drain loop deadline timer =>
    exact (drainLoop_spec loop deadline timer).admittedSafe trivial (Protocol.Update.refl _ 0 _)
  | dispatch loop d =>
    exact Protocol.Triple.safe_holding (dispatchDelivery_passes loop d 0) ⟨frame, by rw [zero_add]; exact holds⟩
      trivial
  | stop active => exact (stopLoop_spec active).admittedSafe trivial (Protocol.Update.refl _ 0 _)

/-! ## Clients -/

/-- A shutdown keeps the protocol of passes: it refuses subscribers and clears
the bus with steps that need no pass, closes the publisher as the writer, and
flushes it once it is closed. -/
theorem shutdown_passes (bus : Nat) (g : Multiset Pass) :
    (admissions policy).Triple (Stepped policy) ((admissions policy).Holding g fun _ => True) (shutdown bus)
      fun _ => (admissions policy).Holding g fun _ => True := by
  unfold shutdown
  refine Protocol.Triple.bind ((Portable.view (Q := fun _ _ => True) _).passFree g)
    fun b => ?_
  split
  · exact (Portable.pure_true _).passFree g
  · refine Protocol.Triple.bind ((Portable.alter (Q := fun _ _ => True) _
      fun w _ => ⟨.inr (passFree_table .refuse), trivial⟩).passFree g) fun _ => ?_
    refine Protocol.Triple.bind ((Portable.yieldNow (Q := fun _ _ => True) fun _ _ _ _ => trivial).passFree g)
      fun _ => ?_
    refine Protocol.Triple.bind ((Portable.of_pre fun w _ => (closeAll_portable (B := fun _ _ => True)
      (J := fun _ => True) (fun _ _ _ => trivial) (fun _ _ _ _ => trivial) (fun _ _ _ => trivial) passFree_ungated
      (I := fun _ => True) (fun _ _ _ _ => trivial) bus w (passFree_table .clear) trivial
      fun _ _ => ⟨passFree_table .drain, trivial⟩).conseq (fun _ same => same) fun _ _ _ => trivial).passFree g)
      fun result => ?_
    obtain ⟨closed, failures⟩ := result
    refine Protocol.Triple.bind (closePublisher_closes (.bus bus) g) fun _ => ?_
    refine Protocol.Triple.bind (Q := fun _ => (admissions policy).Holding g fun _ => True)
      (Protocol.Triple.of_world fun w closed => (flushAll_passes (.bus bus) w g).conseq
        (fun _ _ _ holds => ⟨holds.update, holds.valid, holds.holds.1, closed⟩)
        fun _ _ _ _ done => ⟨done.update, done.valid, trivial⟩) fun _ => ?_
    exact (Portable.pure_true _).passFree g

namespace RaceTask

/-- Every task of a race keeps the protocol of passes, holding none when it
starts. -/
theorem passes (t : RaceTask) {m : Machine Job World} (valid : ∃ frame, Admitted policy m.world (0 + frame))
    (under : t.Under policy m.world) : (admissions policy).Safe (Stepped policy) 0 m.world m t.start := by
  cases t with
  | request r =>
    cases r with
    | call c =>
      cases c with
      | publish o topic draft options =>
        show (admissions policy).Safe (Stepped policy) 0 m.world m
          (Call.run (.publish o topic draft options) fun _ => .done)
        refine Protocol.Triple.safe_holding (π := admissions policy)
          (A := fun (w : World) => (w.publishing o).policy = policy) (B := fun _ _ => True)
          ?_ valid under
        refine Protocol.Triple.bind (publishVia_passes o topic draft options 0) fun result => ?_
        cases result <;> exact (Protocol.Triple.ret _).conseq
          (fun _ _ _ holds => ⟨holds.update, holds.valid, trivial⟩) fun _ _ _ _ done => done
      | subscribe bus request =>
        have spec : Spec (Stepped policy) (PassFree policy)
            (fun w => Provisioned w ∧ (w.bus bus).config.provisioning = policy) (Call.run (.subscribe bus request))
            fun _ _ => True :=
          Spec.bind (bind_spec (fun _ _ step => step.tidy.1) bus request) fun result => by
            cases result <;> exact Spec.pure_true _
        obtain ⟨_, holds⟩ := valid
        exact spec.admittedSafe ⟨holds.provisioned, under⟩ (Protocol.Update.refl _ 0 _)
    | unsubscribe bus name => exact (unsubscribe_spec bus name).admittedSafe trivial (Protocol.Update.refl _ 0 _)
  | shutdown bus => exact Protocol.Triple.safe_holding (shutdown_passes bus 0) valid trivial

end RaceTask

/-- A world where no gate is in use and no cache is sealed or holds a topic
twice accounts for no pass. -/
theorem Admitted.unused {w : World} (provisioned : Provisioned w) (handlers : HandlersUnder policy w)
    (idle : ∀ o, o.Within w → (w.publishing o).gate = .empty ∧ (w.publishing o).topics.sealed = false ∧
      (w.publishing o).topics.names.Nodup) :
    Admitted policy w 0 := by
  refine ⟨provisioned, handlers, fun n => by simp, fun p member => absurd member (Multiset.notMem_zero p),
    fun o within => ?_, fun o topic _ member => absurd member (Multiset.notMem_zero _), fun o within sealed => ?_,
    fun o within => (idle o within).2.2⟩
  · rw [(idle o within).1]
    exact Gate.Accounts.empty o
  · rw [(idle o within).2.1] at sealed
    cases sealed

/-- A step keeps every name a cache of topics holds, unless it drains the cache. -/
theorem TopicCache.Step.mem {c c' : TopicCache} (step : TopicCache.Step c c') {n : String} (cached : n ∈ c.names) :
    n ∈ c'.names ∨ c' = ⟨[], true⟩ := by
  rcases step with rfl | ⟨name, rfl⟩ | rfl
  · exact .inl cached
  · exact .inl ((c.grows_insert name).1 _ cached)
  · exact .inr rfl

/-- A race from a world that accounts for no pass: a good pool of the protocol
of passes, in which every task starts holding none. -/
theorem admissions_good {m : Machine Job World} {tasks : List RaceTask} (holds : Admitted policy m.world 0)
    (under : ∀ t ∈ tasks, t.Under policy m.world) :
    ∃ accounts, Pool.Good (admissions policy) (Stepped policy) ⟨m, tasks.map RaceTask.start, none⟩ accounts 0 := by
  refine Pool.Good.unshared m _ (fun f listed m' frame related valid => ?_) holds
  obtain ⟨t, member, rfl⟩ := List.mem_map.mp listed
  -- what the task relies on survives the others' steps before it first runs
  exact t.passes ⟨frame, valid⟩ ((under t member).stepped related)

/-- Publishes, subscribes, unsubscribes and shutdowns racing on buses that
provision under one policy, with the background jobs running, from a world where
what is cached exists, every handler publishes under that policy, no gate is in
use and no cache of topics is sealed or holds a topic twice. Then:

* every task keeps the protocol of passes, holding none when it starts, and at
  every point of every run where no task is inside a stretch the world accounts
  for the passes the tasks hold;
* where the world accounts for the passes, the writer inside a publisher's gate
  excludes every reader there, and a reader that found the publisher open keeps
  it open, its cache unsealed and the topic it cached in the cache;
* no step opens a closed publisher again, and a step keeps every cached topic
  unless it drains the cache;
* a publish inside the gate as a reader is refused as shutting down only on a
  publisher it found closed, and one that finds its publisher closed takes no
  step that changes the world, so makes no broker call; otherwise it found the
  publisher open and holds, to its end, the pass of a reader that found it so,
  which names its topic when it succeeds;
* a publish through the gate that succeeds left the gate with its publisher
  still open and its topic cached, and one refused as shutting down left it
  closed;
* closing a publisher ends with it closed, and flushing a closed publisher
  drains its cache and then, whatever the others do meanwhile, flushes each
  topic the cache held exactly once, in the order of the drain, the cache
  staying empty and sealed. -/
theorem admitted_publishes_precede_close {m : Machine Job World} {tasks : List RaceTask}
    (provisioned : Provisioned m.world) (handlers : HandlersUnder policy m.world)
    (idle : ∀ o, o.Within m.world → (m.world.publishing o).gate = .empty ∧
      (m.world.publishing o).topics.sealed = false ∧ (m.world.publishing o).topics.names.Nodup)
    (under : ∀ t ∈ tasks, t.Under policy m.world) :
    (∃ accounts, Pool.Good (admissions policy) (Stepped policy) ⟨m, tasks.map RaceTask.start, none⟩ accounts 0) ∧
    (∀ p, Relation.ReflTransGen (Pool.Step Job.start) ⟨m, tasks.map RaceTask.start, none⟩ p → p.inside = none →
      ∃ passes, Admitted policy p.machine.world passes) ∧
    (∀ w passes o, Admitted policy w passes → o.Within w →
      (Pass.writing o ∈ passes → ∀ p ∈ passes, p.readsAt o = false) ∧
      ∀ t, Pass.opened o t ∈ passes → (w.publishing o).closed = false ∧
        (w.publishing o).topics.sealed = false ∧ ∀ n ∈ t, n ∈ (w.publishing o).topics.names) ∧
    (∀ w w' o, Stepped policy w w' → ((w.publishing o).closed = true → (w'.publishing o).closed = true) ∧
      ∀ n ∈ (w.publishing o).topics.names,
        n ∈ (w'.publishing o).topics.names ∨ (w'.publishing o).topics = ⟨[], true⟩) ∧
    (∀ o topic draft options g w, (w.publishing o).policy = policy →
      (admissions policy).Triple (Stepped policy) ((admissions policy).Holding (g + {.reading o}) (· = w))
        (publishAdmitted o topic draft options).run (Admits policy o topic g w)) ∧
    (∀ o topic draft options, Portable (fun _ _ => False) (Stepped policy) (fun w => (w.publishing o).closed = true)
      (publishAdmitted o topic draft options).run fun r _ => r = .error .shuttingDown) ∧
    (∀ o topic draft options g, (admissions policy).Triple (Stepped policy)
      ((admissions policy).Holding g fun w => (w.publishing o).policy = policy) (publishVia o topic draft options)
      fun r => (admissions policy).Holding g (Saw policy o topic r)) ∧
    (∀ o g, (admissions policy).Triple (Stepped policy) ((admissions policy).Holding g fun _ => True)
      (closePublisher o) fun _ => (admissions policy).Holding g fun w => o.Within w → (w.publishing o).closed = true) ∧
    ∀ o w₀ g, (admissions policy).Triple (Stepped policy)
      ((admissions policy).Holding g fun w => w = w₀ ∧ (o.Within w₀ → (w₀.publishing o).closed = true))
      (flushAll o) fun report => (admissions policy).Holding g fun w =>
        (∃ w₁, Relation.ReflTransGen (Stepped policy) (w₀.modifyPublishing o ({ · with topics := ⟨[], true⟩ })) w₁ ∧
          Broker.FlushesAll (fun _ _ => True) (w₁.broker, ⟨0, []⟩) (w₀.publishing o).topics.drain.1
            (w.broker, report)) ∧
        (o.Within w₀ → ∀ n, ((w₀.publishing o).topics.drain.1.map (·.name)).count n =
          if n ∈ (w₀.publishing o).topics.names then 1 else 0) ∧
        (o.Within w → (w.publishing o).topics = ⟨[], true⟩) := by
  obtain ⟨accounts, good⟩ := admissions_good (Admitted.unused provisioned handlers idle) under
  have others : ∀ w w', Stepped policy w w' → (admissions policy).rely w w' := fun _ _ step => .single step
  refine ⟨⟨accounts, good⟩, fun p run inside => ?_,
    fun w passes o admitted within => ⟨fun writing _ member => admitted.writer_excludes within writing member,
      fun _ member => admitted.open_of_opened within member⟩,
    fun w w' o step => ⟨step.tidy.1.stays_closed o, fun _ cached => (step.tidy.1.topicCache o).mem cached⟩,
    publishAdmitted_admits, publishAdmitted_refused, publishVia_passes, closePublisher_closes, flushAll_passes⟩
  -- the account of a good pool with no task inside a stretch is the invariant on its world
  obtain ⟨_, _, good'⟩ := good.run others jobs_admittedSafe run
  exact ⟨_, good'.idle inside⟩

/-- A publish racing a shutdown of the busy bus: once the publish has entered
its publisher's gate as a reader and waits for its turn, the passes of the tasks
are accounted for. -/
theorem busy_publish_precedes_close :
    ∃ p, Relation.ReflTransGen (Pool.Step Job.start)
        ⟨busyMachine, [RaceTask.request (.call (.publish (.bus 0) "orders" (.ofPayload "order.placed" .null) .none)),
          .shutdown 0].map RaceTask.start, none⟩ p ∧
      p.inside = none ∧ (p.machine.world.publishing (.bus 0)).gate.readers = 1 ∧
      ∃ passes, Admitted .autoProvision p.machine.world passes := by
  let tasks := [RaceTask.request (.call (.publish (.bus 0) "orders" (.ofPayload "order.placed" .null) .none)),
    .shutdown 0]
  have idle : ∀ o, o.Within busyMachine.world → (busyMachine.world.publishing o).gate = .empty ∧
      (busyMachine.world.publishing o).topics.sealed = false ∧ (busyMachine.world.publishing o).topics.names.Nodup := by
    intro o within
    cases o with
    | bus i =>
      obtain rfl : i = 0 := by simpa [Outlet.Within, busyMachine] using within
      simp [World.publishing, bus_busy, busyBus, Publishing.fresh, TopicCache.names]
    | standalone => simp [World.publishing, busyMachine, World.fresh, Publishing.fresh, TopicCache.empty,
      TopicCache.names]
  have under : ∀ t ∈ tasks, t.Under .autoProvision busyMachine.world := by
    intro t member
    simp only [tasks, List.mem_cons, List.not_mem_nil, or_false] at member
    rcases member with rfl | rfl
    · rfl
    · trivial
  -- the publish takes a ticket, is let in at once as a reader, and lets the others move
  have ticket : Pool.Step Job.start ⟨busyMachine, tasks.map RaceTask.start, none⟩ _ := .step (i := 0) rfl (.inl rfl)
  have entered := ((Relation.ReflTransGen.single ticket).tail (.step (i := 0) rfl (.inr rfl))).tail
    (.pause (i := 0) rfl rfl)
  exact ⟨_, entered, rfl, rfl,
    (admitted_publishes_precede_close provisioned_busy handlersUnder_busy idle under).2.1 _ entered rfl⟩

end Courier
