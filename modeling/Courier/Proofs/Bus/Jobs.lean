import Courier.Proofs.Bus.Publishers

namespace Courier

/-! # What background jobs do to the world

Jobs watch leases, run delivery loops, dispatch deliveries to handlers and stop
loops. Every step they take is a change a background job may make: broker calls
of their own kind, a handler's publish, and the bookkeeping of loops, handlers
and metrics. They open, close and flush nothing, create no subscription and
cache none. -/

/-- Every handler publishes through a publisher that provisions under `policy`. -/
def HandlersUnder (policy : ProvisioningPolicy) (w : World) : Prop :=
  ∀ h ∈ w.handlers, (w.publishing (.bus h.bus)).policy = policy

theorem Steady.handlersUnder {policy : ProvisioningPolicy} {w w' : World} (steady : Steady w w')
    (holds : HandlersUnder policy w) : HandlersUnder policy w' := by
  intro h member
  have mapped : h.bus ∈ w.handlers.map (·.bus) := steady.handlers ▸ List.mem_map_of_mem member
  obtain ⟨h₀, member₀, same⟩ := List.mem_map.mp mapped
  rw [steady.policy, ← same]
  exact holds h₀ member₀

variable {R G : World → World → Prop} {policy : ProvisioningPolicy}

/-! Steps of jobs. -/

theorem call_portable (c : BrokerCall) (byJob : c.byJob = true) {α : Type}
    {call : Broker → Broker × α × List Notice}
    (same : ∀ b, (call b).1 = c.apply b) :
    Portable (UngatedJob policy) R (fun _ => True) (Prog.onBroker call) fun _ _ => True :=
  Portable.onBroker _ fun w _ => ⟨.inr (by rw [same]; exact .call w c byJob), fun _ _ => trivial⟩

theorem call_spec [Guarantee.Ungated policy G] (c : BrokerCall) (byJob : c.byJob = true) {α : Type}
    {call : Broker → Broker × α × List Notice}
    (same : ∀ b, (call b).1 = c.apply b) :
    Spec R G (fun _ => True) (Prog.onBroker call) fun _ _ => True :=
  (call_portable c byJob same).spec Guarantee.allows_ungatedJobs

theorem loops_portable (loop : Nat) (f : LoopState → LoopState) :
    Portable (UngatedJob policy) R (fun _ => True) (Prog.alter fun w => w.modifyLoop loop f) fun _ _ => True :=
  Portable.alter _ fun w _ => ⟨.inr (.loops w _), trivial⟩

theorem loops_spec [Guarantee.Ungated policy G] (loop : Nat) (f : LoopState → LoopState) :
    Spec R G (fun _ => True) (Prog.alter fun w => w.modifyLoop loop f) fun _ _ => True :=
  (loops_portable loop f).spec Guarantee.allows_ungatedJobs

theorem task_spec [Guarantee.Ungated policy G] {α : Type} (f : Tasking Job → Tasking Job × α) :
    Spec R G (fun _ => True) (Async.task f) fun _ _ => True :=
  (Spec.task f).conseq (fun _ _ _ => trivial) fun _ _ done => done

theorem now_spec [Guarantee.Ungated policy G] : Spec R G (fun _ => True) (Async.now : Prog Nat) fun _ _ => True :=
  Spec.now.conseq (fun _ _ _ => trivial) fun _ _ done => done

theorem await_still [Guarantee.Ungated policy G] {α : Type} (poll : Machine Job World → Option (Machine Job World × α))
    (keys : List Key)
    (still : ∀ m₁ m₂ a, poll m₁ = some (m₂, a) → m₂.world = m₁.world) :
    Spec R G (fun _ => True) (Async.await poll keys) fun _ _ => True :=
  Spec.await poll keys fun _ _ m₁ m₂ a _ ready => ⟨.inl (still m₁ m₂ a ready), trivial⟩

/-! Watching a lease. -/

theorem awaitReply_spec [Guarantee.Ungated policy G] (slot : Nat) (deadline : Option Nat) :
    Spec R G (fun _ => True) (awaitReply slot deadline) fun _ _ => True := by
  unfold awaitReply
  cases deadline with
  | none =>
    refine Spec.bind (Spec.ask (Q := fun _ _ => True) _) fun answer => ?_
    split
    · exact Spec.pure_true _
    · refine await_still _ _ fun m₁ m₂ a ready => ?_
      simp only [Option.map_eq_some_iff] at ready
      obtain ⟨_, _, same⟩ := ready
      cases same
      rfl
  | some deadline =>
    refine Spec.bind (Spec.ask (Q := fun _ _ => True) _) fun answer => ?_
    split
    · exact Spec.pure_true _
    · refine Spec.bind now_spec fun now => ?_
      split
      · exact Spec.pure_true _
      · refine Spec.bind (task_spec _) fun key => await_still _ _ fun m₁ m₂ a ready => ?_
        split at ready
        · cases ready
          rfl
        · split at ready
          · cases ready
            rfl
          · cases ready

theorem watchLease_spec [Guarantee.Ungated policy G] (l : Lease) :
    Spec R G (fun _ => True) (watchLease l) fun _ _ => True := by
  unfold watchLease
  refine Spec.bind now_spec fun start => ?_
  refine Spec.bind (awaitReply_spec _ _) fun reply => ?_
  refine Spec.bind (Spec.alter (Q := fun _ _ => True) _ fun w _ =>
    ⟨.inr (Guarantee.Ungated.ofJob (.call w (.forgetSlot l.slot) rfl)), trivial⟩) fun _ => ?_
  split
  · exact call_spec (.acknowledge _ _) rfl fun _ => rfl
  · refine Spec.bind (Spec.ask (Q := fun _ _ => True) _) fun plan => ?_
    split
    · exact Spec.pure_true ()
    · exact call_spec (.deadLetter _ _ _) rfl fun _ => rfl
    · refine Spec.bind (call_spec (.beginBackoff _) rfl fun _ => rfl) fun _ => ?_
      refine Spec.bind (Spec.sleep (Q := fun _ _ => True) _ fun _ _ _ _ => trivial) fun _ => ?_
      exact call_spec (.endBackoff _ _) rfl fun _ => rfl

/-! Running a delivery loop. -/

theorem reapDispatches_spec [Guarantee.Ungated policy G] (loop : Nat) :
    Spec R G (fun _ => True) (reapDispatches loop) fun _ _ => True := by
  unfold reapDispatches
  refine Spec.bind (Spec.update (Q := fun _ _ => True) _ fun m _ => ⟨?_, trivial⟩) fun ended => ?_
  · split
    · exact .inl rfl
    · exact .inr (Guarantee.Ungated.ofJob (.loops _ _))
  · refine Spec.bind (Spec.view (Q := fun _ _ => True) _) fun found => ?_
    split
    · refine Spec.bind (Spec.forM (I := fun _ _ => True) ended fun item _ => ?_) fun _ => Spec.pure_true _
      obtain ⟨_, crashed⟩ := item
      dsimp only
      split
      · exact note_spec _ fun _ _ => trivial
      · exact Spec.pure_true ()
    · exact Spec.pure_true _

theorem awaitPermit_spec [Guarantee.Ungated policy G] (loop : Nat) :
    Spec R G (fun _ => True) (awaitPermit loop) fun _ _ => True := by
  unfold awaitPermit
  refine Spec.await _ _ fun _ _ m₁ m₂ _ _ ready => ⟨?_, trivial⟩
  split at ready
  · cases ready
    exact .inl rfl
  · split at ready
    · cases ready
      exact .inl rfl
    · split at ready
      · cases ready
        exact .inr (Guarantee.Ungated.ofJob (.loops _ _))
      · cases ready

theorem awaitDelivery_spec [Guarantee.Ungated policy G] (loop channel : Nat) :
    Spec R G (fun _ => True) (awaitDelivery loop channel) fun _ _ => True := by
  unfold awaitDelivery
  refine Spec.await _ _ fun _ _ m₁ m₂ _ _ ready => ⟨?_, trivial⟩
  split at ready
  · cases ready
    exact .inl rfl
  · split at ready
    · cases ready
      exact .inl rfl
    · split at ready
      · next received =>
        cases ready
        exact .inr (Guarantee.Ungated.ofJob (.receive _ received))
      · cases ready
        exact .inl rfl
      · cases ready

/-- A turn of a delivery loop takes only the steps of a job. -/
theorem receiveTurn_spec [Guarantee.Ungated policy G] (loop channel : Nat) :
    Spec R G (fun _ => True) (receiveTurn loop channel) fun _ _ => True := by
  unfold receiveTurn
  refine Spec.bind (reapDispatches_spec loop) fun _ => ?_
  refine Spec.bind (awaitPermit_spec loop) fun event => ?_
  split
  · refine Spec.bind (awaitDelivery_spec loop channel) fun event => ?_
    split
    · exact Spec.bind (task_spec _) fun _ => Spec.bind (loops_spec _ _) fun _ => Spec.pure_true _
    · exact Spec.bind (loops_spec _ _) fun _ => Spec.pure_true _
  · exact Spec.pure_true _

theorem drainTurn_spec [Guarantee.Ungated policy G] (loop : Nat) (deadline timer : Option Nat) :
    Spec R G (fun _ => True) (drainTurn loop deadline timer) fun _ _ => True := by
  unfold drainTurn
  refine Spec.bind (reapDispatches_spec loop) fun _ => ?_
  refine Spec.bind (Spec.view (Q := fun _ _ => True) _) fun pending => ?_
  refine Spec.bind now_spec fun now => ?_
  split
  · split
    · exact Spec.bind (task_spec _) fun _ => Spec.pure_true _
    · exact Spec.pure_true _
  · split
    · exact Spec.bind (loops_spec _ _) fun _ => Spec.pure_true _
    · -- the wait for the tasks or the deadline changes nothing but the bookkeeping of tasks
      have wait : ∀ armed, Spec R G (fun _ => True)
          (do
            Async.await (fun m =>
              if (deadline.any (fun d => decide (d ≤ m.tasking.now)) ||
                  pending.any fun t => (m.tasking.endOf? t).isSome) = true then some (m, ()) else none)
              (pending.map Key.task ++ (armed : Option Nat).toList.map Key.timer)
            pure (some armed) : Prog (Option (Option Nat))) fun _ _ => True := fun armed =>
        Spec.bind (await_still _ _ fun m₁ m₂ a ready => by
          split at ready
          · cases ready
            rfl
          · cases ready) fun _ => Spec.pure_true _
      split
      · exact Spec.bind (Spec.pure_true _) fun _ => wait _
      · exact Spec.bind (Spec.bind (task_spec _) fun _ => Spec.pure_true _) fun _ => wait _
      · exact Spec.bind (Spec.pure_true _) fun _ => wait _

theorem runLoop_spec [Guarantee.Ungated policy G] (loop : Nat) :
    Spec R G (fun _ => True) (runLoop loop) fun _ _ => True := by
  unfold runLoop
  refine Spec.bind (Spec.view (Q := fun _ _ => True) _) fun found => ?_
  cases found with
  | none => exact Spec.pure_true ()
  | some l =>
    dsimp only
    refine Spec.bind (receiveTurn_spec loop l.channel) fun more => ?_
    split
    · exact Spec.again _
    · refine Spec.bind (Spec.alter (Q := fun _ _ => True) _ fun w _ =>
        ⟨.inr (Guarantee.Ungated.ofJob (.call w (.closeReceiver l.channel) rfl)), trivial⟩) fun _ => ?_
      exact Spec.bind now_spec fun _ => Spec.again _

theorem drainLoop_spec [Guarantee.Ungated policy G] (loop : Nat) (deadline timer : Option Nat) :
    Spec R G (fun _ => True) (drainLoop loop deadline timer) fun _ _ => True := by
  unfold drainLoop
  refine Spec.bind (drainTurn_spec loop deadline timer) fun next => ?_
  split
  · exact Spec.again _
  · refine Spec.bind (Spec.view (Q := fun _ _ => True) _) fun found => ?_
    cases found with
    | none => exact Spec.pure_true ()
    | some l => exact call_spec (.dropReceiver l.channel) rfl fun _ => rfl

theorem stopLoop_portable (a : ActiveSubscription) :
    Portable (UngatedJob policy) R (fun _ => True) (stopLoop a) fun _ _ => True := by
  unfold stopLoop Prog.raiseStop
  refine Portable.bind (Portable.bind (loops_portable _ _) fun _ => Portable.signal (Q := fun _ _ => True) _)
    fun _ => ?_
  exact Portable.bind (Portable.joinTask (Q := fun _ _ => True) _ fun _ _ _ _ _ => trivial) fun _ =>
    Portable.pure_true ()

theorem stopLoop_spec [Guarantee.Ungated policy G] (a : ActiveSubscription) :
    Spec R G (fun _ => True) (stopLoop a) fun _ _ => True :=
  (stopLoop_portable a).spec Guarantee.allows_ungatedJobs

/-! Dispatching a delivery. -/

theorem releasePermit_portable (loop : Nat) :
    Portable (UngatedJob policy) R (fun _ => True) (releasePermit loop) fun _ _ => True :=
  Portable.bind (loops_portable _ _) fun _ => Portable.signal (Q := fun _ _ => True) _

theorem settleDelivery_portable (subscription : String) (d : Delivery) (outcome : DeliveryOutcome) (reply : Reply) :
    Portable (UngatedJob policy) R (fun _ => True) (settleDelivery subscription d outcome reply) fun _ _ => True :=
  Portable.bind (note_portable _ fun _ _ => trivial) fun _ => call_portable (.settle _ _) rfl fun _ => rfl

theorem finishDispatch_portable (loop : Nat) :
    Portable (UngatedJob policy) R (fun _ => True) (finishDispatch loop) fun _ _ => True :=
  Portable.bind (note_portable _ fun _ _ => trivial) fun _ => releasePermit_portable loop

theorem settleHandled_portable (loop : Nat) (subscription : String) (d : Delivery) (outcome : HandlerOutcome) :
    Portable (UngatedJob policy) R (fun _ => True) (settleHandled loop subscription d outcome) fun _ _ => True := by
  cases outcome with
  | succeeded => exact Portable.bind (settleDelivery_portable _ _ _ _) fun _ => finishDispatch_portable loop
  | failed => exact Portable.bind (settleDelivery_portable _ _ _ _) fun _ => finishDispatch_portable loop
  | panicked =>
    exact Portable.bind (note_portable _ fun _ _ => trivial) fun _ =>
      Portable.bind (call_portable (.settle _ _) rfl fun _ => rfl) fun _ =>
        Portable.bind (releasePermit_portable loop) fun _ => Portable.crash

theorem settleDelivery_spec [Guarantee.Ungated policy G] (subscription : String) (d : Delivery) (outcome : DeliveryOutcome)
    (reply : Reply) :
    Spec R G (fun _ => True) (settleDelivery subscription d outcome reply) fun _ _ => True :=
  (settleDelivery_portable subscription d outcome reply).spec Guarantee.allows_ungatedJobs

theorem finishDispatch_spec [Guarantee.Ungated policy G] (loop : Nat) :
    Spec R G (fun _ => True) (finishDispatch loop) fun _ _ => True :=
  (finishDispatch_portable loop).spec Guarantee.allows_ungatedJobs

theorem settleHandled_spec [Guarantee.Ungated policy G] (loop : Nat) (subscription : String) (d : Delivery)
    (outcome : HandlerOutcome) :
    Spec R G (fun _ => True) (settleHandled loop subscription d outcome) fun _ _ => True :=
  (settleHandled_portable loop subscription d outcome).spec Guarantee.allows_ungatedJobs

section Handlers

variable (others : ∀ w w', R w w' → Change policy true w w')
include others

theorem stable_handlers [Guarantee.Ungated policy G] (bus : Nat) :
    Stable R G fun w => Provisioned w ∧ (w.publishing (.bus bus)).policy = policy :=
  fun w w' holds step => by
    have change : Change policy true w w' := step.elim (others w w') Guarantee.Ungated.toChange
    exact ⟨change.provisioned holds.1, (change.steady.policy _).trans holds.2⟩

theorem stable_jobs [Guarantee.Ungated policy G] : Stable R G fun w => Provisioned w ∧ HandlersUnder policy w :=
  fun w w' holds step => by
    have change : Change policy true w w' := step.elim (others w w') Guarantee.Ungated.toChange
    exact ⟨change.provisioned holds.1, change.steady.handlersUnder holds.2⟩

/-- A handler's call publishes, if it does, through the publisher of its bus. -/
theorem runScript_spec [Guarantee policy G] (handler : Nat) (event : ReceivedEvent) :
    Spec R G (fun w => Provisioned w ∧ HandlersUnder policy w) (runScript handler event)
      fun _ _ => True := by
  unfold runScript
  refine Spec.bind (Q := fun found w => ∀ h, found = some h →
      Provisioned w ∧ (w.publishing (.bus h.bus)).policy = policy)
    ((Spec.view _).conseq (fun w holds h found => ⟨holds.1, holds.2 h (List.mem_of_getElem? found)⟩)
      fun _ _ done => done) fun found => ?_
  cases found with
  | none => exact Spec.pure_true _
  | some h =>
    dsimp only
    have stable : Stable R G _ := stable_handlers others h.bus
    refine Spec.bind ((now_spec.keep stable).conseq (fun _ holds => holds h rfl) fun _ _ done => done)
      fun now => ?_
    refine Spec.bind (Spec.alter (Q := fun _ w => Provisioned w ∧ (w.publishing (.bus h.bus)).policy = policy) _
      fun w holds => ⟨.inr (Guarantee.Ungated.ofJob (.handle _ _ _ _)), stable _ _ holds (.inr (Guarantee.Ungated.ofJob (.handle _ _ _ _)))⟩) fun _ => ?_
    split
    -- with or without the sleep, the call may publish and then answers its verdict
    on_goal 1 =>
      refine Spec.bind (Spec.sleep (Q := fun _ w => Provisioned w ∧ (w.publishing (.bus h.bus)).policy = policy) _
        fun _ _ holds related => stable.rely holds related) fun _ => ?_
    all_goals
      split
      · exact Spec.bind (Spec.pure_true _) fun _ => by split <;> exact Spec.pure_true _
      · refine Spec.bind ((publishVia_spec others _ _ _ _).conseq (fun _ holds => holds) fun _ _ _ => trivial)
          fun answer => ?_
        split <;> exact Spec.bind (Spec.pure_true _) fun _ => by split <;> exact Spec.pure_true _

theorem dispatchDelivery_spec [Guarantee policy G] (loop : Nat) (d : Delivery) :
    Spec R G (fun w => Provisioned w ∧ HandlersUnder policy w) (dispatchDelivery loop d)
      fun _ _ => True := by
  have stable : Stable R G _ := stable_jobs others
  unfold dispatchDelivery
  refine Spec.bind (Spec.view (Q := fun _ w => Provisioned w ∧ HandlersUnder policy w) _) fun found => ?_
  cases found with
  | none => exact Spec.pure_true ()
  | some l =>
    dsimp only
    refine Spec.bind ((note_spec _ fun _ _ => trivial).keep stable) fun _ => ?_
    -- an undecodable or filtered delivery is settled at once, the others go to the handler
    have settled : ∀ outcome reply, Spec R G
        (fun w => Provisioned w ∧ HandlersUnder policy w)
        (do settleDelivery l.handle.name d outcome reply; finishDispatch loop) fun _ _ => True :=
      fun _ _ => Spec.bind ((settleDelivery_spec _ _ _ _).keep stable) fun _ =>
        (finishDispatch_spec loop).conseq (fun _ _ => trivial) fun _ _ done => done
    have handled : ∀ event, Spec R G (fun w => Provisioned w ∧ HandlersUnder policy w)
        (do
          Prog.note fun x => x.handlerStarted l.handle.name
          let outcome ← runScript l.handler event
          Prog.note fun x => x.handlerEnded l.handle.name
          settleHandled loop l.handle.name d outcome) fun _ _ => True := fun event => by
      refine Spec.bind ((note_spec _ fun _ _ => trivial).keep stable) fun _ => ?_
      refine Spec.bind ((runScript_spec others _ _).frame stable |>.conseq (fun _ holds => ⟨holds, holds⟩)
        fun _ _ done => done.2) fun outcome => ?_
      refine Spec.bind ((note_spec _ fun _ _ => trivial).keep stable) fun _ => ?_
      exact (settleHandled_spec loop _ d outcome).conseq (fun _ _ => trivial) fun _ _ done => done
    split
    · exact settled _ _
    · split <;> split <;> first | exact settled _ _ | exact handled _

/-- Every step of every job is a step a background job may take. -/
theorem program_spec [Guarantee policy G] (job : Job) :
    Spec R G (fun w => Provisioned w ∧ HandlersUnder policy w) job.program
      fun _ _ => True := by
  cases job with
  | watch lease => exact (watchLease_spec lease).conseq (fun _ _ => trivial) fun _ _ done => done
  | deliver loop => exact (runLoop_spec loop).conseq (fun _ _ => trivial) fun _ _ done => done
  | drain loop deadline timer => exact (drainLoop_spec loop deadline timer).conseq (fun _ _ => trivial) fun _ _ done => done
  | dispatch loop d => exact dispatchDelivery_spec others loop d
  | stop active => exact (stopLoop_spec active).conseq (fun _ _ => trivial) fun _ _ done => done

end Handlers

end Courier
