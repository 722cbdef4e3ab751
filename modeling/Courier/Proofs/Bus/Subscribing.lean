import Courier.Proofs.Bus.Jobs

namespace Courier

/-! # Subscribing

A subscribe call reserves its name in the table of its bus, resolves the
subscription, opens a delivery channel and starts the loop; if the bus began
shutting down meanwhile, it stops the loop again and closes the subscription.
Its steps change the table and the cache of subscriptions only as a caller
may, and it fails only because the bus is shutting down, the name has a handler
already, or the subscription could not be resolved. -/

namespace Broker

theorem answers_openDelivery (b : Broker) {name : String} (present : b.hasSubscription name = true)
    (limit : Nat) : Answers (fun _ => True) (b.openDelivery name limit).2.1 := by
  obtain ⟨s, found⟩ := (b.hasSubscription_iff name).mp present
  unfold openDelivery
  cases available : b.checkAvailable with
  | error e =>
    obtain ⟨_, rfl⟩ := b.checkAvailable_error available
    trivial
  | ok u =>
    simp only [found]
    trivial

end Broker

/-- How a subscribe under `policy` fails: the bus is shutting down, the name has
a handler already, or its subscription could not be resolved. -/
def SubscribeFailure (policy : ProvisioningPolicy) (name : String) : BusError → Prop
  | .shuttingDown => True
  | .alreadySubscribed n => n = name
  | e => Unresolved policy [] [name] e

theorem SubscribeFailure.of_unresolved {policy : ProvisioningPolicy} {name : String} {e : BusError}
    (unresolved : Unresolved policy [] [name] e) : SubscribeFailure policy name e := by
  cases e with
  | shuttingDown => trivial
  | alreadySubscribed n => cases unresolved
  | _ => exact unresolved

variable {R G : World → World → Prop} {policy : ProvisioningPolicy}

theorem startLoop_portable (bus : Nat) (r : BindRequest) (handle : SubscriptionHandle) (channel limit : Nat) :
    Portable (UngatedJob policy) R (fun _ => True) (startLoop bus r handle channel limit)
      fun active _ => active.handle = handle := by
  unfold startLoop
  refine Portable.bind (Portable.act (Q := fun _ _ => True) _ fun w _ => ⟨.inr (.allocate w), trivial⟩)
    fun id => ?_
  refine Portable.bind (Portable.alter (Q := fun _ _ => True) _ fun w _ => ⟨.inr (.loops w _), trivial⟩)
    fun _ => ?_
  exact Portable.bind ((Portable.task _).conseq (fun _ _ _ => trivial) fun _ _ done => done) fun _ =>
    (Portable.pure _).conseq (fun _ _ => rfl) fun _ _ done => done

theorem startLoop_spec [Guarantee.Ungated policy G] (bus : Nat) (r : BindRequest) (handle : SubscriptionHandle)
    (channel limit : Nat) :
    Spec R G (fun _ => True) (startLoop bus r handle channel limit) fun active _ => active.handle = handle :=
  (startLoop_portable bus r handle channel limit).spec Guarantee.allows_ungatedJobs

theorem closeSubscription_portable (handle : SubscriptionHandle) :
    Portable (Ungated policy) R (fun _ => True) (closeSubscription handle) fun _ _ => True := by
  unfold closeSubscription
  refine Portable.bind (Portable.onBroker (Q := fun _ _ => True) _ fun w _ =>
    ⟨.inr (.call w (.close _)), fun _ _ => trivial⟩) fun answer => ?_
  split <;> exact Portable.pure_true _

theorem closeSubscription_spec [Guarantee.UngatedCaller policy G] (handle : SubscriptionHandle) :
    Spec R G (fun _ => True) (closeSubscription handle) fun _ _ => True :=
  (closeSubscription_portable handle).spec Guarantee.allows_ungated

/-- An unsubscribe takes steps that leave the tables alone, one that detaches a
name that is not reserved from its bus, in the stretch that found it so, and one
that forgets the subscription; then it stops the loop it took and closes the
subscription. -/
theorem unsubscribe_portable {S : World → World → Prop} (free : ∀ w w', Ungated policy w w' → S w w')
    (bus : Nat) (name : String)
    (detach : ∀ w, (w.bus bus).isReserved name = false → S w (w.modifyBus bus fun b =>
      { b.unbind name with registrations := b.registrations.filter (·.subscription != name) }))
    (forget : ∀ w, S w (w.modifyBus bus fun b => { b with subscriptions := (b.subscriptions.remove name).1 })) :
    Portable S R (fun _ => True) (unsubscribe bus name) fun _ _ => True := by
  have jobs : ∀ w w', UngatedJob policy w w' → S w w' := fun w w' change => free w w' (.job change)
  unfold unsubscribe
  refine Portable.bind ((Portable.view (Q := fun b w => b = w.bus bus) _).conseq (fun _ _ => rfl)
    fun _ _ done => done) fun b => ?_
  split
  · exact Portable.pure_true _
  · next unreserved =>
    -- the table is detached in the stretch that read it
    refine Portable.bind (Portable.alter (Q := fun _ _ => True) _ fun w same => ?_) fun _ => ?_
    · subst same
      exact ⟨.inr (detach w (by simpa using unreserved)), trivial⟩
    refine Portable.bind (Portable.yieldNow (Q := fun _ _ => True) fun _ _ _ _ => trivial) fun _ => ?_
    refine Portable.bind (Portable.act (Q := fun _ _ => True) _ fun w _ => ⟨.inr ?_, trivial⟩) fun cached => ?_
    · -- the cache is read and changed in one stretch
      have same : (w.modifyBus bus fun b => { b with subscriptions := ((w.bus bus).subscriptions.remove name).1 }) =
          w.modifyBus bus fun b => { b with subscriptions := (b.subscriptions.remove name).1 } :=
        World.modifyBus_congr w bus rfl
      show S w (w.modifyBus bus fun b => { b with subscriptions := ((w.bus bus).subscriptions.remove name).1 })
      rw [same]
      exact forget w
    refine Portable.bind (Portable.yieldNow (Q := fun _ _ => True) fun _ _ _ _ => trivial) fun _ => ?_
    split
    · exact Portable.bind ((stopLoop_portable _).widen jobs) fun _ => (closeSubscription_portable _).widen free
    · exact (closeSubscription_portable _).widen free
    · exact Portable.pure_true _

/-- An unsubscribe changes its bus's table only as `TableChange` allows, then
stops the loop it took and closes the subscription. -/
theorem unsubscribe_spec [Guarantee.UngatedCaller policy G] (bus : Nat) (name : String) :
    Spec R G (fun _ => True) (unsubscribe bus name) fun _ _ => True :=
  (unsubscribe_portable Guarantee.allows_ungated bus name
    (fun w unreserved => Guarantee.UngatedCaller.table w bus _ (.unsubscribe name unreserved))
    fun w => Guarantee.UngatedCaller.table w bus _ (.forget name)).toSpec

section Resolving

variable (others : ∀ w w', R w w' → Change policy true w w')
include others

theorem openSubscription_portable (bus : Nat) (r : BindRequest) (limit : Nat) :
    Portable (Ungated policy) R (fun w => Provisioned w ∧ (w.bus bus).config.provisioning = policy)
      (openSubscription bus r limit).run
      (Resolves policy [] [r.subscription] fun opened _ => opened.1.name = r.subscription) := by
  have resolved : Portable (Ungated policy) R (fun w => Provisioned w ∧ (w.bus bus).config.provisioning = policy)
      (resolveSubscription bus r.topic r.subscription r.ackDeadline).run
      (Resolves policy [] [r.subscription] fun handle w =>
        handle.name = r.subscription ∧ w.broker.hasSubscription handle.name = true) :=
    (resolveSubscription_portable others bus r.topic r.subscription r.ackDeadline).conseq (fun _ holds => holds)
      fun _ _ done => done.mono fun _ _ held => ⟨held.named, by rw [held.named]; exact held.present⟩
  unfold openSubscription
  refine Portable.ebind resolved (fun handle => Portable.assume fun named => ?_) fun _ _ failed => failed
  refine Portable.lbind (Q := fun answer _ => Answers (fun _ => True) answer)
    (Portable.onBroker _ fun w present => ⟨.inr (.call w (.openDelivery _ _)),
      fun _ _ => w.broker.answers_openDelivery present _⟩) fun answer => ?_
  exact Portable.ebind (Q := Resolves policy [] [r.subscription] fun _ _ => True)
    ((Portable.transport _ answer).conseq (fun _ answered => resolves_transport _ answered) fun _ _ done => done)
    (fun channel => (Portable.ok (Q := Resolves policy [] [r.subscription]
      fun (opened : SubscriptionHandle × Nat) _ => opened.1.name = r.subscription) (handle, channel)).conseq
      (fun _ _ => named) fun _ _ done => done)
    fun _ _ failed => failed

theorem openSubscription_spec [Guarantee.UngatedCaller policy G] (bus : Nat) (r : BindRequest) (limit : Nat) :
    Spec R G (fun w => Provisioned w ∧ (w.bus bus).config.provisioning = policy)
      (openSubscription bus r limit).run
      (Resolves policy [] [r.subscription] fun opened _ => opened.1.name = r.subscription) :=
  (openSubscription_portable others bus r limit).spec Guarantee.allows_ungated

/-- A subscribe fails only as `SubscribeFailure` allows, whatever the others do
meanwhile, and changes its bus's table only as `TableChange` allows. -/
theorem bind_spec [Guarantee.UngatedCaller policy G] (bus : Nat) (r : BindRequest) :
    Spec R G (fun w => Provisioned w ∧ (w.bus bus).config.provisioning = policy)
      (bind bus r) fun result _ => ∀ e, result = .error e → SubscribeFailure policy r.subscription e := by
  have stable : Stable R G fun w => Provisioned w ∧ (w.bus bus).config.provisioning = policy :=
    fun w w' holds step => by
      have change : Change policy true w w' := step.elim (others w w') Guarantee.Ungated.toChange
      exact ⟨change.provisioned holds.1, by rw [change.steady.config bus]; exact holds.2⟩
  unfold Courier.bind
  refine Spec.bind ((Spec.view (Q := fun b w => b = w.bus bus ∧ Provisioned w ∧
    (w.bus bus).config.provisioning = policy) _).conseq (fun _ holds => ⟨rfl, holds⟩) fun _ _ done => done)
    fun b => ?_
  split
  · exact (Spec.pure _).conseq (fun _ _ e same => by cases same; trivial) fun _ _ done => done
  · next accepting =>
    split
    · exact (Spec.pure _).conseq (fun _ _ e same => by cases same; rfl) fun _ _ done => done
    · next unbound =>
      -- the reservation is made in the stretch that found the name free
      refine Spec.bind (Spec.alter (Q := fun _ w => Provisioned w ∧ (w.bus bus).config.provisioning = policy) _
        fun w holds => ?_) fun _ => ?_
      · obtain ⟨rfl, kept⟩ := holds
        exact stable.step kept (Guarantee.UngatedCaller.table w bus _
          (.reserve r.subscription (Option.not_isSome_iff_eq_none.mp unbound) (by simpa using accepting)))
      refine Spec.bind (Spec.yieldNow_keeps fun w w' holds other => stable w w' holds (.inl other)) fun _ => ?_
      dsimp only
      refine Spec.bind (openSubscription_spec others bus r _) fun opened => ?_
      cases opened with
      | error e =>
        -- the reservation goes, and the error is the resolution's
        refine Spec.bind (Spec.alter (Q := fun _ _ => Unresolved policy [] [r.subscription] e) _
          fun w unresolved => ⟨.inr (Guarantee.UngatedCaller.table w bus _ (.release r.subscription)), unresolved⟩)
          fun _ => ?_
        exact (Spec.pure _).conseq (fun _ unresolved e' same => by cases same; exact .of_unresolved unresolved)
          fun _ _ done => done
      | ok opened =>
        obtain ⟨handle, channel⟩ := opened
        refine (Spec.assume (P := fun _ => True) fun named => ?_).conseq (fun _ named => ⟨named, trivial⟩)
          fun _ _ done => done
        refine Spec.bind (startLoop_spec _ _ _ _ _) fun active => ?_
        refine Spec.bind ((Spec.view (Q := fun b' w => b' = w.bus bus ∧ active.handle = handle) _).conseq
          (fun _ started => ⟨rfl, started⟩) fun _ _ done => done) fun b' => ?_
        split
        · next admitted =>
          -- the promotion is made in the stretch that found the reservation in place
          rw [Bool.and_eq_true, Bool.not_eq_true'] at admitted
          refine Spec.bind (Spec.alter (Q := fun _ _ => True) _ fun w holds => ?_) fun _ => ?_
          · obtain ⟨rfl, started⟩ := holds
            exact ⟨.inr (Guarantee.UngatedCaller.table w bus _ (.promote r.subscription active
              ⟨r.topic, r.subscription, r.eventTypes⟩ admitted.1 admitted.2 (by rw [started]; exact named) rfl)),
              trivial⟩
          exact (Spec.pure _).conseq (fun _ _ e same => by cases same) fun _ _ done => done
        · -- the bus began shutting down: the loop stops and the subscription is closed again
          have refused : Spec R G (fun _ => True)
              (do
                Async.yieldNow
                stopLoop active
                Prog.alter fun w => w.modifyBus bus fun b =>
                  { b with subscriptions := (b.subscriptions.remove r.subscription).1 }
                Async.yieldNow
                let _ ← closeSubscription handle
                pure (Except.error BusError.shuttingDown : Except BusError Unit)) fun result _ =>
                  ∀ e, result = .error e → SubscribeFailure policy r.subscription e := by
            refine Spec.bind (Spec.yieldNow (Q := fun _ _ => True) fun _ _ _ _ => trivial) fun _ => ?_
            refine Spec.bind (stopLoop_spec active) fun _ => ?_
            refine Spec.bind (Spec.alter (Q := fun _ _ => True) _ fun w _ =>
              ⟨.inr (Guarantee.UngatedCaller.table w bus _ (.forget r.subscription)), trivial⟩) fun _ => ?_
            refine Spec.bind (Spec.yieldNow (Q := fun _ _ => True) fun _ _ _ _ => trivial) fun _ => ?_
            refine Spec.bind (closeSubscription_spec handle) fun _ => ?_
            exact (Spec.pure _).conseq (fun _ _ e same => by cases same; trivial) fun _ _ done => done
          split
          · next reserved =>
            refine Spec.bind (Spec.alter (Q := fun _ _ => True) _ fun w holds => ?_) fun _ => refused
            obtain ⟨rfl, -⟩ := holds
            exact ⟨.inr (Guarantee.UngatedCaller.table w bus _ (.withdraw r.subscription reserved)), trivial⟩
          · exact refused.conseq (fun _ _ => trivial) fun _ _ done => done

end Resolving

end Courier
