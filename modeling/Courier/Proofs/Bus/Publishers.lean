import Courier.Proofs.Bus.Resolving

namespace Courier

/-! # Publishing through a publisher's gate

A publish passes the gate of its publisher as a reader and closing passes it as
the writer; passing the gate changes the gate and nothing else. A publish that
passes ends with an identifier, or fails: its publisher is closed, its topic is
missing where the policy forbids creating it, or the broker is down or refuses
it. -/

namespace Broker

/-- A publish to an existing topic fails only when the broker is down or
refuses it. -/
theorem publish_error {b : Broker} {topic : String} (present : b.hasTopic topic = true) (data : ByteArray)
    (attributes : List (String × String)) (orderingKey : Option String) {e : GatewayError}
    (failed : (b.publish topic data attributes orderingKey).2.1 = .error e) :
    (∃ reason, e = .unavailable reason) ∨ ∃ reason, e = .rejected reason := by
  obtain ⟨t, found⟩ := Option.isSome_iff_exists.mp present
  cases off : b.faults.unavailable with
  | true =>
    rw [publish_of_unavailable b topic data attributes orderingKey off] at failed
    cases failed
    exact .inl ⟨_, rfl⟩
  | false =>
    cases left : b.budget topic with
    | none =>
      rw [publish_of_unlimited b topic data attributes orderingKey off left,
        appendAndPump_of_found (b.countPublish topic) topic data attributes orderingKey found] at failed
      cases failed
    | some n =>
      cases n with
      | zero =>
        rw [publish_of_spent b topic data attributes orderingKey off left] at failed
        cases failed
        exact .inr ⟨_, rfl⟩
      | succ n =>
        rw [publish_of_budget b topic data attributes orderingKey off left,
          appendAndPump_of_found ((b.countPublish topic).spendBudget topic n) topic data attributes
            orderingKey found] at failed
        cases failed

end Broker

/-- How a publish under `policy` fails: its publisher is closed, its topic is
missing where the policy forbids creating it, or the broker is down or refuses
the publish. -/
def PublishFailure (policy : ProvisioningPolicy) (topic : String) : BusError → Prop
  | .shuttingDown => True
  | .transport _ (.rejected _) => True
  | e => Unresolved policy [topic] [] e

theorem PublishFailure.of_unresolved {policy : ProvisioningPolicy} {topic : String} {e : BusError}
    (unresolved : Unresolved policy [topic] [] e) : PublishFailure policy topic e := by
  cases e with
  | shuttingDown => trivial
  | transport operation source => cases source <;> first | exact unresolved | trivial
  | _ => exact unresolved

variable {R G : World → World → Prop} {policy : ProvisioningPolicy}

/-! Passing the gate. Each rule carries a fact that the others keep and that no
change of the gate, or the ticket taken to queue at it, breaks. -/

section Gate

variable {I : World → Prop} (o : Outlet) (kept : ∀ w w', I w → R w w' → I w')
  (gate : ∀ w g, I w → I (w.modifyPublishing o ({ · with gate := g })))
  (allocate : ∀ w, I w → I w.allocate.1)

include kept gate in
theorem awaitGrant_portable (ticket : Nat) :
    Portable (Change policy false) R I (Prog.awaitGrant o ticket) fun _ => I := by
  unfold Prog.awaitGrant
  refine Portable.await _ _ fun m holds m₁ m₂ _ related ready => ?_
  simp only [Option.map_eq_some_iff] at ready
  obtain ⟨g, _, same⟩ := ready
  cases same
  exact ⟨.inr (.gate _ o g), gate _ g (rely_keeps kept holds related)⟩

include kept gate allocate in
theorem enterRead_portable : Portable (Change policy false) R I (Prog.enterRead o) fun _ => I := by
  unfold Prog.enterRead
  refine Portable.bind (Portable.act (Q := fun _ => I) _ fun w holds => ⟨.inr (.allocate w), allocate w holds⟩)
    fun ticket => ?_
  refine Portable.bind (Portable.act (Q := fun _ => I) _ fun w holds => ⟨.inr (.gate w o _), gate w _ holds⟩)
    fun admitted => ?_
  split
  · exact Portable.bind (awaitGrant_portable o kept gate ticket) fun _ => Portable.yieldNow_keeps kept
  · exact Portable.yieldNow_keeps kept

include kept gate allocate in
theorem enterWrite_portable : Portable (Change policy false) R I (Prog.enterWrite o) fun _ => I := by
  unfold Prog.enterWrite
  refine Portable.bind (Portable.act (Q := fun _ => I) _ fun w holds => ⟨.inr (.allocate w), allocate w holds⟩)
    fun ticket => ?_
  refine Portable.bind (Portable.act (Q := fun _ => I) _ fun w holds => ⟨.inr (.gate w o _), gate w _ holds⟩)
    fun admitted => ?_
  split
  · exact Portable.bind (awaitGrant_portable o kept gate ticket) fun _ => Portable.yieldNow_keeps kept
  · exact Portable.yieldNow_keeps kept

include kept gate in
theorem leave_portable (writer : Bool) : Portable (Change policy false) R I (Prog.leave o writer) fun _ => I := by
  unfold Prog.leave
  refine Portable.bind (Portable.act (Q := fun _ => I) _ fun w holds => ⟨.inr (.gate w o _), gate w _ holds⟩)
    fun granted => ?_
  exact Portable.bind (Portable.forM (I := fun _ => I) granted fun _ _ => Portable.signal (Q := fun _ => I) _)
    fun _ => Portable.yieldNow_keeps kept

include kept gate allocate in
/-- Closing a publisher keeps a fact that setting its flag keeps too. -/
theorem closePublisher_portable (closing : ∀ w, I w → I (w.modifyPublishing o ({ · with closed := true }))) :
    Portable (TableFree policy) R I (closePublisher o) fun _ => I := by
  unfold closePublisher
  refine Portable.bind ((enterWrite_portable o kept gate allocate).widen fun _ _ => TableFree.job) fun _ => ?_
  refine Portable.bind (Portable.alter (Q := fun _ => I) _ fun w holds => ⟨.inr (.closePublisher w o), closing w holds⟩)
    fun _ => ?_
  refine Portable.bind (Portable.yieldNow_keeps kept) fun _ => ?_
  exact (leave_portable o kept gate true).widen fun _ _ => TableFree.job

include kept gate allocate in
theorem enterRead_keeps [Guarantee policy G] : Spec R G I (Prog.enterRead o) fun _ => I :=
  (enterRead_portable o kept gate allocate).spec Guarantee.allows_jobs

include kept gate in
theorem leave_keeps [Guarantee policy G] (writer : Bool) : Spec R G I (Prog.leave o writer) fun _ => I :=
  (leave_portable o kept gate writer).spec Guarantee.allows_jobs

end Gate

theorem enterRead_spec [Guarantee policy G] (o : Outlet) :
    Spec R G (fun _ => True) (Prog.enterRead o) fun _ _ => True :=
  enterRead_keeps o (fun _ _ _ _ => trivial) (fun _ _ _ => trivial) fun _ _ => trivial

theorem leave_spec [Guarantee policy G] (o : Outlet) (writer : Bool) :
    Spec R G (fun _ => True) (Prog.leave o writer) fun _ _ => True :=
  leave_keeps o (fun _ _ _ _ => trivial) (fun _ _ _ => trivial) writer

/-! Publishing. -/

section Publishing

variable (others : ∀ w w', R w w' → Change policy true w w')
include others

/-- A topic resolved under its publisher's policy ends at the broker, with the
handle cached under its name unless the cache is sealed. -/
theorem resolveTopic_portable (o : Outlet) (name : String) :
    Portable (UngatedJob policy) R (fun w => Provisioned w ∧ (w.publishing o).policy = policy)
      (resolveTopic o name).run (Resolves policy [name] [] (TopicResolved o name)) := by
  unfold resolveTopic
  refine Portable.lbind (Q := fun q w => q = policy ∧ Provisioned w)
    ((Portable.view _).conseq (fun _ holds => ⟨holds.2, holds.1⟩) fun _ _ done => done)
    fun q => Portable.assume fun same => ?_
  subst same
  exact (resolveTopicWith_portable others o name (List.mem_singleton_self _)).conseq (fun _ holds => holds)
    fun _ _ done => done

theorem resolveTopic_spec [Guarantee policy G] (o : Outlet) (name : String) :
    Spec R G (fun w => Provisioned w ∧ (w.publishing o).policy = policy)
      (resolveTopic o name).run (Resolves policy [name] [] fun h w => w.broker.hasTopic h.name = true) :=
  ((resolveTopic_portable others o name).spec Guarantee.allows_ungatedJobs).conseq (fun _ holds => holds)
    fun _ _ done => done.mono fun _ _ resolved => resolved.named ▸ resolved.present

/-- Provisioning and the policies of publishers are kept by every change of a
bus task. -/
theorem stable_policed [Guarantee policy G] (o : Outlet) :
    Stable R G fun w => Provisioned w ∧ (w.publishing o).policy = policy :=
  fun w w' holds step =>
    have change : Change policy true w w' := step.elim (others w w') Guarantee.toChange
    ⟨change.provisioned holds.1, (change.steady.policy o).trans holds.2⟩

theorem publishAdmitted_spec [Guarantee policy G] (o : Outlet) (topic : String) (draft : EventDraft)
    (options : PublishOptions) :
    Spec R G (fun w => Provisioned w ∧ (w.publishing o).policy = policy)
      (publishAdmitted o topic draft options).run
      fun r _ => ∀ e, r = .error e → PublishFailure policy topic e := by
  unfold publishAdmitted
  refine Spec.lbind (Q := fun _ w => Provisioned w ∧ (w.publishing o).policy = policy)
    ((Spec.view _).conseq (fun _ holds => holds) fun _ _ done => done) fun p => ?_
  refine Spec.lbind (Spec.yieldNow_keeps fun w w' holds other => stable_policed (G := G) others o w w' holds (.inl other))
    fun _ => ?_
  dsimp only
  split
  · exact (Spec.throw_bind _).conseq (fun _ _ e same => by cases same; trivial) fun _ _ done => done
  · refine Spec.ebind (resolveTopic_spec others o topic) (fun handle => ?_)
      fun e _ unresolved e' same => by cases same; exact .of_unresolved unresolved
    -- no step between the resolution and the publish removes the topic
    have present : ∀ {γ : Type} (f : World → World × γ), (∀ w, Change policy false w (f w).1) →
        Spec R G (fun w => w.broker.hasTopic handle.name = true) (Async.act f)
          fun _ w => w.broker.hasTopic handle.name = true :=
      fun f changes => Spec.act f fun w holds => ⟨.inr (Guarantee.ofJob (changes w)), (changes w).steady.topics _ holds⟩
    refine Spec.lbind (present _ fun w => .mint w) fun _ => ?_
    have clock : Spec R G (fun w => w.broker.hasTopic handle.name = true) (Prog.view (·.clock))
        fun _ w => w.broker.hasTopic handle.name = true :=
      (Spec.view _).conseq (fun _ holds => holds) fun _ _ done => done
    refine Spec.lbind clock fun _ => ?_
    refine Spec.lbind (present _ fun w => .mint w) fun _ => ?_
    refine Spec.lbind (present _ fun w => .mint w) fun _ => ?_
    refine Spec.lbind clock fun _ => ?_
    refine Spec.lbind (Q := fun r _ => ∀ e, r = .error e →
        (∃ reason, e = .unavailable reason) ∨ ∃ reason, e = .rejected reason)
      (Spec.onBroker _ fun w present => ⟨.inr (Guarantee.ofJob (.call w (.publish _ _ _ _) rfl)),
        fun _ _ _ failed => w.broker.publish_error present _ _ _ failed⟩) fun answer => ?_
    refine Spec.ebind (Q := fun r _ => ∀ e, r = .error e → PublishFailure policy topic e)
      ((Spec.transport _ answer).conseq (fun _ refused e same => ?_) fun _ _ done => done)
      (fun id => Spec.lbind (note_spec (Q := fun _ _ => True) _ fun _ _ => trivial)
        fun _ => (Spec.ok id).conseq (fun _ _ _ wrong => by cases wrong) fun _ _ done => done)
      fun e _ failed => failed
    cases answer with
    | ok id => cases same
    | error source =>
      cases same
      rcases refused source rfl with ⟨_, rfl⟩ | ⟨_, rfl⟩ <;> trivial

/-- A publish ends with an identifier or with a failure that `PublishFailure`
allows, whatever the others do while it waits at the gate or for the broker. -/
theorem publishVia_spec [Guarantee policy G] (o : Outlet) (topic : String) (draft : EventDraft)
    (options : PublishOptions) :
    Spec R G (fun w => Provisioned w ∧ (w.publishing o).policy = policy)
      (publishVia o topic draft options) fun r _ => ∀ e, r = .error e → PublishFailure policy topic e := by
  unfold publishVia
  refine Spec.bind (((enterRead_spec o).frame (stable_policed others o)).conseq (fun _ holds => ⟨trivial, holds⟩)
    fun _ _ done => done.2) fun _ => ?_
  refine Spec.bind (publishAdmitted_spec others o topic draft options) fun result => ?_
  refine Spec.bind (((leave_spec o false).frame (F := fun _ => ∀ e, result = .error e → PublishFailure policy topic e)
    fun _ _ holds _ => holds).conseq (fun _ holds => ⟨trivial, holds⟩) fun _ _ done => done.2) fun _ => ?_
  cases result with
  | ok id =>
    dsimp only
    rw [if_neg (by decide)]
    exact Spec.pure (Q := fun (r : Except BusError String) _ => ∀ e, r = .error e → PublishFailure policy topic e) _
  | error e =>
    dsimp only
    rw [if_pos rfl]
    exact Spec.bind (note_spec _ fun _ holds => holds) fun _ => Spec.pure _

end Publishing

end Courier
