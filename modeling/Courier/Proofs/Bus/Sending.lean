import Courier.Proofs.Bus.Outbound
import Courier.Proofs.Bus.Caching
import Courier.Proofs.Broker.Publishing
import Courier.Proofs.Bus.Steps

namespace Courier

/-! # What a publish stores and counts

A publish run alone, no other task moving while it waits, ends in one of two
ways. It answers an id: one message, carrying the draft stamped with the
identifiers minted for it, is stored under that id on its topic and nowhere
else, and the stamped event type is counted once as published to the topic. Or
it fails: nothing is stored or counted as published, one failure is counted for
the topic, and the error says why. The publisher was closed, the topic was
missing where the policy forbids creating it, or a call to the broker failed,
and then the error names that call and carries the broker's answer unchanged.

A batch publishes its drafts in turn, each as a publish of its own with no
options, and stops at the first failure: the drafts before it are stored, in
order, and no others. -/

namespace Metrics

/-- How many messages of a type were counted as published to a topic. -/
def published (m : Metrics) (topic eventType : String) : Nat := m.count .published [eventType, topic]

/-- How many publishes to a topic were counted as failed. -/
def publishFailures (m : Metrics) (topic : String) : Nat := m.count .publishFailures [topic]

variable (m : Metrics) (topic eventType t ty : String)

@[simp] theorem published_notePublished :
    (m.notePublished topic eventType).published t ty =
      m.published t ty + if t = topic ∧ ty = eventType then 1 else 0 := by
  simp [published, notePublished, bump, count_add, and_comm]

@[simp] theorem publishFailures_notePublished :
    (m.notePublished topic eventType).publishFailures t = m.publishFailures t := by
  simp [publishFailures, notePublished, bump, count_add]

@[simp] theorem published_notePublishFailure :
    (m.notePublishFailure topic).published t ty = m.published t ty := by
  simp [published, notePublishFailure, bump, count_add]

@[simp] theorem publishFailures_notePublishFailure :
    (m.notePublishFailure topic).publishFailures t = m.publishFailures t + if t = topic then 1 else 0 := by
  simp [publishFailures, notePublishFailure, bump, count_add]

@[simp] theorem published_noteProvisioned (kind : String) :
    (m.noteProvisioned kind).published t ty = m.published t ty := by
  simp [published, noteProvisioned, bump, count_add]

@[simp] theorem publishFailures_noteProvisioned (kind : String) :
    (m.noteProvisioned kind).publishFailures t = m.publishFailures t := by
  simp [publishFailures, noteProvisioned, bump, count_add]

end Metrics

namespace World

variable (w : World) (o : Outlet) (f : Publishing → Publishing)

@[simp] theorem metrics_modifyPublishing : (w.modifyPublishing o f).metrics = w.metrics := by
  cases o <;> rfl

@[simp] theorem minted_modifyPublishing : (w.modifyPublishing o f).minted = w.minted := by
  cases o <;> rfl

@[simp] theorem clock_modifyPublishing : (w.modifyPublishing o f).clock = w.clock := by
  cases o <;> rfl

end World

namespace Broker

variable (b : Broker) (name : String)

@[simp] theorem messagesOf_countTopicExists (t : String) :
    b.countTopicExists.messagesOf t = b.messagesOf t := rfl

theorem messagesOf_topicExists (t : String) : (b.topicExists name).1.messagesOf t = b.messagesOf t := by
  unfold topicExists
  split
  · rfl
  · split
    · exact messagesOf_addTopic _ name t
    · rfl

/-- An existence check that fails leaves the broker as it was. -/
theorem topicExists_of_error {src : GatewayError} (failed : (b.topicExists name).2 = .error src) :
    b.topicExists name = (b, .error src) := by
  unfold topicExists at failed ⊢
  split
  · next down =>
    rw [down] at failed
    cases failed
    rfl
  · next up =>
    rw [up] at failed
    dsimp only at failed
    split at failed <;> cases failed

theorem messagesOf_createTopic (t : String) : (b.createTopic name).1.messagesOf t = b.messagesOf t := by
  unfold createTopic
  dsimp only
  split
  · rfl
  · split
    · rfl
    · exact messagesOf_addTopic _ name t

/-- A handle is given only for a topic the broker has. -/
theorem hasTopic_of_topicHandle (handled : b.topicHandle name = .ok ()) : b.hasTopic name = true := by
  cases present : b.hasTopic name
  · unfold topicHandle at handled
    cases available : b.checkAvailable <;> simp only [available, present] at handled <;> cases handled
  · rfl

end Broker

/-! ## Steps beside what a publish is judged by -/

/-- The publisher behind `o` keeps its service name, policy and closing, and the
clock stands. -/
structure Unmoved (o : Outlet) (w₀ w : World) : Prop where
  serviceName : (w.publishing o).serviceName = (w₀.publishing o).serviceName
  policy : (w.publishing o).policy = (w₀.publishing o).policy
  closed : (w.publishing o).closed = (w₀.publishing o).closed
  clock : w.clock = w₀.clock

theorem Unmoved.refl (o : Outlet) (w : World) : Unmoved o w w := ⟨rfl, rfl, rfl, rfl⟩

theorem Unmoved.trans {o : Outlet} {w₁ w₂ w₃ : World} (first : Unmoved o w₁ w₂) (second : Unmoved o w₂ w₃) :
    Unmoved o w₁ w₃ :=
  ⟨second.serviceName.trans first.serviceName, second.policy.trans first.policy,
    second.closed.trans first.closed, second.clock.trans first.clock⟩

/-- A change of a publisher that keeps its name, policy and closing moves no
publisher in what `Unmoved` keeps. -/
theorem unmoved_modifyPublishing (o o' : Outlet) (w : World) {f : Publishing → Publishing}
    (keeps : ∀ p, (f p).serviceName = p.serviceName ∧ (f p).policy = p.policy ∧ (f p).closed = p.closed) :
    Unmoved o w (w.modifyPublishing o' f) := by
  rcases World.publishing_modifyPublishing w o' o f with same | ⟨-, changed⟩
  · exact ⟨by rw [same], by rw [same], by rw [same], by simp⟩
  · exact ⟨by rw [changed, (keeps _).1], by rw [changed, (keeps _).2.1], by rw [changed, (keeps _).2.2], by simp⟩

/-- A step beside what a publish does: the broker, the metrics and the count of
identifiers minted stay, and so does what `Unmoved` keeps. Passing a gate, and
taking a ticket to queue at it, are such steps. -/
structure Beside (o : Outlet) (w w' : World) : Prop extends Unmoved o w w' where
  broker : w'.broker = w.broker
  metrics : w'.metrics = w.metrics
  minted : w'.minted = w.minted

namespace Beside

variable {o : Outlet}

theorem refl (w : World) : Beside o w w := ⟨.refl o w, rfl, rfl, rfl⟩

theorem trans {w₁ w₂ w₃ : World} (first : Beside o w₁ w₂) (second : Beside o w₂ w₃) : Beside o w₁ w₃ :=
  ⟨first.toUnmoved.trans second.toUnmoved, second.broker.trans first.broker,
    second.metrics.trans first.metrics, second.minted.trans first.minted⟩

theorem gate (w : World) (o' : Outlet) (g : Gate) : Beside o w (w.modifyPublishing o' ({ · with gate := g })) :=
  ⟨unmoved_modifyPublishing o o' w fun _ => ⟨rfl, rfl, rfl⟩, by simp, by simp, by simp⟩

theorem allocate (w : World) : Beside o w w.allocate.1 := ⟨⟨rfl, rfl, rfl, rfl⟩, rfl, rfl, rfl⟩

end Beside

/-- Nothing that a publish through `o` is judged by has moved from `w₀` to `w`:
the messages stored on each topic, the counts of publishes and of failures, and
what `Unmoved` keeps. -/
structure Untouched (o : Outlet) (w₀ w : World) : Prop extends Unmoved o w₀ w where
  stored : ∀ t, w.broker.messagesOf t = w₀.broker.messagesOf t
  published : ∀ t ty, w.metrics.published t ty = w₀.metrics.published t ty
  failures : ∀ t, w.metrics.publishFailures t = w₀.metrics.publishFailures t

namespace Untouched

variable {o : Outlet} {w₀ w : World}

theorem of_beside (beside : Beside o w₀ w) : Untouched o w₀ w :=
  ⟨beside.toUnmoved, fun _ => by rw [beside.broker], fun _ _ => by rw [beside.metrics],
    fun _ => by rw [beside.metrics]⟩

theorem beside {w' : World} (holds : Untouched o w₀ w) (beside : Beside o w w') : Untouched o w₀ w' :=
  ⟨holds.toUnmoved.trans beside.toUnmoved, fun t => by rw [beside.broker, holds.stored],
    fun t ty => by rw [beside.metrics, holds.published], fun t => by rw [beside.metrics, holds.failures]⟩

/-- A change of the broker that keeps the messages of every topic. -/
theorem broker (holds : Untouched o w₀ w) {b : Broker} (stored : ∀ t, b.messagesOf t = w.broker.messagesOf t) :
    Untouched o w₀ { w with broker := b } :=
  ⟨⟨holds.serviceName, holds.policy, holds.closed, holds.clock⟩, fun t => (stored t).trans (holds.stored t),
    holds.published, holds.failures⟩

theorem provisioned (holds : Untouched o w₀ w) (kind : String) :
    Untouched o w₀ { w with metrics := w.metrics.noteProvisioned kind } :=
  ⟨⟨holds.serviceName, holds.policy, holds.closed, holds.clock⟩, holds.stored,
    fun t ty => by simp [holds.published], fun t => by simp [holds.failures]⟩

theorem cacheTopic (holds : Untouched o w₀ w) (o' : Outlet) (name : String) :
    Untouched o w₀ (w.cacheTopic o' name).1 := by
  have allocated : Unmoved o w w.allocate.1 := ⟨rfl, rfl, rfl, rfl⟩
  rw [World.cacheTopic_fst]
  exact ⟨(holds.toUnmoved.trans allocated).trans (unmoved_modifyPublishing o o' _ fun _ => ⟨rfl, rfl, rfl⟩),
    fun t => by simpa [World.allocate] using holds.stored t,
    fun t ty => by simpa [World.allocate] using holds.published t ty,
    fun t => by simpa [World.allocate] using holds.failures t⟩

end Untouched

/-! ## How a publish ends -/

/-- Why a publish through a publisher `p` of `message` to `topic` failed, read off
its error and the broker it left: the publisher was closed; the topic was
missing and `p`'s policy forbids creating it; or a call to the broker failed, and
the error names that call and carries the broker's answer to it unchanged, the
call having left the broker as it is. -/
inductive PublishRefusal (p : Publishing) (topic : String) (message : WireMessage) (options : PublishOptions)
    (b : Broker) : BusError → Prop
  | closed : p.closed = true → PublishRefusal p topic message options b .shuttingDown
  | missing : p.policy.allowsCreate = false → PublishRefusal p topic message options b (.topicNotFound topic)
  | topicExists {src : GatewayError} : b.topicExists topic = (b, .error src) →
      PublishRefusal p topic message options b (.transport "topic_exists" src)
  | createTopic {before : Broker} {src : GatewayError} : before.createTopic topic = (b, .error src) →
      PublishRefusal p topic message options b (.transport "create_topic" src)
  | topicHandle {src : GatewayError} : b.topicHandle topic = .error src →
      PublishRefusal p topic message options b (.transport "topic_handle" src)
  | publish {before : Broker} {sent : StoredMessage} {src : GatewayError} : Carries sent message options →
      (before.publish topic sent.data sent.attributes sent.orderingKey).1 = b →
      (before.publish topic sent.data sent.attributes sent.orderingKey).2.1 = .error src →
      PublishRefusal p topic message options b (.transport "publish" src)

theorem PublishRefusal.of_same {p p' : Publishing} {topic : String} {message : WireMessage} {options : PublishOptions}
    {b : Broker} {e : BusError} (refusal : PublishRefusal p topic message options b e) (closed : p'.closed = p.closed)
    (policy : p'.policy = p.policy) : PublishRefusal p' topic message options b e := by
  cases refusal with
  | closed shut => exact .closed (closed.trans shut)
  | missing forbidden => exact .missing (policy ▸ forbidden)
  | topicExists failed => exact .topicExists failed
  | createTopic failed => exact .createTopic failed
  | topicHandle failed => exact .topicHandle failed
  | publish carries left failed => exact .publish carries left failed

/-- A publish through `o` of `draft` with `options`, run from `w₀`, answered `id`
and left `w`: one message, carrying the draft stamped by the publisher's service
with the next identifiers, is stored under `id` on the topic and on no other; the
stamped event type is counted once as published to the topic; no failure is
counted; three identifiers were minted; the publisher and the clock are as they
were. -/
structure Published (o : Outlet) (topic : String) (draft : EventDraft) (options : PublishOptions)
    (w₀ : World) (id : String) (w : World) : Prop where
  stored : ∃ m : StoredMessage, m.messageId = id ∧
    Carries m (draft.stamp (w₀.publishing o).serviceName w₀.minted w₀.clock w₀.clock) options ∧
    ∀ t, w.broker.messagesOf t = w₀.broker.messagesOf t ++ if t = topic then [m] else []
  published : ∀ t ty, w.metrics.published t ty = w₀.metrics.published t ty +
    if t = topic ∧ ty = (draft.stamp (w₀.publishing o).serviceName w₀.minted w₀.clock w₀.clock).data.eventType
    then 1 else 0
  failures : ∀ t, w.metrics.publishFailures t = w₀.metrics.publishFailures t
  minted : w.minted = w₀.minted + 3
  unmoved : Unmoved o w₀ w

theorem Published.beside {o : Outlet} {topic : String} {draft : EventDraft} {options : PublishOptions}
    {w₀ w w' : World} {id : String} (published : Published o topic draft options w₀ id w) (beside : Beside o w w') :
    Published o topic draft options w₀ id w' := by
  obtain ⟨m, named, carries, stored⟩ := published.stored
  exact ⟨⟨m, named, carries, fun t => by rw [beside.broker, stored]⟩,
    fun t ty => by rw [beside.metrics, published.published], fun t => by rw [beside.metrics, published.failures],
    by rw [beside.minted, published.minted], published.unmoved.trans beside.toUnmoved⟩

/-- A publish through `o` of `draft` with `options`, run from `w₀`, failed with `e`
and left `w`: nothing is stored and nothing counted as published, one failure is
counted for the topic, and the error is a `PublishRefusal`. -/
structure Refused (o : Outlet) (topic : String) (draft : EventDraft) (options : PublishOptions)
    (w₀ : World) (e : BusError) (w : World) : Prop where
  stored : ∀ t, w.broker.messagesOf t = w₀.broker.messagesOf t
  published : ∀ t ty, w.metrics.published t ty = w₀.metrics.published t ty
  failures : ∀ t, w.metrics.publishFailures t = w₀.metrics.publishFailures t + if t = topic then 1 else 0
  refusal : PublishRefusal (w₀.publishing o) topic
    (draft.stamp (w₀.publishing o).serviceName w₀.minted w₀.clock w₀.clock) options w.broker e

/-- How a publish run alone from `w₀` ends: as `Published` says when it answers
an id, as `Refused` says when it fails. -/
def PublishEnds (o : Outlet) (topic : String) (draft : EventDraft) (options : PublishOptions) (w₀ : World) :
    Except BusError String → World → Prop
  | .ok id, w => Published o topic draft options w₀ id w
  | .error e, w => Refused o topic draft options w₀ e w

/-! ## A publish run alone -/

section Alone

variable {G : World → World → Prop} {policy : ProvisioningPolicy} (o : Outlet) (w₀ : World)

/-- How a resolution of a topic, run alone from a world like `w₀`, ends: nothing
that a publish is judged by moved, no identifier was minted, a handle is one of
that topic, and a failure is a refusal of the publish. -/
def ResolvedAlone (p : Publishing) (topic : String) (message : WireMessage) (options : PublishOptions)
    (r : Except BusError TopicRef) (w : World) : Prop :=
  Untouched o w₀ w ∧ w.minted = w₀.minted ∧ (∀ h, r = .ok h → h.name = topic) ∧
    ∀ e, r = .error e → PublishRefusal p topic message options w.broker e

theorem topicExists_untouched [Guarantee policy G] (name : String) :
    Spec Alone G (fun w => Untouched o w₀ w ∧ w.minted = w₀.minted) (topicExists name).run fun r w =>
      Untouched o w₀ w ∧ w.minted = w₀.minted ∧
        ∀ e, r = .error e → ∃ src, e = .transport "topic_exists" src ∧
          w.broker.topicExists name = (w.broker, .error src) := by
  unfold topicExists
  refine Spec.lbind (Q := fun _ w => Untouched o w₀ w ∧ w.minted = w₀.minted)
    (Spec.quietly _ fun w holds =>
      ⟨.inr (Guarantee.ofJob (.call w .countTopicExists rfl)), alone_after ⟨holds.1.broker fun _ => rfl, holds.2⟩⟩)
    fun _ => ?_
  refine Spec.lbind (Q := fun _ w => Untouched o w₀ w ∧ w.minted = w₀.minted)
    (Spec.lookupPause fun w w' holds related => by rw [alone_rely related]; exact holds) fun _ => ?_
  refine Spec.lbind (Q := fun answer w => Untouched o w₀ w ∧ w.minted = w₀.minted ∧
      ∀ src, answer = .error src → w.broker.topicExists name = (w.broker, .error src))
    (Spec.quietly _ fun w holds => ⟨.inr (Guarantee.ofJob (.call w (.topicExists name) rfl)),
      alone_after ⟨holds.1.broker (w.broker.messagesOf_topicExists name), holds.2, fun src failed => ?_⟩⟩)
    fun answer => ?_
  · -- a failed check leaves the broker as it was, so asking again answers the same
    have unchanged := w.broker.topicExists_of_error name failed
    show (w.broker.topicExists name).1.topicExists name = ((w.broker.topicExists name).1, .error src)
    rw [unchanged]
    exact unchanged
  refine (Spec.transport _ answer).conseq (fun w holds => ⟨holds.1, holds.2.1, fun e failed => ?_⟩)
    fun _ _ done => done
  cases answer with
  | ok found => cases failed
  | error src =>
    cases failed
    exact ⟨src, rfl, holds.2.2 src rfl⟩

variable (p : Publishing) (message : WireMessage) (options : PublishOptions)

/-- The end of every resolution of a topic: fetch its handle, cache it, and
return the handle the cache gives out. -/
theorem cacheTopic_untouched [Guarantee policy G] (name : String) :
    Spec Alone G (fun w => Untouched o w₀ w ∧ w.minted = w₀.minted)
      (do
        BusProg.transport "topic_handle" (← BusProg.lift (Prog.query (·.topicHandle name)))
        let handle ← BusProg.lift (Async.act (·.cacheTopic o name))
        BusProg.lift Async.yieldNow
        return handle : BusProg TopicRef).run
      (ResolvedAlone o w₀ p name message options) := by
  refine Spec.lbind (Q := fun handle w => handle = w.broker.topicHandle name ∧ Untouched o w₀ w ∧
      w.minted = w₀.minted)
    ((Spec.query _).conseq (fun _ holds => alone_after ⟨rfl, holds⟩) fun _ _ done => done) fun handle => ?_
  refine Spec.ebind (Q := fun r w => (r = .ok () → w.broker.hasTopic name = true) ∧ Untouched o w₀ w ∧
      w.minted = w₀.minted ∧ ∀ e, r = .error e → PublishRefusal p name message options w.broker e)
    ((Spec.transport _ handle).conseq (fun w holds => ?_) fun _ _ done => done) (fun _ => ?_)
    fun e _ failed => ⟨failed.2.1, failed.2.2.1, fun _ wrong => (by cases wrong), fun _ same => failed.2.2.2 _ (by cases same; rfl)⟩
  · obtain ⟨rfl, untouched, minted⟩ := holds
    cases answer : w.broker.topicHandle name with
    | ok u => exact ⟨fun _ => w.broker.hasTopic_of_topicHandle name answer, untouched, minted,
        fun _ wrong => by cases wrong⟩
    | error src => exact ⟨fun wrong => (by cases wrong), untouched, minted,
        fun _ failed => (by cases failed; exact .topicHandle answer)⟩
  refine Spec.lbind (Q := fun h w => h.name = name ∧ Untouched o w₀ w ∧ w.minted = w₀.minted)
    (Spec.act _ fun w holds => ?_) fun h => ?_
  · exact ⟨.inr (Guarantee.ofJob (.cacheTopic w o name (holds.1 rfl))), (TopicResolved.cacheTopic (holds.1 rfl)).named,
      holds.2.1.cacheTopic o name, by simpa [World.cacheTopic_fst, World.allocate] using holds.2.2.1⟩
  refine Spec.lbind (Spec.yieldNow_keeps alone_keeps) fun _ => ?_
  exact (Spec.ok h).conseq (fun _ holds => ⟨holds.2.1, holds.2.2, fun _ same => (by cases same; exact holds.1),
    fun _ wrong => by cases wrong⟩) fun _ _ done => done

/-- A resolution of a topic run alone, under the policy of the publisher `p`
whose publish it serves, ends as `ResolvedAlone` says. -/
theorem resolveTopicWith_untouched [Guarantee policy G] (name : String) (policed : p.policy = policy) :
    Spec Alone G (fun w => Untouched o w₀ w ∧ w.minted = w₀.minted) (resolveTopicWith o name policy).run
      (ResolvedAlone o w₀ p name message options) := by
  unfold resolveTopicWith
  refine Spec.lbind (Q := fun cached w => (∀ h, cached = some h → h.name = name) ∧ Untouched o w₀ w ∧
      w.minted = w₀.minted)
    ((Spec.view _).conseq (fun _ holds => ⟨fun _ found => (TopicCache.find?_some found).1, holds⟩)
      fun _ _ done => done) fun cached => ?_
  refine Spec.lbind (Spec.yieldNow_keeps alone_keeps) fun _ => Spec.assume fun named => ?_
  split
  · next h =>
    exact (Spec.ok h).conseq (fun _ holds => ⟨holds.1, holds.2, fun _ same => (by cases same; exact named h rfl),
      fun _ wrong => by cases wrong⟩) fun _ _ done => done
  refine Spec.ebind (topicExists_untouched (G := G) o w₀ name) (fun found => ?_)
    fun e w failed => ⟨failed.1, failed.2.1, fun _ wrong => (by cases wrong), fun e' same => ?_⟩
  rotate_left
  · cases same
    obtain ⟨src, rfl, unchanged⟩ := failed.2.2 e rfl
    exact .topicExists unchanged
  dsimp only
  split
  · split
    · next forbidden =>
      refine (Spec.throw_bind _).conseq (fun _ holds => ⟨holds.1, holds.2.1, fun _ wrong => (by cases wrong),
        fun e same => ?_⟩) fun _ _ done => done
      cases same
      exact .missing (by simpa [policed] using forbidden)
    · next allowed =>
      have allows : policy.allowsCreate = true := by simpa using allowed
      refine Spec.lbind (Q := fun made w => Untouched o w₀ w ∧ w.minted = w₀.minted ∧
          ∃ before : Broker, before.createTopic name = (w.broker, made))
        (Spec.quietly _ fun w holds => ⟨.inr (Guarantee.ofJob (.createTopic w name allows)),
          alone_after ⟨holds.1.broker (w.broker.messagesOf_createTopic name), holds.2.1, w.broker, rfl⟩⟩)
        fun made => ?_
      split
      · exact Spec.lbind (note_spec (Q := fun _ w => Untouched o w₀ w ∧ w.minted = w₀.minted) _
          fun _ holds => ⟨holds.1.provisioned "topic", holds.2.1⟩)
          fun _ => cacheTopic_untouched o w₀ p message options name
      · exact (cacheTopic_untouched o w₀ p message options name).conseq
          (fun _ holds => ⟨holds.1, holds.2.1⟩) fun _ _ done => done
      · refine (Spec.throw_bind _).conseq (fun _ holds => ⟨holds.1, holds.2.1, fun _ wrong => (by cases wrong),
          fun e same => ?_⟩) fun _ _ done => done
        cases same
        obtain ⟨before, made⟩ := holds.2.2
        exact .createTopic made
  · exact (cacheTopic_untouched (G := G) o w₀ p message options name).conseq
      (fun _ holds => ⟨holds.1, holds.2.1⟩) fun _ _ done => done

/-- What a resolution ends on is still a world like `w₀` for the publish it
serves. -/
theorem resolveTopic_untouched [Guarantee policy G] (name : String)
    (policed : (w₀.publishing o).policy = policy) :
    Spec Alone G (fun w => Untouched o w₀ w ∧ w.minted = w₀.minted) (resolveTopic o name).run
      (ResolvedAlone o w₀ (w₀.publishing o) name message options) := by
  unfold resolveTopic
  refine Spec.lbind (Q := fun q w => q = policy ∧ Untouched o w₀ w ∧ w.minted = w₀.minted)
    ((Spec.view _).conseq (fun _ holds => ⟨holds.1.policy.trans policed, holds⟩) fun _ _ done => done)
    fun q => Spec.assume fun same => ?_
  subst same
  exact resolveTopicWith_untouched o w₀ (w₀.publishing o) message options name policed

variable (topic : String) (draft : EventDraft)

theorem Untouched.mint {w : World} (holds : Untouched o w₀ w) : Untouched o w₀ w.mint.1 :=
  ⟨⟨holds.serviceName, holds.policy, holds.closed, holds.clock⟩, holds.stored, holds.published, holds.failures⟩

/-- The broker call of a publish, made from a world where nothing the publish is
judged by moved since `w₀` and the three identifiers were minted, when the broker
answers an id: counting the message makes the publish `Published`. -/
theorem published_of_answer {w : World} (untouched : Untouched o w₀ w) (minted : w.minted = w₀.minted + 3)
    {message : WireMessage} {encoded : EncodedMessage}
    (sent : outboundOf draft (w₀.publishing o).serviceName (mintUuid (w₀.minted + 1)) (mintUuid (w₀.minted + 2))
      (mintUuid (w₀.minted + 3)) w₀.clock w₀.clock options = (message, encoded))
    {id : String} (answered : (w.broker.publish topic encoded.data encoded.attributes options.orderingKey).2.1 = .ok id) :
    Published o topic draft options w₀ id
      { w with broker := (w.broker.publish topic encoded.data encoded.attributes options.orderingKey).1,
               metrics := w.metrics.notePublished topic message.data.eventType } := by
  have stamped : message = draft.stamp (w₀.publishing o).serviceName w₀.minted w₀.clock w₀.clock :=
    (congrArg Prod.fst sent).symm
  have stores := w.broker.publish_stores topic encoded.data encoded.attributes options.orderingKey
  subst stamped
  refine ⟨⟨_, rfl, carries_of_outboundOf sent id, fun t => ?_⟩, fun t ty => ?_, fun t => ?_, minted,
    ⟨untouched.serviceName, untouched.policy, untouched.closed, untouched.clock⟩⟩
  · rw [stores.stored id answered t, untouched.stored t]
  · simp only [Metrics.published_notePublished, untouched.published t ty]
  · simp only [Metrics.publishFailures_notePublished, untouched.failures t]

/-- The broker call of a publish, made from such a world, when the broker answers
an error: nothing is stored, and the error is refused as the publish call's. -/
theorem refused_of_answer {w : World} (untouched : Untouched o w₀ w) {message : WireMessage}
    {encoded : EncodedMessage}
    (sent : outboundOf draft (w₀.publishing o).serviceName (mintUuid (w₀.minted + 1)) (mintUuid (w₀.minted + 2))
      (mintUuid (w₀.minted + 3)) w₀.clock w₀.clock options = (message, encoded))
    {src : GatewayError}
    (answered : (w.broker.publish topic encoded.data encoded.attributes options.orderingKey).2.1 = .error src) :
    Untouched o w₀ { w with broker := (w.broker.publish topic encoded.data encoded.attributes options.orderingKey).1 } ∧
      PublishRefusal (w₀.publishing o) topic (draft.stamp (w₀.publishing o).serviceName w₀.minted w₀.clock w₀.clock)
        options (w.broker.publish topic encoded.data encoded.attributes options.orderingKey).1
        (.transport "publish" src) := by
  have stores := w.broker.publish_stores topic encoded.data encoded.attributes options.orderingKey
  exact ⟨untouched.broker (stores.unchanged src answered).1, .publish (carries_of_outboundOf sent "") rfl answered⟩

/-- Minting, from a world known exactly, gives the next identifier and the world
with one more minted. -/
theorem mint_exact [Guarantee policy G] (w : World) (n : Nat) (next : w.minted + 1 = n) :
    Spec Alone G (· = w) Prog.mint fun id w' => id = mintUuid n ∧ w' = w.mint.1 :=
  Spec.act _ fun w' same => by
    subst same
    exact ⟨.inr (Guarantee.ofJob (.mint w')), by rw [← next]; rfl, rfl⟩

/-- A publish that has passed the gate, run alone from a world like `w₀`: it
answers an id as `Published` says, or fails with nothing it is judged by moved
and a refusal for its error. -/
theorem publishAdmitted_alone [Guarantee policy G] (policed : (w₀.publishing o).policy = policy) :
    Spec Alone G (fun w => Untouched o w₀ w ∧ w.minted = w₀.minted) (publishAdmitted o topic draft options).run
      fun r w => (∀ id, r = .ok id → Published o topic draft options w₀ id w) ∧
        ∀ e, r = .error e → Untouched o w₀ w ∧ PublishRefusal (w₀.publishing o) topic
          (draft.stamp (w₀.publishing o).serviceName w₀.minted w₀.clock w₀.clock) options w.broker e := by
  unfold publishAdmitted
  refine Spec.lbind (Q := fun q w => (q.serviceName = (w₀.publishing o).serviceName ∧
      q.closed = (w₀.publishing o).closed) ∧ Untouched o w₀ w ∧ w.minted = w₀.minted)
    ((Spec.view _).conseq (fun _ holds => ⟨⟨holds.1.serviceName, holds.1.closed⟩, holds⟩) fun _ _ done => done)
    fun q => ?_
  refine Spec.lbind (Spec.yieldNow_keeps alone_keeps) fun _ => Spec.assume fun facts => ?_
  obtain ⟨named, closing⟩ := facts
  dsimp only
  split
  · next shut =>
    refine (Spec.throw_bind _).conseq (fun _ holds => ⟨fun _ wrong => (by cases wrong), fun e same => ?_⟩)
      fun _ _ done => done
    cases same
    exact ⟨holds.1, .closed (closing ▸ shut)⟩
  refine Spec.ebind (resolveTopic_untouched (G := G) o w₀
      (draft.stamp (w₀.publishing o).serviceName w₀.minted w₀.clock w₀.clock) options topic policed)
    (fun handle => Spec.of_pre fun w₁ resolved => ?_)
    fun e w failed => ⟨fun _ wrong => (by cases wrong), fun e' same => ?_⟩
  rotate_left
  · cases same
    exact ⟨failed.1, failed.2.2.2 e rfl⟩
  obtain ⟨untouched, minted, resolvedName, -⟩ := resolved
  -- the identifiers are minted and the clock read twice, on worlds known exactly
  refine Spec.lbind (mint_exact w₁ (w₀.minted + 1) (by rw [minted]))
    fun eventId => Spec.assume fun minted₁ => ?_
  refine Spec.lbind (Q := fun now w => now = w₀.clock ∧ w = w₁.mint.1)
    ((Spec.view _).conseq (fun w same => ⟨by subst same; exact untouched.clock, same⟩) fun _ _ done => done)
    fun stamped => Spec.assume fun stampedAt => ?_
  refine Spec.lbind (mint_exact w₁.mint.1 (w₀.minted + 2) (by simp [World.mint, minted]))
    fun correlationId => Spec.assume fun minted₂ => ?_
  refine Spec.lbind (mint_exact w₁.mint.1.mint.1 (w₀.minted + 3) (by simp [World.mint, minted]))
    fun traceId => Spec.assume fun minted₃ => ?_
  refine Spec.lbind (Q := fun now w => now = w₀.clock ∧ w = w₁.mint.1.mint.1.mint.1)
    ((Spec.view _).conseq (fun w same => ⟨by subst same; exact untouched.clock, same⟩) fun _ _ done => done)
    fun published => Spec.assume fun publishedAt => ?_
  subst minted₁ minted₂ minted₃ stampedAt publishedAt
  rw [named, resolvedName handle rfl]
  generalize sent : outboundOf draft (w₀.publishing o).serviceName (mintUuid (w₀.minted + 1))
    (mintUuid (w₀.minted + 2)) (mintUuid (w₀.minted + 3)) w₀.clock w₀.clock options = out
  obtain ⟨message, encoded⟩ := out
  dsimp only
  -- the broker call, then what its answer leads to
  refine Spec.lbind (Q := fun answer w =>
      answer = (w₁.broker.publish topic encoded.data encoded.attributes options.orderingKey).2.1 ∧
      w = { w₁.mint.1.mint.1.mint.1 with
        broker := (w₁.broker.publish topic encoded.data encoded.attributes options.orderingKey).1 })
    (Spec.onBroker _ fun w same => ?_) fun answer => Spec.assume fun answered => ?_
  · subst same
    exact ⟨.inr (Guarantee.ofJob (.call _ (.publish _ _ _ _) rfl)), alone_after ⟨rfl, rfl⟩⟩
  have untouched₃ : Untouched o w₀ w₁.mint.1.mint.1.mint.1 := untouched.mint.mint.mint
  cases answer with
  | ok id =>
    refine Spec.ebind (Q := fun r w => r = .ok id ∧ w = { w₁.mint.1.mint.1.mint.1 with
        broker := (w₁.broker.publish topic encoded.data encoded.attributes options.orderingKey).1 })
      ((Spec.transport _ _).conseq (fun _ same => ⟨rfl, same⟩) fun _ _ done => done)
      (fun id' => Spec.assume fun same => ?_) fun _ _ failed => (by cases failed.1)
    cases same
    refine Spec.lbind (note_spec _ fun w same => ?_) fun _ => Spec.ok id
    subst same
    refine ⟨fun id' same => ?_, fun _ wrong => (by cases wrong)⟩
    cases same
    exact published_of_answer o w₀ options topic draft untouched₃ (by simp [World.mint, minted]) sent answered.symm
  | error src =>
    refine (Spec.ebind (Q := fun r w => r = .error (.transport "publish" src) ∧ w = { w₁.mint.1.mint.1.mint.1 with
        broker := (w₁.broker.publish topic encoded.data encoded.attributes options.orderingKey).1 })
      ((Spec.transport _ _).conseq (fun _ same => ⟨rfl, same⟩) fun _ _ done => done)
      (fun _ => Spec.of_pre fun _ wrong => (by cases wrong.1)) fun e w failed => ?_)
    obtain ⟨same, rfl⟩ := failed
    cases same
    exact ⟨fun _ wrong => (by cases wrong), fun e same => by
      cases same
      exact refused_of_answer o w₀ options topic draft untouched₃ sent answered.symm⟩

/-- A publish run alone from `w₀` ends as `PublishEnds` says: passing the gate
and leaving it again moves nothing the publish is judged by, and a failure is
counted once for the topic. -/
theorem publishVia_alone [Guarantee policy G] (policed : (w₀.publishing o).policy = policy) :
    Spec Alone G (· = w₀) (publishVia o topic draft options) (PublishEnds o topic draft options w₀) := by
  unfold publishVia
  refine Spec.bind ((enterRead_keeps (R := Alone) (I := Beside o w₀) o (fun _ _ _ step => nomatch step)
      (fun w g holds => holds.trans (.gate w o g)) fun w holds => holds.trans (.allocate w)).conseq
    (fun w same => same ▸ .refl w) fun _ _ done => done) fun _ => ?_
  refine Spec.bind ((publishAdmitted_alone o w₀ options topic draft policed).conseq
    (fun _ beside => ⟨.of_beside beside, beside.minted⟩) fun _ _ done => done) fun result => ?_
  refine Spec.of_pre fun w₂ admitted => ?_
  refine Spec.bind ((leave_keeps (R := Alone) (I := Beside o w₂) o (fun _ _ _ step => nomatch step)
    (fun w g holds => holds.trans (.gate w o g)) false).conseq (fun w same => same ▸ .refl w) fun _ _ done => done) fun _ => ?_
  cases result with
  | ok id =>
    dsimp only
    rw [if_neg (by decide)]
    exact (Spec.pure _).conseq (fun _ beside => (admitted.1 id rfl).beside beside) fun _ _ done => done
  | error e =>
    dsimp only
    rw [if_pos rfl]
    refine Spec.bind (note_spec _ fun w beside => ?_) fun _ => Spec.pure _
    obtain ⟨untouched, refusal⟩ := admitted.2 e rfl
    refine ⟨fun t => ?_, fun t ty => ?_, fun t => ?_, ?_⟩
    · show w.broker.messagesOf t = _
      rw [beside.broker, untouched.stored]
    · simp only [Metrics.published_notePublishFailure, beside.metrics, untouched.published]
    · simp only [Metrics.publishFailures_notePublishFailure, beside.metrics, untouched.failures]
    · show PublishRefusal _ _ _ _ w.broker e
      rw [beside.broker]
      exact refusal

/-! ## A batch run alone -/

/-- How publishing drafts in order, alone, runs: each draft is published in
turn, with no options, from the world the one before left, until the first
failure, whose error the batch answers; otherwise the batch answers the ids in
order. -/
inductive BatchRun (o : Outlet) (topic : String) : List EventDraft → World → Except BusError (List String) →
    World → Prop
  | done (w : World) : BatchRun o topic [] w (.ok []) w
  | stop {draft : EventDraft} {rest : List EventDraft} {w w' : World} {e : BusError} :
      Refused o topic draft .none w e w' → BatchRun o topic (draft :: rest) w (.error e) w'
  | next {draft : EventDraft} {rest : List EventDraft} {w w₁ w' : World} {id : String}
      {r : Except BusError (List String)} :
      Published o topic draft .none w id w₁ → BatchRun o topic rest w₁ r w' →
      BatchRun o topic (draft :: rest) w (r.map (id :: ·)) w'

theorem publishBatch_alone [Guarantee policy G] (drafts : List EventDraft) (w₀ : World)
    (policed : (w₀.publishing o).policy = policy) :
    Spec Alone G (· = w₀) (publishBatch o topic drafts) (BatchRun o topic drafts w₀) := by
  induction drafts generalizing w₀ with
  | nil => exact (Spec.pure _).conseq (fun w same => same ▸ .done w) fun _ _ done => done
  | cons draft rest induction =>
    rw [publishBatch.eq_2]
    refine Spec.bind (publishVia_alone o w₀ .none topic draft policed) fun r => ?_
    cases r with
    | error e => exact (Spec.pure _).conseq (fun _ refused => .stop refused) fun _ _ done => done
    | ok id =>
      -- the rest of the batch runs from the world the first publish left
      refine Spec.of_pre fun w₁ published => ?_
      refine Spec.bind (induction w₁ (published.unmoved.policy.trans policed)) fun r => ?_
      cases r with
      | error e => exact (Spec.pure _).conseq (fun _ run => .next published run) fun _ _ done => done
      | ok ids => exact (Spec.pure _).conseq (fun _ run => .next published run) fun _ _ done => done

end Alone

/-- What a batch of `drafts` published through `o` to `topic` from `w₀` came to:
the first `ms.length` drafts, and no others, are stored on the topic in order,
each as one message carrying the draft stamped by the publisher's service with
the identifiers minted in turn, and no other topic changed. The batch answered
the ids of those messages, all drafts being stored; or else the error of the
first draft not stored, a refusal of its publish. -/
def BatchEnds (o : Outlet) (topic : String) (drafts : List EventDraft) (w₀ : World)
    (r : Except BusError (List String)) (w : World) : Prop :=
  ∃ ms : List StoredMessage,
    (∀ t, w.broker.messagesOf t = w₀.broker.messagesOf t ++ if t = topic then ms else []) ∧
    (∀ j (stored : j < ms.length) (draft : EventDraft), drafts[j]? = some draft →
      Carries ms[j] (draft.stamp (w₀.publishing o).serviceName (w₀.minted + 3 * j) w₀.clock w₀.clock) .none) ∧
    (r = .ok (ms.map (·.messageId)) ∧ ms.length = drafts.length ∨
      ∃ e draft, r = .error e ∧ drafts[ms.length]? = some draft ∧
        PublishRefusal (w₀.publishing o) topic
          (draft.stamp (w₀.publishing o).serviceName (w₀.minted + 3 * ms.length) w₀.clock w₀.clock) .none w.broker e)

/-- A batch run alone stores exactly the drafts before its first failure. -/
theorem BatchRun.ends {o : Outlet} {topic : String} {drafts : List EventDraft} {w₀ w : World}
    {r : Except BusError (List String)} (run : BatchRun o topic drafts w₀ r w) :
    BatchEnds o topic drafts w₀ r w := by
  induction run with
  | done w => exact ⟨[], fun t => by simp, fun j stored => absurd stored (Nat.not_lt_zero j), .inl ⟨rfl, rfl⟩⟩
  | stop refused =>
    refine ⟨[], fun t => by simp [refused.stored t], fun j stored => absurd stored (Nat.not_lt_zero j),
      .inr ⟨_, _, rfl, rfl, ?_⟩⟩
    simpa using refused.refusal
  | @next draft rest w w₁ w' id r published run induction =>
    obtain ⟨m, named, carries, stored⟩ := published.stored
    obtain ⟨ms, storedRest, carriesRest, answered⟩ := induction
    have unmoved := published.unmoved
    -- the drafts after the first are stamped three identifiers later
    have later (n : Nat) : w₁.minted + 3 * n = w.minted + 3 * (n + 1) := by
      rw [published.minted]
      omega
    refine ⟨m :: ms, fun t => ?_, fun j within d found => ?_, ?_⟩
    · rw [storedRest, stored]
      by_cases same : t = topic <;> simp [same]
    · cases j with
      | zero =>
        cases found
        simpa using carries
      | succ j =>
        have carried := carriesRest j (by simpa using within) d found
        rw [unmoved.serviceName, later, unmoved.clock] at carried
        simpa using carried
    · rcases answered with ⟨rfl, lengths⟩ | ⟨e, d, rfl, found, refusal⟩
      · exact .inl ⟨by rw [List.map_cons, named]; rfl, by simp [lengths]⟩
      · refine .inr ⟨e, d, rfl, by simpa using found, ?_⟩
        have refused := refusal.of_same unmoved.closed.symm unmoved.policy.symm
        rw [unmoved.serviceName, later, unmoved.clock] at refused
        simpa using refused

/-- A publish through a publisher stores exactly the message it encodes and
counts it once, and a batch stores exactly the drafts before its first failure.
Run alone from any world, a publish of a draft with options either answers an
id, having stored under it, on the topic alone, one message whose bytes encode
the draft stamped by the publisher's service with fresh identifiers, whose
attributes are the standard ones of that envelope with the caller's laid over
them key by key, and whose ordering key is the caller's, and having counted the
stamped event type once as published to the topic and no failure; or it fails,
having stored nothing and counted nothing as published, having counted one
failure for the topic, with an error that names the broker call that failed and
carries the broker's answer unchanged, unless the publisher was closed or the
topic missing where creating it is forbidden. A batch answers the ids of its
drafts in order, or the error of the first draft that fails, with exactly the
drafts before it stored. -/
theorem publish_stores_and_counts_once (o : Outlet) (topic : String) (w₀ : World) :
    (∀ draft options, Spec Alone (Change (w₀.publishing o).policy true) (· = w₀)
      (publishVia o topic draft options) (PublishEnds o topic draft options w₀)) ∧
    ∀ drafts, Spec Alone (Change (w₀.publishing o).policy true) (· = w₀)
      (publishBatch o topic drafts) (BatchEnds o topic drafts w₀) :=
  ⟨fun draft options => publishVia_alone o w₀ options topic draft rfl,
    fun drafts => (publishBatch_alone o topic drafts w₀ rfl).conseq (fun _ same => same)
      fun _ _ run => run.ends⟩

end Courier
