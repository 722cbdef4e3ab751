import Mathlib
import Courier.Proofs.Bus.Admission

namespace Courier

/-! # Passing a publisher's gate with passes in hand

The programs that pass a publisher's gate, specified in the protocol of passes.
A task takes a ticket, queues or goes in with it, and holds the pass of a reader
or of the writer until it leaves.

A publish inside the gate as a reader either finds its publisher closed and gives
up at once, having changed nothing, or finds it open and holds a pass that says
so; once it has cached its topic the pass names it. So from the check to the
end of the publish, with every broker call between, the publisher stays open,
and a publish that succeeds ends with its topic in the cache. Closing goes in as
the writer, so it sets the flag with no reader inside, and flushing a closed
publisher drains a cache that no reader inside is using. -/

/-! ## Programs that may fail, in a protocol -/

namespace Protocol.Triple

variable {Γ : Type} [AddCommMonoid Γ] {π : Protocol World Γ} {G : World → World → Prop} {α β : Type}
  {P : Γ → World → Machine Job World → Prop} {T : Except BusError β → Γ → World → Machine Job World → Prop}

theorem ebind {Q : Except BusError α → Γ → World → Machine Job World → Prop} {prog : BusProg α}
    {f : α → BusProg β} (first : π.Triple G P prog.run Q) (next : ∀ a, π.Triple G (Q (.ok a)) (f a).run T)
    (fails : ∀ e g w₀ m, Q (.error e) g w₀ m → T (.error e) g w₀ m) : π.Triple G P (prog >>= f).run T := by
  rw [ExceptT.run_bind]
  refine bind first fun r => ?_
  cases r with
  | error e => exact (ret (Q := T) (.error e)).conseq (fails e) fun _ _ _ _ done => done
  | ok a => exact next a

/-- A step that cannot fail, and the rest of the program. -/
theorem lbind {Q : α → Γ → World → Machine Job World → Prop} {prog : Prog α} {f : α → BusProg β}
    (first : π.Triple G P prog Q) (next : ∀ a, π.Triple G (Q a) (f a).run T) :
    π.Triple G P (BusProg.lift prog >>= f).run T :=
  ebind (Q := fun r g w₀ m => ∃ a, r = .ok a ∧ Q a g w₀ m)
    (bind first fun a => (ret (Q := fun r g w₀ m => ∃ a, r = .ok a ∧ Q a g w₀ m) (Except.ok a)).conseq
      (fun _ _ _ holds => ⟨a, rfl, holds⟩) fun _ _ _ _ done => done)
    (fun a => (next a).conseq (fun _ _ _ found => by
      obtain ⟨_, same, holds⟩ := found
      cases same
      exact holds) fun _ _ _ _ done => done)
    fun _ _ _ _ found => by
      obtain ⟨_, wrong, _⟩ := found
      cases wrong

end Protocol.Triple

variable {policy : ProvisioningPolicy}

/-! ## Steps with passes in hand -/

/-- A change of the world that moves the task's passes from `g` to `g' a`, for
the answer `a` it gives. -/
theorem act_hand {α : Type} {g : Multiset Pass} (g' : α → Multiset Pass) {A : World → Prop}
    {B : α → World → Prop} (f : World → World × α)
    (step : ∀ w, A w → (∃ frame, Admitted policy w (g + frame)) →
      Stepped policy w (f w).1 ∧ (admissions policy).Update g w (g' (f w).2) (f w).1 ∧ B (f w).2 (f w).1) :
    (admissions policy).Triple (Stepped policy) ((admissions policy).Holding g A) (Async.act f : Prog α)
      fun a => (admissions policy).Holding (g' a) (B a) :=
  Protocol.Triple.hand _ fun m holds valid => by
    obtain ⟨stepped, moved, done⟩ := step m.world holds valid
    exact ⟨.inr stepped, moved, done⟩

/-- A program portable for steps that need no pass runs in a task of the
protocol of passes, holding any passes. -/
theorem Portable.admitted {S : World → World → Prop} {α : Type} {P : World → Prop} {prog : Prog α}
    {Q : α → World → Prop} (portable : Portable S (Stepped policy) P prog Q)
    (passFree : ∀ w w', S w w' → PassFree policy w w') (g : Multiset Pass) :
    (admissions policy).Triple (Stepped policy) ((admissions policy).Holding g P) prog
      fun a => (admissions policy).Holding g (Q a) :=
  (portable.widen passFree).triple (fun _ _ step => step.1) admissions_fits g

/-- A program portable for the steps that need no pass runs holding any passes. -/
theorem Portable.passFree {α : Type} {P : World → Prop} {prog : Prog α} {Q : α → World → Prop}
    (portable : Portable (PassFree policy) (Stepped policy) P prog Q) (g : Multiset Pass) :
    (admissions policy).Triple (Stepped policy) ((admissions policy).Holding g P) prog
      fun a => (admissions policy).Holding g (Q a) :=
  portable.admitted (fun _ _ step => step) g

/-! ## A closed publisher stays closed -/

theorem World.closed_modifyPublishing (w : World) (o o' : Outlet) {f : Publishing → Publishing}
    (keeps : ∀ p, (f p).closed = p.closed) :
    ((w.modifyPublishing o f).publishing o').closed = (w.publishing o').closed := by
  rcases World.publishing_modifyPublishing w o o' f with same | ⟨-, changed⟩
  · rw [same]
  · rw [changed, keeps]

/-- No step of a bus task opens a closed publisher again. -/
theorem Change.stays_closed {caller : Bool} {w w' : World} (change : Change policy caller w w') (o : Outlet)
    (closed : (w.publishing o).closed = true) : (w'.publishing o).closed = true := by
  cases change with
  | gate w o' g => rwa [w.closed_modifyPublishing o' o (f := ({ · with gate := g })) fun _ => rfl]
  | cacheTopic w o' name _ =>
    rw [World.cacheTopic_fst,
      w.allocate.1.closed_modifyPublishing o' o (f := fun p => { p with topics := (p.topics.insert _).1 }) fun _ => rfl]
    exact closed
  | drainTopics w o' =>
    rwa [w.closed_modifyPublishing o' o (f := fun p => { p with topics := p.topics.drain.2 }) fun _ => rfl]
  | closePublisher w o' =>
    rcases World.publishing_modifyPublishing w o' o ({ · with closed := true }) with same | ⟨-, changed⟩
    · rwa [same]
    · rw [changed]
  | cacheSubscription w i handle _ =>
    have keeps : ∀ b : BusState, { b with subscriptions := (b.subscriptions.insert handle).1 }.publishing =
        b.publishing := fun _ => rfl
    rwa [World.publishing_modifyBus w i keeps]
  | table w i f keeps => rwa [World.publishing_modifyBus w i fun b => (keeps b).2.1]
  | _ => exact closed

/-- A publisher found closed stays closed for every step of the tasks. -/
theorem Stepped.stays_closed {w w' : World} (step : Stepped policy w w') {o : Outlet}
    (closed : o.Within w → (w.publishing o).closed = true) : o.Within w' → (w'.publishing o).closed = true :=
  fun within => step.tidy.1.stays_closed o (closed (step.tidy.1.within within))

/-- The policy of a publisher survives every step of the tasks. -/
theorem Stepped.same_policy {w w' : World} (step : Stepped policy w w') (o : Outlet) {q : ProvisioningPolicy}
    (under : (w.publishing o).policy = q) : (w'.publishing o).policy = q :=
  (step.tidy.1.steady.policy o).trans under

/-! ## The gate -/

section Gate

variable {F : World → Prop} (kept : ∀ w w', F w → Stepped policy w w' → F w') (o : Outlet)
include kept

theorem allocate_ticket (g : Multiset Pass) :
    (admissions policy).Triple (Stepped policy) ((admissions policy).Holding g F) Prog.allocate
      fun n => (admissions policy).Holding (g + {.ticket n}) F :=
  act_hand (fun n => g + {.ticket n}) _ fun w holds _ =>
    ⟨.free (.job (.allocate w)), admissions_give fun _ admitted => admitted.allocate,
      kept _ _ holds (.free (.job (.allocate w)))⟩

/-- Waiting for the grant of a ticket: the request's pass becomes the writer's
or a reader's inside. -/
theorem awaitGrant_passes (n : Nat) (write : Bool) (g : Multiset Pass) :
    (admissions policy).Triple (Stepped policy) ((admissions policy).Holding (g + {.waiting o n write}) F)
      (Prog.awaitGrant o n)
      fun _ => (admissions policy).Holding (g + {if write then .writing o else .reading o}) F := by
  unfold Prog.awaitGrant
  refine Protocol.Triple.await _ fun _ _ _ holds => ⟨_, holds.update, fun m₁ frame related valid m₂ _ polled => ?_⟩
  simp only [Option.map_eq_some_iff] at polled
  obtain ⟨gate, picked, same⟩ := polled
  cases same
  have stepped : Stepped policy m₁.world (m₁.world.modifyPublishing o ({ · with gate := gate })) :=
    .free (.job (.gate _ o gate))
  exact ⟨.inr stepped, admissions_update fun _ admitted => admitted.pickUp picked, ⟨frame, valid⟩,
    kept _ _ (rely_keeps kept holds.holds related) stepped⟩

/-- Entering by a request that lets the task in at once or queues its ticket:
the task ends up holding the pass of the writer or of a reader that it asked for. -/
theorem enter_passes (write : Bool) (f : Nat → World → World × Bool) (stepped : ∀ n w, Stepped policy w (f n w).1)
    (requests : ∀ n w rest, Admitted policy w (rest + {.ticket n}) → Admitted policy (f n w).1
      (rest + {if (f n w).2 then (if write then .writing o else .reading o) else .waiting o n write}))
    (g : Multiset Pass) :
    (admissions policy).Triple (Stepped policy) ((admissions policy).Holding g F)
      (Prog.allocate >>= fun n => Async.act (f n) >>= fun now =>
        if !now then Prog.awaitGrant o n >>= fun _ => Async.yieldNow else Async.yieldNow)
      fun _ => (admissions policy).Holding (g + {if write then .writing o else .reading o}) F := by
  have inside := (Portable.yieldNow_keeps kept).passFree (g + {if write then .writing o else .reading o})
  refine Protocol.Triple.bind (allocate_ticket kept g) fun n => ?_
  refine Protocol.Triple.bind (act_hand (fun now =>
      g + {if now then (if write then .writing o else .reading o) else .waiting o n write})
    (B := fun _ => F) _ fun w holds _ =>
      ⟨stepped n w, admissions_update (requests n w), kept _ _ holds (stepped n w)⟩) fun now => ?_
  -- a request not let in at once waits for its grant
  cases now with
  | false => exact Protocol.Triple.bind (awaitGrant_passes kept o n write g) fun _ => inside
  | true => exact inside

/-- Entering as a reader: the task ends up holding a reader's pass. -/
theorem enterRead_passes (g : Multiset Pass) :
    (admissions policy).Triple (Stepped policy) ((admissions policy).Holding g F) (Prog.enterRead o)
      fun _ => (admissions policy).Holding (g + {.reading o}) F :=
  enter_passes kept o false _ (fun _ w => .free (.job (.gate w o _))) (fun _ _ _ admitted => admitted.requestRead) g

/-- Entering as the writer: the task ends up holding the writer's pass. -/
theorem enterWrite_passes (g : Multiset Pass) :
    (admissions policy).Triple (Stepped policy) ((admissions policy).Holding g F) (Prog.enterWrite o)
      fun _ => (admissions policy).Holding (g + {.writing o}) F :=
  enter_passes kept o true _ (fun _ w => .free (.job (.gate w o _))) (fun _ _ _ admitted => admitted.requestWrite) g

/-- Leaving gives up the pass that the release of the gate accounts for. -/
theorem leave_passes (writer : Bool) {p : Pass}
    (releases : ∀ w rest, Admitted policy w (rest + {p}) → Admitted policy
      (w.modifyPublishing o ({ · with gate := (if writer then (w.publishing o).gate.releaseWrite
        else (w.publishing o).gate.releaseRead).1 })) rest)
    (g : Multiset Pass) :
    (admissions policy).Triple (Stepped policy) ((admissions policy).Holding (g + {p}) F) (Prog.leave o writer)
      fun _ => (admissions policy).Holding g F := by
  unfold Prog.leave
  refine Protocol.Triple.bind (act_hand (fun _ => g) (B := fun _ => F) _ fun w holds _ =>
    ⟨.free (.job (.gate w o _)), admissions_drop fun _ admitted => releases w _ admitted,
      kept _ _ holds (.free (.job (.gate w o _)))⟩) fun granted => ?_
  refine Protocol.Triple.bind
    ((Portable.forM (I := fun _ => F) granted fun _ _ => Portable.signal (Q := fun _ => F) _).passFree g) fun _ => ?_
  exact (Portable.yieldNow_keeps kept).passFree g

theorem leave_reader {p : Pass} (reads : p.readsAt o = true) (g : Multiset Pass) :
    (admissions policy).Triple (Stepped policy) ((admissions policy).Holding (g + {p}) F) (Prog.leave o false)
      fun _ => (admissions policy).Holding g F :=
  leave_passes kept o false (fun _ _ admitted => admitted.releaseRead reads) g

theorem leave_writer (g : Multiset Pass) :
    (admissions policy).Triple (Stepped policy) ((admissions policy).Holding (g + {.writing o}) F)
      (Prog.leave o true) fun _ => (admissions policy).Holding g F :=
  leave_passes kept o true (fun _ _ admitted => admitted.releaseWrite) g

end Gate

/-! ## Publishing -/

theorem TopicCache.mem_of_contains {c : TopicCache} {n : String} (found : c.contains n = true) : n ∈ c.names := by
  simpa [TopicCache.contains] using found

/-- How a publish through `o` that went in as a reader on world `w`, its task
holding `g` beside its pass, ends: refused as shutting down on a publisher it
found closed, which stays closed; or, on a publisher it found open, with an
identifier or another error, holding the pass of a reader that found the
publisher open, which names its topic when it succeeded. -/
def Admits (policy : ProvisioningPolicy) (o : Outlet) (topic : String) (g : Multiset Pass) (w : World)
    (r : Except BusError String) : Multiset Pass → World → Machine Job World → Prop :=
  fun g₀ w₀ m =>
    (r = .error .shuttingDown ∧ (w.publishing o).closed = true ∧
      (admissions policy).Holding (g + {.reading o}) (fun w' => (w'.publishing o).closed = true) g₀ w₀ m) ∨
    ((w.publishing o).closed = false ∧ r ≠ .error .shuttingDown ∧
      ∃ t, (∀ id, r = .ok id → t = some topic) ∧
        (admissions policy).Holding (g + {.opened o t}) (fun _ => True) g₀ w₀ m)

/-- A publish inside the gate that finds its publisher closed is refused as
shutting down, and every step it takes leaves the world as it is: it calls no
broker and caches nothing. -/
theorem publishAdmitted_refused {R : World → World → Prop} (o : Outlet) (topic : String) (draft : EventDraft)
    (options : PublishOptions) :
    Portable (fun _ _ => False) R (fun w => (w.publishing o).closed = true) (publishAdmitted o topic draft options).run
      fun r _ => r = .error .shuttingDown := by
  unfold publishAdmitted
  refine Portable.lbind (Portable.view (Q := fun (p : Publishing) _ => p.closed = true) _) fun p => ?_
  refine Portable.lbind (Portable.yieldNow (Q := fun _ _ => p.closed = true) fun _ _ closed _ => closed) fun _ => ?_
  refine Portable.of_pre fun _ closed => ?_
  dsimp only
  rw [if_pos closed]
  exact (Portable.throw_bind _).conseq (fun _ _ => rfl) fun _ _ refused => refused

/-- What follows the resolution of a publish that found its publisher open:
every step needs no pass, and the only failures are those of the broker. -/
theorem publishOpen_portable (topic : String) (draft : EventDraft) (options : PublishOptions) (p : Publishing)
    (handle : TopicRef) :
    Portable (UngatedJob policy) (Stepped policy) (fun _ => True)
      (do
        let eventId ← BusProg.lift Prog.mint
        let stamped ← BusProg.lift (Prog.view (·.clock))
        let correlationId ← BusProg.lift Prog.mint
        let traceId ← BusProg.lift Prog.mint
        let published ← BusProg.lift (Prog.view (·.clock))
        let (message, encoded) := outboundOf draft p.serviceName eventId correlationId traceId stamped published options
        let id ← BusProg.transport "publish" (← BusProg.lift (Prog.onBroker
          (·.publish handle.name encoded.data encoded.attributes options.orderingKey)))
        BusProg.lift (Prog.note (·.notePublished topic message.data.eventType))
        return id : BusProg String).run
      fun r _ => r ≠ .error .shuttingDown := by
  have mint : Portable (UngatedJob policy) (Stepped policy) (fun _ => True) Prog.mint fun _ _ => True :=
    Portable.act _ fun w _ => ⟨.inr (.mint w), trivial⟩
  refine Portable.lbind mint fun _ => ?_
  refine Portable.lbind (Portable.view (Q := fun _ _ => True) _) fun _ => ?_
  refine Portable.lbind mint fun _ => Portable.lbind mint fun _ => ?_
  refine Portable.lbind (Portable.view (Q := fun _ _ => True) _) fun _ => ?_
  refine Portable.lbind (Q := fun _ _ => True)
    (Portable.onBroker _ fun w _ => ⟨.inr (.call w (.publish _ _ _ _) rfl), fun _ _ => trivial⟩) fun answer => ?_
  refine Portable.ebind (Q := fun r _ => r ≠ .error .shuttingDown)
    ((Portable.transport _ answer).conseq (fun _ _ => ?_) fun _ _ done => done)
    (fun id => Portable.lbind (note_portable (Q := fun _ _ => True) _ fun _ _ => trivial) fun _ =>
      (Portable.ok id).conseq (fun _ _ wrong => by cases wrong) fun _ _ done => done)
    fun _ _ failed => failed
  cases answer <;> simp [Except.mapError]

/-- A publish inside the gate as a reader: on a publisher it finds closed it is
refused, the publisher staying closed; on one it finds open it holds, from then
on, the pass of a reader that found it open, and names its topic in the pass
once the topic is cached. -/
theorem publishAdmitted_admits (o : Outlet) (topic : String) (draft : EventDraft) (options : PublishOptions)
    (g : Multiset Pass) (w : World) (under : (w.publishing o).policy = policy) :
    (admissions policy).Triple (Stepped policy) ((admissions policy).Holding (g + {.reading o}) (· = w))
      (publishAdmitted o topic draft options).run (Admits policy o topic g w) := by
  unfold publishAdmitted
  refine Protocol.Triple.lbind (((Portable.view (Q := fun p w' => p = w.publishing o ∧ w' = w) _).conseq
    (fun w' same => ⟨by rw [same], same⟩) fun _ _ done => done).passFree _)
    fun p => Protocol.Triple.assume_holding fun same => ?_
  subst same
  cases closed : (w.publishing o).closed with
  | true =>
    -- a publisher found closed stays closed through the others' turn
    refine Protocol.Triple.lbind ((Portable.yieldNow (Q := fun _ w' => (w'.publishing o).closed = true)
      fun _ _ same related => ?_).passFree _) fun _ => ?_
    · subst same
      exact rely_keeps (fun _ _ stillClosed step => step.tidy.1.stays_closed o stillClosed) closed related
    dsimp only
    rw [if_pos rfl]
    exact (Protocol.Triple.ret _).conseq (fun _ _ _ holds => .inl ⟨rfl, closed, holds⟩) fun _ _ _ _ done => done
  | false =>
    -- the reader finds its publisher open, and its pass says so from here on
    refine Protocol.Triple.give (g + {.opened o none}) (fun w' => Provisioned w' ∧ (w'.publishing o).policy = policy)
      (fun w' same valid => ?_) ?_
    · subst same
      obtain ⟨_, admitted⟩ := valid
      exact ⟨admissions_update fun _ admitted => admitted.look closed, admitted.provisioned, under⟩
    have policed : ∀ w w', Provisioned w ∧ (w.publishing o).policy = policy → Stepped policy w w' →
        Provisioned w' ∧ (w'.publishing o).policy = policy := fun _ _ holds step =>
      ⟨step.tidy.1.provisioned holds.1, step.same_policy o holds.2⟩
    refine Protocol.Triple.lbind ((Portable.yieldNow_keeps policed).passFree _) fun _ => ?_
    dsimp only
    rw [if_neg Bool.false_ne_true]
    refine Protocol.Triple.ebind ((resolveTopic_portable (fun _ _ step => Guarantee.toChange step) o topic).admitted
      passFree_job _) (fun handle => ?_)
      fun e _ _ _ failed => .inr ⟨closed, (fun same => by cases same; exact failed.holds), none,
        (fun _ wrong => by cases wrong), failed.update, failed.valid, trivial⟩
    -- once its topic is cached, the pass names it
    refine Protocol.Triple.give (g + {.opened o (some topic)}) (fun _ => True)
      (fun w' resolved _ => ⟨admissions_update fun _ admitted => admitted.cache fun within => ?_, trivial⟩) ?_
    · obtain ⟨-, sealed, -⟩ :=
        admitted.open_of_opened within (Multiset.mem_add.mpr (.inr (Multiset.mem_singleton_self (Pass.opened o none))))
      rcases resolved.held within with cached | wrongly
      · rw [← resolved.named]
        exact TopicCache.mem_of_contains (TopicCache.contains_of_find? cached)
      · rw [sealed] at wrongly
        cases wrongly
    exact ((publishOpen_portable topic draft options _ handle).admitted passFree_job _).conseq
      (fun _ _ _ holds => holds)
      fun _ _ _ _ done => .inr ⟨closed, done.holds, some topic, fun _ _ => rfl, done.update, done.valid, trivial⟩

/-- What a publish through `o` leaves once it has ended with `r`: when it
succeeded, its publisher still open with the topic in its cache; when it was
refused as shutting down, its publisher closed. -/
def Seen (o : Outlet) (topic : String) : Except BusError String → World → Prop
  | .ok _, w => o.Within w → (w.publishing o).closed = false ∧ topic ∈ (w.publishing o).topics.names
  | .error e, w => e = .shuttingDown → (w.publishing o).closed = true

/-- What a publish saw as it left the gate, the tasks having moved the world
on since. -/
def Saw (policy : ProvisioningPolicy) (o : Outlet) (topic : String) (r : Except BusError String) (w : World) : Prop :=
  ∃ w₁, Seen o topic r w₁ ∧ Relation.ReflTransGen (Stepped policy) w₁ w

theorem Saw.step {o : Outlet} {topic : String} {r : Except BusError String} {w w' : World}
    (saw : Saw policy o topic r w) (step : Stepped policy w w') : Saw policy o topic r w' := by
  obtain ⟨w₁, seen, since⟩ := saw
  exact ⟨w₁, seen, since.tail step⟩

/-- The pass a publish holds when it leaves the gate is a reader's, and with it
the publish has seen what `Seen` says. -/
theorem Admits.reader {o : Outlet} {topic : String} {g : Multiset Pass} {w : World} {r : Except BusError String}
    {g₀ : Multiset Pass} {w₀ : World} {m : Machine Job World} (admits : Admits policy o topic g w r g₀ w₀ m) :
    ∃ p : Pass, p.readsAt o = true ∧ (admissions policy).Holding (g + {p}) (Seen o topic r) g₀ w₀ m := by
  rcases admits with ⟨rfl, -, holds⟩ | ⟨-, refused, t, named, holds⟩
  · exact ⟨.reading o, by simp, holds.update, holds.valid, fun _ => holds.holds⟩
  · refine ⟨.opened o t, by simp, holds.update, holds.valid, ?_⟩
    obtain ⟨_, admitted⟩ := holds.inv
    cases r with
    | ok id =>
      intro within
      obtain ⟨stillOpen, -, cached⟩ := admitted.open_of_opened within
        (Multiset.mem_add.mpr (.inl (Multiset.mem_add.mpr (.inr (Multiset.mem_singleton_self (Pass.opened o t))))))
      rw [named id rfl] at cached
      exact ⟨stillOpen, cached topic rfl⟩
    | error e => exact fun same => absurd (by rw [same]) refused

/-- A publish through `o` keeps the protocol of passes, holding a reader's pass
from the gate until it leaves it. When it succeeds, it left the gate with its
publisher still open and its topic cached; when it is refused as shutting down,
with its publisher closed. -/
theorem publishVia_passes (o : Outlet) (topic : String) (draft : EventDraft) (options : PublishOptions)
    (g : Multiset Pass) :
    (admissions policy).Triple (Stepped policy)
      ((admissions policy).Holding g fun w => (w.publishing o).policy = policy) (publishVia o topic draft options)
      fun r => (admissions policy).Holding g (Saw policy o topic r) := by
  unfold publishVia
  refine Protocol.Triple.bind (enterRead_passes (fun _ _ under step => step.same_policy o under) o g) fun _ => ?_
  refine Protocol.Triple.bind (Q := fun r g₀ w₀ m => ∃ w, Admits policy o topic g w r g₀ w₀ m)
    (Protocol.Triple.of_world fun w under => (publishAdmitted_admits o topic draft options g w under).conseq
      (fun _ _ _ holds => ⟨holds.update, holds.valid, holds.holds.1⟩) fun _ _ _ _ done => ⟨w, done⟩)
    fun result => ?_
  -- the publish leaves with the reader's pass it holds, whichever it is
  refine Protocol.Triple.bind (Q := fun _ => (admissions policy).Holding g (Saw policy o topic result))
    ((Protocol.Triple.exists_pre (P := fun (p : { p : Pass // p.readsAt o = true }) =>
      (admissions policy).Holding (g + {p.1}) (Saw policy o topic result))
      fun p => leave_reader (fun _ _ saw step => saw.step step) o p.2 g).conseq
      (fun _ _ _ admits => by
        obtain ⟨_, admits⟩ := admits
        obtain ⟨p, reads, holds⟩ := admits.reader
        exact ⟨⟨p, reads⟩, holds.update, holds.valid, _, holds.holds, .refl⟩)
      fun _ _ _ _ done => done) fun _ => ?_
  refine Portable.admitted ?_ passFree_job g
  cases result with
  | ok id =>
    dsimp only
    rw [if_neg (by decide)]
    exact Portable.bind (Portable.pure (Q := fun _ => Saw policy o topic (.ok id)) ()) fun _ => Portable.pure _
  | error e =>
    dsimp only
    rw [if_pos rfl]
    exact Portable.bind (note_portable _ fun w saw => saw.step (passFree_job _ _ (.metrics w (·.notePublishFailure topic))).1) fun _ =>
      Portable.pure _

/-! ## Closing and flushing -/

/-- Closing a publisher goes in as the writer, sets the flag while no reader is
inside, and leaves: it ends with the publisher closed. -/
theorem closePublisher_closes (o : Outlet) (g : Multiset Pass) :
    (admissions policy).Triple (Stepped policy) ((admissions policy).Holding g fun _ => True) (closePublisher o)
      fun _ => (admissions policy).Holding g fun w => o.Within w → (w.publishing o).closed = true := by
  have kept : ∀ w w', (o.Within w → (w.publishing o).closed = true) → Stepped policy w w' →
      o.Within w' → (w'.publishing o).closed = true := fun _ _ closed step => step.stays_closed closed
  unfold closePublisher
  refine Protocol.Triple.bind (enterWrite_passes (F := fun _ => True) (fun _ _ _ _ => trivial) o g) fun _ => ?_
  refine Protocol.Triple.bind (act_hand (fun _ => g + {.writing o})
    (B := fun _ w => o.Within w → (w.publishing o).closed = true) _
    fun w _ _ => ⟨.free (.closePublisher w o), admissions_update fun _ admitted => admitted.close, fun within => ?_⟩)
    fun _ => ?_
  · rw [World.publishing_modifyPublishing_self w (Outlet.within_modifyPublishing within)]
  refine Protocol.Triple.bind ((Portable.yieldNow_keeps kept).passFree _) fun _ => ?_
  exact leave_writer kept o g

/-- A drain of a cache that holds no topic twice lists each cached topic once,
and nothing else. -/
theorem TopicCache.count_drain {c : TopicCache} (apart : c.names.Nodup) (n : String) :
    (c.drain.1.map (·.name)).count n = if n ∈ c.names then 1 else 0 := by
  have taken : (c.drain.1.map (·.name)).Perm c.names := (TopicCache.drain_once c).1.map _
  rw [taken.count_eq]
  split
  · next cached => exact List.count_eq_one_of_mem apart cached
  · next uncached => exact List.count_eq_zero.mpr uncached

/-- Flushing a closed publisher drains its cache, which no reader that found
the publisher open can be using, and then, as the tasks move the world on,
flushes each topic the cache held exactly once, in the order the drain gives.
The cache stays empty and sealed. -/
theorem flushAll_passes (o : Outlet) (w₀ : World) (g : Multiset Pass) :
    (admissions policy).Triple (Stepped policy)
      ((admissions policy).Holding g fun w => w = w₀ ∧ (o.Within w₀ → (w₀.publishing o).closed = true))
      (flushAll o) fun report => (admissions policy).Holding g fun w =>
        (∃ w₁, Relation.ReflTransGen (Stepped policy) (w₀.modifyPublishing o ({ · with topics := ⟨[], true⟩ })) w₁ ∧
          Broker.FlushesAll (fun _ _ => True) (w₁.broker, ⟨0, []⟩) (w₀.publishing o).topics.drain.1
            (w.broker, report)) ∧
        (o.Within w₀ → ∀ n, ((w₀.publishing o).topics.drain.1.map (·.name)).count n =
          if n ∈ (w₀.publishing o).topics.names then 1 else 0) ∧
        (o.Within w → (w.publishing o).topics = ⟨[], true⟩) := by
  unfold flushAll
  refine Protocol.Triple.bind (act_hand (fun _ => g) (B := fun handles w =>
      (handles = (w₀.publishing o).topics.drain.1 ∧
        (o.Within w₀ → ∀ n, (handles.map (·.name)).count n = if n ∈ (w₀.publishing o).topics.names then 1 else 0)) ∧
      w = w₀.modifyPublishing o ({ · with topics := ⟨[], true⟩ })) _
    fun w holds valid => ?_) fun handles => ?_
  · obtain ⟨rfl, closed⟩ := holds
    -- the world's account keeps every cache free of repeats
    obtain ⟨_, admitted⟩ := valid
    exact ⟨.free (.drainTopics w o), admissions_keep fun _ admitted => admitted.drain closed,
      ⟨rfl, fun within => TopicCache.count_drain (admitted.once o within)⟩, rfl⟩
  refine Portable.admitted ?_ passFree_ungated g
  refine Portable.assume fun taken => ?_
  obtain ⟨same, once⟩ := taken
  subst same
  -- a drained cache stays empty and sealed, whatever the tasks do
  have sealed : o.Within (w₀.modifyPublishing o ({ · with topics := ⟨[], true⟩ })) →
      ((w₀.modifyPublishing o ({ · with topics := ⟨[], true⟩ })).publishing o).topics = ⟨[], true⟩ := fun within =>
    congrArg Publishing.topics (World.publishing_modifyPublishing_self w₀ (Outlet.within_modifyPublishing within) _)
  exact (flushTaken_flushes (B := fun _ _ => True) (J := fun w => o.Within w → (w.publishing o).topics = ⟨[], true⟩)
    (fun _ _ _ => trivial) (fun _ _ drained step within => (step.tidy.1.topicCache o).of_drained
      (drained (step.tidy.1.within within))) (fun _ _ drained => drained) _ _ sealed).conseq
    (fun _ same => same) fun _ _ ⟨w₁, since, flushes, drained⟩ => ⟨⟨w₁, since, flushes⟩, once, drained⟩

end Courier
