import Mathlib
import Courier.Proofs.Bus.Reservations

namespace Courier

/-! # A subscribe owns its reservation

Clients subscribe, unsubscribe, publish and shut buses down side by side, each
critical section one stretch of its task, with the background jobs running.
Under the reservations protocol a subscribe call takes a token with the name it
reserves and gives it up with the step that promotes, releases or withdraws the
reservation, or where it finds that a shutdown took it. Every other task keeps
the protocol holding no token at all: an unsubscribe detaches only names that
are not reserved, and a shutdown takes a table only once its bus refuses
subscribers.

So in every interleaving each bus keeps one entry per name and one registration
per running binding, in the order the bindings started running; a reservation
is removed or promoted, while its bus accepts subscribers, only in a stretch of
the call that holds its token; and a subscribe returns `Ok` exactly by promoting
its own reservation, and otherwise leaves its name without an entry and without
a registration, or changes nothing. -/

variable {policy : ProvisioningPolicy}

/-- A program portable for steps that keep the reservations whatever the tokens
holds, in a task of the reservations protocol, with any share. -/
theorem Portable.owned {S : World → World → Prop} {α : Type} {P : World → Prop} {prog : Prog α}
    {Q : α → World → Prop} (portable : Portable S (Stepped policy) P prog Q)
    (keeping : ∀ w w', S w w' → Keeping policy w w') (g : Multiset (Nat × String)) :
    (reservations policy).Triple (Stepped policy) ((reservations policy).Holding g P) prog
      fun a => (reservations policy).Holding g (Q a) :=
  (portable.widen keeping).triple (fun _ _ step => step.1) reservations_fits g

/-- A change of the world that moves the task's tokens from `g` to `g'`. -/
theorem alter_hand {g h : Multiset (Nat × String)} {P : World → Prop} {Q : Unit → World → Prop}
    (f : World → World)
    (step : ∀ w, P w → (∃ frame, Accounted policy w (g + frame)) →
      Stepped policy w (f w) ∧ (reservations policy).Update g w h (f w) ∧ Q () (f w)) :
    (reservations policy).Triple (Stepped policy) ((reservations policy).Holding g P) (Prog.alter f)
      fun a => (reservations policy).Holding h (Q a) :=
  show (reservations policy).Triple _ _ (Async.update fun m => ({ m with world := f m.world }, ())) _ from
    Protocol.Triple.hand _ fun m holds valid => by
      obtain ⟨stepped, moved, done⟩ := step m.world holds valid
      exact ⟨.inr stepped, moved, done⟩

/-- How a subscribe that began on world `w`, its task holding `g`, may end: with
`Ok` by promoting its own reservation, on a world where the invariant held with
the token of that reservation in its hands; or with an error its policy allows,
having changed nothing or leaving no entry and no registration of its name. -/
def Subscribed (policy : ProvisioningPolicy) (bus : Nat) (r : BindRequest) (g : Multiset (Nat × String))
    (w : World) : Except BusError Unit → World → Prop
  | .ok () => fun w' => ∃ w₁ active, (∃ frame, Accounted policy w₁ (g + {(bus, r.subscription)} + frame)) ∧
      (w₁.bus bus).isReserved r.subscription = true ∧ (w₁.bus bus).shuttingDown = false ∧
      active.handle.name = r.subscription ∧
      w' = w₁.modifyBus bus fun b =>
        { b with bindings := b.bindings.map fun (m, e) =>
                   if m == r.subscription then (m, Binding.running active) else (m, e),
                 registrations := b.registrations ++ [⟨r.topic, r.subscription, r.eventTypes⟩] }
  | .error e => fun w' => SubscribeFailure policy r.subscription e ∧
      (w' = w ∨ (w'.bus bus).binding? r.subscription = none ∧
        r.subscription ∉ (w'.bus bus).registrations.map (·.subscription))

section Ends

variable {w : World} {g frame : Multiset (Nat × String)} {i : Nat} {n : String}

theorem Accounted.unregistered (holds : ∃ frame, Accounted policy w (g + frame)) (free : (w.bus i).binding? n = none) :
    n ∉ (w.bus i).registrations.map (·.subscription) := by
  obtain ⟨frame, holds⟩ := holds
  by_cases within : i < w.buses.length
  · have bus := holds.buses i within
    rw [bus.registered.running]
    rintro ⟨a, member⟩
    rw [BusState.binding?, List.lookup_of_mem bus.consistent.bound member] at free
    cases free
  · rw [World.bus_outside (Nat.le_of_not_lt within)]
    simp [BusState.fresh]

/-- The release of a reservation whose token the task holds leaves its name
without an entry. -/
theorem release_unbound (holds : ∃ frame, Accounted policy w (g + {(i, n)} + frame)) :
    ((w.modifyBus i fun b => if b.isReserved n then b.unbind n else b).bus i).binding? n = none := by
  obtain ⟨frame, holds⟩ := holds
  by_cases within : i < w.buses.length
  · rw [World.bus_modifyBus_self w within]
    split
    · rw [BusState.binding?_unbind, if_pos rfl]
    · next unreserved =>
      rw [add_singleton_add] at holds
      rcases (holds.buses i within).reserved n (mem_tokensOn.mpr (Multiset.mem_cons_self _ _)) with
        reserved | taken
      · exact absurd reserved unreserved
      · exact taken.2
  · rw [World.bus_outside (by rw [World.length_modifyBus]; omega)]
    rfl

/-- A withdrawal on a bus that refuses subscribers leaves the name taken. -/
theorem withdraw_taken (reserved : (w.bus i).isReserved n = true) (refusing : (w.bus i).shuttingDown = true) :
    Taken i n (w.modifyBus i (·.unbind n)) := by
  have within := World.within_of_reserved reserved
  rw [Taken, World.bus_modifyBus_self w within, BusState.binding?_unbind, if_pos rfl]
  exact ⟨rfl, fun _ => refusing⟩

/-- A reservation whose token the task holds and that is gone was taken by a
shutdown. -/
theorem taken_of_held (holds : ∃ frame, Accounted policy w (g + {(i, n)} + frame))
    (unreserved : (w.bus i).isReserved n = false) : Taken i n w := by
  obtain ⟨frame, holds⟩ := holds
  rw [add_singleton_add] at holds
  by_cases within : i < w.buses.length
  · rcases (holds.buses i within).reserved n (mem_tokensOn.mpr (Multiset.mem_cons_self _ _)) with
      reserved | ⟨refusing, free⟩
    · rw [unreserved] at reserved
      cases reserved
    · exact ⟨free, fun _ => refusing⟩
  · rw [Taken, World.bus_outside (Nat.le_of_not_lt within)]
    exact ⟨rfl, fun inside => absurd inside within⟩

/-- A task that may end holding `g` on a world where its name has no entry ends a
subscribe that failed with an error its policy allows as `Subscribed` says. -/
theorem subscribed_unbound {bus : Nat} {r : BindRequest} {w₀ w₁ : World} {e : BusError}
    {m : Machine Job World} (failure : SubscribeFailure policy r.subscription e)
    (holds : (reservations policy).Holding g (fun w => (w.bus bus).binding? r.subscription = none) frame w₁ m) :
    (reservations policy).Holding g (Subscribed policy bus r g w₀ (.error e)) frame w₁ m :=
  ⟨holds.update, holds.valid, failure, .inr ⟨holds.holds, Accounted.unregistered holds.inv holds.holds⟩⟩

end Ends

/-- A subscribe takes its token with the reservation it makes and gives it up
by the step that promotes, releases or withdraws the reservation, or where it
finds it taken by a shutdown. It returns `Ok` by promoting its own reservation
on a bus that accepts subscribers, and an error only as its policy allows,
having changed nothing or leaving no entry and no registration of its name. -/
theorem bind_owned (bus : Nat) (r : BindRequest) (g : Multiset (Nat × String)) (w : World)
    (config : (w.bus bus).config.provisioning = policy) :
    (reservations policy).Triple (Stepped policy) ((reservations policy).Holding g (· = w)) (Courier.bind bus r)
      fun result => (reservations policy).Holding g (Subscribed policy bus r g w result) := by
  have jobs : ∀ w w', UngatedJob policy w w' → Keeping policy w w' :=
    fun w w' change => keeping_ungated w w' (.job change)
  have others : ∀ w w', Stepped policy w w' → Change policy true w w' := fun _ _ step => Guarantee.toChange step
  unfold Courier.bind
  refine Protocol.Triple.bind (((Portable.view (Q := fun b w' => b = w.bus bus ∧ w' = w) _).conseq
    (fun w' same => ⟨by rw [same], same⟩) fun _ _ done => done).owned keeping_tableFree g)
    fun b => Protocol.Triple.assume_holding fun same => ?_
  subst same
  split
  · exact ((Portable.pure _).conseq (fun w' same => ⟨trivial, .inl same⟩) fun _ _ done => done).owned
      keeping_tableFree g
  · next accepting =>
    split
    · exact ((Portable.pure _).conseq (fun w' same => ⟨rfl, .inl same⟩) fun _ _ done => done).owned
        keeping_tableFree g
    · next unbound =>
      have free : (w.bus bus).binding? r.subscription = none := Option.not_isSome_iff_eq_none.mp unbound
      have open' : (w.bus bus).shuttingDown = false := by simpa using accepting
      -- the reservation is made, with its token, in the stretch that found the name free
      refine Protocol.Triple.bind (alter_hand (h := g + {(bus, r.subscription)})
        (Q := fun _ w' => w' = w.modifyBus bus fun b => { b with bindings := b.bindings ++ [(r.subscription, .reserved)] })
        _ fun w' same _ => ?_) fun _ => ?_
      · subst same
        exact ⟨.table w' bus _ (.reserve r.subscription free open'), reserve_update g free open', rfl⟩
      dsimp only
      have opening : ∀ w w', Provisioned w ∧ (w.bus bus).config.provisioning = policy → Stepped policy w w' →
          Provisioned w' ∧ (w'.bus bus).config.provisioning = policy := fun _ _ holds step =>
        ⟨step.tidy.1.provisioned holds.1, by rw [step.tidy.1.steady.config bus]; exact holds.2⟩
      refine Protocol.Triple.bind (((Portable.yieldNow_keeps opening).owned keeping_tableFree
        (g + {(bus, r.subscription)})).conseq
        (fun g₀ w₀ m holds => ?_) fun _ _ _ _ done => done) fun _ => ?_
      · obtain ⟨frame, valid⟩ := holds.inv
        refine ⟨holds.update, holds.valid, valid.provisioned, ?_⟩
        rw [holds.holds, World.config_modifyBus w bus bus]
        · exact config
        · exact fun _ => rfl
      refine Protocol.Triple.bind ((openSubscription_portable others bus r _).owned keeping_ungated
        (g + {(bus, r.subscription)})) fun opened => ?_
      cases opened with
      | error e =>
        -- the reservation goes with its token, and the error is the resolution's
        refine Protocol.Triple.bind (alter_hand (h := g)
          (Q := fun _ w' => Unresolved policy [] [r.subscription] e ∧ (w'.bus bus).binding? r.subscription = none) _
          fun w' unresolved valid => ⟨.table w' bus _ (.release r.subscription), release_update g, unresolved,
            release_unbound valid⟩) fun _ => ?_
        exact (Protocol.Triple.ret _).conseq (fun _ _ _ holds => subscribed_unbound
            (.of_unresolved holds.holds.1) ⟨holds.update, holds.valid, holds.holds.2⟩) fun _ _ _ _ done => done
      | ok opened =>
        obtain ⟨handle, channel⟩ := opened
        refine (Protocol.Triple.assume_holding (A := fun _ => True) fun named => ?_).conseq
          (fun _ _ _ holds => ⟨holds.update, holds.valid, holds.holds, trivial⟩) fun _ _ _ _ done => done
        refine Protocol.Triple.bind ((startLoop_portable bus r handle channel _).owned jobs
          (g + {(bus, r.subscription)})) fun active => ?_
        refine Protocol.Triple.bind (((Portable.view (Q := fun b' w' => b' = w'.bus bus ∧ active.handle = handle) _).conseq
          (fun _ started => ⟨rfl, started⟩) fun _ _ done => done).owned keeping_tableFree (g + {(bus, r.subscription)}))
          fun b' => ?_
        -- what is left once the reservation and its token are gone: the loop stops, the
        -- subscription is forgotten and closed, and the name stays without an entry
        have refused : (reservations policy).Triple (Stepped policy)
            ((reservations policy).Holding g (Taken bus r.subscription))
            (do
              Async.yieldNow
              stopLoop active
              Prog.alter fun w => w.modifyBus bus fun b =>
                { b with subscriptions := (b.subscriptions.remove r.subscription).1 }
              Async.yieldNow
              let _ ← closeSubscription handle
              pure (Except.error BusError.shuttingDown : Except BusError Unit))
            fun result => (reservations policy).Holding g (Subscribed policy bus r g w result) := by
          have tail : Portable (Keeping policy) (Stepped policy) (fun _ => True)
              (do
                Async.yieldNow
                stopLoop active
                Prog.alter fun w => w.modifyBus bus fun b =>
                  { b with subscriptions := (b.subscriptions.remove r.subscription).1 }
                Async.yieldNow
                let _ ← closeSubscription handle
                pure (Except.error BusError.shuttingDown : Except BusError Unit))
              fun result _ => result = .error .shuttingDown := by
            refine Portable.bind (Portable.yieldNow (Q := fun _ _ => True) fun _ _ _ _ => trivial) fun _ => ?_
            refine Portable.bind ((stopLoop_portable active).widen jobs) fun _ => ?_
            refine Portable.bind (Portable.alter (Q := fun _ _ => True) _ fun w _ => ⟨.inr keeping_forget, trivial⟩)
              fun _ => ?_
            refine Portable.bind (Portable.yieldNow (Q := fun _ _ => True) fun _ _ _ _ => trivial) fun _ => ?_
            refine Portable.bind ((closeSubscription_portable handle).widen keeping_ungated) fun _ => ?_
            exact (Portable.pure _).conseq (fun _ _ => rfl) fun _ _ done => done
          refine ((tail.frame (stable_taken (fun _ _ step => step.1) bus r.subscription)).owned
            (fun _ _ step => step) g).conseq (fun _ _ _ holds => ⟨holds.update, holds.valid, trivial, holds.holds⟩)
            fun result _ _ _ holds => ?_
          obtain ⟨rfl, taken⟩ := holds.holds
          exact subscribed_unbound trivial ⟨holds.update, holds.valid, taken.1⟩
        split
        · next admitted =>
          -- the promotion is made, giving up the token, in the stretch that found the reservation in place
          rw [Bool.and_eq_true, Bool.not_eq_true'] at admitted
          refine Protocol.Triple.bind (alter_hand (h := g) (Q := fun _ => Subscribed policy bus r g w (.ok ())) _
            fun w' found valid => ?_) fun _ => Protocol.Triple.ret
              (Q := fun result => (reservations policy).Holding g (Subscribed policy bus r g w result)) _
          obtain ⟨rfl, started⟩ := found
          have runs : active.handle.name = r.subscription := by rw [started]; exact named
          exact ⟨.table w' bus _ (.promote r.subscription active _ admitted.1 admitted.2 runs rfl),
            promote_update g admitted.1 admitted.2 runs rfl, w', active, valid, admitted.1, admitted.2, runs, rfl⟩
        · next refusedNow =>
          split
          · next reserved =>
            -- a shutdown refuses subscribers but left the reservation: it goes with its token
            have refusing : b'.shuttingDown = true := by simpa [reserved] using refusedNow
            refine Protocol.Triple.bind (alter_hand (h := g) (Q := fun _ => Taken bus r.subscription) _
              fun w' found _ => ?_) fun _ => refused
            obtain ⟨rfl, -⟩ := found
            exact ⟨.table w' bus _ (.withdraw r.subscription reserved), withdraw_update g reserved,
              withdraw_taken reserved refusing⟩
          · next unreserved =>
            -- a shutdown took the reservation: the token is given up where the call finds it gone
            refine refused.conseq (fun _ _ m holds => ?_) fun _ _ _ _ done => done
            obtain ⟨same, -⟩ := holds.holds
            have gone : (m.world.bus bus).isReserved r.subscription = false := by
              rw [← same]
              simpa using unreserved
            exact ⟨Protocol.Update.trans _ holds.update (drop_update g gone), holds.valid,
              taken_of_held holds.inv gone⟩

/-- A program specified for the steps that leave tables alone is safe among
callers that keep the reservations, holding any share it does not change. -/
theorem Spec.reservationsSafe {α : Type} {P : World → Prop} {prog : Prog α} {Q : α → World → Prop}
    (spec : Spec (Stepped policy) (TableFree policy) P prog Q) {m : Machine Job World} (holds : P m.world)
    {g : Multiset (Nat × String)} {w₀ : World} (kept : (reservations policy).Update g w₀ g m.world) :
    (reservations policy).Safe (Stepped policy) g w₀ m (prog fun _ => .done) :=
  Protocol.Safe.mono _ (fun _ _ change => Stepped.free change)
    (Protocol.Safe.lift (ρ := busTasks (Stepped policy)) (reservations policy) (fun _ _ related => related)
      (fun _ _ _ => trivial) (fun _ _ change _ holds => Accounted.tableFree holds change) (spec.safe holds) kept)

theorem jobs_reservationsSafe : Pool.JobsSafe (reservations policy) (Stepped policy) Job.start :=
  fun job _ _ holds => (program_spec (fun _ _ step => Guarantee.toChange step) job).reservationsSafe
    ⟨holds.provisioned, holds.handlers⟩ (Protocol.Update.refl _ 0 _)

/-- Every shutdown keeps the reservations: it takes a table only once its bus
refuses subscribers. -/
theorem shutdown_owned (bus : Nat) :
    Portable (Keeping policy) (Stepped policy) (fun _ => True) (shutdown bus) fun _ _ => True := by
  refine Portable.of_pre fun w₀ _ => ?_
  cases accepting : (w₀.bus bus).shuttingDown with
  | true => exact (shutdown_refused_portable bus w₀ accepting).conseq (fun _ same => same) fun _ _ _ => trivial
  | false =>
    have refused : bus < (w₀.modifyBus bus ({ · with shuttingDown := true })).buses.length →
        ((w₀.modifyBus bus ({ · with shuttingDown := true })).bus bus).shuttingDown = true := fun within => by
      rw [World.length_modifyBus] at within
      rw [World.bus_modifyBus_self w₀ within]
    -- the table is taken from a world where the bus still refuses subscribers
    have stillRefused : ∀ w w', (bus < w.buses.length → (w.bus bus).shuttingDown = true) → Stepped policy w w' →
        bus < w'.buses.length → (w'.bus bus).shuttingDown = true := fun _ _ holds step within =>
      step.tidy.2.refusing bus (holds (step.tidy.2.length ▸ within))
    exact (shutdown_keeps_portable (C := fun _ => True) keeping_tableFree (fun _ _ step => step.tidy.1)
      stillRefused (fun _ _ _ _ => trivial) (fun _ _ _ _ => trivial) bus w₀ accepting keeping_refuse refused
      (fun _ refusing => ⟨keeping_clear refusing, trivial⟩) fun _ _ => ⟨keeping_drain, trivial⟩).conseq
      (fun _ same => same) fun _ _ _ => trivial

/-- Every unsubscribe keeps the reservations: it detaches only a name that is not
reserved. -/
theorem unsubscribe_owned (bus : Nat) (name : String) :
    Portable (Keeping policy) (Stepped policy) (fun _ => True) (unsubscribe bus name) fun _ _ => True :=
  unsubscribe_portable keeping_ungated bus name (fun _ unreserved => keeping_unsubscribe unreserved)
    fun _ => keeping_forget

namespace RaceTask

/-- Every task of a race keeps the reservations, holding no token when it
starts. -/
theorem owned (t : RaceTask) {m : Machine Job World} (valid : ∃ frame, Accounted policy m.world (0 + frame))
    (under : t.Under policy m.world) : (reservations policy).Safe (Stepped policy) 0 m.world m t.start := by
  cases t with
  | request r =>
    cases r with
    | call c =>
      cases c with
      | publish o topic draft options =>
        have spec : Spec (Stepped policy) (TableFree policy)
            (fun w => Provisioned w ∧ (w.publishing o).policy = policy) (Call.run (.publish o topic draft options))
            fun _ _ => True := by
          refine Spec.bind (publishVia_spec (fun _ _ step => Guarantee.toChange step) o topic draft options)
            fun result => ?_
          cases result <;> exact Spec.pure_true _
        obtain ⟨frame, holds⟩ := valid
        exact spec.reservationsSafe ⟨holds.provisioned, under⟩ (Protocol.Update.refl _ 0 _)
      | subscribe bus request =>
        show (reservations policy).Safe (Stepped policy) 0 m.world m (Call.run (.subscribe bus request) fun _ => .done)
        refine Protocol.Triple.safe_holding (π := reservations policy) (A := (· = m.world)) (B := fun _ _ => True)
          ?_ valid rfl
        refine Protocol.Triple.bind (bind_owned bus request 0 m.world under) fun result => ?_
        cases result <;>
          exact (Protocol.Triple.ret (Q := fun _ => (reservations policy).Holding 0 fun _ => True) _).conseq
            (fun _ _ _ holds => ⟨holds.update, holds.valid, trivial⟩) fun _ _ _ _ done => done
    | unsubscribe bus name =>
      exact Protocol.Triple.safe_holding ((unsubscribe_owned bus name).owned (fun _ _ step => step) 0) valid trivial
  | shutdown bus =>
    exact Protocol.Triple.safe_holding ((shutdown_owned bus).owned (fun _ _ step => step) 0) valid trivial

end RaceTask

/-- Requests and shutdowns racing on buses that provision under `policy`, from a
world where the invariant holds with no token: a good pool of the reservations
protocol, in which every task starts holding no token. -/
theorem reservations_good {m : Machine Job World} {tasks : List RaceTask} (holds : Accounted policy m.world 0)
    (under : ∀ t ∈ tasks, t.Under policy m.world) :
    ∃ accounts, Pool.Good (reservations policy) (Stepped policy) ⟨m, tasks.map RaceTask.start, none⟩ accounts 0 := by
  refine Pool.Good.unshared m _ (fun f listed m' frame related valid => ?_) holds
  obtain ⟨t, member, rfl⟩ := List.mem_map.mp listed
  -- what the task relies on survives the others' steps before it first runs
  exact t.owned ⟨frame, valid⟩ ((under t member).stepped related)

/-- Subscribes, unsubscribes, publishes and shutdowns racing on buses that
provision under one policy, from a world where what is cached exists, every
handler publishes under that policy, and every bus is consistent, with its
registrations following its running bindings and no reservation. Then:

* every task keeps the reservations protocol, holding no token when it starts:
  each stretch of each task, begun where the invariant held with the tokens of
  all, ends where it holds again with the task's new tokens and the others' as
  they were;
* at every point of every run each bus has one entry per name, a running
  binding runs the subscription it is named for, and there is one registration
  for each running binding and none for any other name; each step moves the
  registrations of a bus only by one more after the others, for the reserved
  name a promotion starts running, by the registration of a name that loses its
  entry, or by all of them with the whole table;
* in a stretch that keeps the protocol, a reservation that goes while its bus
  still accepts subscribers was the task's own and no other task held it; one
  made on a bus that accepts subscribers is the task's at its end and no other
  task's; and a reservation still there at the end stays with the task that
  held it;
* a subscribe returns `Ok` exactly by promoting its own reservation to a running
  binding with the registration of its request, and fails only as its policy
  allows, having changed nothing or leaving no entry and no registration of its
  name. -/
theorem subscribe_owns_reservation {m : Machine Job World} {tasks : List RaceTask}
    (provisioned : Provisioned m.world) (handlers : HandlersUnder policy m.world)
    (settled : ∀ i, (m.world.bus i).Consistent ∧ (m.world.bus i).Registered ∧
      ∀ n, (m.world.bus i).isReserved n = false)
    (under : ∀ t ∈ tasks, t.Under policy m.world) :
    (∃ accounts, Pool.Good (reservations policy) (Stepped policy) ⟨m, tasks.map RaceTask.start, none⟩ accounts 0) ∧
    (∀ p, Relation.ReflTransGen (Pool.Step Job.start) ⟨m, tasks.map RaceTask.start, none⟩ p →
      (∀ i, (p.machine.world.bus i).Consistent ∧ (p.machine.world.bus i).Registered) ∧
      ∀ p', Pool.Step Job.start p p' → ∀ i, (p.machine.world.bus i).RegistrationsMove (p'.machine.world.bus i)) ∧
    (∀ (g g' frame : Multiset (Nat × String)) (w w' : World) (i : Nat) (n : String),
      (reservations policy).Update g w g' w' → Accounted policy w (g + frame) →
      ((w.bus i).isReserved n = true → i < w'.buses.length → (w'.bus i).isReserved n = false →
        (w'.bus i).shuttingDown = false → (i, n) ∈ g ∧ (i, n) ∉ frame) ∧
      (i < w.buses.length → (w.bus i).isReserved n = false → (w.bus i).shuttingDown = false →
        (w'.bus i).isReserved n = true → (i, n) ∈ g' ∧ (i, n) ∉ frame) ∧
      (i < w.buses.length → (i, n) ∈ g → (w'.bus i).isReserved n = true → (i, n) ∈ g')) ∧
    ∀ bus r g w, (w.bus bus).config.provisioning = policy →
      (reservations policy).Triple (Stepped policy) ((reservations policy).Holding g (· = w)) (Courier.bind bus r)
        fun result => (reservations policy).Holding g (Subscribed policy bus r g w result) := by
  -- no task holds a token yet, and no bus has a reservation
  have accounted : Accounted policy m.world 0 := ⟨provisioned, handlers, fun i _ =>
    ⟨(settled i).1, (settled i).2.1, Multiset.nodup_zero,
      fun n reserved => absurd reserved (by rw [(settled i).2.2 n]; decide),
      fun _ none => absurd none (Multiset.notMem_zero _)⟩⟩
  obtain ⟨accounts, good⟩ := reservations_good accounted under
  have others : ∀ w w', Stepped policy w w' → (reservations policy).rely w w' := fun _ _ step => .single step
  refine ⟨⟨accounts, good⟩, fun p run => ⟨fun i => ?_, fun p' step i => ?_⟩,
    fun g g' frame w w' i n update valid => ⟨fun reserved within gone accepting => ?_,
      fun within free accepting made => update.held_of_made valid within free accepting made,
      fun within held still => update.keeps_held valid within held still⟩, fun bus r g w config => bind_owned bus r g w config⟩
  · exact good.keeps others jobs_reservationsSafe
      (F := fun w => ∀ i, (w.bus i).Consistent ∧ (w.bus i).Registered)
      (fun _ _ step tables i => step.tables (tables i).1 (tables i).2) (fun i => ⟨(settled i).1, (settled i).2.1⟩) run i
  · obtain ⟨_, _, good'⟩ := good.run others jobs_reservationsSafe run
    rcases good'.allows step with same | moved
    · exact .kept (by rw [same])
    · exact moved.registrationsMove i
  · obtain ⟨mine, theirs, -⟩ := update.held_of_removed valid reserved within gone accepting
    exact ⟨mine, theirs⟩

/-- The busy bus holds no reservation, and its one registration follows its one
running binding. -/
theorem busy_settled (i : Nat) : (busyMachine.world.bus i).Consistent ∧ (busyMachine.world.bus i).Registered ∧
    ∀ n, (busyMachine.world.bus i).isReserved n = false := by
  refine ⟨consistent_busy i, ?_, fun n => ?_⟩
  · rw [bus_busy]
    split
    · exact ⟨by simp [busyBus], fun n => by simp [busyBus]⟩
    · exact ⟨List.nodup_nil, by simp [BusState.fresh]⟩
  · rw [bus_busy]
    split
    · -- the one name bound on the busy bus runs, it is not reserved
      simp only [BusState.isReserved, BusState.binding?, busyBus, List.lookup]
      cases n == "audit" <;> rfl
    · rfl

/-- Two subscribes of one new name racing an unsubscribe of the running
subscription and a shutdown of the busy bus: once the first subscribe has
reserved the name, every bus is still consistent with its registrations. -/
theorem busy_subscribes_owned :
    ∃ p, Relation.ReflTransGen (Pool.Step Job.start)
        ⟨busyMachine, [RaceTask.request (.call billing), .request (.call (.subscribe 0 ⟨"orders", "billing", 1, none,
          none, none⟩)), .request (.unsubscribe 0 "audit"), .shutdown 0].map RaceTask.start, none⟩ p ∧
      (p.machine.world.bus 0).bindings = [("audit", .running ⟨auditHandle, 2, 0⟩), ("billing", .reserved)] ∧
      ∀ i, (p.machine.world.bus i).Consistent ∧ (p.machine.world.bus i).Registered := by
  let tasks := [RaceTask.request (.call billing), .request (.call (.subscribe 0 ⟨"orders", "billing", 1, none,
    none, none⟩)), .request (.unsubscribe 0 "audit"), .shutdown 0]
  have under : ∀ t ∈ tasks, t.Under .autoProvision busyMachine.world := by
    intro t member
    simp only [tasks, List.mem_cons, List.not_mem_nil, or_false] at member
    rcases member with rfl | rfl | rfl | rfl
    · rfl
    · rfl
    · trivial
    · trivial
  -- the first subscribe reads the bus, then reserves its name
  have reading : Pool.Step Job.start ⟨busyMachine, tasks.map RaceTask.start, none⟩ _ := .step (i := 0) rfl (.inl rfl)
  have reserving := (Relation.ReflTransGen.single reading).tail (.step (i := 0) rfl (.inr rfl))
  exact ⟨_, reserving, rfl,
    ((subscribe_owns_reservation provisioned_busy handlersUnder_busy busy_settled under).2.1 _ reserving).1⟩

end Courier
