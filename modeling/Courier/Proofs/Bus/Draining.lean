import Courier.Proofs.Bus.Provisioning
import Courier.Proofs.Bus.Shutdown

namespace Courier

/-! # Buses stay consistent, and shut down once

Clients subscribe, unsubscribe and publish side by side while the background
jobs run. Under every interleaving of their steps every bus stays consistent:
each name has one entry in its table, a running binding runs the subscription
it is named for, and each subscription and each topic is cached once; a bus
that refuses subscribers goes on refusing them, and one that a shutdown cleared
stays cleared. From every state these calls reach, the first shutdown of a bus
closes each subscription that is bound or cached exactly once and flushes each
topic of its last cache exactly once, and every later shutdown takes no step at
all. -/

namespace SubscriptionCache

theorem names_nodup_insert {c : SubscriptionCache} (apart : (c.map (·.name)).Nodup) (handle : SubscriptionHandle) :
    ((c.insert handle).1.map (·.name)).Nodup := by
  unfold insert
  split
  · exact apart
  · next missing =>
    rw [find?, List.find?_eq_none] at missing
    rw [List.map_append, List.map_singleton]
    refine List.nodup_append.mpr ⟨apart, List.nodup_singleton _, fun n cached n' single same => ?_⟩
    obtain ⟨h, member, rfl⟩ := List.mem_map.mp cached
    rw [List.mem_singleton.mp single] at same
    exact missing h member (by simp [same])

theorem names_nodup_remove {c : SubscriptionCache} (apart : (c.map (·.name)).Nodup) (name : String) :
    ((c.remove name).1.map (·.name)).Nodup :=
  (List.filter_sublist.map _).nodup apart

end SubscriptionCache

namespace BusState

variable {b : BusState}

namespace Consistent

theorem unbind (consistent : b.Consistent) (name : String) : (b.unbind name).Consistent where
  topics := consistent.topics
  cached := consistent.cached
  bound := (List.filter_sublist.map _).nodup consistent.bound
  named n a member := consistent.named n a (List.mem_filter.mp member).1

theorem forget (consistent : b.Consistent) (name : String) :
    { b with subscriptions := (b.subscriptions.remove name).1 }.Consistent :=
  { consistent with cached := SubscriptionCache.names_nodup_remove consistent.cached name }

theorem cache (consistent : b.Consistent) (handle : SubscriptionHandle) :
    { b with subscriptions := (b.subscriptions.insert handle).1 }.Consistent :=
  { consistent with cached := SubscriptionCache.names_nodup_insert consistent.cached handle }

/-- A reservation of a name that has no entry keeps the names of the table
apart. -/
theorem reserve (consistent : b.Consistent) {name : String} (free : b.binding? name = none) :
    { b with bindings := b.bindings ++ [(name, Binding.reserved)] }.Consistent where
  topics := consistent.topics
  cached := consistent.cached
  bound := by
    rw [binding?, List.lookup_eq_none_iff] at free
    rw [List.map_append, List.map_singleton]
    refine List.nodup_append.mpr ⟨consistent.bound, List.nodup_singleton _, fun n bound n' single same => ?_⟩
    obtain ⟨entry, member, rfl⟩ := List.mem_map.mp bound
    rw [List.mem_singleton.mp single] at same
    have apart := free entry member
    simp [same] at apart
  named n a member := by
    rcases List.mem_append.mp member with old | added
    · exact consistent.named n a old
    · simp at added

/-- Changing the entries of a table but not their names keeps the names apart. -/
theorem names_apart_of_keeps {bindings : List (String × Binding)} {f : String × Binding → String × Binding}
    (keeps : ∀ entry ∈ bindings, (f entry).1 = entry.1) (apart : (bindings.map (·.1)).Nodup) :
    ((bindings.map f).map (·.1)).Nodup := by
  have names : (bindings.map f).map (·.1) = bindings.map (·.1) := by
    rw [List.map_map]
    exact List.map_congr_left keeps
  rw [names]
  exact apart

/-- Promoting a reservation to a binding that runs the subscription of its name
keeps the table consistent. -/
theorem promote (consistent : b.Consistent) {name : String} {active : ActiveSubscription}
    (runs : active.handle.name = name) (registrations : List Registration) :
    { b with bindings := b.bindings.map (fun (n, e) => if n == name then (n, Binding.running active) else (n, e)),
             registrations := registrations }.Consistent where
  topics := consistent.topics
  cached := consistent.cached
  bound := by
    -- the promotion keeps every entry's name
    refine names_apart_of_keeps (fun entry _ => ?_) consistent.bound
    obtain ⟨n, e⟩ := entry
    dsimp only
    split <;> rfl
  named n a member := by
    obtain ⟨⟨n', e⟩, old, same⟩ := List.mem_map.mp member
    dsimp only at same
    split at same
    · next promoted =>
      cases same
      rw [runs]
      exact (beq_iff_eq.mp promoted).symm
    · cases same
      exact consistent.named n a old

theorem tableChange (consistent : b.Consistent) {b' : BusState} (change : TableChange b b') : b'.Consistent := by
  cases change with
  | reserve name free _ => exact consistent.reserve free
  | promote name active registration _ _ runs _ => exact consistent.promote runs _
  | release name =>
    split
    · exact consistent.unbind name
    · exact consistent
  | withdraw name _ => exact consistent.unbind name
  | forget name => exact consistent.forget name
  | unsubscribe name _ =>
    exact ⟨consistent.topics, consistent.cached, (consistent.unbind name).bound, (consistent.unbind name).named⟩
  | refuse => exact ⟨consistent.topics, consistent.cached, consistent.bound, consistent.named⟩
  | clear => exact ⟨consistent.topics, consistent.cached, List.nodup_nil, fun _ _ none => by cases none⟩
  | drain => exact ⟨consistent.topics, List.nodup_nil, consistent.bound, consistent.named⟩

end Consistent

theorem consistent_fresh (config : BusConfig) : (BusState.fresh config).Consistent :=
  ⟨List.nodup_nil, List.nodup_nil, List.nodup_nil, fun _ _ none => by cases none⟩

end BusState

/-- What a shutdown leaves of a bus's table: the bus refuses subscribers, and has
no binding, running or reserved, and no registration. -/
structure BusState.Cleared (b : BusState) : Prop where
  refusing : b.shuttingDown = true
  unbound : b.bindings = []
  unregistered : b.registrations = []

theorem BusState.Cleared.unbind {b : BusState} (cleared : b.Cleared) (name : String) : (b.unbind name).Cleared :=
  ⟨cleared.refusing, by simp [BusState.unbind, cleared.unbound], cleared.unregistered⟩

/-- No change of a table binds or registers anything on a cleared bus: a
reservation and a promotion both need a bus that accepts subscribers. -/
theorem TableChange.cleared {b b' : BusState} (change : TableChange b b') (cleared : b.Cleared) : b'.Cleared := by
  cases change with
  | reserve name _ accepting => exact absurd accepting (by simp [cleared.refusing])
  | promote name active registration _ accepting _ _ => exact absurd accepting (by simp [cleared.refusing])
  | release name =>
    split
    · exact cleared.unbind name
    · exact cleared
  | withdraw name _ => exact cleared.unbind name
  | forget name => exact ⟨cleared.refusing, cleared.unbound, cleared.unregistered⟩
  | unsubscribe name _ => exact ⟨cleared.refusing, (cleared.unbind name).unbound, by simp [cleared.unregistered]⟩
  | refuse => exact ⟨rfl, cleared.unbound, cleared.unregistered⟩
  | clear => exact ⟨cleared.refusing, rfl, rfl⟩
  | drain => exact ⟨cleared.refusing, cleared.unbound, cleared.unregistered⟩

/-- A change of a table never lets a bus accept subscribers again. -/
theorem TableChange.refusing {b b' : BusState} (change : TableChange b b') (refusing : b.shuttingDown = true) :
    b'.shuttingDown = true := by
  cases change with
  | release name => split <;> exact refusing
  | refuse => rfl
  | _ => exact refusing

/-- What a step keeps of every bus: a consistent bus stays consistent, a bus
that refuses subscribers goes on refusing them, a cleared bus stays cleared, and
no bus comes or goes. -/
structure BusesKept (w w' : World) : Prop where
  consistent : ∀ i, (w.bus i).Consistent → (w'.bus i).Consistent
  refusing : ∀ i, (w.bus i).shuttingDown = true → (w'.bus i).shuttingDown = true
  cleared : ∀ i, (w.bus i).Cleared → (w'.bus i).Cleared
  length : w'.buses.length = w.buses.length

namespace BusesKept

variable {w w' w'' : World}

theorem refl (w : World) : BusesKept w w :=
  ⟨fun _ holds => holds, fun _ holds => holds, fun _ holds => holds, rfl⟩

theorem trans (first : BusesKept w w') (second : BusesKept w' w'') : BusesKept w w'' :=
  ⟨fun i holds => second.consistent i (first.consistent i holds),
    fun i holds => second.refusing i (first.refusing i holds),
    fun i holds => second.cleared i (first.cleared i holds), second.length.trans first.length⟩

theorem of_buses (same : w'.buses = w.buses) : BusesKept w w' := by
  have bus : ∀ i, w'.bus i = w.bus i := fun i => by simp [World.bus, same]
  exact ⟨fun i holds => bus i ▸ holds, fun i holds => bus i ▸ holds, fun i holds => bus i ▸ holds,
    by rw [same]⟩

/-- A change of one bus that keeps it consistent, refusing and cleared. -/
theorem modifyBus {i : Nat} {f : BusState → BusState}
    (consistent : (w.bus i).Consistent → (f (w.bus i)).Consistent)
    (refusing : (w.bus i).shuttingDown = true → (f (w.bus i)).shuttingDown = true)
    (cleared : (w.bus i).Cleared → (f (w.bus i)).Cleared) :
    BusesKept w (w.modifyBus i f) := by
  refine ⟨fun j holds => ?_, fun j holds => ?_, fun j holds => ?_, World.length_modifyBus w i f⟩
  · rcases World.bus_modifyBus w i j f with same | ⟨rfl, changed⟩
    · exact same ▸ holds
    · exact changed ▸ consistent holds
  · rcases World.bus_modifyBus w i j f with same | ⟨rfl, changed⟩
    · exact same ▸ holds
    · exact changed ▸ refusing holds
  · rcases World.bus_modifyBus w i j f with same | ⟨rfl, changed⟩
    · exact same ▸ holds
    · exact changed ▸ cleared holds

/-- A change of a publisher that keeps its cached topics apart. -/
theorem modifyPublishing (o : Outlet) {f : Publishing → Publishing}
    (apart : ∀ p : Publishing, p.topics.names.Nodup → (f p).topics.names.Nodup) :
    BusesKept w (w.modifyPublishing o f) := by
  cases o with
  | bus i =>
    exact modifyBus (fun consistent => ⟨apart _ consistent.topics, consistent.cached, consistent.bound,
      consistent.named⟩) id fun cleared => ⟨cleared.refusing, cleared.unbound, cleared.unregistered⟩
  | standalone => exact of_buses rfl

end BusesKept

theorem Change.busesKept {policy : ProvisioningPolicy} {w w' : World} (change : Change policy false w w') :
    BusesKept w w' := by
  cases change with
  | gate w o g => exact .modifyPublishing o fun _ apart => apart
  | cacheTopic w o name _ =>
    rw [World.cacheTopic_fst]
    have allocated : BusesKept w w.allocate.1 := .of_buses rfl
    exact allocated.trans (.modifyPublishing o fun p apart => (p.topics.grows_insert _).2 apart)
  | _ => exact .of_buses rfl

/-- The changes of bus tasks that keep every bus consistent and every bus that
refuses subscribers refusing. -/
def TidyChange (policy : ProvisioningPolicy) (w w' : World) : Prop :=
  Change policy true w w' ∧ BusesKept w w'

/-- Every step of the bus programs keeps the buses tidy. -/
instance tidyChanges {policy : ProvisioningPolicy} : Guarantee.Caller policy (TidyChange policy) where
  ofJob change := ⟨change.widen, change.busesKept⟩
  toChange step := step.1
  call w c := ⟨Guarantee.Caller.call w c, .of_buses rfl⟩
  createSubscription w name topic ackDeadline allowed present dead :=
    ⟨.createSubscription w name topic ackDeadline allowed present dead, .of_buses rfl⟩
  cacheSubscription w i handle present :=
    ⟨.cacheSubscription w i handle present, .modifyBus (fun consistent => consistent.cache handle) id
      fun cleared => ⟨cleared.refusing, cleared.unbound, cleared.unregistered⟩⟩
  closePublisher w o := ⟨.closePublisher w o, .modifyPublishing o fun _ apart => apart⟩
  drainTopics w o := ⟨.drainTopics w o, .modifyPublishing o fun _ _ => List.nodup_nil⟩
  table w i f change :=
    ⟨Guarantee.Caller.table w i f change, .modifyBus (fun consistent => consistent.tableChange change)
      change.refusing change.cleared⟩

/-- A request a client makes of the buses: a call, that is a publish or a
subscribe, or an unsubscribe. -/
inductive Request where
  | call (c : Call)
  | unsubscribe (bus : Nat) (name : String)

namespace Request

def start : Request → Fut Job World
  | .call c => c.start
  | .unsubscribe bus name => Courier.unsubscribe bus name fun _ => .done

/-- The request goes through a publisher or a bus that provisions under
`policy`. -/
def Under (policy : ProvisioningPolicy) (w : World) : Request → Prop
  | .call c => c.Under policy w
  | .unsubscribe _ _ => True

variable {policy : ProvisioningPolicy}

theorem Under.steady {w w' : World} (steady : Steady w w') {r : Request} (under : r.Under policy w) :
    r.Under policy w' := by
  cases r with
  | call c => exact Call.Under.steady steady under
  | unsubscribe _ _ => trivial

/-- A request is safe among the tasks of buses that provision under `policy`,
and keeps their buses tidy. -/
theorem safe (r : Request) {m : Machine Job World} (provisioned : Provisioned m.world)
    (under : r.Under policy m.world) : (provisioning policy).Safe (TidyChange policy) () m.world m r.start := by
  cases r with
  | call c =>
    exact (Call.fails_as_allowed (R := Change policy true) (fun _ _ change => change) c).provisioningSafe
      ⟨provisioned, under⟩
  | unsubscribe bus name => exact (unsubscribe_spec (R := Change policy true) bus name).provisioningSafe trivial

end Request

variable {policy : ProvisioningPolicy}

theorem tidy_rely : ∀ w w', TidyChange policy w w' → (provisioning policy).rely w w' :=
  fun _ _ step => .single step.1

/-- Tasks of one kind on buses that provision under `policy`, each safe among
them from every world where it goes through such a bus, started where what is
cached exists, every handler publishes under `policy` and every task goes
through such a bus, make a good pool for the tidy changes: the steps of the
others keep each task going through such a bus until it first runs. -/
theorem tidy_good {τ : Type} {m : Machine Job World} (start : τ → Fut Job World) (Under : World → τ → Prop)
    (steady : ∀ {w w' : World}, Steady w w' → ∀ {t : τ}, Under w t → Under w' t)
    (safe : ∀ t {m : Machine Job World}, Provisioned m.world → Under m.world t →
      (provisioning policy).Safe (TidyChange policy) () m.world m (start t))
    {tasks : List τ} (provisioned : Provisioned m.world) (handlers : HandlersUnder policy m.world)
    (under : ∀ t ∈ tasks, Under m.world t) :
    ∃ accounts, Pool.Good (provisioning policy) (TidyChange policy) ⟨m, tasks.map start, none⟩ accounts 0 := by
  have each : ∀ (i : Nat) f g, (tasks.map start)[i]? = some f →
      ((tasks.map start).map fun _ => ())[i]? = some g →
      (provisioning policy).Resumable (TidyChange policy) g m.world f := by
    intro i f _ found _ m' _ related holds
    obtain ⟨t, listed, rfl⟩ := List.mem_map.mp (List.mem_of_getElem? found)
    exact safe t holds.1 (steady (Steady.of_changes related) (under t listed))
  exact ⟨_, Pool.Good.begin m _ _ (by simp) each ⟨provisioned, handlers⟩⟩

/-- A shutdown of a bus that already refuses subscribers takes no step, and
reports that it closed and flushed nothing. -/
theorem shutdown_refused_portable {R S : World → World → Prop} (bus : Nat) (w₀ : World)
    (refusing : (w₀.bus bus).shuttingDown = true) :
    Portable S R (· = w₀) (shutdown bus) fun report w => report = .empty ∧ w = w₀ := by
  unfold shutdown
  refine Portable.bind ((Portable.view (Q := fun b w => b = w₀.bus bus ∧ w = w₀) _).conseq
    (fun w same => ⟨by rw [same], same⟩) fun _ _ done => done) fun b => Portable.assume fun same => ?_
  subst same
  rw [if_pos refusing]
  exact (Portable.pure _).conseq (fun w same => ⟨rfl, same⟩) fun _ _ done => done

theorem shutdown_refused {R G : World → World → Prop} (bus : Nat) (w₀ : World)
    (refusing : (w₀.bus bus).shuttingDown = true) :
    Spec R G (· = w₀) (shutdown bus) fun report w => report = .empty ∧ w = w₀ :=
  (shutdown_refused_portable bus w₀ refusing).toSpec

theorem consistent_busy (i : Nat) : (busyMachine.world.bus i).Consistent := by
  rw [bus_busy]
  split
  · refine ⟨by simp [busyBus, TopicCache.names], by simp [busyBus], by simp [busyBus], fun n a bound => ?_⟩
    simp only [busyBus, List.mem_singleton, Prod.mk.injEq, Binding.running.injEq] at bound
    obtain ⟨rfl, rfl⟩ := bound
    rfl
  · exact BusState.consistent_fresh _

end Courier
