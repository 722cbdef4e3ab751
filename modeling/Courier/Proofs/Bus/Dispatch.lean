import Courier.Proofs.Broker.Channels
import Courier.Proofs.Bus.Steps
import Courier.Bus.Delivery

namespace Courier

/-! How a delivery loop accounts for its deliveries.

A loop hands each delivery it takes to a dispatch task of its own. The task
decides once: a delivery that does not decode, or whose event type the
subscription does not take, is acknowledged and counted without calling the
handler; any other is handed to the handler once, and settled and counted as the
handler answers. A handler that panics crashes its task instead: the rejection
is counted by the loop when it reaps the ended task. A loop that gives up
waiting for its tasks at the acknowledgement deadline forgets those still
running, so that a later panic of one of them is never counted. -/

open Async Prog

theorem atomic_settleDelivery (s : String) (d : Delivery) (o : DeliveryOutcome) (r : Reply) :
    Atomic (settleDelivery s d o r) fun m =>
      ({ world := { m.world with metrics := m.world.metrics.noteDelivery s o,
                                 broker := (m.world.broker.settle d.slot r).1 },
         tasking := (m.world.broker.settle d.slot r).2.foldl noticed m.tasking }, ()) :=
  (Atomic.bind (atomic_note _) fun _ => atomic_onBroker _).congr fun _ => rfl

theorem atomic_releasePermit (loop : Nat) :
    Atomic (releasePermit loop) fun m =>
      ({ world := m.world.modifyLoop loop fun l => { l with permits := l.permits + 1 },
         tasking := m.tasking.signal (.permits loop) }, ()) :=
  (Atomic.bind (atomic_alter _) fun _ => atomic_task _).congr fun _ => rfl

theorem atomic_finishDispatch (loop : Nat) :
    Atomic (finishDispatch loop) fun m =>
      ({ world := { m.world with metrics := m.world.metrics.deliveryLeft }.modifyLoop loop
           fun l => { l with permits := l.permits + 1 },
         tasking := m.tasking.signal (.permits loop) }, ()) :=
  (Atomic.bind (atomic_note _) fun _ => atomic_releasePermit loop).congr fun _ => rfl

/-- Between two worlds, no delivery was counted or settled and no handler was called. -/
structure World.Quiet (before after : World) : Prop where
  counts : ∀ s o, after.metrics.deliveries s o = before.metrics.deliveries s o
  broker : after.broker = before.broker
  handled : after.handled = before.handled

/-- A task settles a delivery of a subscription: it ends, crashed or not, having
settled the delivery at the broker with a reply, counted it once under an
outcome unless it crashed, counted nothing else, and called no handler. -/
def Settles (m : Machine Job World) (f : Fut Job World) (s : String) (d : Delivery) (reply : Reply)
    (outcome : DeliveryOutcome) (crashed : Bool) : Prop :=
  ∃ m', Fut.Ends Job.start m f m' crashed ∧
    m.world.metrics.Counted m'.world.metrics s outcome (if crashed then 0 else 1) ∧
    m'.world.broker = (m.world.broker.settle d.slot reply).1 ∧ m'.world.handled = m.world.handled

/-- Steps that count, settle and call nothing may come before a task that settles. -/
theorem Settles.of_passes {m m₀ : Machine Job World} {f f₀ : Fut Job World} {s : String} {d : Delivery}
    {reply : Reply} {outcome : DeliveryOutcome} {crashed : Bool} (passes : Fut.Passes Job.start m f m₀ f₀)
    (quiet : World.Quiet m.world m₀.world) (settles : Settles m₀ f₀ s d reply outcome crashed) :
    Settles m f s d reply outcome crashed := by
  obtain ⟨m', ends, counted, settled, handled⟩ := settles
  refine ⟨m', passes.trans_ends ends, fun s' o => ?_, ?_, ?_⟩
  · rw [counted, quiet.counts]
  · rw [settled, quiet.broker]
  · rw [handled, quiet.handled]

/-- Settling a delivery and then finishing its dispatch ends the task with the
delivery counted once. -/
theorem settleDelivery_settles (loop : Nat) (s : String) (d : Delivery) (o : DeliveryOutcome) (r : Reply)
    (m : Machine Job World) :
    Settles m ((do settleDelivery s d o r; finishDispatch loop : Prog Unit) fun _ => .done) s d r o false := by
  obtain ⟨m', passes, same⟩ : ∃ m', Fut.Passes Job.start m
      ((do settleDelivery s d o r; finishDispatch loop : Prog Unit) fun _ => .done) m' .done ∧
      m'.world = ({ m.world with
        metrics := (m.world.metrics.noteDelivery s o).deliveryLeft
        broker := (m.world.broker.settle d.slot r).1 }).modifyLoop loop
          fun l => { l with permits := l.permits + 1 } :=
    (atomic_settleDelivery _ _ _ _ _ _ _).then_ ⟨_, atomic_finishDispatch _ _ _ _, rfl⟩
  refine ⟨m', passes.ends, fun s' o' => ?_, ?_, ?_⟩
  · rw [same]
    simp [World.modifyLoop]
  · rw [same]; rfl
  · rw [same]; rfl

/-- The outcome a handler's answer is counted under. -/
def HandlerOutcome.counted : HandlerOutcome → DeliveryOutcome
  | .succeeded => .ack
  | .failed => .nack
  | .panicked => .nack

/-- The reply a handler's answer settles its delivery with. -/
def HandlerOutcome.reply : HandlerOutcome → Reply
  | .succeeded => .ack
  | .failed => .nack
  | .panicked => .dropped

/-- Whatever the handler answered, the rest of its dispatch settles the delivery
as the answer says; a panic crashes the task before anything is counted. -/
theorem settleHandled_settles (loop : Nat) (s : String) (d : Delivery) (outcome : HandlerOutcome)
    (m : Machine Job World) :
    Settles m (settleHandled loop s d outcome fun _ => .done) s d outcome.reply outcome.counted
      (outcome == .panicked) := by
  cases outcome with
  | succeeded => exact settleDelivery_settles loop s d .ack .ack m
  | failed => exact settleDelivery_settles loop s d .nack .nack m
  | panicked =>
    obtain ⟨m', passes, same⟩ : ∃ m', Fut.Passes Job.start m (settleHandled loop s d .panicked fun _ => .done) m'
        .crash ∧
        m'.world = ({ m.world with
          metrics := m.world.metrics.deliveryLeft
          broker := (m.world.broker.settle d.slot .dropped).1 }).modifyLoop loop
            fun l => { l with permits := l.permits + 1 } := by
      unfold settleHandled
      exact (atomic_note _ _ _ _).then_ ((atomic_onBroker _ _ _ _).then_
        ⟨_, atomic_releasePermit _ _ _ _, rfl⟩)
    refine ⟨m', passes.crashes, fun s' o => ?_, ?_, ?_⟩
    · rw [same]
      simp [World.modifyLoop]
    · rw [same]; rfl
    · rw [same]; rfl

section Dispatch

variable {loop : Nat} {l : LoopState} {m : Machine Job World} {d : Delivery}

theorem quiet_deliveryEntered (w : World) : World.Quiet w { w with metrics := w.metrics.deliveryEntered } :=
  ⟨fun _ _ => rfl, rfl, rfl⟩

/-- A delivery that does not decode is acknowledged and counted as malformed. -/
theorem dispatch_malformed (found : m.world.loop? loop = some l) {e : Malformed}
    (bad : decodeMessage d.data = .error e) :
    Settles m (Job.start (.dispatch loop d)) l.handle.name d .ack .malformed false := by
  obtain ⟨m₀, enters, entered⟩ : ∃ m₀, Fut.Passes Job.start m (Job.start (.dispatch loop d)) m₀
      ((do settleDelivery l.handle.name d .malformed .ack; finishDispatch loop : Prog Unit) fun _ => .done) ∧
      m₀.world = { m.world with metrics := m.world.metrics.deliveryEntered } := by
    unfold Job.start Job.program dispatchDelivery
    refine (atomic_view _ _ m _).then_ ?_
    simp only [found]
    refine (atomic_note _ _ _ _).then_ ?_
    simp only [bad]
    exact ⟨_, Fut.Passes.refl _ _, rfl⟩
  exact (settleDelivery_settles loop _ d _ _ m₀).of_passes enters (entered ▸ quiet_deliveryEntered _)

/-- A delivery whose event type the subscription does not take is acknowledged
and counted as filtered, and the handler is not called. -/
theorem dispatch_filtered (found : m.world.loop? loop = some l) {msg : WireMessage}
    (decoded : decodeMessage d.data = .ok msg)
    (refused : (l.allowed.all fun allowed => allowed.contains msg.data.eventType) = false) :
    Settles m (Job.start (.dispatch loop d)) l.handle.name d .ack .filtered false := by
  obtain ⟨m₀, enters, entered⟩ : ∃ m₀, Fut.Passes Job.start m (Job.start (.dispatch loop d)) m₀
      ((do settleDelivery l.handle.name d .filtered .ack; finishDispatch loop : Prog Unit) fun _ => .done) ∧
      m₀.world = { m.world with metrics := m.world.metrics.deliveryEntered } := by
    unfold Job.start Job.program dispatchDelivery
    refine (atomic_view _ _ m _).then_ ?_
    simp only [found]
    refine (atomic_note _ _ _ _).then_ ?_
    -- a subscription without an allow-list takes every event type
    cases allowed : l.allowed with
    | none => simp [allowed] at refused
    | some names =>
      simp only [allowed, Option.all_some] at refused
      simp only [decoded, refused, Bool.not_false, if_true]
      exact ⟨_, Fut.Passes.refl _ _, rfl⟩
  exact (settleDelivery_settles loop _ d _ _ m₀).of_passes enters (entered ▸ quiet_deliveryEntered _)

/-- Any other delivery is handed to the handler, as an event made of the
delivery and its decoded message, with nothing counted or settled before; once
the handler answers, whatever it answers, the rest of the task settles the
delivery as the answer says. -/
theorem dispatch_handled (found : m.world.loop? loop = some l) {msg : WireMessage}
    (decoded : decodeMessage d.data = .ok msg)
    (accepted : (l.allowed.all fun allowed => allowed.contains msg.data.eventType) = true) :
    ∃ m' k, Fut.Passes Job.start m (Job.start (.dispatch loop d)) m'
        (runScript l.handler ⟨d.messageId, msg.data, msg.metadata, msg.publishedAt, d.attributes, d.attempt⟩ k) ∧
      World.Quiet m.world m'.world ∧
      ∀ outcome m₀, Settles m₀ (k outcome) l.handle.name d outcome.reply outcome.counted (outcome == .panicked) := by
  obtain ⟨m', passes, same⟩ : ∃ m', Fut.Passes Job.start m (Job.start (.dispatch loop d)) m'
      (runScript l.handler ⟨d.messageId, msg.data, msg.metadata, msg.publishedAt, d.attributes, d.attempt⟩
        fun outcome => (do Prog.note (·.handlerEnded l.handle.name)
                           settleHandled loop l.handle.name d outcome : Prog Unit) fun _ => .done) ∧
      m'.world = { m.world with metrics := m.world.metrics.deliveryEntered.handlerStarted l.handle.name } := by
    unfold Job.start Job.program dispatchDelivery
    refine (atomic_view _ _ m _).then_ ?_
    simp only [found]
    refine (atomic_note _ _ _ _).then_ ?_
    simp only [decoded]
    cases allowed : l.allowed with
    | none =>
      simp only [Bool.not_true, Bool.false_eq_true, if_false]
      exact (atomic_note _ _ _ _).then_ ⟨_, Fut.Passes.refl _ _, rfl⟩
    | some names =>
      simp only [allowed, Option.all_some] at accepted
      simp only [accepted, Bool.not_true, Bool.false_eq_true, if_false]
      exact (atomic_note _ _ _ _).then_ ⟨_, Fut.Passes.refl _ _, rfl⟩
  refine ⟨m', _, passes, ?_, fun outcome m₀ => ?_⟩
  · rw [same]
    exact ⟨fun _ _ => by simp, rfl, rfl⟩
  · exact (settleHandled_settles loop _ d outcome _).of_passes (atomic_note _ _ m₀ _)
      ⟨fun _ _ => by simp, rfl, rfl⟩

theorem crashed_filterMap (ended? : Nat → Option Bool) (tasks : List Nat) :
    ((tasks.filterMap fun t => (ended? t).map (t, ·)).filter (·.2)).length =
      (tasks.filter fun t => ended? t == some true).length := by
  induction tasks with
  | nil => rfl
  | cons t rest induction =>
    cases ended : ended? t with
    | none => simp [ended, induction]
    | some crashed => cases crashed <;> simp [ended, induction]

/-- Counting a rejection for each crashed task counts them all under one series. -/
theorem deliveries_foldl_crashed (s : String) (ended : List (Nat × Bool)) (metrics : Metrics)
    (s' : String) (o : DeliveryOutcome) :
    (ended.foldl (fun metrics c => if c.2 then metrics.noteDelivery s .nack else metrics) metrics).deliveries
        s' o = metrics.deliveries s' o + if s' = s ∧ o = .nack then (ended.filter (·.2)).length else 0 := by
  induction ended generalizing metrics with
  | nil => simp
  | cons c rest induction =>
    obtain ⟨t, crashed⟩ := c
    rw [List.foldl_cons, induction]
    -- only a crashed task adds to the count, and only to the series of rejections of `s`
    cases crashed with
    | false => simp
    | true =>
      by_cases counted : s' = s ∧ o = .nack
      · simp only [counted, and_self, if_true, Metrics.deliveries_noteDelivery, List.filter_cons_of_pos,
          List.length_cons]
        omega
      · simp [counted]

/-- Reaping takes the ended tasks out of the loop's in-flight list and counts a
rejection for each one that crashed; nothing else changes. -/
theorem reap_counts_crashed (found : m.world.loop? loop = some l) :
    ∃ m' n, (∀ k, Fut.Passes Job.start m (reapDispatches loop k) m' (k n)) ∧
      m'.world.loop? loop = some { l with inFlight := l.inFlight.filter fun t => (m.tasking.endOf? t).isNone } ∧
      m.world.metrics.Counted m'.world.metrics l.handle.name .nack
        (l.inFlight.filter fun t => m.tasking.endOf? t == some true).length ∧
      m'.tasking = m.tasking ∧ m'.world.broker = m.world.broker ∧ m'.world.handled = m.world.handled := by
  let ended := l.inFlight.filterMap fun t => (m.tasking.endOf? t).map (t, ·)
  let count : Metrics → Nat × Bool → Metrics := fun metrics c =>
    if c.2 then metrics.noteDelivery l.handle.name .nack else metrics
  -- the first step takes the ended tasks out of the loop
  have found₁ : (m.world.modifyLoop loop fun l' =>
      { l' with inFlight := l.inFlight.filter fun t => (m.tasking.endOf? t).isNone }).loop? loop =
      some { l with inFlight := l.inFlight.filter fun t => (m.tasking.endOf? t).isNone } := by
    rw [World.loop?_modifyLoop, found]
    · rfl
    · intro; rfl
  have each : ∀ c : Nat × Bool, Atomic (if c.2 then note (·.noteDelivery l.handle.name .nack) else pure ())
      fun m => ({ m with world := { m.world with metrics := count m.world.metrics c } }, ()) := by
    rintro ⟨t, crashed⟩
    cases crashed
    · exact (Atomic.pure ()).congr fun _ => rfl
    · exact (atomic_note (·.noteDelivery l.handle.name .nack)).congr fun _ => rfl
  refine ⟨{ world := { m.world.modifyLoop loop fun l' =>
      { l' with inFlight := l.inFlight.filter fun t => (m.tasking.endOf? t).isNone } with
        metrics := ended.foldl count m.world.metrics }, tasking := m.tasking }, ended.length,
    fun k => ?_, found₁, fun s' o => ?_, rfl, rfl, rfl⟩
  · unfold reapDispatches
    refine (Atomic.update _ _ m _).trans ?_
    simp only [found]
    refine (atomic_view _ _ _ _).trans ?_
    simp only [found₁]
    have counts : Atomic (ended.forM fun c => if c.2 then note (·.noteDelivery l.handle.name .nack) else pure ())
        fun m => ({ m with world := { m.world with metrics := ended.foldl count m.world.metrics } }, ()) :=
      (Atomic.forM each ended).congr fun m => by rw [foldl_metrics]
    exact counts _ _ _
  · show (ended.foldl count m.world.metrics).deliveries s' o = _
    rw [deliveries_foldl_crashed, crashed_filterMap]

/-- Past the acknowledgement deadline, a loop that still has tasks running
reaps those that ended and forgets the others: they are no longer in flight, and
no reap of the loop will count them. -/
theorem drain_detaches_at_deadline (found : m.world.loop? loop = some l) {deadline : Nat}
    (late : deadline ≤ m.tasking.now) (running : ∃ t ∈ l.inFlight, m.tasking.endOf? t = none)
    (timer : Option Nat) (k : Option (Option Nat) → Fut Job World) :
    ∃ m', Fut.Passes Job.start m (drainTurn loop (some deadline) timer k) m' (k none) ∧
      m'.world.loop? loop = some { l with inFlight := [] } ∧
      m.world.metrics.Counted m'.world.metrics l.handle.name .nack
        (l.inFlight.filter fun t => m.tasking.endOf? t == some true).length := by
  obtain ⟨m₁, n, reaps, found₁, counted, tasking, -, -⟩ := reap_counts_crashed found
  have pending : (l.inFlight.filter fun t => (m.tasking.endOf? t).isNone).isEmpty = false := by
    obtain ⟨t, member, ended⟩ := running
    exact List.isEmpty_eq_false_iff_exists_mem.2 ⟨t, List.mem_filter.2 ⟨member, by simp [ended]⟩⟩
  unfold drainTurn
  refine (reaps _).then_ ?_
  refine (atomic_view _ _ _ _).then_ ?_
  refine (atomic_now _ _ _).then_ ?_
  simp only [found₁, tasking, Option.map_some, Option.getD_some, pending, Bool.false_eq_true, if_false,
    Option.any_some, late, decide_true, if_true]
  refine (atomic_alter _ _ _ _).then_ ⟨_, Fut.Passes.refl _ _, ?_, counted⟩
  rw [World.loop?_modifyLoop, found₁]
  · rfl
  · intro; rfl

/-- A running loop that holds a permit and finds a delivery in its channel takes
it once: one new task is started, whose job is to dispatch that delivery, and it
joins the loop's in-flight list; the turn ends, and the loop goes on. Only the
tasks found ended are counted. -/
theorem receive_dispatches_once (found : m.world.loop? loop = some l) {channel : Nat}
    (live : l.stopped = false) (permitted : 0 < l.permits) {b : Broker}
    (received : m.world.broker.receive channel = some (b, some d)) (k : Bool → Fut Job World) :
    ∃ m', Fut.Passes Job.start m (receiveTurn loop channel k) m' (k true) ∧
      m'.tasking = (m.tasking.start (.dispatch loop d)).1 ∧
      m'.world.broker = b ∧
      m'.world.loop? loop = some { l with
        permits := l.permits - 1
        inFlight := l.inFlight.filter (fun t => (m.tasking.endOf? t).isNone) ++ [m.tasking.nextKey] } ∧
      m.world.metrics.Counted m'.world.metrics l.handle.name .nack
        (l.inFlight.filter fun t => m.tasking.endOf? t == some true).length ∧
      m'.world.handled = m.world.handled := by
  obtain ⟨m₁, n, reaps, found₁, counted, tasking, kept, handled⟩ := reap_counts_crashed found
  unfold receiveTurn
  refine (reaps _).then_ ?_
  dsimp only [Bind.bind]
  unfold awaitPermit
  refine (await_ready _ (by
    simp only [found₁, live, Bool.false_eq_true, if_false, gt_iff_lt, permitted, if_true]
    rfl) _).then_ ?_
  dsimp only
  unfold awaitDelivery
  refine (await_ready _ (by
    rw [World.loop?_modifyLoop, found₁]
    · simp only [Option.map_some, live, Bool.false_eq_true, if_false, World.broker_modifyLoop, kept,
        received]
      rfl
    · intro; rfl) _).then_ ?_
  dsimp only
  refine ((atomic_task (·.start (.dispatch loop d))).bind_passes _ _ _).then_ ?_
  refine (atomic_alter _ _ _ _).then_ ?_
  refine ⟨_, Fut.Passes.refl _ _, ?_, rfl, ?_, counted, handled⟩
  · simp only [tasking]
  · rw [World.loop?_modifyLoop]
    · show ((m₁.world.modifyLoop loop _).loop? loop).map _ = _
      rw [World.loop?_modifyLoop, found₁, tasking]
      · rfl
      · intro; rfl
    · intro; rfl

/-- A turn of a running loop that holds a permit and finds a delivery in its
channel takes the delivery into one new dispatch task and goes on to the next
turn. -/
theorem turn_takes (found : m.world.loop? loop = some l) (live : l.stopped = false) (permitted : 0 < l.permits)
    {b : Broker} (received : m.world.broker.receive l.channel = some (b, some d)) :
    ∃ m', Fut.Passes Job.start m (Job.start (.deliver loop)) m' (Job.start (.deliver loop)) ∧
      m'.tasking = (m.tasking.start (.dispatch loop d)).1 ∧
      m'.world.broker = b ∧
      m'.world.loop? loop = some { l with
        permits := l.permits - 1
        inFlight := l.inFlight.filter (fun t => (m.tasking.endOf? t).isNone) ++ [m.tasking.nextKey] } ∧
      m.world.metrics.Counted m'.world.metrics l.handle.name .nack
        (l.inFlight.filter fun t => m.tasking.endOf? t == some true).length ∧
      m'.world.handled = m.world.handled := by
  unfold Job.start Job.program runLoop
  refine (atomic_view _ _ m _).then_ ?_
  simp only [found]
  obtain ⟨m', passes, facts⟩ := receive_dispatches_once found live permitted received _
  exact ⟨m', passes.trans (Fut.Passes.again m' _), facts⟩

theorem Broker.receive_buffered {b : Broker} {id : Nat} {c : Channel} {rest : List Delivery}
    (found : b.channel? id = some c) (buffered : c.buffer = d :: rest) :
    b.receive id = some (b.modifyChannel id ({ · with buffer := rest }), some d) := by
  simp only [Broker.receive, found, buffered]

theorem Broker.channel?_receive_buffered {b : Broker} {id : Nat} {c : Channel} {rest : List Delivery}
    (found : b.channel? id = some c) :
    (b.modifyChannel id ({ · with buffer := rest })).channel? id = some { c with buffer := rest } := by
  have numbered : c.id = id := by simpa using List.find?_some found
  rw [Broker.channel?_modifyChannel b id (fun x => { x with buffer := rest }) (fun _ same => same) id, found]
  simp [numbered]

/-- Turn after turn, a running loop with a permit for each delivery buffered in
its channel takes them in order, each into one new dispatch task of its own:
none is dropped and none is taken twice, and the loop itself counts nothing and
calls no handler while no task of its own has ended. -/
theorem turns_take_in_order (ds : List Delivery) :
    ∀ {m : Machine Job World} {l : LoopState} {c : Channel} {rest : List Delivery},
      m.world.loop? loop = some l → l.stopped = false → ds.length ≤ l.permits →
      m.world.broker.channel? l.channel = some c → c.buffer = ds ++ rest →
      (∀ t, t ∈ l.inFlight ∨ m.tasking.nextKey ≤ t → m.tasking.endOf? t = none) →
      ∃ m', Fut.Passes Job.start m (Job.start (.deliver loop)) m' (Job.start (.deliver loop)) ∧
        m'.tasking.started =
          m.tasking.started ++ (List.range' m.tasking.nextKey ds.length).zip (ds.map (.dispatch loop)) ∧
        m'.tasking.nextKey = m.tasking.nextKey + ds.length ∧ m'.tasking.ended = m.tasking.ended ∧
        m'.world.broker.channel? l.channel = some { c with buffer := rest } ∧
        m'.world.loop? loop = some { l with
          permits := l.permits - ds.length
          inFlight := l.inFlight ++ List.range' m.tasking.nextKey ds.length } ∧
        (∀ s o, m'.world.metrics.deliveries s o = m.world.metrics.deliveries s o) ∧
        m'.world.handled = m.world.handled := by
  -- induction on the deliveries taken, one turn each
  induction ds with
  | nil =>
    intro m l c rest found _ _ channel buffered _
    refine ⟨m, .refl _ _, by simp, rfl, rfl, ?_, by simpa using found, fun _ _ => rfl, rfl⟩
    rw [channel]
    simp only [List.nil_append] at buffered
    rw [← buffered]
  | cons d ds induction =>
    intro m l c rest found live permitted channel buffered unended
    have spare : 0 < l.permits := by
      simp only [List.length_cons] at permitted
      omega
    obtain ⟨m₁, turn, tasking, broker, found₁, counted, handled⟩ :=
      turn_takes found live spare (Broker.receive_buffered channel buffered)
    -- nothing in flight has ended, so the reap forgets nothing and counts nothing
    have kept : l.inFlight.filter (fun t => (m.tasking.endOf? t).isNone) = l.inFlight :=
      List.filter_eq_self.2 fun t member => by simp [unended t (.inl member)]
    have uncounted : (l.inFlight.filter fun t => m.tasking.endOf? t == some true).length = 0 := by
      rw [List.length_eq_zero_iff, List.filter_eq_nil_iff]
      intro t member
      simp [unended t (.inl member)]
    rw [kept] at found₁
    have channel₁ : m₁.world.broker.channel? l.channel = some { c with buffer := ds ++ rest } := by
      rw [broker]
      exact Broker.channel?_receive_buffered channel
    have unended₁ : ∀ t, t ∈ l.inFlight ++ [m.tasking.nextKey] ∨ m₁.tasking.nextKey ≤ t →
        m₁.tasking.endOf? t = none := by
      intro t within
      rw [tasking]
      apply unended
      simp only [tasking, List.mem_append, List.mem_singleton, Tasking.start, Tasking.freshKey] at within
      rcases within with (member | fresh) | later
      · exact .inl member
      · exact .inr (Nat.le_of_eq fresh.symm)
      · exact .inr (Nat.le_of_succ_le later)
    obtain ⟨m', passes, started, next, ended, channel', found', counts, handled'⟩ :=
      induction found₁ live (show ds.length ≤ l.permits - 1 by simp only [List.length_cons] at permitted; omega)
        channel₁ rfl unended₁
    refine ⟨m', turn.trans passes, ?_, ?_, ?_, channel', ?_, fun s o => ?_, handled'.trans handled⟩
    · rw [started, tasking]
      simp [Tasking.start, Tasking.freshKey, List.range'_succ]
    · rw [next, tasking]
      simp only [Tasking.start, Tasking.freshKey, List.length_cons]
      omega
    · rw [ended, tasking]
      rfl
    · rw [found', tasking]
      simp only [Tasking.start, Tasking.freshKey, List.length_cons, List.range'_succ, List.append_assoc,
        List.singleton_append, Nat.sub_sub, Option.some.injEq]
      rw [Nat.add_comm 1 ds.length]
    · rw [counts, counted, uncounted]
      simp

/-- How a delivery loop accounts for the deliveries it takes, from a machine on
which the loop exists. -/
structure LoopAccounting (loop : Nat) (l : LoopState) (m : Machine Job World) : Prop where
  /-- A delivery found in the channel is handed to one new dispatch task, kept in flight. -/
  takes : ∀ channel b d, l.stopped = false → 0 < l.permits →
    m.world.broker.receive channel = some (b, some d) → ∀ k,
    ∃ m', Fut.Passes Job.start m (receiveTurn loop channel k) m' (k true) ∧
      m'.tasking = (m.tasking.start (.dispatch loop d)).1 ∧
      m'.world.broker = b ∧
      m'.world.loop? loop = some { l with
        permits := l.permits - 1
        inFlight := l.inFlight.filter (fun t => (m.tasking.endOf? t).isNone) ++ [m.tasking.nextKey] } ∧
      m.world.metrics.Counted m'.world.metrics l.handle.name .nack
        (l.inFlight.filter fun t => m.tasking.endOf? t == some true).length ∧
      m'.world.handled = m.world.handled
  /-- Turn after turn, the deliveries buffered in the channel are taken in order,
  each into one dispatch task of its own, while the permits last. -/
  inOrder : ∀ c ds rest, l.stopped = false → ds.length ≤ l.permits →
    m.world.broker.channel? l.channel = some c → c.buffer = ds ++ rest →
    (∀ t, t ∈ l.inFlight ∨ m.tasking.nextKey ≤ t → m.tasking.endOf? t = none) →
    ∃ m', Fut.Passes Job.start m (Job.start (.deliver loop)) m' (Job.start (.deliver loop)) ∧
      m'.tasking.started =
        m.tasking.started ++ (List.range' m.tasking.nextKey ds.length).zip (ds.map (.dispatch loop)) ∧
      m'.tasking.nextKey = m.tasking.nextKey + ds.length ∧ m'.tasking.ended = m.tasking.ended ∧
      m'.world.broker.channel? l.channel = some { c with buffer := rest } ∧
      m'.world.loop? loop = some { l with
        permits := l.permits - ds.length
        inFlight := l.inFlight ++ List.range' m.tasking.nextKey ds.length } ∧
      (∀ s o, m'.world.metrics.deliveries s o = m.world.metrics.deliveries s o) ∧
      m'.world.handled = m.world.handled
  /-- A delivery that does not decode is acknowledged and counted as malformed. -/
  malformed : ∀ d e, decodeMessage d.data = .error e →
    Settles m (Job.start (.dispatch loop d)) l.handle.name d .ack .malformed false
  /-- A delivery of an event type the subscription does not take is acknowledged
  and counted as filtered. -/
  filtered : ∀ d msg, decodeMessage d.data = .ok msg →
    (l.allowed.all fun allowed => allowed.contains msg.data.eventType) = false →
    Settles m (Job.start (.dispatch loop d)) l.handle.name d .ack .filtered false
  /-- Any other delivery is handed to the handler once, and settled as it answers. -/
  handled : ∀ d msg, decodeMessage d.data = .ok msg →
    (l.allowed.all fun allowed => allowed.contains msg.data.eventType) = true →
    ∃ m' k, Fut.Passes Job.start m (Job.start (.dispatch loop d)) m'
        (runScript l.handler ⟨d.messageId, msg.data, msg.metadata, msg.publishedAt, d.attributes, d.attempt⟩ k) ∧
      World.Quiet m.world m'.world ∧
      ∀ outcome m₀, Settles m₀ (k outcome) l.handle.name d outcome.reply outcome.counted (outcome == .panicked)
  /-- Reaping counts a rejection for each in-flight task that crashed, and forgets
  every task that ended. -/
  reaps : ∃ m' n, (∀ k, Fut.Passes Job.start m (reapDispatches loop k) m' (k n)) ∧
    m'.world.loop? loop = some { l with inFlight := l.inFlight.filter fun t => (m.tasking.endOf? t).isNone } ∧
    m.world.metrics.Counted m'.world.metrics l.handle.name .nack
      (l.inFlight.filter fun t => m.tasking.endOf? t == some true).length
  /-- Past the deadline, the tasks still running are forgotten uncounted. -/
  detaches : ∀ deadline, deadline ≤ m.tasking.now → (∃ t ∈ l.inFlight, m.tasking.endOf? t = none) →
    ∀ timer k, ∃ m', Fut.Passes Job.start m (drainTurn loop (some deadline) timer k) m' (k none) ∧
      m'.world.loop? loop = some { l with inFlight := [] } ∧
      m.world.metrics.Counted m'.world.metrics l.handle.name .nack
        (l.inFlight.filter fun t => m.tasking.endOf? t == some true).length

/-- Every delivery loop accounts for its deliveries as `LoopAccounting` says,
from every machine on which it exists. -/
theorem loop_accounts_deliveries (found : m.world.loop? loop = some l) : LoopAccounting loop l m where
  takes _ _ _ live permitted received k := receive_dispatches_once found live permitted received k
  inOrder _ ds _ live permitted channel buffered unended :=
    turns_take_in_order ds found live permitted channel buffered unended
  malformed _ _ bad := dispatch_malformed found bad
  filtered _ _ decoded refused := dispatch_filtered found decoded refused
  handled _ _ decoded accepted := dispatch_handled found decoded accepted
  reaps :=
    have ⟨m', n, reaps, found', counted, _⟩ := reap_counts_crashed found
    ⟨m', n, reaps, found', counted⟩
  detaches _ late running timer k := drain_detaches_at_deadline found late running timer k

theorem loop_accounts_deliveries_of_one_loop :
    let l : LoopState := ⟨1, 0, ⟨"s", "t", ⟨10, 0⟩⟩, 1, 0, none, 1, false, []⟩
    LoopAccounting 1 l ⟨.initial, { World.fresh (.empty none) [] ⟨0, 0, 0⟩ with loops := [l] }⟩ :=
  loop_accounts_deliveries rfl

end Dispatch

end Courier
