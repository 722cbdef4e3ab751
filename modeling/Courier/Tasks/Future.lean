import Courier.Time.Duration

namespace Courier

/-! Cooperative tasks in virtual time.

A task is a future: a program that runs in steps on a machine, and that may
wait until some condition on the machine holds. Every object a task can wait on
(a timer, a reply slot, a channel, another task) is named by a key; a task that
waits registers on the keys that can change its condition, and an event on a key
wakes the tasks registered on it. Woken tasks run in the order they were woken.

Time is virtual: it moves only when every task waits, and then jumps to the
earliest armed timer. Timers due at the same instant fire in the order they were
armed. Task `0` is the main task; it does not queue, but is run first whenever
it was woken.

New tasks are started from data: a step records the job of each task it starts,
and the scheduler turns jobs into futures before the task runs. -/

-- Powers of numbers are those of the core library, also where more algebra is
-- in scope; a literal exponent is given its type so that no default instance picks it.
attribute [local instance (high)] instPowNat

/-- What a task can wait on. Tasks and timers are numbered by the bookkeeping
of tasks; the other objects by their owners. -/
inductive Key where
  /-- The end of a task. -/
  | task (id : Nat)
  /-- A timer. -/
  | timer (id : Nat)
  /-- A slot that receives one reply. -/
  | slot (id : Nat)
  /-- A channel of items. -/
  | channel (id : Nat)
  /-- A counter of permits. -/
  | permits (id : Nat)
  /-- A turn at a gate that admits readers and writers. -/
  | gate (id : Nat)
  /-- A flag that is raised once. -/
  | flag (id : Nat)
  deriving DecidableEq, Repr

structure Tasking (Job : Type) where
  /-- Virtual milliseconds since the start. -/
  now : Nat
  /-- Armed timers as number and deadline, in the order they were armed. -/
  timers : List (Nat × Nat)
  /-- The next unused number of a task or timer. -/
  nextKey : Nat
  /-- Tasks ready to run, the first to run first. -/
  queue : List Nat
  /-- Whether the main task was woken since it last ran. -/
  mainWoken : Bool
  /-- The task that runs now. -/
  running : Option Nat
  /-- Whether the running task was woken while it ran. -/
  rewoken : Bool
  /-- Which key each waiting task waits on, in the order the waits began. -/
  waits : List (Key × Nat)
  /-- Tasks started by the steps run since the scheduler last looked, with their jobs. -/
  started : List (Nat × Job)
  /-- Tasks that ended, in the order they ended, and whether each crashed. -/
  ended : List (Nat × Bool)

namespace Tasking

variable {Job : Type}

def initial : Tasking Job := ⟨0, [], 1, [], false, none, false, [], [], []⟩

/-- A number of a task or timer not used before. -/
def freshKey (t : Tasking Job) : Tasking Job × Nat := ({ t with nextKey := t.nextKey + 1 }, t.nextKey)

/-- Wake a task: the main task is marked, the running task is marked to run
again, and any other task joins the end of the queue unless it is queued. -/
def wake (t : Tasking Job) (task : Nat) : Tasking Job :=
  if task = 0 then { t with mainWoken := true }
  else if t.running = some task then { t with rewoken := true }
  else if t.queue.contains task then t
  else { t with queue := t.queue ++ [task] }

/-- Wake every task waiting on a key, in the order they began to wait. -/
def signal (t : Tasking Job) (key : Key) : Tasking Job :=
  (t.waits.filter (·.1 == key)).foldl (fun acc (_, task) => acc.wake task) t

def arm (t : Tasking Job) (deadline : Nat) : Tasking Job × Nat :=
  let (t, key) := t.freshKey
  ({ t with timers := t.timers ++ [(key, deadline)] }, key)

def disarm (t : Tasking Job) (key : Nat) : Tasking Job :=
  { t with timers := t.timers.filter (·.1 != key) }

/-- Start a task for a job: it is queued at once. -/
def start (t : Tasking Job) (job : Job) : Tasking Job × Nat :=
  let (t, task) := t.freshKey
  ({ t with queue := t.queue ++ [task], started := t.started ++ [(task, job)] }, task)

/-- Whether a task has ended, and if so whether it crashed. -/
def endOf? (t : Tasking Job) (task : Nat) : Option Bool := t.ended.lookup task

end Tasking

/-- A machine: the bookkeeping of tasks beside the world they act on. -/
structure Machine (Job World : Type) where
  tasking : Tasking Job
  world : World

/-- A future: what is left of a task's program. -/
inductive Fut (Job World : Type) where
  /-- The task has ended. -/
  | done
  /-- The task has crashed. -/
  | crash
  /-- Change the machine, then go on. -/
  | step (run : Machine Job World → Machine Job World × Fut Job World)
  /-- Go on once `poll` answers; until then wait on `keys`. -/
  | block (poll : Machine Job World → Option (Machine Job World × Fut Job World))
      (keys : List Key)
  /-- Run the children side by side, each as far as it goes whenever the task
  runs, and go on with `finish` when all have ended. -/
  | join (children : List (Fut Job World)) (finish : Fut Job World)
  /-- Go on as a fresh run of a job's program: how a loop takes its next turn. -/
  | again (job : Job)

/-- A program that returns a value, written by passing the rest of the task. -/
def Async (Job World α : Type) : Type := (α → Fut Job World) → Fut Job World

namespace Async

variable {Job World : Type}

instance : Monad (Async Job World) where
  pure a := fun k => k a
  bind m f := fun k => m fun a => f a k

def update {α : Type} (f : Machine Job World → Machine Job World × α) : Async Job World α :=
  fun k => .step fun m => let (m', a) := f m; (m', k a)

def change (f : Machine Job World → Machine Job World) : Async Job World Unit :=
  update fun m => (f m, ())

def look {α : Type} (f : Machine Job World → α) : Async Job World α := update fun m => (m, f m)

def act {α : Type} (f : World → World × α) : Async Job World α :=
  update fun m => let (w, a) := f m.world; ({ m with world := w }, a)

/-- Change the bookkeeping of tasks and return a value. -/
def task {α : Type} (f : Tasking Job → Tasking Job × α) : Async Job World α :=
  update fun m => let (t, a) := f m.tasking; ({ m with tasking := t }, a)

/-- Wait until `poll` answers, registered on `keys` meanwhile. -/
def await {α : Type} (poll : Machine Job World → Option (Machine Job World × α)) (keys : List Key) :
    Async Job World α :=
  fun k => .block (fun m => (poll m).map fun (m', a) => (m', k a)) keys

def crash {α : Type} : Async Job World α := fun _ => .crash

/-- Go on as a fresh run of a job's program; what would follow is dropped. -/
def again {α : Type} (job : Job) : Async Job World α := fun _ => .again job

/-- Let the other tasks run: a wait that is over at once. -/
def yieldNow : Async Job World Unit := await (fun m => some (m, ())) []

/-- Run programs side by side in one task, as described at `Fut.join`. -/
def joinAll (children : List (Async Job World Unit)) : Async Job World Unit :=
  fun k => .join (children.map fun child => child fun _ => .done) (k ())

def now : Async Job World Nat := look (·.tasking.now)

/-- Wait until a virtual instant; at or after it, go on at once. -/
def sleepUntil (deadline : Nat) : Async Job World Unit := do
  let armed ← task fun t => if deadline ≤ t.now then (t, none) else
    let (t, key) := t.arm deadline
    (t, some key)
  match armed with
  | none => pure ()
  | some key => await (fun m => if deadline ≤ m.tasking.now then some (m, ()) else none) [.timer key]

def sleep (millis : Nat) : Async Job World Unit := do
  let start ← now
  sleepUntil (start + millis)

def signal (key : Key) : Async Job World Unit := task fun t => (t.signal key, ())

def start (job : Job) : Async Job World Nat := task fun t => t.start job

end Async

def Duration.toTicks (d : Duration) : Nat := (d.toNanos + 999999) / 1000000

/-- The longest a sleep lasts: thirty years of virtual milliseconds. -/
def longestWait : Nat := 946080000000

/-- Virtual milliseconds a sleep for a span lasts: the span rounded up, and at
most thirty years. -/
def Duration.waitTicks (d : Duration) : Nat := Nat.min d.toTicks longestWait

/-- The virtual instant a span after `now` ends, when a deadline is set for it:
none when the clock cannot count that far, whose seconds are signed 64-bit
numbers, and such a deadline never comes. -/
def Duration.deadlineAfter? (d : Duration) (now : Nat) : Option Nat :=
  if 2 ^ (63 : Nat) ≤ d.secs + now / 1000 then none else some (now + d.toTicks)

example : (Duration.ofSecs 2).toTicks = 2000 := by decide +kernel

/-- A part of a millisecond counts as a whole one. -/
example : (⟨0, 1⟩ : Duration).toTicks = 1 := by decide +kernel

/-- A sleep of thirty years and a second lasts thirty years. -/
example : (Duration.ofSecs 946080001).waitTicks = 946080000000 := by decide +kernel

/-- A deadline past the clock's range never comes. -/
example : (Duration.ofSecs (2 ^ 63)).deadlineAfter? 0 = none := by decide +kernel

end Courier
