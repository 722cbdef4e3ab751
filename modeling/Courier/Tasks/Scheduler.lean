import Courier.Tasks.Future

namespace Courier

/-! Running tasks to the end of the main task.

One round runs the main task if it was woken, then up to 61 queued tasks in
queue order. When the queue runs dry and the main task sleeps, the clock jumps
to the earliest armed timer and every timer due then fires, in the order they
were armed; when the main task was woken, the clock stays and the main task
runs next. After 61 tasks in a row the main task gets its turn again.

A task that runs goes as far as it can: it is driven step by step until it
waits on a condition that does not hold yet, or ends. A joined group of
children is driven child by child, each as far as it goes. A task that goes on
as a fresh run of a job goes on at once. -/

/-- The futures of a run beside the machine. -/
structure Run (Job World : Type) where
  machine : Machine Job World
  /-- The main task's future, none once it has ended. -/
  main : Option (Fut Job World)
  /-- The futures of the other live tasks. -/
  tasks : List (Nat × Fut Job World)

inductive Driven (Job World : Type) where
  /-- It waits on keys. -/
  | waiting (rest : Fut Job World) (keys : List Key)
  /-- It ended, crashed or not. -/
  | ended (crashed : Bool)

namespace Run

variable {Job World : Type}

/-- Steps a task may take in one run before it counts as stuck. -/
def stepBudget : Nat := 1000000

def wait (t : Tasking Job) (task : Nat) (keys : List Key) : Tasking Job :=
  { t with waits := t.waits ++ keys.map (·, task) }

def unwait (t : Tasking Job) (task : Nat) : Tasking Job :=
  { t with waits := t.waits.filter (·.2 != task) }

/-- A future that waits for good: what is left of a task that used up its steps. -/
def stuck : Fut Job World := .block (fun _ => none) []

/-- Drive one child of a joined group as `drive` says, and add what is left of
it and the keys it waits on to those of the children before it. -/
def collect (drive : Machine Job World → Fut Job World → Machine Job World × Driven Job World)
    (acc : Machine Job World × List (Fut Job World) × List Key) (child : Fut Job World) :
    Machine Job World × List (Fut Job World) × List Key :=
  match drive acc.1 child with
  | (m, .waiting f ks) => (m, acc.2.1 ++ [f], acc.2.2 ++ ks)
  | (m, .ended _) => (m, acc.2.1, acc.2.2)

/-- Drive the future of a task, whose jobs start as `start` says, until it
waits or ends. A future that waits is registered on its keys at once, so that a
later child of the same joined group can wake the task again. A task that takes
more steps than its fuel without waiting counts as stuck, and never goes on. -/
def drive (start : Job → Fut Job World) (task : Nat) (fuel : Nat) (m : Machine Job World)
    (f : Fut Job World) : Machine Job World × Driven Job World :=
  match fuel with
  | 0 => (m, .waiting stuck [])
  | fuel + 1 =>
    match f with
    | .done => (m, .ended false)
    | .crash => (m, .ended true)
    | .step run =>
      let (m, f) := run m
      drive start task fuel m f
    | .block poll keys =>
      match poll m with
      | some (m, f) => drive start task fuel m f
      | none => ({ m with tasking := wait m.tasking task keys }, .waiting f keys)
    | .join children finish =>
      let (m, rest, keys) := children.foldl (collect (drive start task fuel)) (m, [], [])
      if rest.isEmpty then drive start task fuel m finish else (m, .waiting (.join rest finish) keys)
    | .again job => drive start task fuel m (start job)

/-- Hand the jobs started by the last run over as futures. -/
def adopt (start : Job → Fut Job World) (r : Run Job World) : Run Job World :=
  let t := r.machine.tasking
  { r with
    machine := { r.machine with tasking := { t with started := [] } }
    tasks := r.tasks ++ t.started.map fun (task, job) => (task, start job) }

def runTask (start : Job → Fut Job World) (r : Run Job World) (task : Nat) : Run Job World :=
  match r.tasks.lookup task with
  | none => r
  | some fut =>
    let t := unwait r.machine.tasking task
    let m := { r.machine with tasking := { t with running := some task, rewoken := false } }
    let (m, driven) := drive start task stepBudget m fut
    let others := r.tasks.filter (·.1 != task)
    let r := match driven with
      | .waiting rest _ =>
        let t := m.tasking
        let t := if t.rewoken then { t with queue := t.queue ++ [task] } else t
        { r with machine := { m with tasking := { t with running := none } },
                 tasks := others ++ [(task, rest)] }
      | .ended crashed =>
        let t := { m.tasking with running := none, ended := m.tasking.ended ++ [(task, crashed)] }
        { r with machine := { m with tasking := t.signal (.task task) }, tasks := others }
    adopt start r

def runMain (start : Job → Fut Job World) (r : Run Job World) : Run Job World :=
  match r.main with
  | none => r
  | some fut =>
    let t := unwait r.machine.tasking 0
    let m := { r.machine with tasking := { t with running := some 0, mainWoken := false } }
    let (m, driven) := drive start 0 stepBudget m fut
    let r := match driven with
      | .waiting rest _ =>
        { r with machine := { m with tasking := { m.tasking with running := none } },
                 main := some rest }
      | .ended _ => { r with machine := { m with tasking := { m.tasking with running := none } },
                             main := none }
    adopt start r

/-- Run queued tasks, at most `count`; says whether the queue ran dry. -/
def runQueued (start : Job → Fut Job World) (count : Nat) (r : Run Job World) :
    Run Job World × Bool :=
  match count with
  | 0 => (r, false)
  | count + 1 =>
    match r.machine.tasking.queue with
    | [] => (r, true)
    | task :: rest =>
      let r := { r with machine := { r.machine with
        tasking := { r.machine.tasking with queue := rest } } }
      runQueued start count (runTask start r task)

/-- Move the clock to the earliest armed timer and fire every timer due then. -/
def advance (t : Tasking Job) : Tasking Job :=
  match t.timers.map (·.2) |>.min? with
  | none => t
  | some deadline =>
    let due := t.timers.filter (·.2 ≤ deadline)
    let t := { t with now := Nat.max t.now deadline, timers := t.timers.filter (deadline < ·.2) }
    due.foldl (fun t (key, _) => t.signal (.timer key)) t

/-- Run rounds until the main task ends, at most `fuel` rounds. -/
def loop (start : Job → Fut Job World) (fuel : Nat) (r : Run Job World) : Run Job World :=
  match fuel with
  | 0 => r
  | fuel + 1 =>
    if r.main.isNone then r else
    let r := if r.machine.tasking.mainWoken then runMain start r else r
    if r.main.isNone then r else
    let (r, dry) := runQueued start 61 r
    if !dry then loop start fuel r
    else if r.machine.tasking.mainWoken then loop start fuel r
    else if r.machine.tasking.timers.isEmpty then r
    else loop start fuel { r with machine := { r.machine with tasking := advance r.machine.tasking } }

/-- Rounds a run may take before it counts as stuck. -/
def roundBudget : Nat := 10000000

/-- Run a main program on a world until it ends. -/
def execute (start : Job → Fut Job World) (world : World) (main : Async Job World Unit) :
    Machine Job World :=
  let machine : Machine Job World := ⟨{ Tasking.initial with mainWoken := true }, world⟩
  (loop start roundBudget ⟨machine, some (main fun _ => .done), []⟩).machine

end Run

end Courier
