namespace Courier

/-! # A fair gate for readers and a writer

Publishes pass a gate as readers and closing passes it as the writer, so that
closing waits for every publish already admitted and no publish is admitted
once closing waits. The gate is fair: requests are served in the order they
arrive, and a waiting writer holds back every reader that comes after it.

Each request carries a ticket. A request that cannot pass at once waits in
the queue; when the gate grants it later, its ticket is listed as granted
until the requester picks the grant up. -/

structure Gate where
  readers : Nat
  writing : Bool
  /-- Waiting requests, the first in line first, each a ticket and whether it
  asks to write. -/
  queue : List (Nat × Bool)
  /-- Tickets granted while they waited, not yet picked up. -/
  granted : List Nat
  deriving DecidableEq, Repr

namespace Gate

def empty : Gate := ⟨0, false, [], []⟩

/-- Grant waiting requests from the front of the line for as long as they fit. -/
def admitWaiting (g : Gate) : List (Nat × Bool) → Gate × List Nat
  | [] => ({ g with queue := [] }, [])
  | (ticket, write) :: rest =>
    if write then
      if !g.writing && g.readers == 0 then
        ({ g with writing := true, queue := rest, granted := g.granted ++ [ticket] }, [ticket])
      else ({ g with queue := (ticket, write) :: rest }, [])
    else if !g.writing then
      let (g, more) := admitWaiting { g with readers := g.readers + 1,
                                              granted := g.granted ++ [ticket] } rest
      (g, ticket :: more)
    else ({ g with queue := (ticket, write) :: rest }, [])

/-- Ask to pass as a reader; true when admitted at once. -/
def requestRead (g : Gate) (ticket : Nat) : Gate × Bool :=
  if g.queue.isEmpty && !g.writing then ({ g with readers := g.readers + 1 }, true)
  else ({ g with queue := g.queue ++ [(ticket, false)] }, false)

/-- Ask to pass as the writer; true when admitted at once. -/
def requestWrite (g : Gate) (ticket : Nat) : Gate × Bool :=
  if g.queue.isEmpty && !g.writing && g.readers == 0 then ({ g with writing := true }, true)
  else ({ g with queue := g.queue ++ [(ticket, true)] }, false)

/-- Pick up the grant of a waiting ticket; none while it still waits. -/
def pickUp (g : Gate) (ticket : Nat) : Option Gate :=
  if g.granted.contains ticket then some { g with granted := g.granted.filter (· != ticket) }
  else none

/-- A reader leaves; returns the tickets this grants. -/
def releaseRead (g : Gate) : Gate × List Nat :=
  let g := { g with readers := g.readers - 1 }
  g.admitWaiting g.queue

/-- The writer leaves; returns the tickets this grants. -/
def releaseWrite (g : Gate) : Gate × List Nat :=
  let g := { g with writing := false }
  g.admitWaiting g.queue

/-- A writer waiting behind a reader holds back the readers after it, and is let
in as soon as the reader leaves. -/
example : ((Gate.empty.requestRead 1).1.requestWrite 2).2 = false := by decide

example : (((Gate.empty.requestRead 1).1.requestWrite 2).1.requestRead 3).2 = false := by decide

example : ((((Gate.empty.requestRead 1).1.requestWrite 2).1.requestRead 3).1.releaseRead).2 = [2] := by
  decide

end Gate

end Courier
