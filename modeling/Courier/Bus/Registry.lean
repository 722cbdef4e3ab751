import Courier.Settings

namespace Courier

/-! # Caches of resolved resources

A bus remembers the topics and subscriptions it has resolved, so that it asks
the broker about each name once. When two resolutions of one name race, the
first to finish is kept, and every resolution of the name gets that handle.

The topic cache can be sealed: sealing empties it for a last flush, and a
sealed cache takes nothing in any more, so no topic resolved afterwards escapes
that flush. -/

/-- A topic handle as a registry hands it out: the topic's name, and the
identity of the allocation that holds it. -/
structure TopicRef where
  name : String
  id : Nat
  deriving DecidableEq, Repr

structure TopicCache where
  /-- Cached handles, in the order they were cached. -/
  handles : List TopicRef
  sealed : Bool
  deriving DecidableEq, Repr

namespace TopicCache

def empty : TopicCache := ⟨[], false⟩

/-- The names of the cached topics, in the order they were cached. -/
def names (c : TopicCache) : List String := c.handles.map (·.name)

def find? (c : TopicCache) (name : String) : Option TopicRef := c.handles.find? (·.name == name)

def contains (c : TopicCache) (name : String) : Bool := c.names.contains name

/-- Cache a handle just allocated for a resolved topic, unless the cache is
sealed or holds a handle of that name already; returns the handle the resolver
gets: the one cached first, or the new one when the cache is sealed. -/
def insert (c : TopicCache) (fresh : TopicRef) : TopicCache × TopicRef :=
  if c.sealed then (c, fresh) else
  match c.find? fresh.name with
  | some kept => (c, kept)
  | none => ({ c with handles := c.handles ++ [fresh] }, fresh)

/-- Take every cached handle, sorted by name, and seal the cache. -/
def drain (c : TopicCache) : List TopicRef × TopicCache :=
  (c.handles.mergeSort (fun a b => a.name ≤ b.name), ⟨[], true⟩)

example : (((TopicCache.empty.insert ⟨"a", 1⟩).1.insert ⟨"a", 2⟩).2) = ⟨"a", 1⟩ := by decide

example : (TopicCache.empty.drain.2.insert ⟨"t", 1⟩).1.names = [] := by decide

end TopicCache

/-- What a consumer needs to know of a subscription: its name, the topic it
is attached to, and how long a lease lasts. -/
structure SubscriptionHandle where
  name : String
  topic : String
  ackDeadline : Duration
  deriving DecidableEq, Repr

/-- The subscriptions a registry has resolved, in the order they were cached. -/
abbrev SubscriptionCache := List SubscriptionHandle

namespace SubscriptionCache

def find? (c : SubscriptionCache) (name : String) : Option SubscriptionHandle :=
  List.find? (·.name == name) c

/-- Cache a resolved subscription unless one of that name is cached; returns
the handle now cached. -/
def insert (c : SubscriptionCache) (handle : SubscriptionHandle) :
    SubscriptionCache × SubscriptionHandle :=
  match find? c handle.name with
  | some kept => (c, kept)
  | none => (c ++ [handle], handle)

def remove (c : SubscriptionCache) (name : String) :
    SubscriptionCache × Option SubscriptionHandle :=
  (List.filter (·.name != name) c, find? c name)

def drain (c : SubscriptionCache) : List SubscriptionHandle :=
  c.mergeSort (fun a b => a.name ≤ b.name)

end SubscriptionCache

end Courier
