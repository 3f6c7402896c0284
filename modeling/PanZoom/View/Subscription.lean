import PanZoom.Plane

/-!
# Subscriptions

Handlers for changes of a view. A subscription id names the viewport that issued it and counts the
subscriptions made there, so an id is never used twice and means nothing to another viewport. Both
numbers are unbounded; where they are kept in 64 bits, fewer than 2^64 of each are meant.
Handlers are notified in the order in which they were registered.

A handler is data of a type `η` that the host of the viewport chooses: a viewport does not run
handlers, it tells which of them are due and with what (`Notice`).
-/

namespace PanZoom

structure SubscriptionId where
  viewport : Nat
  /-- The number of subscriptions made on that viewport before it. -/
  index : Nat
  deriving DecidableEq, Repr

/-- By viewport, then in order of registration. -/
instance : Ord SubscriptionId where
  compare a b := (compare a.viewport b.viewport).then (compare a.index b.index)

/-- What a handler can be notified of. -/
inductive Topic where
  | scale
  | offset
  deriving DecidableEq, Repr

/-- A change of a view, with the new value. -/
inductive Change (α : Type) where
  | scale (value : α)
  | offset (value : Vec2 α)
  deriving DecidableEq

/-- A handler that is due. -/
structure Notice (α η : Type) where
  id : SubscriptionId
  handler : η
  change : Change α

/-- The handlers registered for one topic, in order of registration. -/
structure Observers (η : Type) where
  entries : List (SubscriptionId × η)

namespace Observers

variable {η : Type}

def empty : Observers η := ⟨[]⟩

def size (o : Observers η) : Nat := o.entries.length

def ids (o : Observers η) : List SubscriptionId := o.entries.map Prod.fst

def contains (o : Observers η) (id : SubscriptionId) : Bool := o.entries.any fun e => e.1 = id

/-- Registers a handler after all others. -/
def insert (o : Observers η) (id : SubscriptionId) (handler : η) : Observers η :=
  ⟨o.entries ++ [(id, handler)]⟩

/-- Removes the handler registered under the id; the others keep their order. -/
def erase (o : Observers η) (id : SubscriptionId) : Observers η :=
  ⟨o.entries.eraseP fun e => e.1 = id⟩

/-- The notices that a change gives rise to. -/
def notify {α : Type} (o : Observers η) (change : Change α) : List (Notice α η) :=
  o.entries.map fun (id, handler) => { id, handler, change }

end Observers

end PanZoom
