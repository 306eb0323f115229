import MediaMonitor.Event.Bus

/-!
# Subscriptions

A receiver with a filter: values that the filter rejects are passed over, while losses and the end
of the bus are always told.
-/

namespace MediaMonitor

/-- A receiver and what it lets through. -/
structure Subscription (α : Type) where
  receiver : Receiver
  filter : Option (α → Bool) := none

namespace Subscription

/-- The subscription lets a value through. -/
def accepts (s : Subscription α) (a : α) : Bool :=
  match s.filter with
  | some p => p a
  | none => true

/-- A new subscription, without a filter unless one is given. -/
def start (b : Bus α) (filter : Option (α → Bool)) : Subscription α × Bus α :=
  let (receiver, b) := b.subscribe
  (⟨receiver, filter⟩, b)

/-- A description of a subscription. -/
def description (s : Subscription α) : String :=
  "EventStream \x7b has_filter: " ++ (if s.filter.isSome then "true" else "false") ++ " \x7d"

/-- Asks for the next value that passes, looking at no more than `fuel` values. -/
def receiveWithin (b : Bus α) : Nat → Subscription α → Received α × Subscription α
  | 0, s => (.empty, s)
  | fuel + 1, s =>
      let (answer, receiver) := s.receiver.receive b
      let s := { s with receiver := receiver }
      match answer with
      | .value a => if s.accepts a then (.value a, s) else receiveWithin b fuel s
      | answer => (answer, s)

/-- Asks for the next value that passes. -/
def receive (s : Subscription α) (b : Bus α) : Received α × Subscription α :=
  receiveWithin b (b.history.length - s.receiver.position + 1) s

/-- Takes all that is there, at most so many answers, until the bus is empty or closed. -/
def drainWithin (b : Bus α) : Nat → Subscription α → List (Received α) × Subscription α
  | 0, s => ([], s)
  | fuel + 1, s =>
      let (answer, s) := s.receive b
      match answer with
      | .empty => ([], s)
      | .closed => ([.closed], s)
      | answer =>
          let (rest, s) := drainWithin b fuel s
          (answer :: rest, s)

/-- Takes all that is there. -/
def drain (s : Subscription α) (b : Bus α) : List (Received α) × Subscription α :=
  drainWithin b (b.history.length - s.receiver.position + 2) s

end Subscription

end MediaMonitor
