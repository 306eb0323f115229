import MediaMonitor.Text.Integer

/-!
# The event bus

A broadcast channel.  The bus remembers what was sent while someone listened; a receiver is a
position in that history.  A receiver that has fallen behind by more than the capacity loses what is
no longer kept: it is told once how many, and goes on with the oldest that is.
-/

namespace MediaMonitor

/-- The least power of two that is at least `n`. -/
def powerOfTwoFrom (n : Nat) : Nat := if n ≤ 1 then 1 else Nat.pow 2 ((n - 1).log2 + 1)

/-- A bus: how much it keeps, what was sent, the number of receivers, and whether it is closed. -/
structure Bus (α : Type) where
  capacity : Nat
  history : List α := []
  receivers : Nat := 0
  closed : Bool := false

/-- A receiver: the number of values that were sent before the next one it takes. -/
structure Receiver where
  position : Nat
  deriving DecidableEq, Repr

/-- The answer to a receiver that asks for a value. -/
inductive Received (α : Type) where
  | value (a : α)
  /-- So many values were lost. -/
  | lagged (missed : Nat)
  /-- There is nothing yet. -/
  | empty
  /-- There will be nothing any more. -/
  | closed
  deriving DecidableEq, Repr

namespace Bus

/-- The capacity of a bus for which none is asked. -/
def defaultCapacity : Nat := 100

/-- The number of values that no bus has room for. -/
def capacityLimit : Nat := Nat.pow 2 56

/-- A bus that keeps at least `capacity` values; it has to keep some, and needs room for them. -/
def ofCapacity? (capacity : Nat) : Option (Bus α) :=
  if capacity = 0 ∨ capacityLimit < capacity then none
  else some { capacity := powerOfTwoFrom capacity }

/-- Sends a value to all receivers; `none` when there are none, or the bus is closed. -/
def send? (b : Bus α) (a : α) : Option (Bus α) :=
  if b.receivers = 0 ∨ b.closed then none else some { b with history := b.history ++ [a] }

/-- Sends a value, whether or not someone listens. -/
def emit (b : Bus α) (a : α) : Bus α := (b.send? a).getD b

/-- Sends values one after another. -/
def emitAll (b : Bus α) (l : List α) : Bus α := l.foldl emit b

/-- A new receiver, which sees what is sent from now on. -/
def subscribe (b : Bus α) : Receiver × Bus α :=
  (⟨b.history.length⟩, { b with receivers := b.receivers + 1 })

/-- A receiver leaves. -/
def unsubscribe (b : Bus α) : Bus α := { b with receivers := b.receivers - 1 }

/-- No more values will be sent. -/
def close (b : Bus α) : Bus α := { b with closed := true }

/-- A description of a bus. -/
def description (b : Bus α) : String :=
  "EventBus \x7b subscriber_count: " ++ Text.ofNat b.receivers ++ " \x7d"

end Bus

namespace Receiver

/-- Asks for the next value. -/
def receive (r : Receiver) (b : Bus α) : Received α × Receiver :=
  if r.position + b.capacity < b.history.length then
    let oldest := b.history.length - b.capacity
    (.lagged (oldest - r.position), ⟨oldest⟩)
  else match b.history[r.position]? with
    | some a => (.value a, ⟨r.position + 1⟩)
    | none => (if b.closed then .closed else .empty, r)

end Receiver

end MediaMonitor
