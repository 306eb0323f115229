import MediaMonitor.Deletion.Reading

/-!
# Timed deliveries

A body whose items come after given delays, in milliseconds.  An item that never comes stalls the
body.
-/

namespace MediaMonitor.Scenario

/-- An item of a body and the time it takes to come. -/
structure Delivery where
  delay : Nat := 0
  /-- The item; `none` never comes. -/
  item : Option BodyItem := none

namespace Delivery

/-- The body that deliveries make up. -/
def body : List Delivery → Body
  | [] => { items := [] }
  | d :: rest =>
      match d.item with
      | none => { items := [], stalls := true }
      | some item =>
          let b := body rest
          { b with items := item :: b.items }

/-- The time at which an item comes, counted from the start; the end comes with the last item. -/
def arrival? : List Delivery → Nat → Option Nat
  | [], _ => some 0
  | d :: rest, n =>
      if d.item.isNone then none
      else match n with
        | 0 => some d.delay
        | n + 1 => (arrival? rest n).map (d.delay + ·)

/-- The read is cancelled at a time: while it waits for the first item that comes later. -/
def cancelledAt (ds : List Delivery) (time n : Nat) : Bool :=
  match arrival? ds n with
  | some arrival => time < arrival
  | none => true

end Delivery

end MediaMonitor.Scenario
