import Mathlib.Algebra.Order.Group.Nat
import Mathlib.Algebra.Ring.Nat
import MediaMonitor.Event.Bus

/-!
# What a receiver is told

A receiver goes through the history of its bus.  Its answers tell the history from one position to
another (`Told`): value by value, but for values that were lost, of which it is said how many they
are, and the end behind the last.  The values it is given are therefore some of those between the
two positions, in their order, and together with the lost ones as many (`Told.values`).
-/

namespace MediaMonitor

variable {α : Type}

/-! ### Answers -/

namespace Received

/-- The answer tells something: a value, a loss, or the end. -/
def isNews : Received α → Bool
  | .empty => false
  | _ => true

/-- The value that is given. -/
def value? : Received α → Option α
  | .value a => some a
  | _ => none

/-- How many values are said to be lost. -/
def missed : Received α → Nat
  | .lagged n => n
  | _ => 0

/-- The values that are given. -/
def values (answers : List (Received α)) : List α := answers.filterMap value?

/-- How many values are said to be lost in all. -/
def losses (answers : List (Received α)) : Nat := (answers.map missed).sum

/-- What keeps every loss only selects among the values. -/
theorem values_filter {p : Received α → Bool} (hlagged : ∀ n, p (.lagged n) = true)
    (answers : List (Received α)) :
    values (answers.filter p) = (values answers).filter (fun a => p (.value a)) ∧
      losses (answers.filter p) = losses answers := by
  induction answers with
  | nil => exact ⟨rfl, rfl⟩
  | cons answer rest ih =>
      obtain ⟨hvalues, hlosses⟩ := ih
      cases hp : p answer with
      | true =>
          rw [List.filter_cons_of_pos hp]
          refine ⟨?_, congrArg (answer.missed + ·) hlosses⟩
          cases answer with
          | value a =>
              have hkept : (a :: values rest).filter (fun a => p (.value a)) = _ :=
                List.filter_cons_of_pos hp
              exact (congrArg (a :: ·) hvalues).trans hkept.symm
          | lagged | empty | closed => exact hvalues
      | false =>
          have hdropped : ¬ p answer = true := Bool.eq_false_iff.mp hp
          rw [List.filter_cons_of_neg hdropped]
          cases answer with
          | value a =>
              have hleft : (a :: values rest).filter (fun a => p (.value a)) = _ :=
                List.filter_cons_of_neg hdropped
              exact ⟨hvalues.trans hleft.symm, hlosses.trans (Nat.zero_add _).symm⟩
          | lagged n => exact absurd (hlagged n) hdropped
          | empty | closed => exact ⟨hvalues, hlosses.trans (Nat.zero_add _).symm⟩

end Received

/-! ### The answer of a receiver -/

/-- The answer of a receiver, and where it stands then. -/
inductive Reception (r : Receiver) (b : Bus α) : Received α → Receiver → Prop where
  /-- The next value, which is still kept. -/
  | value {a : α} (hkept : b.history.length ≤ r.position + b.capacity)
      (hnext : b.history[r.position]? = some a) : Reception r b (.value a) ⟨r.position + 1⟩
  /-- What is no longer kept is lost, and the oldest value that is kept comes next. -/
  | lagged {n : Nat} (hlost : r.position + n + b.capacity = b.history.length) (hpos : 0 < n) :
      Reception r b (.lagged n) ⟨r.position + n⟩
  | closed (hend : b.history.length ≤ r.position) (hclosed : b.closed = true) :
      Reception r b .closed r
  | empty (hend : b.history.length ≤ r.position) (hopen : b.closed = false) :
      Reception r b .empty r

theorem reception (r : Receiver) (b : Bus α) : Reception r b (r.receive b).1 (r.receive b).2 := by
  rw [Receiver.receive]
  split
  case isTrue hlag =>
    obtain ⟨n, hpos, hlost⟩ : ∃ n, 0 < n ∧ r.position + n + b.capacity = b.history.length :=
      ⟨b.history.length - b.capacity - r.position, by omega, by omega⟩
    have holdest : b.history.length - b.capacity = r.position + n := by omega
    simp only [holdest, Nat.add_sub_cancel_left]
    exact .lagged hlost hpos
  case isFalse hkept =>
    cases hnext : b.history[r.position]? with
    | some a => exact .value (Nat.le_of_not_lt hkept) hnext
    | none =>
        have hend := List.getElem?_eq_none_iff.mp hnext
        cases hclosed : b.closed with
        | true => exact .closed hend hclosed
        | false => exact .empty hend hclosed

/-! ### Histories that are told -/

/-- Answers that tell a history from one position to another. -/
inductive Told (history : List α) : Nat → List (Received α) → Nat → Prop where
  | nil (i : Nat) : Told history i [] i
  | value {i j : Nat} {a : α} {rest : List (Received α)} (hnext : history[i]? = some a)
      (hrest : Told history (i + 1) rest j) : Told history i (.value a :: rest) j
  | lagged {i j n : Nat} {rest : List (Received α)} (hpos : 0 < n)
      (hlost : i + n ≤ history.length) (hrest : Told history (i + n) rest j) :
      Told history i (.lagged n :: rest) j
  | closed {j : Nat} {rest : List (Received α)} (hrest : Told history history.length rest j) :
      Told history history.length (.closed :: rest) j

section
variable {history : List α} {i j k : Nat} {answers more : List (Received α)}

theorem Told.append (h : Told history i answers j) (hmore : Told history j more k) :
    Told history i (answers ++ more) k := by
  induction h with
  | nil => exact hmore
  | value hnext _ ih => exact .value hnext (ih hmore)
  | lagged hpos hlost _ ih => exact .lagged hpos hlost (ih hmore)
  | closed _ ih => exact .closed (ih hmore)

theorem Told.le (h : Told history i answers j) : i ≤ j := by
  induction h with
  | nil => exact Nat.le_refl _
  | value _ _ ih => exact (Nat.le_succ _).trans ih
  | lagged _ _ _ ih => exact (Nat.le_add_right _ _).trans ih
  | closed _ ih => exact ih

theorem Told.le_length (h : Told history i answers j) (hi : i ≤ history.length) :
    j ≤ history.length := by
  induction h with
  | nil => exact hi
  | value hnext _ ih => exact ih (List.getElem?_eq_some_iff.mp hnext).1
  | lagged _ hlost _ ih => exact ih hlost
  | closed _ ih => exact ih hi

/-- What was told of a history stays told when it goes on, unless it has ended. -/
theorem Told.extend (h : Told history i answers j) (hopen : Received.closed ∉ answers)
    (later : List α) : Told (history ++ later) i answers j := by
  induction h with
  | nil => exact .nil _
  | value hnext _ ih =>
      refine .value ?_ (ih fun hmem => hopen (List.mem_cons_of_mem _ hmem))
      rwa [List.getElem?_append_left (List.getElem?_eq_some_iff.mp hnext).1]
  | lagged hpos hlost _ ih =>
      refine .lagged hpos ?_ (ih fun hmem => hopen (List.mem_cons_of_mem _ hmem))
      rw [List.length_append]
      omega
  | closed => exact absurd List.mem_cons_self hopen

/-- **The values that are given** are values between the two positions, in their order, and as many
as are not said to be lost. -/
theorem Told.values (h : Told history i answers j) :
    (Received.values answers).Sublist ((history.take j).drop i) ∧
      (Received.values answers).length + Received.losses answers = j - i := by
  induction h with
  | nil => exact ⟨List.nil_sublist _, (Nat.sub_self _).symm⟩
  | @value i j a rest hnext hrest ih =>
      obtain ⟨hsub, hcount⟩ := ih
      have hlt : i < j := hrest.le
      have hsegment : (history.take j).drop i = a :: (history.take j).drop (i + 1) := by
        rw [List.drop_eq_getElem?_toList_append, List.getElem?_take_of_lt hlt, hnext]
        rfl
      refine ⟨hsegment ▸ hsub.cons_cons a, ?_⟩
      change (Received.values rest).length + 1 + (0 + Received.losses rest) = j - i
      omega
  | @lagged i j n rest hpos hlost hrest ih =>
      obtain ⟨hsub, hcount⟩ := ih
      have hle := hrest.le
      refine ⟨hsub.trans (List.drop_sublist_drop_left _ (Nat.le_add_right i n)), ?_⟩
      change (Received.values rest).length + (n + Received.losses rest) = j - i
      omega
  | @closed j rest hrest ih =>
      obtain ⟨hsub, hcount⟩ := ih
      refine ⟨hsub, ?_⟩
      change (Received.values rest).length + (0 + Received.losses rest) = j - history.length
      omega

/-- A receiver tells the history of its bus on. -/
theorem Reception.told {r r' : Receiver} {b : Bus α} {answer : Received α}
    (h : Reception r b answer r') (hnews : answer.isNews = true)
    (hr : r.position ≤ b.history.length) :
    Told b.history r.position [answer] r'.position := by
  cases h with
  | value _ hnext => exact .value hnext (.nil _)
  | lagged hlost hpos => exact .lagged hpos (by omega) (.nil _)
  | closed hend =>
      have heq : r.position = b.history.length := hr.antisymm hend
      rw [heq]
      exact .closed (.nil _)
  | empty => cases hnews

end

end MediaMonitor
