import MediaMonitor.Event.Subscription
import MediaMonitor.Proofs.Event.Receiver

/-!
# Listening through a filter

A call to a subscription asks its receiver as often as the filter rejects the answer; meanwhile
values are sent, and the bus may be closed.  A `Listening` keeps what the receiver told and what the
calls returned.  Whatever happens between the questions, the calls return what the receiver tells
without the rejected values, and nothing else is lost (`Listening.returned_of_heard`).  A call that
is left alone returns what `Subscription.receive` gives at once: that there is nothing, if and only
if no value that passes, no loss and no end is pending (`Subscription.receive_eq_empty_iff`).
-/

namespace MediaMonitor

variable {α : Type}

/-! ### Answers that pass -/

namespace Subscription

/-- The subscription with its receiver elsewhere. -/
def withReceiver (s : Subscription α) (r : Receiver) : Subscription α := { s with receiver := r }

/-- The subscription passes an answer on: it keeps back nothing but values that its filter
rejects. -/
def passes (s : Subscription α) : Received α → Bool
  | .value a => s.accepts a
  | _ => true

/-- There is something to return: the end, a loss, or a value that passes. -/
def Pending (s : Subscription α) (b : Bus α) : Prop :=
  b.closed = true ∨ s.receiver.position + b.capacity < b.history.length ∨
    ∃ a ∈ b.history.drop s.receiver.position, s.accepts a = true

/-- How many values the receiver has not come to yet. -/
def unread (s : Subscription α) (b : Bus α) : Nat := b.history.length - s.receiver.position

section
variable {s : Subscription α} {b : Bus α} {answer : Received α} {r : Receiver} {a : α}

theorem exists_value_of_rejected (h : s.passes answer = false) :
    ∃ a, answer = .value a ∧ s.accepts a = false := by
  cases answer with
  | value a => exact ⟨a, rfl, h⟩
  | lagged | empty | closed => cases h

theorem drop_of_next (hnext : b.history[s.receiver.position]? = some a) :
    b.history.drop s.receiver.position = a :: b.history.drop (s.receiver.position + 1) := by
  rw [List.drop_eq_getElem?_toList_append, hnext]
  rfl

theorem not_pending_of_end (hend : b.history.length ≤ s.receiver.position)
    (hopen : b.closed = false) : ¬ s.Pending b := by
  rintro (hclosed | hlag | ⟨a, ha, -⟩)
  · rw [hopen] at hclosed
    cases hclosed
  · omega
  · rw [List.drop_eq_nil_of_le hend] at ha
    cases ha

/-- Passing over a rejected value changes nothing of what is pending. -/
theorem pending_withReceiver (hkept : b.history.length ≤ s.receiver.position + b.capacity)
    (hnext : b.history[s.receiver.position]? = some a) (hrejected : s.accepts a = false) :
    (s.withReceiver ⟨s.receiver.position + 1⟩).Pending b ↔ s.Pending b := by
  have hvalues : (∃ x ∈ b.history.drop s.receiver.position, s.accepts x = true) ↔
      ∃ x ∈ b.history.drop (s.receiver.position + 1), s.accepts x = true := by
    rw [drop_of_next hnext]
    simp [hrejected]
  have hbefore : ¬ s.receiver.position + b.capacity < b.history.length := Nat.not_lt.mpr hkept
  have hafter : ¬ s.receiver.position + 1 + b.capacity < b.history.length := by omega
  rw [Pending, Pending, hvalues]
  simp only [withReceiver, hbefore, hafter]
  rfl

/-- A rejected value is one less to come to. -/
theorem unread_withReceiver (hnext : b.history[s.receiver.position]? = some a) :
    (s.withReceiver ⟨s.receiver.position + 1⟩).unread b + 1 = s.unread b := by
  have hlt := (List.getElem?_eq_some_iff.mp hnext).1
  simp only [unread, withReceiver]
  omega

/-! ### What is received at once -/

/-- The receiver is asked once, and again if its answer is rejected. -/
theorem receiveWithin_succ (fuel : Nat) (h : s.receiver.receive b = (answer, r)) :
    receiveWithin b (fuel + 1) s =
      if s.passes answer then (answer, s.withReceiver r)
      else receiveWithin b fuel (s.withReceiver r) := by
  rw [receiveWithin, h]
  cases answer <;> rfl

theorem receive_of_passes (h : s.receiver.receive b = (answer, r))
    (hpass : s.passes answer = true) : s.receive b = (answer, s.withReceiver r) := by
  rw [receive, receiveWithin_succ _ h, if_pos hpass]

/-- The values that are looked at are enough: a rejected one is as good as gone. -/
theorem receive_of_rejected (h : s.receiver.receive b = (answer, r))
    (hrejected : s.passes answer = false) : s.receive b = (s.withReceiver r).receive b := by
  obtain ⟨a, rfl, -⟩ := exists_value_of_rejected hrejected
  have hreception := reception s.receiver b
  rw [h] at hreception
  cases hreception with
  | value hkept hnext =>
      change receiveWithin b (s.unread b + 1) s = receiveWithin b (unread _ b + 1) _
      rw [receiveWithin_succ _ h, hrejected, unread_withReceiver hnext]
      rfl

/-- **There is nothing to receive if and only if nothing is pending.** -/
theorem receive_eq_empty_iff : (s.receive b).1 = .empty ↔ ¬ s.Pending b := by
  -- by what is left to come to, of which a rejected value takes one
  induction hunread : s.unread b using Nat.strongRecOn generalizing s with
  | ind n ih =>
      rcases hask : s.receiver.receive b with ⟨answer, r⟩
      have hreception := reception s.receiver b
      rw [hask] at hreception
      cases hreception with
      | @value a hkept hnext =>
          cases haccepts : s.accepts a with
          | true =>
              rw [receive_of_passes hask haccepts]
              refine iff_of_false nofun (not_not_intro (.inr (.inr ⟨a, ?_, haccepts⟩)))
              rw [drop_of_next hnext]
              exact List.mem_cons_self
          | false =>
              rw [receive_of_rejected hask haccepts, ← pending_withReceiver hkept hnext haccepts]
              have hless := unread_withReceiver hnext
              exact ih _ (by omega) rfl
      | lagged hlost hpos =>
          rw [receive_of_passes hask rfl]
          exact iff_of_false nofun (not_not_intro (.inr (.inl (by omega))))
      | closed hend hclosed =>
          rw [receive_of_passes hask rfl]
          exact iff_of_false nofun (not_not_intro (.inl hclosed))
      | empty hend hopen =>
          rw [receive_of_passes hask rfl]
          exact iff_of_true rfl (not_pending_of_end hend hopen)

end

end Subscription

/-! ### Calls -/

/-- The two ways to ask a subscription. -/
inductive ReceiveCall where
  /-- Waits until there is something. -/
  | waiting
  /-- Returns at once, be there something or not. -/
  | immediate
  deriving DecidableEq

/-- The call returns an answer that passes; that there is nothing, it returns if it does not
wait. -/
def ReceiveCall.ends (c : ReceiveCall) (answer : Received α) : Bool :=
  answer.isNews || c = .immediate

/-- What happens while someone listens. -/
inductive ListeningAction (α : Type) where
  | emit (a : α)
  | close
  /-- There are so many other receivers now. -/
  | others (n : Nat)
  /-- A call begins, unless one is under way. -/
  | call (c : ReceiveCall)
  /-- The call that is under way asks the receiver. -/
  | ask
  /-- The call that is under way is given up. -/
  | giveUp

/-- A bus with a subscription, the call under way, what the receiver told when it was asked, and
what the calls returned. -/
structure Listening (α : Type) where
  bus : Bus α
  subscription : Subscription α
  call : Option ReceiveCall := none
  heard : List (Received α) := []
  returned : List (Received α) := []

namespace Listening

/-- The receiver gave an answer, and stands elsewhere. -/
def hear (l : Listening α) (answer : Received α) (r : Receiver) : Listening α :=
  { l with
    subscription := l.subscription.withReceiver r
    heard := if answer.isNews then l.heard ++ [answer] else l.heard }

/-- The call under way gets an answer, and returns it or goes on waiting. -/
def reply (l : Listening α) (c : ReceiveCall) (answer : Received α) : Listening α :=
  if c.ends answer then { l with call := none, returned := l.returned ++ [answer] } else l

/-- A call asks the receiver; what is rejected is passed over. -/
def ask (l : Listening α) (c : ReceiveCall) : Listening α :=
  let (answer, r) := l.subscription.receiver.receive l.bus
  if l.subscription.passes answer then (l.hear answer r).reply c answer else l.hear answer r

/-- Goes on with an action. -/
def step (l : Listening α) : ListeningAction α → Listening α
  | .emit a => { l with bus := l.bus.emit a }
  | .close => { l with bus := l.bus.close }
  | .others n => { l with bus := { l.bus with receivers := n + 1 } }
  | .call c => if l.call = none then { l with call := some c } else l
  | .ask =>
      match l.call with
      | some c => l.ask c
      | none => l
  | .giveUp => { l with call := none }

/-- Goes on with actions. -/
def run (l : Listening α) (actions : List (ListeningAction α)) : Listening α :=
  actions.foldl step l

/-! ### What every run keeps -/

/-- The receiver told the history of the bus, from where the subscription stood first to where it
stands now. -/
structure Hears (s : Subscription α) (l : Listening α) : Prop where
  filter : l.subscription = s.withReceiver l.subscription.receiver
  alive : 0 < l.bus.receivers
  start : s.receiver.position ≤ l.bus.history.length
  told : Told l.bus.history s.receiver.position l.heard l.subscription.receiver.position
  ended : .closed ∈ l.heard → l.bus.closed = true

/-- What was returned is what the receiver told, without the rejected values. -/
def Returns (s : Subscription α) (l : Listening α) : Prop :=
  l.returned.filter Received.isNews = l.heard.filter s.passes

section
variable {s : Subscription α} {l : Listening α} {answer : Received α} {r : Receiver}

theorem heard_hear_of_news (hnews : answer.isNews = true) :
    (l.hear answer r).heard = l.heard ++ [answer] := if_pos hnews

theorem heard_hear_of_nothing (hnews : answer.isNews = false) :
    (l.hear answer r).heard = l.heard := if_neg (by simp [hnews])

theorem heard_reply (l : Listening α) (c : ReceiveCall) (answer : Received α) :
    (l.reply c answer).heard = l.heard := by
  rw [reply]
  split <;> rfl

theorem returned_reply (l : Listening α) (c : ReceiveCall) (answer : Received α) :
    (l.reply c answer).returned =
      if c.ends answer then l.returned ++ [answer] else l.returned := by
  rw [reply]
  split <;> rfl

theorem Hears.passes_eq (h : l.Hears s) (answer : Received α) :
    l.subscription.passes answer = s.passes answer := by
  rw [h.filter]
  cases answer <;> rfl

/-- A closed bus takes no more values. -/
theorem emit_eq {b : Bus α} (hb : 0 < b.receivers) (a : α) :
    b.emit a = if b.closed then b else { b with history := b.history ++ [a] } := by
  rw [Bus.emit, Bus.send?]
  cases b.closed <;> simp [Nat.ne_of_gt hb]

theorem Hears.emit (h : l.Hears s) (a : α) : (l.step (.emit a)).Hears s := by
  rw [step, emit_eq h.alive]
  cases hclosed : l.bus.closed with
  | true => exact h
  | false =>
      have hopen : Received.closed ∉ l.heard := fun hmem => by
        rw [h.ended hmem] at hclosed
        cases hclosed
      refine ⟨h.filter, h.alive, h.start.trans ?_, h.told.extend hopen [a],
        fun hmem => absurd hmem hopen⟩
      exact (List.prefix_append l.bus.history [a]).length_le

theorem Hears.hear (h : l.Hears s)
    (hreception : Reception l.subscription.receiver l.bus answer r) :
    (l.hear answer r).Hears s := by
  have hfilter : (l.hear answer r).subscription = s.withReceiver r := by
    rw [Listening.hear, h.filter]
    rfl
  refine ⟨hfilter, h.alive, h.start, ?_, fun hmem => ?_⟩
  · have hwithin := h.told.le_length h.start
    cases hnews : answer.isNews with
    | true =>
        rw [heard_hear_of_news hnews]
        exact h.told.append (hreception.told hnews hwithin)
    | false =>
        rw [heard_hear_of_nothing hnews]
        cases hreception with
        | empty => exact h.told
        | value | lagged | closed => cases hnews
  · rw [Listening.hear] at hmem
    split at hmem
    case isTrue =>
      rcases List.mem_append.mp hmem with hmem | hmem
      · exact h.ended hmem
      · rw [← List.mem_singleton.mp hmem] at hreception
        cases hreception with
        | closed _ hclosed => exact hclosed
    case isFalse => exact h.ended hmem

/-- Returning changes nothing of what was heard. -/
theorem Hears.reply (h : l.Hears s) (c : ReceiveCall) (answer : Received α) :
    (l.reply c answer).Hears s := by
  rw [Listening.reply]
  split
  · exact ⟨h.filter, h.alive, h.start, h.told, h.ended⟩
  · exact h

theorem Returns.hear_rejected (h : l.Returns s) (hrejected : s.passes answer = false) :
    (l.hear answer r).Returns s := by
  obtain ⟨a, rfl, -⟩ := Subscription.exists_value_of_rejected hrejected
  change l.returned.filter _ = (l.heard ++ [Received.value a]).filter s.passes
  rw [List.filter_append, List.filter_cons_of_neg (by simp [hrejected])]
  exact h.trans (List.append_nil _).symm

theorem Returns.reply (h : l.Returns s) (hpass : s.passes answer = true) (c : ReceiveCall) :
    ((l.hear answer r).reply c answer).Returns s := by
  rw [Returns, returned_reply, heard_reply]
  cases hnews : answer.isNews with
  | true =>
      have hends : c.ends answer = true := by rw [ReceiveCall.ends, hnews, Bool.true_or]
      rw [if_pos hends, heard_hear_of_news hnews, List.filter_append, List.filter_append,
        List.filter_cons_of_pos hnews, List.filter_cons_of_pos hpass]
      exact congrArg (· ++ [answer]) h
  | false =>
      -- that there is nothing is not heard, and may be returned
      rw [heard_hear_of_nothing hnews]
      split
      · rw [List.filter_append, List.filter_cons_of_neg (by simp [hnews])]
        exact (List.append_nil _).trans h
      · exact h

/-- A question is answered and heard, and what passes is returned. -/
theorem ask_keeps (h : l.Hears s) (hreturns : l.Returns s) (c : ReceiveCall) :
    (l.ask c).Hears s ∧ (l.ask c).Returns s := by
  have hreception := reception l.subscription.receiver l.bus
  rw [ask]
  rcases hask : l.subscription.receiver.receive l.bus with ⟨answer, r⟩
  rw [hask] at hreception
  have hhears := h.hear hreception
  simp only [h.passes_eq]
  split
  case isTrue hpass => exact ⟨hhears.reply c answer, hreturns.reply hpass c⟩
  case isFalse hrejected =>
    exact ⟨hhears, hreturns.hear_rejected (Bool.eq_false_iff.mpr hrejected)⟩

/-- **Every action keeps it.** -/
theorem step_keeps (h : l.Hears s) (hreturns : l.Returns s) (action : ListeningAction α) :
    (l.step action).Hears s ∧ (l.step action).Returns s := by
  cases action with
  | emit a => exact ⟨h.emit a, hreturns⟩
  | close => exact ⟨⟨h.filter, h.alive, h.start, h.told, fun _ => rfl⟩, hreturns⟩
  | others n => exact ⟨⟨h.filter, Nat.succ_pos n, h.start, h.told, h.ended⟩, hreturns⟩
  | call c =>
      rw [step]
      split
      · exact ⟨⟨h.filter, h.alive, h.start, h.told, h.ended⟩, hreturns⟩
      · exact ⟨h, hreturns⟩
  | ask =>
      rw [step]
      split
      · exact ask_keeps h hreturns _
      · exact ⟨h, hreturns⟩
  | giveUp => exact ⟨⟨h.filter, h.alive, h.start, h.told, h.ended⟩, hreturns⟩

/-- **So does every run.** -/
theorem run_keeps (h : l.Hears s) (hreturns : l.Returns s) (actions : List (ListeningAction α)) :
    (l.run actions).Hears s ∧ (l.run actions).Returns s := by
  induction actions generalizing l with
  | nil => exact ⟨h, hreturns⟩
  | cons action rest ih =>
      obtain ⟨hstep, hstep'⟩ := step_keeps h hreturns action
      exact ih hstep hstep'

end

/-! ### A call that is left alone -/

section
variable {l : Listening α} {c : ReceiveCall} {answer : Received α} {r : Receiver}

/-- A question that changes nothing may be asked again. -/
theorem run_replicate_of_step (h : l.step .ask = l) (n : Nat) :
    l.run (List.replicate n .ask) = l := by
  induction n with
  | zero => rfl
  | succ n ih =>
      rw [List.replicate_succ]
      change (l.step .ask).run _ = l
      rw [h, ih]

theorem step_ask_of_call (hcall : l.call = some c)
    (hask : l.subscription.receiver.receive l.bus = (answer, r)) :
    l.step .ask =
      if l.subscription.passes answer then (l.hear answer r).reply c answer
      else l.hear answer r := by
  rw [step, hcall]
  change l.ask c = _
  rw [ask, hask]

/-- A call that got an answer has returned, or it waits and gets the same answer again. -/
theorem step_ask_again (hcall : l.call = some c)
    (hask : l.subscription.receiver.receive l.bus = (answer, r))
    (hpass : l.subscription.passes answer = true) :
    ((l.hear answer r).reply c answer).step .ask = (l.hear answer r).reply c answer := by
  have hstep := step_ask_of_call hcall hask
  rw [if_pos hpass] at hstep
  cases hends : c.ends answer with
  | true =>
      rw [reply, hends]
      rfl
  | false =>
      have hreception := reception l.subscription.receiver l.bus
      rw [hask] at hreception
      cases hreception with
      | empty =>
          have hsame : (l.hear .empty l.subscription.receiver).reply c .empty = l := by
            rw [reply, hends]
            rfl
          rw [hsame] at hstep ⊢
          exact hstep
      | value | lagged | closed => cases hends

/-- **A call that is left alone** gets the answer that the subscription gives at once, and returns
it, or goes on waiting. -/
theorem run_replicate_ask (hcall : l.call = some c) {n : Nat}
    (hn : l.subscription.unread l.bus < n) :
    ∃ heard, l.run (List.replicate n .ask) =
      { l with subscription := (l.subscription.receive l.bus).2, heard := heard }.reply c
        (l.subscription.receive l.bus).1 := by
  -- by the number of questions: a rejected value takes one of them, and one of what is unread
  induction n generalizing l with
  | zero => cases hn
  | succ n ih =>
      rcases hask : l.subscription.receiver.receive l.bus with ⟨answer, r⟩
      have hstep := step_ask_of_call hcall hask
      change ∃ heard, (l.step .ask).run (List.replicate n .ask) = _
      cases hpass : l.subscription.passes answer with
      | true =>
          rw [Subscription.receive_of_passes hask hpass, hstep, if_pos hpass]
          exact ⟨_, run_replicate_of_step (step_ask_again hcall hask hpass) n⟩
      | false =>
          obtain ⟨a, rfl, -⟩ := Subscription.exists_value_of_rejected hpass
          have hreception := reception l.subscription.receiver l.bus
          rw [hask] at hreception
          cases hreception with
          | value hkept hnext =>
              have hless := Subscription.unread_withReceiver hnext
              rw [Subscription.receive_of_rejected hask hpass, hstep, hpass]
              exact ih hcall (Nat.lt_of_succ_lt_succ (hless.trans_lt hn))

/-- That there is nothing is returned only where nothing is pending, and not by a call that
waits. -/
theorem not_pending_of_returned (h : (l.step .ask).returned = l.returned ++ [.empty]) :
    l.call = some .immediate ∧ ¬ l.subscription.Pending l.bus := by
  have hlonger (answers : List (Received α)) : answers ≠ answers ++ [.empty] := fun heq =>
    absurd (List.self_eq_append_right.mp heq) (List.cons_ne_nil _ _)
  cases hcall : l.call with
  | none =>
      rw [step, hcall] at h
      exact absurd h (hlonger _)
  | some c =>
      rcases hask : l.subscription.receiver.receive l.bus with ⟨answer, r⟩
      have hreception := reception l.subscription.receiver l.bus
      rw [hask] at hreception
      rw [step_ask_of_call hcall hask] at h
      split at h
      case isFalse => exact absurd h (hlonger _)
      case isTrue =>
        rw [returned_reply] at h
        split at h
        case isFalse => exact absurd h (hlonger _)
        case isTrue hends =>
          obtain rfl : answer = .empty := List.singleton_inj.mp (List.append_cancel_left h)
          cases hreception with
          | empty hend hopen =>
              have himmediate : c = .immediate := of_decide_eq_true hends
              exact ⟨congrArg some himmediate, Subscription.not_pending_of_end hend hopen⟩

/-- **Listening through a filter.**  Whatever is sent, asked and given up: what the calls returned,
but for that there was nothing, is what the receiver told without the rejected values.  The receiver
told the history of the bus from where it stood first.  The values returned are therefore the
accepted ones among values of the history, in their order, and these are as many as the receiver
went through without those that were said to be lost.

A call that is under way returns that there is nothing only if it does not wait and nothing is
pending; and left alone it gets what the subscription receives at once, whether it waits or not:
something if and only if it is pending. -/
theorem returned_of_heard (b : Bus α) (s : Subscription α) (hb : 0 < b.receivers)
    (hs : s.receiver.position ≤ b.history.length) (actions : List (ListeningAction α)) :
    let l := run { bus := b, subscription := s } actions
    l.returned.filter Received.isNews = l.heard.filter s.passes ∧
      Told l.bus.history s.receiver.position l.heard l.subscription.receiver.position ∧
      Received.values l.returned = (Received.values l.heard).filter s.accepts ∧
      (Received.values l.heard).Sublist ((l.bus.history.take l.subscription.receiver.position).drop
        s.receiver.position) ∧
      (Received.values l.heard).length + Received.losses l.returned =
        l.subscription.receiver.position - s.receiver.position ∧
      ((l.step .ask).returned = l.returned ++ [.empty] →
        l.call = some .immediate ∧ ¬ l.subscription.Pending l.bus) ∧
      ((l.subscription.receive l.bus).1 = .empty ↔ ¬ l.subscription.Pending l.bus) ∧
      ∀ c, l.call = some c → ∀ n > l.subscription.unread l.bus,
        ∃ heard, l.run (List.replicate n .ask) =
          { l with subscription := (l.subscription.receive l.bus).2, heard := heard }.reply c
            (l.subscription.receive l.bus).1 := by
  intro l
  have hfirst : Hears s { bus := b, subscription := s } := ⟨rfl, hb, hs, .nil _, nofun⟩
  obtain ⟨hhears, hreturns⟩ := run_keeps hfirst rfl actions
  obtain ⟨hvalues, hlosses⟩ :=
    Received.values_filter (p := Received.isNews) (fun _ => rfl) l.returned
  obtain ⟨hvalues', hlosses'⟩ := Received.values_filter (p := s.passes) (fun _ => rfl) l.heard
  have hreturned : l.returned.filter Received.isNews = l.heard.filter s.passes := hreturns
  obtain ⟨hsub, hcount⟩ := hhears.told.values
  rw [hreturned] at hvalues hlosses
  refine ⟨hreturned, hhears.told, ?_, hsub, ?_, not_pending_of_returned,
    Subscription.receive_eq_empty_iff, fun c hcall n hn => run_replicate_ask hcall hn⟩
  · have hall := List.filter_eq_self.mpr fun a (_ : a ∈ Received.values l.returned) => rfl
    exact hall.symm.trans (hvalues.symm.trans hvalues')
  · rw [← hlosses, hlosses']
    exact hcount

/-- Even numbers are let through.  A call waits, passes over `1` and returns `2`; then more is sent
than the bus keeps, and in the end it is closed. -/
theorem returned_of_heard_even :
    let b : Bus Nat := { capacity := 2, receivers := 1 }
    let s : Subscription Nat := { receiver := ⟨0⟩, filter := some (· % 2 = 0) }
    let l := run { bus := b, subscription := s }
      [.call .waiting, .ask, .emit 1, .ask, .emit 2, .ask, .emit 4, .emit 6, .emit 7,
        .call .immediate, .ask, .call .waiting, .ask, .call .immediate, .ask, .ask, .close,
        .call .waiting, .ask]
    0 < b.receivers ∧ s.receiver.position ≤ b.history.length ∧
      l.returned = [.value 2, .lagged 1, .value 6, .empty, .closed] ∧
      l.heard = [.value 1, .value 2, .lagged 1, .value 6, .value 7, .closed] ∧
      l.returned.filter Received.isNews = l.heard.filter s.passes ∧
      Received.values l.returned = (Received.values l.heard).filter s.accepts := by
  intro b s l
  obtain ⟨hreturned, -, hvalues, -⟩ := returned_of_heard b s (by decide) (by decide) _
  exact ⟨by decide, by decide, by decide, by decide, hreturned, hvalues⟩

end

end Listening

end MediaMonitor
