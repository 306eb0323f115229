import MediaMonitor.Backend

/-!
# Runs of procedures

A procedure that goes on with another one makes the calls of both, one after the other, and tells of
both (`run_bind`).  What a backend answers to calls made one after another are their `replies`; they
split as the calls do (`replies_append`).  Replies that are given beforehand are `scripted`.
-/

namespace MediaMonitor.Procedure

variable {σ α β : Type} (answer : σ → (c : BackendCall) → c.Outcome × σ)

/-- The trace of a procedure that goes on with another one. -/
def Trace.andThen (t : Trace α) (u : Trace β) : Trace β where
  result := u.result
  calls := t.calls ++ u.calls
  events := t.events ++ u.events

/-- How a call failed, if it did. -/
def failure? (r : (c : BackendCall) × c.Outcome) : Option String :=
  match r.2 with
  | .ok _ => none
  | .error e => some e.message

/-- The backend after calls made one after another. -/
def after (calls : List BackendCall) (s : σ) : σ := calls.foldl (fun s c => (answer s c).2) s

/-- The answers to calls made one after another. -/
def replies : List BackendCall → σ → List ((c : BackendCall) × c.Outcome)
  | [], _ => []
  | c :: rest, s => ⟨c, (answer s c).1⟩ :: replies rest (answer s c).2

/-- A backend that gives the replies of a list, one after another. -/
def scripted : List ((c : BackendCall) → c.Outcome) → (c : BackendCall) →
    c.Outcome × List ((c : BackendCall) → c.Outcome)
  | [], _ => (.error .cancelled, [])
  | reply :: rest, c => (reply c, rest)

/-- The reply to one call, where every other call fails. -/
def replyTo (c : BackendCall) (outcome : c.Outcome) (d : BackendCall) : d.Outcome :=
  if h : c = d then h ▸ outcome else .error .cancelled

theorem replyTo_self (c : BackendCall) (outcome : c.Outcome) : replyTo c outcome c = outcome :=
  dif_pos rfl

theorem run_bind (p : Procedure α) (f : α → Procedure β) (s : σ) :
    run answer (p >>= f) s =
      let t := run answer p s
      let u := run answer (f t.1.result) t.2
      (t.1.andThen u.1, u.2) := by
  show run answer (p.bind f) s = _
  induction p generalizing s with
  | done a => rfl
  | ask c next ih => simp [bind, run, ih, Trace.andThen]
  | tell e next ih => simp [bind, run, ih, Trace.andThen]

theorem run_pure (a : α) (s : σ) : run answer (pure a) s = ({ result := a }, s) := rfl

theorem run_call_bind (c : BackendCall) (f : c.Outcome → Procedure α) (s : σ) :
    run answer (call c >>= f) s =
      let u := run answer (f (answer s c).1) (answer s c).2
      ({ u.1 with calls := c :: u.1.calls }, u.2) := rfl

theorem run_emit_bind (e : Event) (f : Unit → Procedure α) (s : σ) :
    run answer (emit e >>= f) s =
      let u := run answer (f ()) s
      ({ u.1 with events := e :: u.1.events }, u.2) := rfl

theorem length_replies (calls : List BackendCall) (s : σ) :
    (replies answer calls s).length = calls.length := by
  induction calls generalizing s with
  | nil => rfl
  | cons c rest ih => rw [replies, List.length_cons, ih, List.length_cons]

theorem replies_append (xs ys : List BackendCall) (s : σ) :
    replies answer (xs ++ ys) s =
      replies answer xs s ++ replies answer ys (after answer xs s) := by
  induction xs generalizing s with
  | nil => rfl
  | cons c rest ih => simp [replies, after, ih]

end MediaMonitor.Procedure
