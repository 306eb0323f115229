import MediaMonitor.Sse.Parser

/-!
# The frames of a text

`Parser.frames` lists the frames of a text that comes to its end: those that its blank lines
dispatch, and a last one that no blank line followed.  A blank line at the end of the text makes no
difference (`frames_append_blank`): what it would dispatch is handed out at the end anyway.  Nothing
of a text that ends in a blank line gets into the frames of what follows
(`frames_append_of_endsBlank`).
-/

namespace MediaMonitor.Sse.Parser

/-! ### Lines and dispatch -/

theorem gather_lineRev (p : Parser) (field : String × String) :
    (p.gather field).lineRev = p.lineRev := by
  unfold gather; split <;> rfl

/-- A line leaves the characters of the next one alone. -/
theorem takeLine_lineRev (p : Parser) (line : List Char) :
    (p.takeLine line).lineRev = p.lineRev := by
  unfold takeLine
  split
  · exact gather_lineRev _ _
  · rfl

/-- What a line makes of the frame depends on the frame and on whether it has data. -/
theorem takeLine_frame_congr {p q : Parser} (hf : p.frame = q.frame) (hd : p.hasData = q.hasData)
    (line : List Char) : (p.takeLine line).frame = (q.takeLine line).frame := by
  unfold takeLine
  split
  · unfold gather; split <;> simp [hf, hd]
  · exact hf

/-- What is handed out depends on the frame alone. -/
theorem dispatch_congr {p q : Parser} (h : p.frame = q.frame) : p.dispatch.1 = q.dispatch.1 := by
  unfold dispatch; rw [h]

/-- An empty frame is not handed out. -/
theorem dispatch_empty {p : Parser} (h : p.frame = {}) : p.dispatch.1 = none := by
  unfold dispatch; rw [if_pos h]

/-- The end of the text between two lines. -/
theorem finish_blank {p : Parser} (h : p.lineRev = []) : p.finish.1 = p.dispatch.1 := by
  unfold finish; rw [if_pos h]; exact dispatch_congr rfl

/-- The end of the text in a line. -/
theorem finish_line {p : Parser} (h : p.lineRev ≠ []) :
    p.finish.1 = (takeLine { p with lineRev := [] } p.lineRev.reverse).dispatch.1 := by
  unfold finish; rw [if_neg h]

/-- A line feed that belongs to the carriage return before it. -/
theorem step_skipped {p : Parser} (h : p.skipLf = true) :
    p.step '\n' = (none, { p with skipLf := false }) := by
  unfold step; rw [if_pos ⟨rfl, h⟩]

/-- Any other line feed ends the line. -/
theorem step_lineFeed {p : Parser} (h : p.skipLf = false) :
    p.step '\n' = (p.endLine.1, { p.endLine.2 with skipLf := false }) := by
  unfold step; rw [if_neg (by simp [h]), if_pos (.inl rfl)]; rfl

/-- A carriage return ends the line. -/
theorem step_return (p : Parser) :
    p.step '\r' = (p.endLine.1, { p.endLine.2 with skipLf := true }) := by
  unfold step; rw [if_neg (by simp), if_pos (.inr rfl)]; rfl

/-- Any other character belongs to the line. -/
theorem step_char {c : Char} (hn : c ≠ '\n') (hr : c ≠ '\r') (p : Parser) :
    p.step c = (none, { p with lineRev := c :: p.lineRev, skipLf := false }) := by
  unfold step; rw [if_neg (by simp [hn]), if_neg (by simp [hn, hr])]

theorem lineRev_endLine (p : Parser) : p.endLine.2.lineRev = [] := by
  unfold endLine
  split
  · rfl
  · exact takeLine_lineRev _ _

/-! ### The frames of the rest of a text -/

/-- The frames of the rest of a text. -/
def frames (p : Parser) (cs : List Char) : List Frame :=
  (p.push cs).1 ++ (p.push cs).2.finish.1.toList

theorem frames_append (p : Parser) (xs ys : List Char) :
    p.frames (xs ++ ys) = (p.push xs).1 ++ (p.push xs).2.frames ys := by
  simp [frames, push_append]

theorem frames_nil (p : Parser) : p.frames [] = p.finish.1.toList := rfl

theorem frames_cons (p : Parser) (c : Char) (cs : List Char) :
    p.frames (c :: cs) = (p.step c).1.toList ++ (p.step c).2.frames cs := by
  simp [frames, push]

/-- The end of the text hands out the same frame whatever the last character was. -/
theorem frames_nil_skipLf (p : Parser) (b : Bool) :
    ({ p with skipLf := b } : Parser).frames [] = p.frames [] := by
  rw [frames_nil, frames_nil]
  by_cases hl : p.lineRev = []
  · rw [finish_blank hl, finish_blank (p := { p with skipLf := b }) hl]; rfl
  · rw [finish_line hl, finish_line (p := { p with skipLf := b }) hl]
    refine congrArg Option.toList (dispatch_congr (takeLine_frame_congr ?_ ?_ _)) <;> rfl

/-- A line feed at the end of a text hands out no more and no less than the end does. -/
theorem frames_lineFeed {p : Parser} (hs : p.skipLf = false) : p.frames ['\n'] = p.frames [] := by
  rw [frames_cons, step_lineFeed hs, frames_nil_skipLf, frames_nil, frames_nil]
  by_cases hl : p.lineRev = []
  · have he : p.endLine = ({ p with lineRev := [] } : Parser).dispatch := by
      unfold endLine; rw [if_pos hl]
    rw [he, finish_blank hl, finish_blank rfl, dispatch_empty (p := Prod.snd _) rfl]
    exact (List.append_nil _).trans (congrArg Option.toList (dispatch_congr rfl))
  · have he : p.endLine = (none, takeLine { p with lineRev := [] } p.lineRev.reverse) := by
      unfold endLine; rw [if_neg hl]
    rw [he, finish_line hl, finish_blank (takeLine_lineRev _ _)]
    rfl

/-- **A blank line at the end of a text makes no difference.** -/
theorem frames_append_blank (p : Parser) (cs : List Char) :
    p.frames (cs ++ ['\n', '\n']) = p.frames cs := by
  suffices h : ∀ q : Parser, q.frames ['\n', '\n'] = q.frames [] by
    rw [frames_append, h, ← frames_append, List.append_nil]
  intro q
  rw [frames_cons]
  cases hs : q.skipLf with
  | true =>
      rw [step_skipped hs, frames_lineFeed rfl]
      exact frames_nil_skipLf q false
  | false =>
      have h₂ : (q.step '\n').2.skipLf = false := by rw [step_lineFeed hs]
      rw [frames_lineFeed h₂, ← frames_cons, frames_lineFeed hs]

/-! ### Texts that end in a blank line -/

/-- The text ends in a blank line. -/
def EndsBlank (text : String) : Prop :=
  ∃ body : String, ∃ eol ∈ ["\n", "\r\n", "\r"], text = body ++ eol ++ eol

/-- Behind a carriage return no line is at work. -/
def Sound (p : Parser) : Prop := p.skipLf = true → p.lineRev = []

theorem Sound.step (p : Parser) (c : Char) : (p.step c).2.Sound := by
  intro hs
  by_cases hr : c = '\r'
  · subst hr; rw [step_return]; exact lineRev_endLine p
  by_cases hn : c = '\n'
  · subst hn
    cases hp : p.skipLf with
    | true => rw [step_skipped hp] at hs; cases hs
    | false => rw [step_lineFeed hp] at hs; cases hs
  · rw [step_char hn hr] at hs; cases hs

theorem Sound.push {p : Parser} (h : p.Sound) (cs : List Char) : (p.push cs).2.Sound := by
  induction cs generalizing p with
  | nil => exact h
  | cons c cs ih => exact ih (Sound.step p c)

/-- A blank line leaves a parser as it is at the start. -/
theorem endLine_blank {p : Parser} (h : p.lineRev = []) : p.endLine.2 = { skipLf := p.skipLf } := by
  unfold endLine; rw [if_pos h]; rfl

/-- A line feed ends the line, or the carriage return before it did. -/
theorem Sound.lineFeed {p : Parser} (h : p.Sound) :
    (p.step '\n').2.lineRev = [] ∧ (p.step '\n').2.skipLf = false := by
  cases hs : p.skipLf with
  | true => rw [step_skipped hs]; exact ⟨h hs, rfl⟩
  | false => rw [step_lineFeed hs]; exact ⟨lineRev_endLine p, rfl⟩

theorem step_lineFeed_blank {p : Parser} (hl : p.lineRev = []) (hs : p.skipLf = false) :
    (p.step '\n').2 = {} := by
  rw [step_lineFeed hs, endLine_blank hl]

theorem step_return_blank {p : Parser} (hl : p.lineRev = []) :
    (p.step '\r').2 = { skipLf := true } := by
  rw [step_return, endLine_blank hl]

/-- **Behind a blank line a parser is as at the start**, but for what its last character was. -/
theorem push_of_endsBlank {p : Parser} (h : p.Sound) {text : String} (ht : EndsBlank text) :
    ∃ b, (p.push text.toList).2 = { skipLf := b } := by
  obtain ⟨body, eol, heol, rfl⟩ := ht
  have hbody := h.push body.toList
  have hpush : (p.push (body ++ eol ++ eol).toList).2 =
      ((p.push body.toList).2.push (eol.toList ++ eol.toList)).2 := by
    rw [String.toList_append, String.toList_append, List.append_assoc, push_append]
  rw [hpush]
  generalize (p.push body.toList).2 = q at hbody
  simp only [List.mem_cons, List.not_mem_nil, or_false] at heol
  rcases heol with rfl | rfl | rfl
  · obtain ⟨hl, hs⟩ := hbody.lineFeed
    exact ⟨false, step_lineFeed_blank hl hs⟩
  · have hreturn : (q.push ['\r', '\n']).2 = { q.endLine.2 with skipLf := false } := by
      simp only [push, step_return, step_skipped (p := { q.endLine.2 with skipLf := true }) rfl]
    have hline : ({ q.endLine.2 with skipLf := false } : Parser).lineRev = [] := lineRev_endLine q
    refine ⟨false, ?_⟩
    show (q.push (['\r', '\n'] ++ ['\r', '\n'])).2 = _
    rw [push_append, hreturn]
    simp only [push, step_return_blank hline, step_skipped (p := { skipLf := true }) rfl]
  · have hline : (q.step '\r').2.lineRev = [] := by rw [step_return]; exact lineRev_endLine q
    exact ⟨true, step_return_blank hline⟩

/-- Behind a blank line it makes no difference whether a line feed is skipped. -/
theorem frames_skipLf (b : Bool) (cs : List Char) :
    ({ skipLf := b } : Parser).frames cs = ({} : Parser).frames cs := by
  cases b with
  | false => rfl
  | true =>
      cases cs with
      | nil => rfl
      | cons c cs =>
          rw [frames_cons, frames_cons]
          by_cases hn : c = '\n'
          · subst hn; rw [step_skipped rfl]; rfl
          · have hstep : ({ skipLf := true } : Parser).step c = ({} : Parser).step c := by
              simp [step, hn, endLine, dispatch]
            rw [hstep]

/-- **A text that ends in a blank line leaves nothing to the text behind it.** -/
theorem frames_append_of_endsBlank {s : String} (h : s = "" ∨ EndsBlank s) (t : String) :
    ({} : Parser).frames (s ++ t).toList =
      ({} : Parser).frames s.toList ++ ({} : Parser).frames t.toList := by
  rcases h with rfl | h
  · rw [String.empty_append]; rfl
  · obtain ⟨b, hb⟩ := push_of_endsBlank (p := {}) (fun _ => rfl) h
    have hs : ({} : Parser).frames s.toList = (({} : Parser).push s.toList).1 := by
      rw [frames, hb]; exact List.append_nil _
    rw [String.toList_append, frames_append, hb, frames_skipLf, hs]

end MediaMonitor.Sse.Parser
