import Mathlib.Data.List.TakeWhile
import MediaMonitor.Proofs.Sse.Parser

/-!
# The blocks of an event stream

What the frames of a text are, without a parser.  The text is cut into lines (`linesOf`), the lines
between two blank ones make a block (`blocksOf`), and a block gives values to fields, from which its
frame is made (`Block.frame?`).  `framesOf` is the three of them in a row.

* `Parser.frames_of_gathered`: a parser that is inside a line, inside a block, hands out the frames
  of the lines ahead, the first of which it has begun, with that block still open.
* `Parser.frames_of_chunks`: the frames that a parser hands out chunk by chunk, and at the end, are
  those of the whole text.
-/

namespace MediaMonitor.Sse

/-! ### Lines -/

/-- A text in which every line ends in a line feed alone, be it ended by a carriage return, a line
feed or the two together. -/
def withLineFeeds : List Char → List Char
  | '\r' :: '\n' :: cs => '\n' :: withLineFeeds cs
  | '\r' :: cs => '\n' :: withLineFeeds cs
  | c :: cs => c :: withLineFeeds cs
  | [] => []

/-- Without a blank line at the end. -/
def dropBlankEnd (lines : List (List Char)) : List (List Char) :=
  if lines.getLast? = some [] then lines.dropLast else lines

/-- The lines of a text; what no end of a line follows is the last one, unless it is empty. -/
def linesOf (cs : List Char) : List (List Char) := dropBlankEnd ((withLineFeeds cs).splitOn '\n')

/-! ### Blocks -/

/-- The lines between two blank ones. -/
abbrev Block := List (List Char)

/-- The blocks of some lines. -/
def blocksOf (lines : List (List Char)) : List Block := lines.splitOn []

namespace Block

/-- The field and the value that a line gives: what is before and behind its first colon, without
one space in front of the value.  A line without a colon is a field with an empty value, and a line
that starts with one is a comment. -/
def field? (line : List Char) : Option (String × String) :=
  if line.head? = some ':' then none
  else
    let value := (line.dropWhile (· ≠ ':')).drop 1
    some (String.ofList (line.takeWhile (· ≠ ':')),
      String.ofList (if value.head? = some ' ' then value.tail else value))

/-- The values that the lines give to a field, in their order. -/
def values (b : Block) (name : String) : List String :=
  (b.filterMap field?).filterMap fun field => if field.1 = name then some field.2 else none

/-- What a block amounts to: the last event, the last id, and all data. -/
def frame (b : Block) : Frame where
  event := (b.values "event").getLast?
  id := (b.values "id").getLast?
  data := "\n".intercalate (b.values "data")

/-- The frame of a block, unless it has no event, no id and no data. -/
def frame? (b : Block) : Option Frame :=
  if b.frame.event = none ∧ b.frame.id = none ∧ b.frame.data = "" then none else some b.frame

end Block

/-- The frames of a text. -/
def framesOf (text : String) : List Frame := (blocksOf (linesOf text.toList)).filterMap Block.frame?

/-! ### Cutting lines and blocks from the front -/

/-- Without a line feed in front. -/
def dropLineFeed : List Char → List Char
  | '\n' :: cs => cs
  | cs => cs

theorem dropLineFeed_of_ne {c : Char} (h : c ≠ '\n') (cs : List Char) :
    dropLineFeed (c :: cs) = c :: cs := by
  unfold dropLineFeed
  split
  · rename_i he; cases he; exact absurd rfl h
  · rfl

theorem withLineFeeds_return (cs : List Char) :
    withLineFeeds ('\r' :: cs) = '\n' :: withLineFeeds (dropLineFeed cs) := by
  unfold dropLineFeed
  split
  · rw [withLineFeeds]
  · rename_i h
    rw [withLineFeeds]
    exact h

theorem withLineFeeds_of_ne {c : Char} (h : c ≠ '\r') (cs : List Char) :
    withLineFeeds (c :: cs) = c :: withLineFeeds cs := by
  rw [withLineFeeds]
  · exact fun _ hc => absurd hc h
  · exact h

theorem dropBlankEnd_cons (line : List Char) {lines : List (List Char)} (h : lines ≠ []) :
    dropBlankEnd (line :: lines) = line :: dropBlankEnd lines := by
  obtain ⟨next, rest, rfl⟩ := List.exists_cons_of_ne_nil h
  unfold dropBlankEnd
  rw [List.getLast?_cons_cons]
  split <;> rfl

theorem modifyHead_nil_append {α : Type} (parts : List (List α)) :
    parts.modifyHead ([] ++ ·) = parts :=
  congrFun List.modifyHead_id parts

/-- The frames of some lines, the first of which belong to a block that is open. -/
def framesFrom (b : Block) (lines : List (List Char)) : List Frame :=
  ((blocksOf lines).modifyHead (b ++ ·)).filterMap Block.frame?

theorem filterMap_frame?_cons (b : Block) (bs : List Block) :
    (b :: bs).filterMap Block.frame? = b.frame?.toList ++ bs.filterMap Block.frame? := by
  rw [List.filterMap_cons]
  cases b.frame? <;> rfl

theorem framesFrom_nil (b : Block) : framesFrom b [] = b.frame?.toList := by
  rw [framesFrom, blocksOf, List.splitOn_nil, List.modifyHead_cons, filterMap_frame?_cons]
  simp

/-- A blank line closes the block. -/
theorem framesFrom_blank (b : Block) (lines : List (List Char)) :
    framesFrom b ([] :: lines) = b.frame?.toList ++ framesFrom [] lines := by
  rw [framesFrom, blocksOf, List.splitOn_cons_eq_if_modifyHead, if_pos (BEq.refl _),
    List.modifyHead_cons, filterMap_frame?_cons, List.append_nil, framesFrom,
    modifyHead_nil_append, blocksOf]

/-- Any other line belongs to the block. -/
theorem framesFrom_line (b : Block) {line : List Char} (h : line ≠ []) (lines : List (List Char)) :
    framesFrom b (line :: lines) = framesFrom (b ++ [line]) lines := by
  rw [framesFrom, blocksOf, List.splitOn_cons_eq_if_modifyHead, if_neg (by simpa using h),
    List.modifyHead_modifyHead, framesFrom, blocksOf]
  simp [Function.comp_def]

/-! ### Fields -/

theorem dropSpace_eq (cs : List Char) :
    dropSpace cs = if cs.head? = some ' ' then cs.tail else cs := by
  unfold dropSpace
  split
  · rfl
  · rename_i h
    rw [if_neg]
    intro hs
    obtain ⟨rest, rfl⟩ := List.head?_eq_some_iff.mp hs
    exact h rest rfl

/-- The parser reads the field and the value of a line as they are cut at its first colon. -/
theorem fieldOf_eq (line : List Char) : fieldOf line = Block.field? line := by
  cases line with
  | nil => rfl
  | cons d rest =>
      unfold fieldOf Block.field?
      rw [Text.splitFirst_eq]
      by_cases hd : d = ':'
      · simp [hd]
      have hhead : ¬ (d :: rest).head? = some ':' := by simpa using hd
      have htake : (d :: rest).takeWhile (· ≠ ':') = d :: rest.takeWhile (· ≠ ':') :=
        List.takeWhile_cons_of_pos (by simpa using hd)
      rw [if_neg hhead, htake]
      by_cases hc : ':' ∈ d :: rest
      · rw [if_pos hc]
        simp only [dropSpace_eq]
      · have hall : ∀ c ∈ rest, decide (c ≠ ':') = true := fun c h =>
          decide_eq_true fun he => hc (he ▸ List.mem_cons_of_mem d h)
        have hdrop : (d :: rest).dropWhile (· ≠ ':') = [] := by
          rw [List.dropWhile_cons_of_pos (by simpa using hd)]
          exact List.dropWhile_eq_nil_iff.mpr hall
        rw [if_neg hc, hdrop, List.takeWhile_eq_self_iff.mpr hall]
        rfl

/-- One more line gives one more value, to its own field. -/
theorem Block.values_concat (b : Block) (line : List Char) (name : String) :
    (b ++ [line]).values name = b.values name ++ (fieldOf line).toList.filterMap
      fun field => if field.1 = name then some field.2 else none := by
  simp only [Block.values, List.filterMap_append, List.filterMap_cons, List.filterMap_nil,
    fieldOf_eq]
  cases Block.field? line <;> rfl

theorem intercalate_concat (sep : String) (xs : List String) (x : String) :
    sep.intercalate (xs ++ [x]) = if xs = [] then x else sep.intercalate xs ++ sep ++ x := by
  split
  · rename_i h; subst h; exact String.intercalate_singleton
  · rename_i h; rw [String.intercalate_append_of_ne_nil h (by simp), String.intercalate_singleton]

namespace Parser

/-! ### A parser inside a block -/

/-- The parser has taken the lines of a block, and none of them has closed it. -/
structure Gathered (b : Block) (p : Parser) : Prop where
  frame : p.frame = b.frame
  hasData : p.hasData = decide (b.values "data" ≠ [])

theorem gathered_nil {p : Parser} (h : p.frame = {}) (hd : p.hasData = false) : Gathered [] p :=
  ⟨h, hd⟩

section
variable {b : Block} {p : Parser}

/-- The characters of the line at work do not matter. -/
theorem Gathered.congr (h : Gathered b p) {q : Parser} (hf : q.frame = p.frame)
    (hd : q.hasData = p.hasData) : Gathered b q :=
  ⟨hf.trans h.frame, hd.trans h.hasData⟩

theorem Gathered.gather (h : Gathered b p) {line : List Char} {field : String × String}
    (hf : fieldOf line = some field) : Gathered (b ++ [line]) (p.gather field) := by
  obtain ⟨name, value⟩ := field
  have hvalues := Block.values_concat b line
  simp only [hf, Option.toList_some, List.filterMap_cons, List.filterMap_nil] at hvalues
  unfold Parser.gather
  split
  case h_1 heq | h_2 heq =>
    cases heq
    constructor
    · simp [Block.frame, hvalues, h.frame]
    · simp [hvalues, h.hasData]
  case h_3 heq =>
    cases heq
    constructor
    · by_cases hd : b.values "data" = []
      · simp [Block.frame, hvalues, h.frame, h.hasData, hd]
      · simp [Block.frame, hvalues, h.frame, h.hasData, hd, intercalate_concat]
    · simp [hvalues]
  case h_4 hevent hid hdata =>
    have hevent : name ≠ "event" := fun he => hevent value (by rw [he])
    have hid : name ≠ "id" := fun he => hid value (by rw [he])
    have hdata : name ≠ "data" := fun he => hdata value (by rw [he])
    constructor
    · simp [Block.frame, hvalues, h.frame, hevent, hid, hdata]
    · simp [hvalues, h.hasData, hdata]

theorem Gathered.takeLine (h : Gathered b p) (line : List Char) :
    Gathered (b ++ [line]) (p.takeLine line) := by
  unfold Parser.takeLine
  cases hf : fieldOf line with
  | some field => exact h.gather hf
  | none =>
      have hvalues : ∀ name, (b ++ [line]).values name = b.values name := fun name => by
        rw [Block.values_concat, hf]; exact List.append_nil _
      refine ⟨h.frame.trans ?_, h.hasData.trans ?_⟩
      · simp only [Block.frame, hvalues]
      · rw [hvalues]

/-- What is handed out is the frame of the block. -/
theorem Gathered.dispatch (h : Gathered b p) : p.dispatch.1 = b.frame? := by
  unfold Parser.dispatch Block.frame?
  rw [h.frame]
  generalize b.frame = f
  obtain ⟨event, id, data⟩ := f
  simp

/-- The end of a line closes the block or adds the line to it. -/
theorem Gathered.endLine (h : Gathered b p) :
    ∃ b', Gathered b' p.endLine.2 ∧ ∀ lines,
      framesFrom b (p.lineRev.reverse :: lines) = p.endLine.1.toList ++ framesFrom b' lines := by
  have hq : Gathered b { p with lineRev := [] } := h.congr rfl rfl
  unfold Parser.endLine
  by_cases hl : p.lineRev = []
  · refine ⟨[], ?_, fun lines => ?_⟩
    · rw [if_pos hl]; exact gathered_nil rfl rfl
    · rw [if_pos hl, hq.dispatch, hl, List.reverse_nil, framesFrom_blank]
  · refine ⟨b ++ [p.lineRev.reverse], ?_, fun lines => ?_⟩
    · rw [if_neg hl]; exact hq.takeLine _
    · rw [if_neg hl, framesFrom_line _ (by simpa using hl)]; rfl

/-! ### The lines ahead -/

/-- The text ahead, without the line feed that belongs to the character before it. -/
def unread (p : Parser) (cs : List Char) : List Char :=
  withLineFeeds (if p.skipLf then dropLineFeed cs else cs)

theorem unread_of_skipLf (h : p.skipLf = true) (cs : List Char) :
    p.unread cs = withLineFeeds (dropLineFeed cs) := by
  rw [unread, if_pos h]

theorem unread_of_not_skipLf (h : p.skipLf = false) (cs : List Char) :
    p.unread cs = withLineFeeds cs := by
  rw [unread, if_neg (by simp [h])]

theorem unread_of_ne {c : Char} (h : c ≠ '\n') (p : Parser) (cs : List Char) :
    p.unread (c :: cs) = withLineFeeds (c :: cs) := by
  rw [unread, dropLineFeed_of_ne h, ite_self]

/-- The lines of the text ahead, the first of which the parser has begun. -/
def linesAhead (p : Parser) (cs : List Char) : List (List Char) :=
  dropBlankEnd (((p.unread cs).splitOn '\n').modifyHead (p.lineRev.reverse ++ ·))

theorem linesAhead_nil (p : Parser) :
    p.linesAhead [] = if p.lineRev = [] then [] else [p.lineRev.reverse] := by
  have hunread : p.unread [] = [] := by
    unfold unread; split <;> rfl
  rw [linesAhead, hunread, List.splitOn_nil, List.modifyHead_cons, List.append_nil, dropBlankEnd]
  by_cases h : p.lineRev = []
  · rw [if_pos h, h]; rfl
  · rw [if_neg h, if_neg (by simpa using h)]

/-- A character that ends the line. -/
theorem linesAhead_end {q : Parser} {c : Char} {cs : List Char}
    (h : p.unread (c :: cs) = '\n' :: q.unread cs) (hq : q.lineRev = []) :
    p.linesAhead (c :: cs) = p.lineRev.reverse :: q.linesAhead cs := by
  rw [linesAhead, h, List.splitOn_cons_eq_if_modifyHead, if_pos (BEq.refl _), List.modifyHead_cons,
    List.append_nil, dropBlankEnd_cons _ (List.splitOn_ne_nil _ _), linesAhead, hq,
    List.reverse_nil, modifyHead_nil_append]

/-- A character of the line. -/
theorem linesAhead_more {q : Parser} {c : Char} {cs : List Char} (hc : c ≠ '\n')
    (h : p.unread (c :: cs) = c :: q.unread cs) (hq : q.lineRev = c :: p.lineRev) :
    p.linesAhead (c :: cs) = q.linesAhead cs := by
  rw [linesAhead, h, List.splitOn_cons_eq_if_modifyHead, if_neg (by simpa using hc),
    List.modifyHead_modifyHead, linesAhead, hq, List.reverse_cons]
  simp [Function.comp_def]

/-- **A parser inside a block hands out the frames of the lines ahead.** -/
theorem frames_of_gathered (h : Gathered b p) (cs : List Char) :
    p.frames cs = framesFrom b (p.linesAhead cs) := by
  -- by induction on the text: a character ends the line, is skipped, or belongs to the line
  induction cs generalizing p b with
  | nil =>
      rw [frames_nil, linesAhead_nil]
      by_cases hl : p.lineRev = []
      · rw [finish_blank hl, h.dispatch, if_pos hl, framesFrom_nil]
      · have hq : Gathered b { p with lineRev := [] } := h.congr rfl rfl
        rw [finish_line hl, (hq.takeLine _).dispatch, if_neg hl,
          framesFrom_line _ (by simpa using hl), framesFrom_nil]
  | cons c cs ih =>
      have hend : ∀ q : Parser, p.step c = (p.endLine.1, q) →
          q.lineRev = p.endLine.2.lineRev → q.frame = p.endLine.2.frame →
          q.hasData = p.endLine.2.hasData → p.unread (c :: cs) = '\n' :: q.unread cs →
          p.frames (c :: cs) = framesFrom b (p.linesAhead (c :: cs)) := by
        intro q hstep hline hframe hdata hunread
        obtain ⟨b', hb', hframes⟩ := h.endLine
        rw [frames_cons, hstep, linesAhead_end hunread (hline.trans (lineRev_endLine p)), hframes,
          ← ih (hb'.congr hframe hdata)]
      rcases eq_or_ne c '\r' with rfl | hr
      · refine hend _ (step_return p) rfl rfl rfl ?_
        rw [unread_of_ne (by decide), withLineFeeds_return]
        rfl
      rcases eq_or_ne c '\n' with rfl | hn
      · cases hs : p.skipLf with
        | true =>
            have hq : Gathered b { p with skipLf := false } := h.congr rfl rfl
            have hunread : p.unread ('\n' :: cs) = withLineFeeds cs := unread_of_skipLf hs _
            rw [frames_cons, step_skipped hs]
            refine (ih hq).trans (congrArg (framesFrom b) ?_)
            rw [linesAhead, linesAhead, hunread]
            rfl
        | false =>
            refine hend _ (step_lineFeed hs) rfl rfl rfl ?_
            rw [unread_of_not_skipLf hs, withLineFeeds_of_ne hr]
            rfl
      · have hq : Gathered b { p with lineRev := c :: p.lineRev, skipLf := false } :=
          h.congr rfl rfl
        rw [frames_cons, step_char hn hr]
        refine (ih hq).trans (congrArg (framesFrom b) (linesAhead_more hn ?_ rfl).symm)
        rw [unread_of_ne hn, withLineFeeds_of_ne hr]
        rfl

end

theorem frames_eq (text : String) : ({} : Parser).frames text.toList = framesOf text := by
  have hlines : ({} : Parser).linesAhead text.toList = linesOf text.toList :=
    congrArg dropBlankEnd (modifyHead_nil_append _)
  rw [frames_of_gathered (gathered_nil rfl rfl), hlines, framesFrom, modifyHead_nil_append,
    framesOf]

/-! ### Chunks -/

/-- Takes chunks one after another: their frames, and the parser after them. -/
def pushAll (p : Parser) : List (List Char) → List Frame × Parser
  | [] => ([], p)
  | cs :: rest =>
      let r := p.push cs
      let s := r.2.pushAll rest
      (r.1 ++ s.1, s.2)

theorem pushAll_eq (p : Parser) (chunks : List (List Char)) :
    p.pushAll chunks = p.push chunks.flatten := by
  induction chunks generalizing p with
  | nil => rfl
  | cons cs rest ih => rw [pushAll, ih, List.flatten_cons, push_append]

/-- **A text that arrives in chunks has the frames of its blocks**, wherever the chunks end. -/
theorem frames_of_chunks (chunks : List String) :
    (({} : Parser).pushAll (chunks.map String.toList)).1 ++
        (({} : Parser).pushAll (chunks.map String.toList)).2.finish.1.toList =
      framesOf (String.join chunks) := by
  have htext : (chunks.map String.toList).flatten = (String.join chunks).toList := by
    rw [String.toList_join, List.flatMap]
  rw [pushAll_eq]
  calc ({} : Parser).frames (chunks.map String.toList).flatten
    _ = ({} : Parser).frames (String.join chunks).toList := by rw [htext]
    _ = framesOf (String.join chunks) := frames_eq _

example : framesOf "event: a\r\nevent: b\r:note\ndata\ndata:  x:y\n\r\n\ndata\n\nid:5" =
    [{ event := some "b", data := "\n x:y" }, { id := some "5" }] := by decide

end Parser

end MediaMonitor.Sse
