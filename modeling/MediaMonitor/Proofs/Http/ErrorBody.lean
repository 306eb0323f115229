import MediaMonitor.Http.Backend
import MediaMonitor.Proofs.Json.Prefix
import MediaMonitor.Proofs.Text.Blank

/-!
# The bodies of errors

The body of an error that is streamed is read chunk by chunk until 4096 octets are there
(`HttpBackend.ReadUpTo`); what is behind them is not looked at.  A body of no more octets is
therefore read as a whole, wherever its chunks end, and it gives the error that it gives when it is
buffered.  Of a longer body the first 4096 octets stand for the rest anyway, unless the body is a
note: a note that goes on behind the part that is read is lost (`HttpBackend.NoteLost`), and a note
that ends in it is taken although more than white space follows (`HttpBackend.NoteMadeUp`).  These
are the only differences (`HttpBackend.interpret_bulkDelete_failed`).
-/

namespace MediaMonitor

namespace ErrorNote

theorem isContainer_of_text? {j : Json} {text : String} (h : text? j = some text) :
    Json.IsContainer j := by
  cases j with
  | array | object => trivial
  | _ => cases h

end ErrorNote

namespace HttpBackend

/-! ### Chunks -/

theorem octetsOf_chunks (chunks : List (List UInt8)) :
    octetsOf (chunks.map .ok) = chunks.flatten := by
  induction chunks with
  | nil => rfl
  | cons bs rest ih => rw [List.map_cons, octetsOf, ih, List.flatten_cons]

/-- So many chunks of the body of an error are read, when it already has `size` octets: one after
another until they are enough. -/
structure ReadUpTo (size : Nat) (chunks : List (List UInt8)) (n : Nat) : Prop where
  short : ∀ k < n, size + (chunks.take k).flatten.length < maxErrorBody
  enough : (chunks.drop n).flatten ≠ [] → maxErrorBody ≤ size + (chunks.take n).flatten.length

theorem readUpTo_errorItems {size : Nat} (hsize : size < maxErrorBody)
    (chunks : List (List UInt8)) : ReadUpTo size chunks (errorItems size (chunks.map .ok)) := by
  induction chunks generalizing size with
  | nil => exact ⟨nofun, fun h => absurd rfl h⟩
  | cons bs rest ih =>
      rw [List.map_cons, errorItems]
      split
      case isTrue hlong =>
        refine ⟨fun k hk => ?_, fun _ => by simpa using hlong⟩
        rwa [Nat.lt_one_iff.mp hk]
      case isFalse hshort =>
        obtain ⟨hless, henough⟩ := ih (Nat.lt_of_not_le hshort)
        rw [Nat.add_comm 1]
        refine ⟨fun k hk => ?_, fun hbehind => ?_⟩
        · cases k with
          | zero => exact hsize
          | succ k =>
              have hless := hless k (Nat.lt_of_succ_lt_succ hk)
              rw [List.take_succ_cons, List.flatten_cons, List.length_append]
              omega
        · have henough := henough hbehind
          rw [List.take_succ_cons, List.flatten_cons, List.length_append]
          omega

theorem errorBody_chunks (chunks : List (List UInt8)) :
    errorBody (chunks.map .ok) = (chunks.take (errorItems 0 (chunks.map .ok))).flatten := by
  rw [errorBody, ← List.map_take, octetsOf_chunks]

/-- Nothing is read behind a chunk that is long enough. -/
theorem errorBody_of_long {bs : List UInt8} (h : maxErrorBody ≤ bs.length) (rest : List BodyItem) :
    errorBody (.ok bs :: rest) = bs := by
  rw [errorBody, errorItems, if_pos (by rwa [Nat.zero_add]), List.take_succ_cons, octetsOf]
  exact List.append_nil bs

/-! ### Messages -/

/-- The text of the note that a body is, if it is one and has one. -/
def noteText? (body : List UInt8) : Option String := (Json.ofOctets? body).bind ErrorNote.text?

/-- The message of the error with a body. -/
def errorMessage (status : UInt16) (body : List UInt8) : String :=
  (noteText? body).getD (plainErrorText status body)

/-- A note in front of more octets is a note still, if they are white space, and none otherwise. -/
theorem noteText?_append {part : List UInt8} {text : String} (h : noteText? part = some text)
    (behind : List UInt8) :
    noteText? (part ++ behind) =
      if Json.skipSpace (Utf8.decode behind) = [] then some text else none := by
  obtain ⟨j, hread, htext⟩ := Option.bind_eq_some_iff.mp h
  rw [noteText?, Json.ofOctets?_append (ErrorNote.isContainer_of_text? htext) hread]
  split
  · exact htext
  · rfl

theorem plainErrorText_append {part : List UInt8} (h : maxErrorBody ≤ part.length)
    (status : UInt16) (behind : List UInt8) :
    plainErrorText status (part ++ behind) = plainErrorText status part := by
  rw [plainErrorText, List.take_append_of_le_length h, plainErrorText]

/-- The body is a note with a text that is not how it begins, but the part of it is none. -/
def NoteLost (status : UInt16) (part behind : List UInt8) : Prop :=
  noteText? part = none ∧
    ∃ text, noteText? (part ++ behind) = some text ∧ text ≠ plainErrorText status part

/-- The part is a note with a text that is not how it begins, but more than white space follows. -/
def NoteMadeUp (status : UInt16) (part behind : List UInt8) : Prop :=
  Json.skipSpace (Utf8.decode behind) ≠ [] ∧
    ∃ text, noteText? part = some text ∧ text ≠ plainErrorText status part

/-- The message of a part that is long enough is that of the body, unless a note is lost or made
up. -/
theorem errorMessage_append_iff {part : List UInt8} (h : maxErrorBody ≤ part.length)
    (status : UInt16) (behind : List UInt8) :
    errorMessage status part = errorMessage status (part ++ behind) ↔
      ¬ NoteLost status part behind ∧ ¬ NoteMadeUp status part behind := by
  have hplain := plainErrorText_append h status behind
  cases hpart : noteText? part with
  | none =>
      cases hwhole : noteText? (part ++ behind) with
      | none => simp [errorMessage, NoteLost, NoteMadeUp, hpart, hwhole, hplain]
      | some text =>
          simp only [errorMessage, NoteLost, NoteMadeUp, hpart, hwhole, Option.getD_none,
            Option.getD_some, Option.some.injEq, exists_eq_left', true_and, reduceCtorEq,
            false_and, exists_false, and_false, not_false_eq_true, and_true, Ne, not_not]
          exact eq_comm
  | some text =>
      have hwhole := noteText?_append hpart behind
      by_cases hspace : Json.skipSpace (Utf8.decode behind) = [] <;>
        simp [errorMessage, NoteLost, NoteMadeUp, hpart, hwhole, hplain, hspace]

theorem not_noteLost_nil (status : UInt16) (part : List UInt8) : ¬ NoteLost status part [] := by
  rintro ⟨hnone, text, hsome, -⟩
  rw [List.append_nil, hnone] at hsome
  cases hsome

theorem not_noteMadeUp_nil (status : UInt16) (part : List UInt8) :
    ¬ NoteMadeUp status part [] := fun h => h.1 rfl

theorem streamed_of_not_isSuccess {r : Http.StreamResponse}
    (h : Http.isSuccess r.status = false) :
    streamed (.ok r) = .error (.api r.status (errorMessage r.status (errorBody r.body.items))) := by
  simp only [streamed, h]
  rfl

theorem check_of_not_isSuccess {r : Http.Response} (h : Http.isSuccess r.status = false) :
    check r = .error (.api r.status (errorMessage r.status r.body)) := by
  simp only [check, h]
  rfl

/-! ### A long note -/

/-- A note with a detail. -/
def forbidden (detail : String) : Json :=
  .object [("error", .string "forbidden"), ("detail", .string detail)]

theorem noteText?_forbidden (detail : String) :
    noteText? (Utf8.ofText (forbidden detail).write) = some "forbidden" := by
  have hlegible : (forbidden detail).Legible :=
    Json.legible_object (by simp [Json.legible_string])
  rw [noteText?, Json.ofOctets?_write hlegible]
  rfl

theorem writeChars_forbidden (detail : String) :
    Json.writeChars (forbidden detail) =
      "\x7b\"error\":\"forbidden\",\"detail\":\"".toList ++
        (detail.toList.flatMap Json.writeChar ++ "\"\x7d".toList) := by
  have herror : Json.writeString "error" = "\"error\"".toList := by decide
  have hforbidden : Json.writeString "forbidden" = "\"forbidden\"".toList := by decide
  have hdetail : Json.writeString "detail" = "\"detail\"".toList := by decide
  simp only [forbidden, Json.writeChars, Json.writeMembers, herror, hforbidden, hdetail]
  simp only [Json.writeString, List.append_assoc, List.cons_append]
  rfl

/-- A note up to the end of its detail of 4096 letters. -/
def openNote : List UInt8 :=
  Utf8.ofText "\x7b\"error\":\"forbidden\",\"detail\":\"" ++ List.replicate maxErrorBody 0x61

/-- What closes a note behind its detail. -/
def noteEnd : List UInt8 := Utf8.ofText "\"\x7d"

theorem flatMap_replicate_of_singleton {α β : Type} {f : α → List β} {a : α} {b : β}
    (h : f a = [b]) (n : Nat) : (List.replicate n a).flatMap f = List.replicate n b := by
  rw [List.flatMap_replicate, h, List.flatten_replicate_singleton]

theorem ofText_forbidden :
    Utf8.ofText (forbidden (String.ofList (List.replicate maxErrorBody 'a'))).write =
      openNote ++ noteEnd := by
  have hdetail : (String.ofList (List.replicate maxErrorBody 'a')).toList.flatMap Json.writeChar =
      List.replicate maxErrorBody 'a' := by
    rw [String.toList_ofList]
    exact flatMap_replicate_of_singleton (by decide) _
  have hletters : (List.replicate maxErrorBody 'a').flatMap String.utf8EncodeChar =
      List.replicate maxErrorBody 0x61 := flatMap_replicate_of_singleton (by decide) _
  rw [Json.write, writeChars_forbidden, hdetail, Utf8.ofText, String.toList_ofList,
    List.flatMap_append, List.flatMap_append, hletters, ← List.append_assoc]
  rfl

theorem noteText?_long : noteText? (openNote ++ noteEnd) = some "forbidden" := by
  rw [← ofText_forbidden]
  exact noteText?_forbidden _

/-- Without its end the note is none: the end is not white space. -/
theorem noteText?_openNote : noteText? openNote = none := by
  by_contra h
  obtain ⟨text, htext⟩ := Option.ne_none_iff_exists'.mp h
  have hwhole := noteText?_append htext noteEnd
  rw [noteText?_long, if_neg (by decide)] at hwhole
  cases hwhole

theorem maxErrorBody_le_openNote : maxErrorBody ≤ openNote.length := by
  rw [openNote, List.length_append, List.length_replicate]
  exact Nat.le_add_left ..

theorem head?_plainErrorText_brace (status : UInt16) (body : List UInt8) :
    (plainErrorText status (0x7B :: body)).toList.head? = some '\x7b' := by
  have hraw : (Text.trim (Utf8.toTextLossy ((0x7B :: body).take maxErrorBody))).toList.head? =
      some '\x7b' := by
    have hdecode : Utf8.decode ((0x7B :: body).take maxErrorBody) =
        some '\x7b' :: Utf8.decode (body.take (maxErrorBody - 1)) := rfl
    rw [Text.trim, Utf8.toTextLossy, hdecode, String.toList_ofList, String.toList_ofList]
    exact Text.head?_trimChars (by decide) _
  simp only [plainErrorText]
  split
  case isTrue hempty => rw [hempty] at hraw; cases hraw
  case isFalse => exact hraw

/-- The beginning of the note is not its text. -/
theorem plainErrorText_openNote (status : UInt16) :
    plainErrorText status openNote ≠ "forbidden" := by
  intro h
  have hhead := head?_plainErrorText_brace status openNote.tail
  rw [show 0x7B :: openNote.tail = openNote from rfl, h] at hhead
  cases hhead

/-- **A batch deletion that is refused** gives an error with the status, whose message is that of
the chunks which are read of the body.  It is the error of the same response when it is buffered if
and only if no note is lost or made up where the reading ends; a body that is not too long is read
to its end, wherever its chunks end. -/
theorem interpret_bulkDelete_failed (ruleId : Int64) (ids : List Int64) {status : UInt16}
    (hstatus : Http.isSuccess status = false) (chunks : List (List UInt8)) :
    let whole := chunks.flatten
    ∃ n, ReadUpTo 0 chunks n ∧
      let part := (chunks.take n).flatten
      let behind := (chunks.drop n).flatten
      interpret (.bulkDelete ruleId ids) (.ok ⟨status, { items := chunks.map .ok }⟩) =
          .error (.api status (errorMessage status part)) ∧
        check ⟨status, whole⟩ = .error (.api status (errorMessage status whole)) ∧
        (errorMessage status part = errorMessage status whole ↔
          ¬ NoteLost status part behind ∧ ¬ NoteMadeUp status part behind) ∧
        (whole.length ≤ maxErrorBody → part = whole) := by
  intro whole
  have hread := readUpTo_errorItems (show 0 < maxErrorBody by decide) chunks
  refine ⟨_, hread, ?_⟩
  intro part behind
  have hwhole : part ++ behind = whole := by
    rw [← List.flatten_append, List.take_append_drop]
  have hall (h : behind = []) : part = whole := by
    rw [← hwhole, h, List.append_nil]
  have hlong (h : behind ≠ []) : maxErrorBody ≤ part.length := by
    have henough := hread.enough h
    rwa [Nat.zero_add] at henough
  refine ⟨?_, check_of_not_isSuccess hstatus, ?_, fun hlength => hall ?_⟩
  · rw [interpret, streamed_of_not_isSuccess hstatus, errorBody_chunks]
  · by_cases h : behind = []
    · simp [hall h, h, not_noteLost_nil, not_noteMadeUp_nil]
    · rw [← errorMessage_append_iff (hlong h), hwhole]
  · by_contra h
    have hlong := hlong h
    have hbehind := List.length_pos_iff.mpr h
    rw [← hwhole, List.length_append] at hlength
    omega

/-- A short note is read, though a chunk ends inside it. -/
theorem note_in_two_chunks :
    let chunks := [Utf8.ofText "\x7b\"error\":", Utf8.ofText "\"forbidden\"\x7d"]
    Http.isSuccess 403 = false ∧ chunks.flatten.length ≤ maxErrorBody ∧
      interpret (.bulkDelete 5 [1]) (.ok ⟨403, { items := chunks.map .ok }⟩) =
        .error (.api 403 "forbidden") := by
  intro chunks
  have hlength : chunks.flatten.length ≤ maxErrorBody := by decide
  obtain ⟨n, -, hstreamed, -, -, hall⟩ :=
    interpret_bulkDelete_failed 5 [1] (show Http.isSuccess 403 = false by decide) chunks
  have hnote : errorMessage 403 chunks.flatten = "forbidden" := by decide
  refine ⟨by decide, hlength, hstreamed.trans ?_⟩
  rw [hall hlength, hnote]

/-- A long note is lost when its last chunk is not read, though it is read when it comes in one
chunk, and when it is buffered. -/
theorem note_in_unread_chunk :
    let chunks := [openNote, noteEnd]
    Http.isSuccess 403 = false ∧
      check ⟨403, chunks.flatten⟩ = .error (.api 403 "forbidden") ∧
      interpret (.bulkDelete 5 [1]) (.ok ⟨403, { items := [.ok chunks.flatten] }⟩) =
        .error (.api 403 "forbidden") ∧
      interpret (.bulkDelete 5 [1]) (.ok ⟨403, { items := chunks.map .ok }⟩) ≠
        .error (.api 403 "forbidden") := by
  intro chunks
  have hstatus : Http.isSuccess 403 = false := by decide
  have hwhole : chunks.flatten = openNote ++ noteEnd := rfl
  have hmessage : errorMessage 403 chunks.flatten = "forbidden" := by
    rw [errorMessage, hwhole, noteText?_long, Option.getD_some]
  have hlong := maxErrorBody_le_openNote
  have hone : errorBody [.ok chunks.flatten] = chunks.flatten :=
    errorBody_of_long (by rw [hwhole, List.length_append]; omega) _
  have htwo : errorBody (chunks.map .ok) = openNote := errorBody_of_long hlong _
  refine ⟨hstatus, ?_, ?_, ?_⟩
  · rw [check_of_not_isSuccess hstatus, hmessage]
  · rw [interpret, streamed_of_not_isSuccess hstatus, hone, hmessage]
  · rw [interpret, streamed_of_not_isSuccess hstatus, htwo, errorMessage, noteText?_openNote,
      Option.getD_none]
    intro h
    injection h with h
    injection h with _ h
    exact plainErrorText_openNote 403 h

end HttpBackend

end MediaMonitor
