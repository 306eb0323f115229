import Mathlib.Data.List.Forall2
import MediaMonitor.Json.Reader
import MediaMonitor.Json.Writer
import MediaMonitor.Proofs.Text.Integer
import MediaMonitor.Proofs.Text.Utf8
import MediaMonitor.Proofs.Traversal

/-!
# Written values are read back

A value is `Legible` when it is read from its text however the text goes on, up to what would make a
number longer.  Integers and strings are, and so are arrays and objects of what is; a number that is
no integer is not, for it is written as the double it is read as.  What is legible is the value of
its text (`ofText?_write`) and of the octets of it (`ofOctets?_write`).
-/

namespace MediaMonitor.Json

/-! ### Strings -/

theorem pieces_plain {c : Char} (hquote : c ≠ '"') (hescape : c ≠ '\\')
    (hcontrol : ¬ c.toNat < 0x20) (rest : Input) :
    pieces (some c :: rest) = (pieces rest).map (fun r => (.char c :: r.1, r.2)) := by
  rw [pieces.eq_def]
  split
  case h_5 heq => cases heq; exact if_neg hcontrol
  all_goals simp_all

theorem pieces_escaped {c e : Char} (hu : e ≠ 'u') (he : escaped? e = some c) (rest : Input) :
    pieces (some '\\' :: some e :: rest) = (pieces rest).map (fun r => (.char c :: r.1, r.2)) := by
  rw [pieces.eq_def]
  cases hrest : pieces rest <;> simp [hu, he, hrest]

theorem pieces_control {c : Char} (hcontrol : c.toNat < 0x20) (rest : Input) :
    pieces (['\\', 'u', '0', '0', hexDigit (c.toNat / 16), hexDigit (c.toNat % 16)].map some ++
      rest) = (pieces rest).map (fun r => (.char c :: r.1, r.2)) := by
  have hunit :
      unit? '0' '0' (hexDigit (c.toNat / 16)) (hexDigit (c.toNat % 16)) = some c.toNat := by
    have hhigh := Text.hexValue?_digitChar (c.toNat / 16) (by omega)
    have hlow := Text.hexValue?_digitChar (c.toNat % 16) (by omega)
    have hzero := Text.hexValue?_digitChar 0 (by omega)
    rw [unit?, hexDigit, hexDigit, hhigh, hlow, show '0' = Nat.digitChar 0 from rfl, hzero]
    simp
    omega
  have hpiece : pieceOfUnit c.toNat = .char c := by
    rw [pieceOfUnit, if_neg (by omega), Char.ofNat_toNat]
  rw [pieces.eq_def]
  cases hrest : pieces rest <;> simp [hunit, hpiece, hrest]

/-- A character is a part of the string in which it is written. -/
theorem pieces_writeChar (c : Char) (rest : Input) :
    pieces ((writeChar c).map some ++ rest) =
      (pieces rest).map (fun r => (.char c :: r.1, r.2)) := by
  rw [writeChar]
  split_ifs with hquote hescape h8 h9 h10 h12 h13 hcontrol
  · exact pieces_escaped (by decide) (by rw [hquote]; rfl) rest
  · exact pieces_escaped (by decide) (by rw [hescape]; rfl) rest
  · exact pieces_escaped (by decide) (by rw [h8]; rfl) rest
  · exact pieces_escaped (by decide) (by rw [h9]; rfl) rest
  · exact pieces_escaped (by decide) (by rw [h10]; rfl) rest
  · exact pieces_escaped (by decide) (by rw [h12]; rfl) rest
  · exact pieces_escaped (by decide) (by rw [h13]; rfl) rest
  · exact pieces_control hcontrol rest
  · exact pieces_plain hquote hescape hcontrol rest

theorem pieces_writeChars (cs : List Char) (rest : Input) :
    pieces ((cs.flatMap writeChar).map some ++ some '"' :: rest) = some (cs.map .char, rest) := by
  induction cs with
  | nil => simp [pieces]
  | cons c cs ih =>
      rw [List.flatMap_cons, List.map_append, List.append_assoc, pieces_writeChar, ih]
      rfl

theorem text?_char (cs : List Char) : text? (cs.map .char) = some cs := by
  induction cs with
  | nil => simp [text?]
  | cons c cs ih => simp [text?, ih]

/-- A string is read back behind its opening quote. -/
theorem stringBody?_write (s : String) (rest : Input) :
    stringBody? ((s.toList.flatMap writeChar ++ ['"']).map some ++ rest) = some (some s, rest) := by
  rw [List.map_append, List.append_assoc, stringBody?, List.map_singleton, List.singleton_append,
    pieces_writeChars, Option.map_some, text?_char, Option.map_some, String.ofList_toList]


/-! ### Numbers -/

/-- What stands there does not go on with a number in front of it. -/
def endsNumber : Input → Bool
  | some c :: _ => !(c.isDigit || c = '.' || c = 'e' || c = 'E')
  | _ => true

theorem digits_append {ds : List Char} (hds : ∀ c ∈ ds, c.isDigit = true) {rest : Input}
    (hrest : endsNumber rest = true) : digits (ds.map some ++ rest) = (ds, rest) := by
  induction ds with
  | nil =>
      rw [List.map_nil, List.nil_append, digits.eq_def]
      split
      case h_1 c cs =>
        have hc : c.isDigit = false := by simp_all [endsNumber]
        rw [if_neg (by simp [hc])]
      case h_2 => rfl
  | cons d ds ih =>
      obtain ⟨hd, hrest⟩ := List.forall_mem_cons.mp hds
      rw [List.map_cons, List.cons_append, digits, if_pos hd, ih hrest]

theorem whole?_natDigits (n : Nat) {rest : Input} (hrest : endsNumber rest = true) :
    whole? ((Text.natDigits n).map some ++ rest) = some (Text.natDigits n, rest) := by
  have hdigits := digits_append (fun c => Text.isDigit_of_mem_natDigits (n := n)) hrest
  rw [whole?, hdigits]
  split
  case h_1 heq => exact absurd (congrArg Prod.fst heq) (Text.natDigits_ne_nil n)
  case h_2 heq => rw [heq]
  case h_3 ds _ hne heq =>
    exact absurd (Text.natDigits_of_zero_cons (congrArg Prod.fst heq)) hne
  case h_4 => rfl

theorem fraction?_of_endsNumber {rest : Input} (hrest : endsNumber rest = true) :
    fraction? rest = some (none, rest) := by
  rw [fraction?.eq_def]
  split
  case h_1 => cases hrest
  case h_2 => rfl

theorem exponent?_of_endsNumber {rest : Input} (hrest : endsNumber rest = true) :
    exponent? rest = some (none, rest) := by
  rw [exponent?.eq_def]
  split
  case h_1 c cs =>
    rw [if_neg]
    simp_all [endsNumber]
  case h_2 => rfl

theorem unsignedNumber?_natDigits (negative : Bool) (n : Nat) {rest : Input}
    (hrest : endsNumber rest = true) :
    unsignedNumber? negative ((Text.natDigits n).map some ++ rest) =
      some (ofParts negative (Text.natDigits n) none none, rest) := by
  simp only [unsignedNumber?, whole?_natDigits n hrest, fraction?_of_endsNumber hrest,
    exponent?_of_endsNumber hrest, Option.bind_eq_bind, Option.bind_some]
  rfl

/-- An integer is read back where nothing makes it longer. -/
theorem number?_intChars (i : Int) {rest : Input} (hrest : endsNumber rest = true) :
    number? ((Text.intChars i).map some ++ rest) = some (.integer i, rest) := by
  cases i with
  | ofNat n =>
      obtain ⟨d, ds, hds, hd⟩ := Text.exists_natDigits_cons n
      have hread := unsignedNumber?_natDigits false n hrest
      rw [ofParts, Text.ofDigitChars_natDigits] at hread
      rw [Text.intChars, number?.eq_def]
      split
      case h_1 heq =>
        rw [hds] at heq
        cases heq
        cases hd
      case h_2 => exact hread
  | negSucc n =>
      have hread := unsignedNumber?_natDigits true (n + 1) hrest
      rw [ofParts, Text.ofDigitChars_natDigits, if_pos rfl, if_neg n.succ_ne_zero] at hread
      exact hread


/-! ### Values -/

theorem skipSpace_cons {c : Char} (hc : isSpace c = false) (rest : Input) :
    skipSpace (some c :: rest) = some c :: rest := by
  rw [skipSpace, if_neg (by simp [hc])]

theorem skipSpace_skipSpace (cs : Input) : skipSpace (skipSpace cs) = skipSpace cs := by
  fun_induction skipSpace cs with
  | case1 c rest hc ih => exact ih
  | case2 c rest hc => exact skipSpace_cons (by simpa using hc) rest
  | case3 cs hcs => rw [skipSpace.eq_def]; split <;> simp_all

/-- The value is read from its text, however the text goes on. -/
def Legible (j : Json) : Prop :=
  ∀ (fuel : Nat) (rest : Input), (writeChars j).length ≤ fuel → endsNumber rest = true →
    value? fuel ((writeChars j).map some ++ rest) = some (j, rest)

theorem legible_null : Legible .null := by
  rintro (_ | fuel) rest hfuel -
  · simp [writeChars] at hfuel
  · simp [writeChars, value?, skipSpace, isSpace, dropWord?]

theorem legible_string (s : String) : Legible (.string s) := by
  rintro (_ | fuel) rest hfuel -
  · simp [writeChars, writeString] at hfuel
  · have hbody := stringBody?_write s rest
    simp only [writeChars, writeString, List.cons_append, List.map_cons]
    simp only [value?, skipSpace_cons (show isSpace '"' = false from rfl), hbody, Option.map_some,
      ofText]

/-- What starts with a sign or a digit is a number. -/
theorem value?_of_number {c : Char} (hc : c = '-' ∨ c.isDigit = true) (fuel : Nat) (rest : Input) :
    value? (fuel + 1) (some c :: rest) = number? (some c :: rest) := by
  have hspace : isSpace c = false := by
    rw [Bool.eq_false_iff]
    intro h
    simp only [isSpace, Bool.or_eq_true, decide_eq_true_eq] at h
    rcases h with ((rfl | rfl) | rfl) | rfl <;> simp at hc
  simp only [value?, skipSpace_cons hspace]
  split
  case h_7 => rfl
  all_goals
    rename_i heq
    cases heq
    simp at hc

theorem legible_integer (i : Int) : Legible (.integer i) := by
  obtain ⟨c, cs, hcs⟩ := List.exists_cons_of_ne_nil (Text.intChars_ne_nil i)
  have hc := Text.of_mem_intChars (hcs ▸ List.mem_cons_self : c ∈ Text.intChars i)
  rintro (_ | fuel) rest hfuel hrest
  · simp [writeChars, hcs] at hfuel
  · have hread := number?_intChars i hrest
    rw [hcs] at hread
    rw [writeChars, hcs]
    exact (value?_of_number hc fuel _).trans hread

/-! ### Arrays -/

theorem value?_skipSpace (fuel : Nat) (cs : Input) :
    value? fuel (skipSpace cs) = value? fuel cs := by
  cases fuel with
  | zero => simp only [value?]
  | succ fuel => simp only [value?, skipSpace_skipSpace]

theorem value?_bracket {cs rest : Input} (hcs : skipSpace cs = some ']' :: rest) (fuel : Nat) :
    value? fuel cs = none := by
  cases fuel with
  | zero => simp only [value?]
  | succ fuel =>
      simp only [value?, hcs]
      simp [number?, unsignedNumber?, whole?, digits]

theorem endsNumber_writeElements (items : List Json) (rest : Input) :
    endsNumber ((writeElements items).map some ++ rest) = true := by
  cases items <;> simp [writeElements, endsNumber]

theorem elements?_write {items : List Json} (hitems : ∀ j ∈ items, Legible j) (fuel : Nat)
    (rest : Input) (hfuel : (writeElements items).length ≤ fuel) :
    elements? fuel ((writeElements items).map some ++ rest) = some (items, rest) := by
  induction items generalizing fuel with
  | nil =>
      cases fuel with
      | zero => simp [writeElements] at hfuel
      | succ fuel => simp [writeElements, elements?, skipSpace, isSpace]
  | cons j items ih =>
      obtain ⟨hj, hitems⟩ := List.forall_mem_cons.mp hitems
      simp only [writeElements, List.cons_append, List.length_cons, List.length_append] at hfuel
      cases fuel with
      | zero => omega
      | succ fuel =>
          have hvalue := hj fuel _ (by omega) (endsNumber_writeElements items rest)
          have hmore := ih hitems fuel (by omega)
          simp only [writeElements, List.cons_append, List.map_cons, List.map_append,
            List.append_assoc]
          simp only [elements?, skipSpace_cons (show isSpace ',' = false from rfl), hvalue, hmore,
            Option.bind_eq_bind, Option.bind_some]
          rfl

theorem legible_array {items : List Json} (hitems : ∀ j ∈ items, Legible j) :
    Legible (.array items) := by
  rintro (_ | fuel) rest hfuel -
  · cases items <;> simp [writeChars] at hfuel
  · cases items with
    | nil => simp [writeChars, value?, skipSpace, isSpace]
    | cons j items =>
        obtain ⟨hj, hitems⟩ := List.forall_mem_cons.mp hitems
        simp only [writeChars, List.cons_append, List.length_cons, List.length_append] at hfuel
        have hvalue := hj fuel _ (by omega) (endsNumber_writeElements items rest)
        have hmore := elements?_write hitems fuel rest (by omega)
        simp only [writeChars, List.cons_append, List.map_cons, List.map_append,
          List.append_assoc]
        simp only [value?, skipSpace_cons (show isSpace '[' = false from rfl)]
        split
        case h_1 hbracket =>
          rw [value?_bracket hbracket] at hvalue
          cases hvalue
        case h_2 =>
          simp only [value?_skipSpace, hvalue, hmore, Option.bind_eq_bind, Option.bind_some]
          rfl

/-! ### Objects -/

theorem skipSpace_writeString (s : String) (rest : Input) :
    skipSpace ((writeString s).map some ++ rest) = (writeString s).map some ++ rest :=
  skipSpace_cons rfl _

theorem key?_write (key : String) (rest : Input) :
    key? ((writeString key).map some ++ some ':' :: rest) = some (some key, rest) := by
  have hbody := stringBody?_write key (some ':' :: rest)
  simp only [writeString, List.cons_append, List.map_cons]
  simp only [key?, skipSpace_cons (show isSpace '"' = false from rfl), hbody,
    Option.bind_eq_bind, Option.bind_some, skipSpace_cons (show isSpace ':' = false from rfl)]

theorem endsNumber_writeMembers (members : List (String × Json)) (rest : Input) :
    endsNumber ((writeMembers members).map some ++ rest) = true := by
  cases members <;> simp [writeMembers, endsNumber]

theorem members?_write {members : List (String × Json)} (hmembers : ∀ m ∈ members, Legible m.2)
    (fuel : Nat) (rest : Input) (hfuel : (writeMembers members).length ≤ fuel) :
    members? fuel ((writeMembers members).map some ++ rest) =
      some (members.map (fun m => (some m.1, m.2)), rest) := by
  induction members generalizing fuel with
  | nil =>
      cases fuel with
      | zero => simp [writeMembers] at hfuel
      | succ fuel => simp [writeMembers, members?, skipSpace, isSpace]
  | cons m members ih =>
      obtain ⟨hm, hmembers⟩ := List.forall_mem_cons.mp hmembers
      simp only [writeMembers, List.cons_append, List.length_cons, List.length_append] at hfuel
      cases fuel with
      | zero => omega
      | succ fuel =>
          have hvalue := hm fuel _ (by omega) (endsNumber_writeMembers members rest)
          have hmore := ih hmembers fuel (by omega)
          simp only [writeMembers, List.cons_append, List.map_cons, List.map_append,
            List.append_assoc]
          simp only [members?, skipSpace_cons (show isSpace ',' = false from rfl), key?_write,
            hvalue, hmore, Option.bind_eq_bind, Option.bind_some]
          rfl

theorem ofMembers_some (members : List (String × Json)) :
    ofMembers (members.map (fun m => (some m.1, m.2))) = .object members := by
  have hkeys : (members.map (fun m => (some m.1, m.2))).mapM
      (fun m => m.1.map (fun k => (k, m.2))) = some (members.map id) :=
    mapM_map (fun _ _ => rfl)
  rw [ofMembers, hkeys, List.map_id]

theorem legible_object {members : List (String × Json)} (hmembers : ∀ m ∈ members, Legible m.2) :
    Legible (.object members) := by
  rintro (_ | fuel) rest hfuel -
  · cases members <;> simp [writeChars] at hfuel
  · cases members with
    | nil => simp [writeChars, value?, skipSpace, isSpace]
    | cons m members =>
        obtain ⟨hm, hmembers⟩ := List.forall_mem_cons.mp hmembers
        simp only [writeChars, List.cons_append, List.length_cons, List.length_append] at hfuel
        have hvalue := hm fuel _ (by omega) (endsNumber_writeMembers members rest)
        have hmore := members?_write hmembers fuel rest (by omega)
        simp only [writeChars, List.cons_append, List.map_cons, List.map_append,
          List.append_assoc]
        simp only [value?, skipSpace_cons (show isSpace '{' = false from rfl),
          skipSpace_writeString]
        split
        case h_1 hbrace => cases hbrace
        case h_2 =>
          simp only [key?_write, hvalue, hmore, Option.bind_eq_bind, Option.bind_some]
          exact congrArg (fun j => some (j, rest)) (ofMembers_some (m :: members))

/-- **A legible value is the value of its text.** -/
theorem ofText?_write {j : Json} (hj : Legible j) : ofText? j.write = some j := by
  have hread := hj ((writeChars j).length + 1) [] (by omega) rfl
  rw [List.append_nil] at hread
  rw [ofText?, write, String.toList_ofList, read?, List.length_map, hread]
  rfl

/-- A legible value is read from the octets of its text. -/
theorem ofOctets?_write {j : Json} (hj : Legible j) :
    ofOctets? (Utf8.ofText j.write) = some j := by
  rw [ofOctets?, Utf8.decode_ofText]
  exact ofText?_write hj

end MediaMonitor.Json
