import MediaMonitor.Proofs.Json.Legible

/-!
# Values in front of more input

A value is read from the front of its input.  When anything is left, the same value is read however
the input goes on (`Extends`), for only a number could become longer; and an array or an object is
closed by its last character, so that it is read the same even when nothing is left (`Closes`).
The values inside a value are read with less fuel, and a longer input has more of it: both grow in
one induction (`Continues`).  A sequence of octets that is an array or an object therefore is the
same one with white space behind it, and no value at all with anything else behind it
(`ofOctets?_append`).
-/

namespace MediaMonitor.Json

/-! ### What is taken from an input -/

/-- What is taken from an input to leave another one ends with a character. -/
def EndsAt (cs rest : Input) : Prop := ∃ c, some c :: rest <:+ cs

namespace EndsAt

variable {cs mid rest : Input}

theorem first (c : Char) (rest : Input) : EndsAt (some c :: rest) rest := ⟨c, List.suffix_rfl⟩

theorem of_suffix (h : EndsAt mid rest) (hmid : mid <:+ cs) : EndsAt cs rest :=
  h.imp fun _ hc => hc.trans hmid

theorem cons (o : Option Char) (h : EndsAt cs rest) : EndsAt (o :: cs) rest :=
  h.of_suffix (List.suffix_cons o cs)

theorem suffix (h : EndsAt cs rest) : rest <:+ cs := by
  obtain ⟨c, hc⟩ := h
  exact (List.suffix_cons _ _).trans hc

theorem ne_nil (h : EndsAt cs rest) : cs ≠ [] := by
  obtain ⟨c, hc⟩ := h
  rintro rfl
  cases List.suffix_nil.mp hc

end EndsAt

section
variable {α β : Type} {f f' : Input → Option (α × Input)} {g g' : α → Input → Option (β × Input)}

/-- What `f` reads from an input and leaves a part of, `f'` reads from it however it goes on. -/
def Extends (f f' : Input → Option (α × Input)) : Prop :=
  ∀ ⦃cs : Input⦄ ⦃a : α⦄ ⦃rest : Input⦄, f cs = some (a, rest) →
    rest <:+ cs ∧ (rest ≠ [] → ∀ more, f' (cs ++ more) = some (a, rest ++ more))

/-- What `f` reads from an input ends with a character, and `f'` reads it however the input goes
on. -/
def Closes (f f' : Input → Option (α × Input)) : Prop :=
  ∀ ⦃cs : Input⦄ ⦃a : α⦄ ⦃rest : Input⦄, f cs = some (a, rest) →
    EndsAt cs rest ∧ ∀ more, f' (cs ++ more) = some (a, rest ++ more)

theorem Closes.extends (h : Closes f f') : Extends f f' := fun _ _ _ hf =>
  ⟨(h hf).1.suffix, fun _ => (h hf).2⟩

theorem Closes.map (h : Closes f f') (e : α → β) :
    Closes (fun cs => (f cs).map (fun r => (e r.1, r.2)))
      (fun cs => (f' cs).map (fun r => (e r.1, r.2))) := by
  intro cs b rest hmap
  obtain ⟨⟨a, rest'⟩, hf, he⟩ := Option.map_eq_some_iff.mp hmap
  cases he
  exact ⟨(h hf).1, fun more => congrArg (Option.map _) ((h hf).2 more)⟩

theorem Extends.map (h : Extends f f') (e : α → β) :
    Extends (fun cs => (f cs).map (fun r => (e r.1, r.2)))
      (fun cs => (f' cs).map (fun r => (e r.1, r.2))) := by
  intro cs b rest hmap
  obtain ⟨⟨a, rest'⟩, hf, he⟩ := Option.map_eq_some_iff.mp hmap
  cases he
  exact ⟨(h hf).1, fun hrest more => congrArg (Option.map _) ((h hf).2 hrest more)⟩

theorem extends_pure (a : α) :
    Extends (fun cs : Input => some (a, cs)) (fun cs => some (a, cs)) := by
  intro cs b rest h
  cases h
  exact ⟨List.suffix_rfl, fun _ _ => rfl⟩

/-- What takes some characters when they come first, and otherwise reads as another one does. -/
theorem Extends.of_first {h : Input → Option (α × Input)} (hh : Extends h h) (hnil : f [] = h [])
    (hcons : ∀ o, (∃ k, Extends k k ∧ ∀ cs, f (o :: cs) = k cs) ∨
      ∀ cs, f (o :: cs) = h (o :: cs)) : Extends f f := by
  intro cs a rest hread
  cases cs with
  | nil =>
      rw [hnil] at hread
      exact ⟨(hh hread).1, fun hne => absurd (List.suffix_nil.mp (hh hread).1) hne⟩
  | cons o cs =>
      rcases hcons o with ⟨k, hk, hf⟩ | hf
      · rw [hf] at hread
        obtain ⟨hsuffix, hmore⟩ := hk hread
        refine ⟨hsuffix.trans (List.suffix_cons _ _), fun hne more => ?_⟩
        rw [List.cons_append, hf, hmore hne more]
      · rw [hf] at hread
        obtain ⟨hsuffix, hmore⟩ := hh hread
        refine ⟨hsuffix, fun hne more => ?_⟩
        rw [List.cons_append, hf, ← List.cons_append, hmore hne more]

theorem Extends.bind (hf : Extends f f') (hg : ∀ a, Extends (g a) (g' a)) :
    Extends (fun cs => (f cs).bind (fun r => g r.1 r.2))
      (fun cs => (f' cs).bind (fun r => g' r.1 r.2)) := by
  intro cs b rest h
  obtain ⟨⟨a, mid⟩, hread, hrest⟩ := Option.bind_eq_some_iff.mp h
  obtain ⟨hmid, hmore⟩ := hf hread
  obtain ⟨hsuffix, hrest⟩ := hg a hrest
  refine ⟨hsuffix.trans hmid, fun hne more => ?_⟩
  -- what is left at the end was left in between
  simp only [hmore (hsuffix.ne_nil hne) more, Option.bind_some]
  exact hrest hne more

/-- What is closed by its end may start with what is not. -/
theorem Extends.bind_closes (hf : Extends f f') (hg : ∀ a, Closes (g a) (g' a)) :
    Closes (fun cs => (f cs).bind (fun r => g r.1 r.2))
      (fun cs => (f' cs).bind (fun r => g' r.1 r.2)) := by
  intro cs b rest h
  obtain ⟨⟨a, mid⟩, hread, hrest⟩ := Option.bind_eq_some_iff.mp h
  obtain ⟨hmid, hmore⟩ := hf hread
  obtain ⟨hends, hrest⟩ := hg a hrest
  refine ⟨hends.of_suffix hmid, fun more => ?_⟩
  simp only [hmore hends.ne_nil more, Option.bind_some]
  exact hrest more

end

/-! ### White space and words -/

theorem skipSpace_suffix (cs : Input) : skipSpace cs <:+ cs := by
  fun_induction skipSpace cs with
  | case1 c rest hc ih => exact ih.trans (List.suffix_cons _ _)
  | case2 | case3 => exact List.suffix_rfl

theorem skipSpace_append {cs : Input} (h : skipSpace cs ≠ []) (more : Input) :
    skipSpace (cs ++ more) = skipSpace cs ++ more := by
  fun_induction skipSpace cs with
  | case1 c rest hc ih => rw [List.cons_append, skipSpace, if_pos hc, ih h]
  | case2 c rest hc => exact skipSpace_cons (by simpa using hc) _
  | case3 cs hcs =>
      obtain ⟨o, rest, rfl⟩ := List.exists_cons_of_ne_nil h
      cases o with
      | some c => exact absurd rfl (hcs c rest)
      | none => rfl

theorem skipSpace_append_of_cons {cs rest : Input} {o : Option Char}
    (h : skipSpace cs = o :: rest) (more : Input) :
    skipSpace (cs ++ more) = o :: (rest ++ more) := by
  rw [skipSpace_append (by simp [h]), h, List.cons_append]

theorem skipSpace_append_of_nil {cs : Input} (h : skipSpace cs = []) (more : Input) :
    skipSpace (cs ++ more) = skipSpace more := by
  fun_induction skipSpace cs with
  | case1 c rest hc ih => rw [List.cons_append, skipSpace, if_pos hc, ih h]
  | case2 c rest hc => cases h
  | case3 cs hcs => rw [h, List.nil_append]

theorem endsAt_of_skipSpace {cs rest : Input} {c : Char} (h : skipSpace cs = some c :: rest) :
    EndsAt cs rest :=
  ⟨c, h ▸ skipSpace_suffix cs⟩

theorem Extends.behindSpace {α : Type} {f f' : Input → Option (α × Input)} (h : Extends f f') :
    Extends (fun cs => f (skipSpace cs)) (fun cs => f' (skipSpace cs)) := by
  intro cs a rest hread
  obtain ⟨hsuffix, hmore⟩ := h hread
  refine ⟨hsuffix.trans (skipSpace_suffix cs), fun hne more => ?_⟩
  simp only [skipSpace_append (hsuffix.ne_nil hne)]
  exact hmore hne more

/-- What is closed behind an opening character is closed with it. -/
theorem Closes.behind {α : Type} {f f' : Input → Option (α × Input)} (h : Closes f f')
    {cs mid rest : Input} {c : Char} {a : α} (hopen : skipSpace cs = some c :: mid)
    (hread : f mid = some (a, rest)) :
    EndsAt cs rest ∧ ∀ more, skipSpace (cs ++ more) = some c :: (mid ++ more) ∧
      f' (mid ++ more) = some (a, rest ++ more) := by
  obtain ⟨hends, hmore⟩ := h hread
  exact ⟨hends.of_suffix (endsAt_of_skipSpace hopen).suffix,
    fun more => ⟨skipSpace_append_of_cons hopen more, hmore more⟩⟩

theorem dropWord?_append {word : List Char} {cs rest : Input} (h : dropWord? word cs = some rest) :
    rest <:+ cs ∧ ∀ more, dropWord? word (cs ++ more) = some (rest ++ more) := by
  fun_induction dropWord? word cs with
  | case1 cs => cases h; exact ⟨List.suffix_rfl, fun _ => rfl⟩
  | case2 ws c cs ih =>
      obtain ⟨hsuffix, hmore⟩ := ih h
      exact ⟨hsuffix.trans (List.suffix_cons _ _), fun more => by
        rw [List.cons_append, dropWord?, if_pos rfl, hmore more]⟩
  | case3 | case4 => cases h

/-! ### Strings -/

theorem closes_pieces : Closes pieces pieces := by
  intro cs ps rest h
  fun_induction pieces cs generalizing ps rest with
  | case1 | case6 | case7 => cases h
  | case2 cs ih =>
      obtain ⟨⟨ps, rest⟩, hread, he⟩ := Option.map_eq_some_iff.mp h
      cases he
      obtain ⟨hends, hmore⟩ := ih hread
      exact ⟨hends.cons _, fun more => by rw [List.cons_append, pieces, hmore more]; rfl⟩
  | case3 cs =>
      cases h
      exact ⟨.first _ _, fun more => by rw [List.cons_append, pieces]⟩
  | case4 a b c d cs ih =>
      obtain ⟨unit, hunit, h⟩ := Option.bind_eq_some_iff.mp h
      obtain ⟨⟨ps, rest⟩, hread, he⟩ := Option.bind_eq_some_iff.mp h
      cases he
      obtain ⟨hends, hmore⟩ := ih hread
      refine ⟨((((((hends.cons _).cons _).cons _).cons _).cons _).cons _), fun more => ?_⟩
      simp only [List.cons_append, pieces, hunit, hmore more, Option.bind_eq_bind, Option.bind_some]
      rfl
  | case5 e cs hunit ih =>
      obtain ⟨c, hc, h⟩ := Option.bind_eq_some_iff.mp h
      obtain ⟨⟨ps, rest⟩, hread, he⟩ := Option.bind_eq_some_iff.mp h
      cases he
      obtain ⟨hends, hmore⟩ := ih hread
      -- an escape by number whose digits are cut off is not read as one of two characters
      have hu : e ≠ 'u' := by rintro rfl; cases hc
      refine ⟨(hends.cons _).cons _, fun more => ?_⟩
      rw [List.cons_append, List.cons_append, pieces_escaped hu hc, hmore more]
      rfl
  | case8 c cs hquote hescape hcontrol ih =>
      obtain ⟨⟨ps, rest⟩, hread, he⟩ := Option.map_eq_some_iff.mp h
      cases he
      obtain ⟨hends, hmore⟩ := ih hread
      refine ⟨hends.cons _, fun more => ?_⟩
      rw [List.cons_append, pieces_plain hquote hescape hcontrol, hmore more]
      rfl

theorem closes_stringBody : Closes stringBody? stringBody? :=
  closes_pieces.map (fun ps => (text? ps).map String.ofList)

/-! ### Numbers -/

theorem digits_append_of_ne_nil (cs : Input) :
    (digits cs).2 <:+ cs ∧ ((digits cs).2 ≠ [] →
      ∀ more, digits (cs ++ more) = ((digits cs).1, (digits cs).2 ++ more)) := by
  fun_induction digits cs with
  | case1 c cs hc r ih =>
      refine ⟨ih.1.trans (List.suffix_cons _ _), fun hne more => ?_⟩
      rw [List.cons_append, digits, if_pos hc, ih.2 hne more]
  | case2 c cs hc =>
      refine ⟨List.suffix_rfl, fun _ more => ?_⟩
      rw [List.cons_append, digits, if_neg hc]
  | case3 cs hcs =>
      refine ⟨List.suffix_rfl, fun hne more => ?_⟩
      obtain ⟨o, rest, rfl⟩ := List.exists_cons_of_ne_nil hne
      cases o with
      | some c => exact absurd rfl (hcs c rest)
      | none => rfl

/-- Digits of which only their own shape is asked. -/
theorem extends_of_digits {f : Input → Option (List Char × Input)} {p : List Char → Bool}
    (hf : ∀ cs, f cs = if p (digits cs).1 then some (digits cs) else none) : Extends f f := by
  intro cs ds rest h
  obtain ⟨hsuffix, hmore⟩ := digits_append_of_ne_nil cs
  rw [hf] at h
  split at h
  case isTrue hp =>
    rw [Option.some.inj h] at hsuffix hmore hp
    exact ⟨hsuffix, fun hne more => by rw [hf, hmore hne more, if_pos hp]⟩
  case isFalse => cases h

theorem extends_digits? : Extends digits? digits? := by
  refine extends_of_digits (p := fun ds => ds ≠ []) fun cs => ?_
  rw [digits?]
  obtain ⟨_ | ⟨d, ds⟩, rest⟩ := digits cs <;> rfl

theorem extends_whole? : Extends whole? whole? := by
  refine extends_of_digits (p := fun ds => ds = ['0'] || ds.head?.any (· ≠ '0')) fun cs => ?_
  rw [whole?]
  obtain ⟨_ | ⟨d, ds⟩, rest⟩ := digits cs
  · rfl
  · by_cases hd : d = '0'
    · subst hd
      cases ds <;> rfl
    · simp [hd]

theorem extends_fraction? : Extends fraction? fraction? := by
  refine (extends_pure none).of_first rfl fun o => ?_
  by_cases ho : o = some '.'
  · subst ho
    exact .inl ⟨_, extends_digits?.map some, fun _ => rfl⟩
  · refine .inr fun cs => ?_
    rw [fraction?.eq_def]
    split
    case h_1 heq => cases heq; exact absurd rfl ho
    case h_2 => rfl

/-- The digits of an exponent, which may have a sign. -/
def power? : Input → Option (Option Int × Input)
  | some '-' :: rest =>
      (digits? rest).map (fun r => (some (-(Nat.ofDigitChars 10 r.1 0 : Int)), r.2))
  | some '+' :: rest => (digits? rest).map (fun r => (some (Nat.ofDigitChars 10 r.1 0 : Int), r.2))
  | rest => (digits? rest).map (fun r => (some (Nat.ofDigitChars 10 r.1 0 : Int), r.2))

theorem exponent?_of_mark {c : Char} (hc : (c = 'e' || c = 'E') = true) (rest : Input) :
    exponent? (some c :: rest) = power? rest := by
  rw [exponent?.eq_def]
  exact if_pos hc

theorem extends_power? : Extends power? power? := by
  have hdigits (value : List Char → Int) :=
    extends_digits?.map (fun ds => some (value ds))
  refine (hdigits fun ds => (Nat.ofDigitChars 10 ds 0 : Int)).of_first rfl fun o => ?_
  by_cases hminus : o = some '-'
  · subst hminus
    exact .inl ⟨_, hdigits fun ds => -(Nat.ofDigitChars 10 ds 0 : Int), fun _ => rfl⟩
  by_cases hplus : o = some '+'
  · subst hplus
    exact .inl ⟨_, hdigits fun ds => (Nat.ofDigitChars 10 ds 0 : Int), fun _ => rfl⟩
  refine .inr fun cs => ?_
  rw [power?.eq_def]
  split
  case h_1 heq => cases heq; exact absurd rfl hminus
  case h_2 heq => cases heq; exact absurd rfl hplus
  case h_3 => rfl

theorem extends_exponent? : Extends exponent? exponent? := by
  refine (extends_pure none).of_first rfl fun o => ?_
  cases o with
  | none => exact .inr fun _ => rfl
  | some c =>
      by_cases hc : (c = 'e' || c = 'E') = true
      · exact .inl ⟨power?, extends_power?, exponent?_of_mark hc⟩
      · refine .inr fun cs => ?_
        rw [exponent?.eq_def]
        exact if_neg hc

theorem unsignedNumber?_eq (negative : Bool) :
    unsignedNumber? negative = fun cs =>
      (whole? cs).bind fun whole => (fraction? whole.2).bind fun part =>
        (exponent? part.2).map fun exponent =>
          (ofParts negative whole.1 part.1 exponent.1, exponent.2) := by
  funext cs
  simp only [unsignedNumber?, Option.map_eq_bind]
  rfl

theorem extends_unsignedNumber? (negative : Bool) :
    Extends (unsignedNumber? negative) (unsignedNumber? negative) := by
  rw [unsignedNumber?_eq]
  exact extends_whole?.bind fun whole => extends_fraction?.bind fun part =>
    extends_exponent?.map fun exponent => ofParts negative whole part exponent

theorem extends_number? : Extends number? number? := by
  refine (extends_unsignedNumber? false).of_first rfl fun o => ?_
  by_cases ho : o = some '-'
  · subst ho
    exact .inl ⟨_, extends_unsignedNumber? true, fun _ => rfl⟩
  · refine .inr fun cs => ?_
    rw [number?.eq_def]
    split
    case h_1 heq => cases heq; exact absurd rfl ho
    case h_2 => rfl

/-! ### Values -/

theorem closes_key? : Closes key? key? := by
  intro cs key rest h
  rw [key?] at h
  split at h
  case h_1 quoted hquote =>
    obtain ⟨⟨k, mid⟩, hbody, h⟩ := Option.bind_eq_some_iff.mp h
    obtain ⟨hmid, hmore⟩ := closes_stringBody hbody
    dsimp only at h
    split at h
    case h_1 hcolon =>
      cases h
      refine ⟨(endsAt_of_skipSpace hcolon).of_suffix
        (hmid.suffix.trans (endsAt_of_skipSpace hquote).suffix), fun more => ?_⟩
      simp only [key?, skipSpace_append_of_cons hquote, hmore more, Option.bind_eq_bind,
        Option.bind_some, skipSpace_append_of_cons hcolon]
    case h_2 => cases h
  case h_2 => cases h

/-- The elements of an array from one that is there. -/
def someElements? (fuel : Nat) (cs : Input) : Option (List Json × Input) :=
  (value? fuel cs).bind fun first =>
    (elements? fuel first.2).map fun items => (first.1 :: items.1, items.2)

/-- The members of an object from one that is there. -/
def someMembers? (fuel : Nat) (cs : Input) : Option (List (Option String × Json) × Input) :=
  (key? cs).bind fun key => (value? fuel key.2).bind fun first =>
    (members? fuel first.2).map fun ms => ((key.1, first.1) :: ms.1, ms.2)

/-- An array behind its opening bracket. -/
def arrayBody? (fuel : Nat) (cs : Input) : Option (Json × Input) :=
  match skipSpace cs with
  | some ']' :: rest => some (.array [], rest)
  | _ => (someElements? fuel cs).map fun items => (.array items.1, items.2)

/-- An object behind its opening brace. -/
def objectBody? (fuel : Nat) (cs : Input) : Option (Json × Input) :=
  match skipSpace cs with
  | some '}' :: rest => some (.object [], rest)
  | _ => (someMembers? fuel cs).map fun ms => (ofMembers ms.1, ms.2)

theorem key?_skipSpace (cs : Input) : key? (skipSpace cs) = key? cs := by
  rw [key?, skipSpace_skipSpace, key?]

theorem elements?_succ (fuel : Nat) (cs : Input) :
    elements? (fuel + 1) cs =
      match skipSpace cs with
      | some ']' :: rest => some ([], rest)
      | some ',' :: rest => someElements? fuel rest
      | _ => none := by
  simp only [elements?, someElements?, Option.map_eq_bind]
  rfl

theorem members?_succ (fuel : Nat) (cs : Input) :
    members? (fuel + 1) cs =
      match skipSpace cs with
      | some '}' :: rest => some ([], rest)
      | some ',' :: rest => someMembers? fuel rest
      | _ => none := by
  simp only [members?, someMembers?, Option.map_eq_bind]
  rfl

/-- An array or an object. -/
def container? (fuel : Nat) (cs : Input) : Option (Json × Input) :=
  match skipSpace cs with
  | some '[' :: rest => arrayBody? fuel rest
  | some '{' :: rest => objectBody? fuel rest
  | _ => none

/-- A value that contains no other one, and has no white space in front of it. -/
def scalar? : Input → Option (Json × Input)
  | some '"' :: rest => (stringBody? rest).map (fun r => (ofText r.1, r.2))
  | some 'n' :: rest => (dropWord? ['u', 'l', 'l'] rest).map (fun r => (.null, r))
  | some 't' :: rest => (dropWord? ['r', 'u', 'e'] rest).map (fun r => (.bool true, r))
  | some 'f' :: rest => (dropWord? ['a', 'l', 's', 'e'] rest).map (fun r => (.bool false, r))
  | rest => number? rest

theorem scalar?_bracket (cs : Input) : scalar? (some '[' :: cs) = none := rfl

theorem scalar?_brace (cs : Input) : scalar? (some '{' :: cs) = none := rfl

/-- What opens an array or an object starts nothing else. -/
theorem scalar?_of_container? {fuel : Nat} {cs : Input} {r : Json × Input}
    (h : container? fuel cs = some r) : scalar? (skipSpace cs) = none := by
  rw [container?] at h
  split at h
  case h_1 hopen => rw [hopen, scalar?_bracket]
  case h_2 hopen => rw [hopen, scalar?_brace]
  case h_3 => cases h

/-- A value is an array or an object, or it contains no other one. -/
theorem value?_succ (fuel : Nat) (cs : Input) :
    value? (fuel + 1) cs = (container? fuel cs).or (scalar? (skipSpace cs)) := by
  simp only [value?]
  split
  case h_2 hopen =>
    rw [hopen, scalar?_bracket, Option.or_none, container?, hopen]
    simp only [arrayBody?, someElements?]
    split <;> simp_all [value?_skipSpace, Option.map_eq_bind, Option.bind_assoc]
  case h_3 hopen =>
    rw [hopen, scalar?_brace, Option.or_none, container?, hopen]
    simp only [objectBody?, someMembers?]
    split <;> simp_all [key?_skipSpace, Option.map_eq_bind, Option.bind_assoc]
  all_goals simp_all [container?, scalar?]

theorem extends_word (word : List Char) (j : Json) :
    Extends (fun cs => (dropWord? word cs).map (fun r => (j, r)))
      (fun cs => (dropWord? word cs).map (fun r => (j, r))) := by
  intro cs j rest h
  obtain ⟨rest, hdrop, he⟩ := Option.map_eq_some_iff.mp h
  cases he
  obtain ⟨hsuffix, hmore⟩ := dropWord?_append hdrop
  exact ⟨hsuffix, fun _ more => congrArg (Option.map _) (hmore more)⟩

theorem extends_scalar? : Extends scalar? scalar? := by
  refine extends_number?.of_first rfl fun o => ?_
  by_cases hquote : o = some '"'
  · subst hquote
    exact .inl ⟨_, (closes_stringBody.map ofText).extends, fun _ => rfl⟩
  by_cases hn : o = some 'n'
  · subst hn
    exact .inl ⟨_, extends_word _ _, fun _ => rfl⟩
  by_cases ht : o = some 't'
  · subst ht
    exact .inl ⟨_, extends_word _ _, fun _ => rfl⟩
  by_cases hf : o = some 'f'
  · subst hf
    exact .inl ⟨_, extends_word _ _, fun _ => rfl⟩
  refine .inr fun cs => ?_
  rw [scalar?.eq_def]
  split
  case h_1 heq => cases heq; exact absurd rfl hquote
  case h_2 heq => cases heq; exact absurd rfl hn
  case h_3 heq => cases heq; exact absurd rfl ht
  case h_4 heq => cases heq; exact absurd rfl hf
  case h_5 => rfl

/-! ### Fuel -/

/-- With this fuel values are read, and with that fuel they are read however the input goes on. -/
structure Continues (fuel fuel' : Nat) : Prop where
  value : Extends (value? fuel) (value? fuel')
  elements : Closes (elements? fuel) (elements? fuel')
  members : Closes (members? fuel) (members? fuel')

namespace Continues

variable {fuel fuel' : Nat}

theorem someElements (h : Continues fuel fuel') :
    Closes (someElements? fuel) (someElements? fuel') :=
  h.value.bind_closes fun first => h.elements.map (first :: ·)

theorem someMembers (h : Continues fuel fuel') :
    Closes (someMembers? fuel) (someMembers? fuel') :=
  closes_key?.extends.bind_closes fun key => h.value.bind_closes fun first =>
    h.members.map ((key, first) :: ·)

theorem arrayBody (h : Continues fuel fuel') : Closes (arrayBody? fuel) (arrayBody? fuel') := by
  intro cs j rest hread
  rw [arrayBody?] at hread
  split at hread
  case h_1 hbracket =>
    cases hread
    refine ⟨endsAt_of_skipSpace hbracket, fun more => ?_⟩
    simp only [arrayBody?, skipSpace_append_of_cons hbracket]
  case h_2 =>
    obtain ⟨hends, hmore⟩ := h.someElements.map Json.array hread
    refine ⟨hends, fun more => ?_⟩
    have hmore := hmore more
    rw [arrayBody?]
    split
    case h_1 hbracket =>
      -- no value starts with the bracket
      simp [someElements?, value?_bracket hbracket] at hmore
    case h_2 => exact hmore

theorem objectBody (h : Continues fuel fuel') : Closes (objectBody? fuel) (objectBody? fuel') := by
  intro cs j rest hread
  rw [objectBody?] at hread
  split at hread
  case h_1 hbrace =>
    cases hread
    refine ⟨endsAt_of_skipSpace hbrace, fun more => ?_⟩
    simp only [objectBody?, skipSpace_append_of_cons hbrace]
  case h_2 =>
    obtain ⟨hends, hmore⟩ := h.someMembers.map ofMembers hread
    refine ⟨hends, fun more => ?_⟩
    have hmore := hmore more
    rw [objectBody?]
    split
    case h_1 hbrace => simp [someMembers?, key?, hbrace] at hmore
    case h_2 => exact hmore

theorem container (h : Continues fuel fuel') : Closes (container? fuel) (container? fuel') := by
  intro cs j rest hread
  rw [container?] at hread
  split at hread
  case h_1 hopen =>
    obtain ⟨hends, hmore⟩ := h.arrayBody.behind hopen hread
    exact ⟨hends, fun more => by simp only [container?, hmore more]⟩
  case h_2 hopen =>
    obtain ⟨hends, hmore⟩ := h.objectBody.behind hopen hread
    exact ⟨hends, fun more => by simp only [container?, hmore more]⟩
  case h_3 => cases hread

theorem value_succ (h : Continues fuel fuel') :
    Extends (value? (fuel + 1)) (value? (fuel' + 1)) := by
  intro cs j rest hread
  rw [value?_succ] at hread
  rcases Option.or_eq_some_iff.mp hread with hread | ⟨-, hread⟩
  · obtain ⟨hends, hmore⟩ := h.container hread
    exact ⟨hends.suffix, fun _ more => by rw [value?_succ, hmore more, Option.some_or]⟩
  · obtain ⟨hsuffix, hmore⟩ := extends_scalar?.behindSpace hread
    refine ⟨hsuffix, fun hne more => ?_⟩
    have hscalar : scalar? (skipSpace (cs ++ more)) = some (j, rest ++ more) := hmore hne more
    have hnone : container? fuel' (cs ++ more) = none := by
      by_contra h
      obtain ⟨r, hr⟩ := Option.ne_none_iff_exists'.mp h
      rw [scalar?_of_container? hr] at hscalar
      cases hscalar
    rw [value?_succ, hnone, Option.none_or, hscalar]

theorem elements_succ (h : Continues fuel fuel') :
    Closes (elements? (fuel + 1)) (elements? (fuel' + 1)) := by
  intro cs js rest hread
  rw [elements?_succ] at hread
  split at hread
  case h_1 hbracket =>
    cases hread
    refine ⟨endsAt_of_skipSpace hbracket, fun more => ?_⟩
    simp only [elements?_succ, skipSpace_append_of_cons hbracket]
  case h_2 hcomma =>
    obtain ⟨hends, hmore⟩ := h.someElements.behind hcomma hread
    exact ⟨hends, fun more => by simp only [elements?_succ, hmore more]⟩
  case h_3 => cases hread

theorem members_succ (h : Continues fuel fuel') :
    Closes (members? (fuel + 1)) (members? (fuel' + 1)) := by
  intro cs ms rest hread
  rw [members?_succ] at hread
  split at hread
  case h_1 hbrace =>
    cases hread
    refine ⟨endsAt_of_skipSpace hbrace, fun more => ?_⟩
    simp only [members?_succ, skipSpace_append_of_cons hbrace]
  case h_2 hcomma =>
    obtain ⟨hends, hmore⟩ := h.someMembers.behind hcomma hread
    exact ⟨hends, fun more => by simp only [members?_succ, hmore more]⟩
  case h_3 => cases hread

end Continues

/-- More fuel reads the same values, however the input goes on. -/
theorem continues_of_le {fuel fuel' : Nat} (h : fuel ≤ fuel') : Continues fuel fuel' := by
  induction fuel generalizing fuel' with
  | zero => constructor <;> simp [Extends, Closes, value?, elements?, members?]
  | succ fuel ih =>
      obtain ⟨fuel', rfl⟩ := Nat.exists_eq_succ_of_ne_zero (Nat.ne_zero_of_lt h)
      have hle := ih (Nat.le_of_succ_le_succ h)
      exact ⟨hle.value_succ, hle.elements_succ, hle.members_succ⟩

/-! ### Whole inputs -/

/-- The value is an array or an object. -/
def IsContainer : Json → Prop
  | .array _ | .object _ => True
  | _ => False

theorem not_isContainer_ofParts (negative : Bool) (whole : List Char) (part : Option (List Char))
    (exponent : Option Int) : ¬ IsContainer (ofParts negative whole part exponent) := by
  unfold ofParts
  split
  · dsimp only
    split_ifs <;> exact id
  · exact id

theorem not_isContainer_of_unsignedNumber? {negative : Bool} {cs rest : Input} {j : Json}
    (h : unsignedNumber? negative cs = some (j, rest)) : ¬ IsContainer j := by
  rw [unsignedNumber?_eq] at h
  obtain ⟨whole, -, h⟩ := Option.bind_eq_some_iff.mp h
  obtain ⟨part, -, h⟩ := Option.bind_eq_some_iff.mp h
  obtain ⟨exponent, -, he⟩ := Option.map_eq_some_iff.mp h
  cases he
  exact not_isContainer_ofParts _ _ _ _

theorem not_isContainer_of_scalar? {cs rest : Input} {j : Json}
    (h : scalar? cs = some (j, rest)) : ¬ IsContainer j := by
  rw [scalar?.eq_def] at h
  split at h
  case h_1 =>
    obtain ⟨⟨s, rest⟩, -, he⟩ := Option.map_eq_some_iff.mp h
    cases he
    cases s <;> exact id
  case h_2 | h_3 | h_4 =>
    obtain ⟨rest, -, he⟩ := Option.map_eq_some_iff.mp h
    cases he
    exact id
  case h_5 =>
    rw [number?.eq_def] at h
    split at h <;> exact not_isContainer_of_unsignedNumber? h

/-- An array or an object that is a whole input is read as one, and white space stands behind
it. -/
theorem container?_of_read? {cs : Input} {j : Json} (hj : IsContainer j) (h : read? cs = some j) :
    ∃ rest, container? cs.length cs = some (j, rest) ∧ skipSpace rest = [] := by
  obtain ⟨⟨j', rest⟩, hvalue, h⟩ := Option.bind_eq_some_iff.mp h
  dsimp only at h
  split at h
  case isTrue hspace =>
    cases h
    rw [value?_succ] at hvalue
    rcases Option.or_eq_some_iff.mp hvalue with hvalue | ⟨-, hvalue⟩
    · exact ⟨rest, hvalue, hspace⟩
    · exact absurd hj (not_isContainer_of_scalar? hvalue)
  case isFalse => cases h

theorem read?_append {cs : Input} {j : Json} (hj : IsContainer j) (h : read? cs = some j)
    (more : Input) : read? (cs ++ more) = if skipSpace more = [] then some j else none := by
  obtain ⟨rest, hread, hspace⟩ := container?_of_read? hj h
  have hle : cs.length ≤ (cs ++ more).length := by simp
  have hmore := ((continues_of_le hle).container hread).2 more
  simp only [read?, value?_succ, hmore, Option.some_or, Option.bind_eq_bind, Option.bind_some,
    skipSpace_append_of_nil hspace]

theorem isSome_of_mem_of_skipSpace {cs : Input} (h : skipSpace cs = []) : ∀ o ∈ cs, o.isSome := by
  fun_induction skipSpace cs with
  | case1 c rest hc ih => exact List.forall_mem_cons.mpr ⟨rfl, ih h⟩
  | case2 => cases h
  | case3 => simp [h]

/-- An array or an object does not end inside a character. -/
theorem not_isContainer_of_read?_illFormed {cs : Input} {j : Json}
    (h : read? (cs ++ [none]) = some j) : ¬ IsContainer j := by
  intro hj
  obtain ⟨rest, hread, hspace⟩ := container?_of_read? hj h
  -- what is read ends with a character, and what is left is white space: none is ill-formed
  obtain ⟨c, hsuffix⟩ := ((continues_of_le (Nat.le_refl _)).container hread).1
  have hlast := hsuffix.getLast (List.cons_ne_nil _ _)
  rw [List.getLast_concat] at hlast
  have hmem : none ∈ some c :: rest := hlast ▸ List.getLast_mem _
  rcases List.mem_cons.mp hmem with hc | hmem
  · cases hc
  · cases isSome_of_mem_of_skipSpace hspace _ hmem

/-- **An array or an object in front of more octets** is still the whole value if white space
follows it, and there is no value otherwise. -/
theorem ofOctets?_append {bs : List UInt8} {j : Json} (hj : IsContainer j)
    (h : ofOctets? bs = some j) (more : List UInt8) :
    ofOctets? (bs ++ more) = if skipSpace (Utf8.decode more) = [] then some j else none := by
  rw [ofOctets?, Utf8.decode] at h
  cases hopen : (Utf8.run none bs).2 with
  | some p =>
      rw [hopen] at h
      exact absurd hj (not_isContainer_of_read?_illFormed h)
  | none =>
      rw [hopen, Utf8.leftover, List.append_nil] at h
      rw [ofOctets?, Utf8.decode, Utf8.run_append, hopen, List.append_assoc]
      exact read?_append hj h _

end MediaMonitor.Json
