import MediaMonitor.Proofs.Text.Utf8

/-!
# Any octets in chunks

Octets that arrive in chunks are read as the lossy text of the whole, with one exception
(`Decoder.text_of_chunks_iff`): a decoder gives up the character that a chunk cuts short when the
chunk holds an ill-formed part as well, and the octets behind the chunk may go on with it
(`Decoder.GivesUp`).  By themselves they are ill-formed, so that more of U+FFFD is read than there
should be (`Decoder.character_given_up`).

The two texts are compared from a chunk on, a character being open in front of it (`decodeFrom`).
To give a character up never makes the text shorter, and it makes the text longer just when the
octets go on with it.
-/

namespace MediaMonitor.Utf8

/-! ### Behind a character left open -/

/-- The characters and ill-formed parts of a sequence with a character left open in front of it. -/
def decodeFrom (p : Option Partial) (bs : List UInt8) : List (Option Char) :=
  (run p bs).1 ++ leftover (run p bs).2

theorem decodeFrom_append (p : Option Partial) (xs ys : List UInt8) :
    decodeFrom p (xs ++ ys) = (run p xs).1 ++ decodeFrom (run p xs).2 ys := by
  simp [decodeFrom, run_append]

theorem decodeFrom_cons (p : Option Partial) (b : UInt8) (bs : List UInt8) :
    decodeFrom p (b :: bs) = (step p b).1 ++ decodeFrom (step p b).2 bs := by
  simp [decodeFrom, run]

/-- The next octet goes on with a character. -/
def Partial.GoesOn (p : Partial) (bs : List UInt8) : Prop :=
  ∃ b ∈ bs.head?, p.least ≤ b.toNat ∧ b.toNat ≤ p.greatest

theorem goesOn_cons {p : Partial} {b : UInt8} {bs : List UInt8} :
    p.GoesOn (b :: bs) ↔ p.least ≤ b.toNat ∧ b.toNat ≤ p.greatest := by
  simp [Partial.GoesOn]

/-- A character that the octets do not go on with is an ill-formed part, and no more. -/
theorem decodeFrom_of_not_goesOn {p : Partial} {bs : List UInt8} (h : ¬ p.GoesOn bs) :
    decodeFrom (some p) bs = none :: decodeFrom none bs := by
  cases bs with
  | nil => rfl
  | cons b bs =>
      rw [goesOn_cons] at h
      simp [decodeFrom_cons, step, h]

/-- What goes on with the character are octets that open none. -/
def Partial.Bounded (p : Partial) : Prop := 0x80 ≤ p.least ∧ p.greatest ≤ 0xBF

theorem bounded_of_lead {b : UInt8} {p : Partial} (h : lead b = .opens p) : p.Bounded := by
  simp only [lead] at h
  repeat' split at h
  all_goals simp only [Lead.opens.injEq, reduceCtorEq] at h
  all_goals subst h; simp [Partial.Bounded]

/-- An octet that goes on with a character is ill-formed by itself. -/
theorem start_of_tail {b : UInt8} (h₁ : 0x80 ≤ b.toNat) (h₂ : b.toNat ≤ 0xBF) :
    start b = ([none], none) := by
  have hlead : lead b = .invalid := by
    simp only [lead]
    rw [if_neg (by omega), if_neg (by omega), if_neg (by omega), if_neg (by omega),
      if_neg (by omega), if_neg (by omega), if_neg (by omega), if_neg (by omega)]
  simp only [start, hlead]

theorem bounded_start {b : UInt8} : ∀ p ∈ (start b).2, p.Bounded := by
  intro p hp
  unfold start at hp
  cases hlead : lead b with
  | single c => rw [hlead] at hp; cases hp
  | invalid => rw [hlead] at hp; cases hp
  | opens q => rw [hlead] at hp; cases hp; exact bounded_of_lead hlead

theorem bounded_step (p : Option Partial) (b : UInt8) : ∀ q ∈ (step p b).2, q.Bounded := by
  cases p with
  | none => exact bounded_start
  | some p =>
      unfold step
      dsimp only
      split
      · split
        · nofun
        · intro q hq
          obtain rfl := Option.mem_some_iff.mp hq
          simp [Partial.Bounded]
      · exact bounded_start

theorem bounded_run {p : Option Partial} (h : ∀ q ∈ p, q.Bounded) (bs : List UInt8) :
    ∀ q ∈ (run p bs).2, q.Bounded := by
  induction bs generalizing p with
  | nil => exact h
  | cons b bs ih => exact ih (bounded_step p b)

/-- Behind a character left open, octets have at most one part more than by themselves, and none
when they go on with it. -/
theorem length_decodeFrom_some_le {p : Partial} (hp : p.Bounded) (bs : List UInt8) :
    (decodeFrom (some p) bs).length ≤ (decodeFrom none bs).length + 1 ∧
      (p.GoesOn bs → (decodeFrom (some p) bs).length ≤ (decodeFrom none bs).length) := by
  induction bs generalizing p with
  | nil => exact ⟨Nat.le_refl 1, fun ⟨_, hb, _⟩ => nomatch hb⟩
  | cons b bs ih =>
      have hgoes : p.GoesOn (b :: bs) →
          (decodeFrom (some p) (b :: bs)).length ≤ (decodeFrom none (b :: bs)).length := by
        intro h
        rw [goesOn_cons] at h
        have hstart : step none b = ([none], none) :=
          start_of_tail (Nat.le_trans hp.1 h.1) (Nat.le_trans h.2 hp.2)
        have hnext := bounded_step (some p) b
        rw [decodeFrom_cons, decodeFrom_cons, hstart]
        simp only [step, h, and_self, if_true] at hnext ⊢
        split
        · simp
        · rename_i howed
          rw [if_neg howed] at hnext
          have := (ih (hnext _ rfl)).1
          simp only [List.nil_append, List.length_append, List.length_singleton]
          omega
      refine ⟨?_, hgoes⟩
      by_cases h : p.GoesOn (b :: bs)
      · exact Nat.le_succ_of_le (hgoes h)
      · rw [decodeFrom_of_not_goesOn h]; exact Nat.le_refl _

namespace Decoder

/-! ### Chunks, one after another -/

/-- The character that a chunk cuts short is given up, although the octets behind the chunk go on
with it. -/
structure GivesUp (d : Decoder) (bs next : List UInt8) : Prop where
  illFormed : none ∈ (run d.carried bs).1
  goesOn : ∃ p ∈ (run d.carried bs).2, p.GoesOn next

theorem push_of_illFormed {d : Decoder} {bs : List UInt8} (h : none ∈ (run d.carried bs).1) :
    d.push bs = (lossy ((run d.carried bs).1 ++ leftover (run d.carried bs).2), ⟨none⟩) := by
  have hall : ¬ (run d.carried bs).1.all Option.isSome = true := fun hall => by
    simpa using List.all_eq_true.mp hall _ h
  simp [push, hall]

theorem push_of_wellFormed {d : Decoder} {bs : List UInt8} (h : none ∉ (run d.carried bs).1) :
    d.push bs = (lossy (run d.carried bs).1, ⟨(run d.carried bs).2⟩) :=
  push_of_all_some <| List.all_eq_true.mpr fun _ hc =>
    Option.isSome_iff_ne_none.mpr fun he => h (he ▸ hc)

/-- The text of a chunk is that of its octets, and of a character given up. -/
theorem push_fst (d : Decoder) (bs : List UInt8) :
    ∃ cs, (d.push bs).1 = lossy (run d.carried bs).1 ++ cs ∧ (cs = [] ∨ cs = ['\ufffd']) := by
  by_cases hill : none ∈ (run d.carried bs).1
  · rw [push_of_illFormed hill, lossy_append]
    refine ⟨_, rfl, ?_⟩
    cases (run d.carried bs).2 with
    | none => exact .inl rfl
    | some p => exact .inr rfl
  · rw [push_of_wellFormed hill]
    exact ⟨[], (List.append_nil _).symm, .inl rfl⟩

/-- The text of a body in chunks: that of each chunk, and what is carried at the end. -/
def text (d : Decoder) (chunks : List (List UInt8)) : List Char :=
  (d.pushAll chunks).1 ++ (d.pushAll chunks).2.finish

theorem text_cons (d : Decoder) (bs : List UInt8) (rest : List (List UInt8)) :
    d.text (bs :: rest) = (d.push bs).1 ++ (d.push bs).2.text rest :=
  List.append_assoc _ _ _

theorem text_append (d : Decoder) (xs ys : List (List UInt8)) :
    d.text (xs ++ ys) = (d.pushAll xs).1 ++ (d.pushAll xs).2.text ys := by
  induction xs generalizing d with
  | nil => rfl
  | cons bs rest ih => rw [List.cons_append, text_cons, ih, pushAll, List.append_assoc]

/-- A chunk reads what the whole does, unless it gives up a character. -/
theorem decodeFrom_push {d : Decoder} {bs next : List UInt8} (h : ¬ d.GivesUp bs next) :
    lossy (decodeFrom d.carried (bs ++ next)) =
      (d.push bs).1 ++ lossy (decodeFrom (d.push bs).2.carried next) := by
  rw [decodeFrom_append, lossy_append]
  by_cases hill : none ∈ (run d.carried bs).1
  · rw [push_of_illFormed hill, lossy_append, List.append_assoc]
    cases hopen : (run d.carried bs).2 with
    | none => rfl
    | some p =>
        have hnot : ¬ p.GoesOn next := fun hp => h ⟨hill, p, hopen, hp⟩
        rw [decodeFrom_of_not_goesOn hnot]; rfl
  · rw [push_of_wellFormed hill]

/-- A body is read as a whole if no chunk gives up a character. -/
theorem text_eq {d : Decoder} {chunks : List (List UInt8)}
    (h : ∀ before bs after, chunks = before ++ bs :: after →
      ¬ (d.pushAll before).2.GivesUp bs after.flatten) :
    d.text chunks = lossy (decodeFrom d.carried chunks.flatten) := by
  induction chunks generalizing d with
  | nil => rfl
  | cons bs rest ih =>
      have hpush := decodeFrom_push (d := d) (h [] bs rest rfl)
      rw [text_cons, List.flatten_cons, hpush, ih]
      intro before bs' after hrest
      exact h (bs :: before) bs' after (by rw [hrest]; rfl)

/-! ### What giving up costs -/

theorem bounded_push {d : Decoder} (h : ∀ p ∈ d.carried, p.Bounded) (bs : List UInt8) :
    ∀ p ∈ (d.push bs).2.carried, p.Bounded := by
  by_cases hill : none ∈ (run d.carried bs).1
  · rw [push_of_illFormed hill]; nofun
  · rw [push_of_wellFormed hill]; exact bounded_run h bs

theorem bounded_pushAll {d : Decoder} (h : ∀ p ∈ d.carried, p.Bounded)
    (chunks : List (List UInt8)) : ∀ p ∈ (d.pushAll chunks).2.carried, p.Bounded := by
  induction chunks generalizing d with
  | nil => exact h
  | cons bs rest ih => exact ih (bounded_push h bs)

theorem length_lossy (cs : List (Option Char)) : (lossy cs).length = cs.length :=
  List.length_map _

/-- A chunk reads no fewer characters than the whole does, and more if it gives one up. -/
theorem length_push {d : Decoder} (h : ∀ p ∈ d.carried, p.Bounded) (bs next : List UInt8) :
    (decodeFrom d.carried (bs ++ next)).length ≤
        (d.push bs).1.length + (decodeFrom (d.push bs).2.carried next).length ∧
      (d.GivesUp bs next → (decodeFrom d.carried (bs ++ next)).length <
        (d.push bs).1.length + (decodeFrom (d.push bs).2.carried next).length) := by
  rw [decodeFrom_append, List.length_append]
  by_cases hill : none ∈ (run d.carried bs).1
  · rw [push_of_illFormed hill, length_lossy, List.length_append]
    dsimp only
    have hbounded := bounded_run h bs
    cases hopen : (run d.carried bs).2 with
    | none =>
        refine ⟨Nat.le_refl _, fun hg => ?_⟩
        obtain ⟨p, hp, -⟩ := hg.goesOn
        rw [hopen] at hp
        cases hp
    | some p =>
        obtain ⟨hle, hgoes⟩ := length_decodeFrom_some_le (hbounded p hopen) next
        refine ⟨?_, fun hg => ?_⟩
        · simp only [leftover, List.length_singleton]; omega
        · obtain ⟨q, hq, hqgoes⟩ := hg.goesOn
          rw [hopen] at hq
          cases hq
          have := hgoes hqgoes
          simp only [leftover, List.length_singleton]; omega
  · rw [push_of_wellFormed hill, length_lossy]
    exact ⟨Nat.le_refl _, fun hg => absurd hg.illFormed hill⟩

theorem length_pushAll {d : Decoder} (h : ∀ p ∈ d.carried, p.Bounded) (chunks : List (List UInt8))
    (next : List UInt8) :
    (decodeFrom d.carried (chunks.flatten ++ next)).length ≤
      (d.pushAll chunks).1.length + (decodeFrom (d.pushAll chunks).2.carried next).length := by
  induction chunks generalizing d with
  | nil => exact Nat.le_of_eq (Nat.zero_add _).symm
  | cons bs rest ih =>
      have hpush := (length_push h bs (rest.flatten ++ next)).1
      have hrest := ih (bounded_push h bs)
      rw [List.flatten_cons, List.append_assoc, pushAll, List.length_append]
      dsimp only
      omega

theorem length_text {d : Decoder} (h : ∀ p ∈ d.carried, p.Bounded) (chunks : List (List UInt8)) :
    (decodeFrom d.carried chunks.flatten).length ≤ (d.text chunks).length := by
  have hle := length_pushAll h chunks []
  rw [List.append_nil] at hle
  rw [text, List.length_append, finish, length_lossy]
  exact hle

/-- A body in which a chunk gives up a character is read as a longer text. -/
theorem length_text_of_givesUp {d : Decoder} (h : ∀ p ∈ d.carried, p.Bounded)
    {before after : List (List UInt8)} {bs : List UInt8}
    (hgives : (d.pushAll before).2.GivesUp bs after.flatten) :
    (decodeFrom d.carried (before ++ bs :: after).flatten).length <
      (d.text (before ++ bs :: after)).length := by
  have hd := bounded_pushAll h before
  have hbefore := length_pushAll h before (bs ++ after.flatten)
  have hchunk := (length_push hd bs after.flatten).2 hgives
  have hafter := length_text (bounded_push hd bs) after
  rw [List.flatten_append, List.flatten_cons, text_append, text_cons, List.length_append,
    List.length_append]
  omega

/-- **Octets in chunks are read as a whole if and only if no chunk gives up a character** that the
octets behind it go on with. -/
theorem text_of_chunks_iff (chunks : List (List UInt8)) :
    ({} : Decoder).text chunks = lossy (decode chunks.flatten) ↔
      ∀ before bs after, chunks = before ++ bs :: after →
        ¬ (({} : Decoder).pushAll before).2.GivesUp bs after.flatten := by
  refine ⟨fun heq before bs after hchunks hgives => ?_, text_eq⟩
  have hlonger := length_text_of_givesUp (d := {}) nofun hgives
  rw [← hchunks, heq, length_lossy] at hlonger
  exact Nat.lt_irrefl _ hlonger

/-- The first octet of a character is given up with the ill-formed octet in front of it, and the
other one is ill-formed by itself. -/
theorem character_given_up :
    let chunks : List (List UInt8) := [[0xFF, 0xC3], [0xA9]]
    ({} : Decoder).text chunks = ['\ufffd', '\ufffd', '\ufffd'] ∧
      lossy (decode chunks.flatten) = ['\ufffd', 'é'] := by
  decide

end Decoder

end MediaMonitor.Utf8
