import MediaMonitor.Text.Utf8

/-!
# Reading what was written in UTF-8

`run_ofText`: the octets of a text are read as its characters, and leave no character open.  So a
text that arrives in chunks is read as a whole, wherever the chunks end (`Decoder.pushAll_ofText`):
a chunk of well-formed octets is read as it stands, and what it cuts short is carried to the next
one.
-/

namespace MediaMonitor.Utf8

/-! ### One character -/

/-- The first octet of a character of two. -/
theorem lead_two {b : UInt8} (h₁ : 0xC2 ≤ b.toNat) (h₂ : b.toNat ≤ 0xDF) :
    lead b = .opens ⟨b.toNat - 0xC0, 0x80, 0xBF, 1⟩ := by
  simp only [lead]
  rw [if_neg (by omega), if_pos ⟨h₁, h₂⟩]

/-- The first octet of a character of three: the next one is bounded further where shorter forms
and surrogates lie. -/
theorem lead_three {b : UInt8} (h₁ : 0xE0 ≤ b.toNat) (h₂ : b.toNat ≤ 0xEF) :
    lead b = .opens ⟨b.toNat - 0xE0, if b.toNat = 0xE0 then 0xA0 else 0x80,
      if b.toNat = 0xED then 0x9F else 0xBF, 2⟩ := by
  simp only [lead]
  rw [if_neg (by omega), if_neg (by omega)]
  by_cases e₀ : b.toNat = 0xE0
  · simp [e₀]
  by_cases e₁ : b.toNat = 0xED
  · simp [e₁]
  rw [if_neg e₀, if_neg e₁, if_pos (by omega), if_neg e₀, if_neg e₁]

/-- The first octet of a character of four: the next one is bounded further where shorter forms
and numbers beyond the last character lie. -/
theorem lead_four {b : UInt8} (h₁ : 0xF0 ≤ b.toNat) (h₂ : b.toNat ≤ 0xF4) :
    lead b = .opens ⟨b.toNat - 0xF0, if b.toNat = 0xF0 then 0x90 else 0x80,
      if b.toNat = 0xF4 then 0x8F else 0xBF, 3⟩ := by
  simp only [lead]
  rw [if_neg (by omega), if_neg (by omega), if_neg (by omega), if_neg (by omega),
    if_neg (by omega)]
  by_cases e₀ : b.toNat = 0xF0
  · simp [e₀]
  by_cases e₁ : b.toNat = 0xF4
  · simp [e₁]
  rw [if_neg e₀, if_pos (by omega), if_neg e₀, if_neg e₁]

/-- An octet that opens a character, and the rest. -/
theorem run_opens {b : UInt8} {p : Partial} (h : lead b = .opens p) (bs : List UInt8) :
    run none (b :: bs) = run (some p) bs := by
  simp [run, step, start, h]

/-- An octet in range after which more are owed, and the rest. -/
theorem run_more {bits least greatest owed : Nat} {b : UInt8} (h₁ : least ≤ b.toNat)
    (h₂ : b.toNat ≤ greatest) (bs : List UInt8) :
    run (some ⟨bits, least, greatest, owed + 2⟩) (b :: bs) =
      run (some ⟨bits * 64 + (b.toNat - 0x80), 0x80, 0xBF, owed + 1⟩) bs := by
  simp [run, step, h₁, h₂]

/-- An octet in range that ends a character. -/
theorem run_last {bits least greatest : Nat} {b : UInt8} (h₁ : least ≤ b.toNat)
    (h₂ : b.toNat ≤ greatest) :
    run (some ⟨bits, least, greatest, 1⟩) [b] =
      ([some (Char.ofNat (bits * 64 + (b.toNat - 0x80)))], none) := by
  simp [run, step, h₁, h₂]

theorem toNat_ofNat_of_lt {n : Nat} (h : n < 256) : (UInt8.ofNat n).toNat = n := by
  simp [Nat.mod_eq_of_lt h]

/-- The octets of a character are read as that character. -/
theorem run_ofChar (c : Char) : run none (String.utf8EncodeChar c) = ([some c], none) := by
  have hv : c.val.toNat < 0xD800 ∨ (0xDFFF < c.val.toNat ∧ c.val.toNat < 0x110000) := c.valid
  have hc : ∀ n, n = c.val.toNat → Char.ofNat n = c := fun n h => h ▸ Char.ofNat_toNat c
  unfold String.utf8EncodeChar
  generalize c.val.toNat = v at hv hc
  dsimp only
  have e₃ := toNat_ofNat_of_lt (show v % 0x40 + 0x80 < 256 by omega)
  have e₂ := toNat_ofNat_of_lt (show v / 64 % 0x40 + 0x80 < 256 by omega)
  have e₁ := toNat_ofNat_of_lt (show v / 4096 % 0x40 + 0x80 < 256 by omega)
  split
  · rename_i h
    simp [run, step, start, lead, toNat_ofNat_of_lt (show v < 256 by omega), h, hc v rfl]
  split
  · have e₀ := toNat_ofNat_of_lt (show v / 64 % 0x20 + 0xc0 < 256 by omega)
    rw [run_opens (lead_two (by omega) (by omega)), run_last (by omega) (by omega), hc _ (by omega)]
  split
  · have e₀ := toNat_ofNat_of_lt (show v / 4096 % 0x10 + 0xe0 < 256 by omega)
    rw [run_opens (lead_three (by omega) (by omega)),
      run_more (by split <;> omega) (by split <;> omega), run_last (by omega) (by omega),
      hc _ (by omega)]
  · have e₀ := toNat_ofNat_of_lt (show v / 262144 % 0x08 + 0xf0 < 256 by omega)
    rw [run_opens (lead_four (by omega) (by omega)),
      run_more (by split <;> omega) (by split <;> omega), run_more (by omega) (by omega),
      run_last (by omega) (by omega), hc _ (by omega)]

/-! ### A text, and a text in chunks -/

/-- The octets of a text are read as its characters, and none is left open. -/
theorem run_ofText (s : String) : run none (ofText s) = (s.toList.map some, none) := by
  unfold ofText
  induction s.toList with
  | nil => rfl
  | cons c cs ih => rw [List.flatMap_cons, run_append, run_ofChar, ih]; rfl

theorem decode_ofText (s : String) : decode (ofText s) = s.toList.map some := by
  rw [decode, run_ofText]
  exact List.append_nil _

theorem wellFormed_map_some (cs : List Char) : wellFormed (cs.map some) = some cs := by
  induction cs with
  | nil => rfl
  | cons c cs ih => rw [List.map_cons, wellFormed, ih, Option.map_some]

theorem toText?_ofText (s : String) : toText? (ofText s) = some s := by
  rw [toText?, decode_ofText, wellFormed_map_some, Option.map_some, String.ofList_toList]

/-- What is well-formed as a whole is read as the text it is. -/
theorem lossy_map_some (cs : List Char) : lossy (cs.map some) = cs := by
  simp [lossy, Function.comp_def]

theorem lossy_append (xs ys : List (Option Char)) : lossy (xs ++ ys) = lossy xs ++ lossy ys := by
  simp [lossy]

namespace Decoder

/-- Reads chunks one after another: their text, and the decoder after them. -/
def pushAll (d : Decoder) : List (List UInt8) → List Char × Decoder
  | [] => ([], d)
  | bs :: rest =>
      let r := d.push bs
      let s := r.2.pushAll rest
      (r.1 ++ s.1, s.2)

/-- A chunk without an ill-formed part: what it cuts short is carried. -/
theorem push_of_all_some {d : Decoder} {bs : List UInt8}
    (h : (run d.carried bs).1.all Option.isSome = true) :
    d.push bs = (lossy (run d.carried bs).1, ⟨(run d.carried bs).2⟩) := by
  simp [push, h]

/-- **Where the chunks end makes no difference**, as long as no part of the whole is ill-formed. -/
theorem pushAll_of_all_some {d : Decoder} : ∀ {chunks : List (List UInt8)},
    (run d.carried chunks.flatten).1.all Option.isSome = true →
    d.pushAll chunks =
      (lossy (run d.carried chunks.flatten).1, ⟨(run d.carried chunks.flatten).2⟩)
  | [], _ => rfl
  | bs :: rest, h => by
      rw [List.flatten_cons, run_append] at h ⊢
      simp only [List.all_append, Bool.and_eq_true] at h
      rw [pushAll, push_of_all_some h.1]
      simp only [pushAll_of_all_some (d := ⟨(run d.carried bs).2⟩) h.2, lossy_append]

/-- **A text that arrives in chunks is read as a whole.** -/
theorem pushAll_ofText {s : String} {chunks : List (List UInt8)} (h : chunks.flatten = ofText s) :
    ({} : Decoder).pushAll chunks = (s.toList, {}) := by
  have hrun : run ({} : Decoder).carried chunks.flatten = (s.toList.map some, none) := by
    rw [h]; exact run_ofText s
  rw [pushAll_of_all_some (by rw [hrun]; simp), hrun, lossy_map_some]

end Decoder

end MediaMonitor.Utf8
