import Exemplar.Proofs.Json.Spelling

/-!
# Reading strings and numbers back

However a string or a number is spelled, the readers find its end, with anything behind a
string and with what delimits a value behind a number. What they give is what is spelled:
the characters of a string, the digits of a number.

A string is followed piece by piece. One that is only skipped may have any pieces; one that is
read has the pieces of its characters.
-/

namespace Exemplar.Json

open Exemplar.Reading

variable {rest : List Char}

theorem dropBlanks_append (b : Blanks) {c : Char} (hc : isBlank c = false) :
    dropBlanks (b.chars ++ c :: rest) = c :: rest :=
  b.dropWhile_append_cons hc rest

theorem Delimited.blanks (h : Delimited rest) (b : Blanks) : Delimited (b.chars ++ rest) := by
  intro c hc
  cases hb : b.chars with
  | nil => exact h c (by simpa [hb] using hc)
  | cons d ds =>
    have hd : d = c := by simpa [hb] using hc
    exact .inl (b.blank c (by simp [hb, hd]))

theorem delimited_cons {c : Char} (h : c ∈ [',', ']', '\x7d']) : Delimited (c :: rest) := by
  intro d hd
  cases hd
  exact .inr h

theorem readWord_append (ws rest : List Char) : readWord ws (ws ++ rest) = .ok ((), rest) := by
  induction ws with
  | nil => rfl
  | cons w ws ih => rw [List.cons_append, readWord, if_pos rfl, ih]

/-! ### Strings -/

theorem readUnit_digits (u : CodeUnit) (rest : List Char) :
    readUnit (u.a.char :: u.b.char :: u.c.char :: u.d.char :: rest) = .ok (u.value, rest) := by
  have hdigits : [u.a.char, u.b.char, u.c.char, u.d.char].mapM hexValue? =
      some [u.a.value.val, u.b.value.val, u.c.value.val, u.d.value.val] := by
    simp [HexDigit.hexValue?_char]
  rw [readUnit.eq_def]
  simp only [hdigits, List.foldl_cons, List.foldl_nil, CodeUnit.value, Nat.mul_zero, Nat.zero_add]

theorem readEscape_letter {α : Type} (ofChar : Char → α) (units : List Char → Reading Fault α)
    (e : Escape) (rest : List Char) :
    readEscape ofChar units (e.letter :: rest) = .ok (ofChar e.char, rest) := by
  rw [readEscape, if_neg e.letter_ne_u, e.ofEscape?_letter]

theorem readEscape_units {α : Type} (ofChar : Char → α) (units : List Char → Reading Fault α)
    (rest : List Char) : readEscape ofChar units ('u' :: rest) = units rest := by
  rw [readEscape, if_pos rfl]

theorem skipString_plain {c : Char} (h : IsPlain c) :
    skipString (c :: rest) = skipString rest := by
  rw [skipString.eq_def]
  simp only [if_neg h.1, if_neg h.2.1, if_neg (Nat.not_lt.2 h.2.2)]

theorem skipString_escape {cs : List Char}
    (h : readEscape (fun _ => ()) (fun cs => (readUnit cs).convert fun _ => ()) cs =
      .ok ((), rest)) :
    skipString ('\\' :: cs) = skipString rest := by
  rw [skipString.eq_def]
  simp only [Char.reduceEq, if_true, if_false]
  split
  · rename_i he
    rw [h] at he
    cases he
  · rename_i he
    rw [h] at he
    cases he
    rfl

theorem skipString_piece (p : Piece) (rest : List Char) :
    skipString (p.text ++ rest) = skipString rest := by
  cases p with
  | plain c h => exact skipString_plain h
  | escape e => exact skipString_escape (readEscape_letter _ _ e rest)
  | unit u =>
    refine skipString_escape ((readEscape_units ..).trans ?_)
    exact congrArg (·.convert fun _ => ()) (readUnit_digits u rest)

theorem skipString_pieces (pieces : List Piece) (rest : List Char) :
    skipString (piecesText pieces ++ rest) = .ok ((), rest) := by
  rw [piecesText]
  induction pieces with
  | nil => simp [skipString.eq_def]
  | cons p pieces ih =>
    rw [List.flatMap_cons, List.append_assoc, List.append_assoc, skipString_piece,
      ← List.append_assoc, ih]

theorem readString_plain {c : Char} (h : IsPlain c) :
    readString (c :: rest) = (readString rest).convert (c :: ·) := by
  rw [readString.eq_def]
  simp only [if_neg h.1, if_neg h.2.1, if_neg (Nat.not_lt.2 h.2.2)]

theorem readString_escape {cs : List Char} {c : Char}
    (h : readEscape id readUnits cs = .ok (c, rest)) :
    readString ('\\' :: cs) = (readString rest).convert (c :: ·) := by
  rw [readString.eq_def]
  simp only [Char.reduceEq, if_true, if_false]
  split
  · rename_i he
    rw [h] at he
    cases he
  · rename_i he
    rw [h] at he
    cases he
    rfl

theorem readUnits_unit (u : CodeUnit) (h : u.value < 0xd800 ∨ 0xdfff < u.value)
    (rest : List Char) :
    readUnits (u.a.char :: u.b.char :: u.c.char :: u.d.char :: rest) =
      .ok (Char.ofNat u.value, rest) := by
  have hlow : isLowUnit u.value = false := by
    simp only [isLowUnit, Bool.and_eq_false_imp, decide_eq_true_eq, decide_eq_false_iff_not]
    omega
  have hhigh : isHighUnit u.value = false := by
    simp only [isHighUnit, Bool.and_eq_false_imp, decide_eq_true_eq, decide_eq_false_iff_not]
    omega
  rw [readUnits, readUnit_digits]
  simp [andThen, hlow, hhigh]

theorem readUnits_pair (high low : CodeUnit) (hhigh : 0xd800 ≤ high.value ∧ high.value ≤ 0xdbff)
    (hlow : 0xdc00 ≤ low.value ∧ low.value ≤ 0xdfff) (rest : List Char) :
    readUnits (high.a.char :: high.b.char :: high.c.char :: high.d.char :: (low.text ++ rest)) =
      .ok (ofUnits high.value low.value, rest) := by
  have hnot : isLowUnit high.value = false := by
    simp only [isLowUnit, Bool.and_eq_false_imp, decide_eq_true_eq, decide_eq_false_iff_not]
    omega
  have hhigh' : isHighUnit high.value = true := by simp [isHighUnit, hhigh]
  have hlow' : isLowUnit low.value = true := by simp [isLowUnit, hlow]
  have hread : readLowUnit high.value (low.text ++ rest) =
      .ok (ofUnits high.value low.value, rest) := by
    simp only [CodeUnit.text, List.cons_append, List.nil_append, readLowUnit, readUnit_digits,
      andThen, hlow', if_true]
  rw [readUnits, readUnit_digits]
  simp [andThen, hnot, hhigh', hread]

theorem readString_char (c : SpelledChar) (rest : List Char) :
    readString (c.text ++ rest) = (readString rest).convert (c.char :: ·) := by
  cases c with
  | plain c h => exact readString_plain h
  | escape e => exact readString_escape (readEscape_letter _ _ e rest)
  | unit u h => exact readString_escape ((readEscape_units ..).trans (readUnits_unit u h rest))
  | pair high low hhigh hlow =>
    exact readString_escape
      ((readEscape_units ..).trans (readUnits_pair high low hhigh hlow rest))

/-- A string is read as the characters that are spelled. -/
theorem readString_text (t : SpelledText) (rest : List Char) :
    readString (t.text ++ rest) = .ok (t.chars, rest) := by
  rw [SpelledText.text]
  induction t with
  | nil => simp [readString.eq_def, SpelledText.chars]
  | cons c t ih =>
    rw [List.flatMap_cons, List.append_assoc, List.append_assoc, readString_char,
      ← List.append_assoc, ih]
    rfl

/-! ### Numbers -/

theorem Delimited.head (h : Delimited rest) :
    ∀ c ∈ rest.head?, c.isDigit = false ∧ c ≠ '.' ∧ c ≠ 'e' ∧ c ≠ 'E' := by
  intro c hc
  have hcases : c ∈ [' ', '\n', '\t', '\r', ',', ']', '\x7d'] := by
    simpa [isBlank, or_assoc] using h c hc
  simp only [List.mem_cons, List.not_mem_nil, or_false] at hcases
  rcases hcases with rfl | rfl | rfl | rfl | rfl | rfl | rfl <;> decide

theorem readDigits_append (atEnd : FaultCause) (digits : Digits)
    (h : ∀ c ∈ rest.head?, c.isDigit = false) :
    readDigits atEnd (digits.chars ++ rest) = .ok (digits.chars, rest) := by
  obtain ⟨htake, hdrop⟩ := takeWhile_dropWhile_append digits.isDigit h
  simp only [readDigits, htake, hdrop, List.isEmpty_iff, digits.ne_nil, if_false]

namespace Digits

variable {digits : Digits} {c : Char} {cs : List Char}

theorem head?_of_append_eq_cons (h : digits.chars ++ rest = c :: cs) :
    digits.chars.head? = some c := by
  cases hd : digits.chars with
  | nil => exact absurd hd digits.ne_nil
  | cons d ds =>
    rw [hd, List.cons_append, List.cons.injEq] at h
    rw [List.head?_cons, h.1]

theorem isDigit_of_append_eq_cons (h : digits.chars ++ rest = c :: cs) : c.isDigit = true :=
  digits.isDigit c (List.mem_of_mem_head? (head?_of_append_eq_cons h))

end Digits

theorem SpelledExponent.readExponent_append (e : SpelledExponent) (atEnd : FaultCause)
    (h : ∀ c ∈ rest.head?, c.isDigit = false) :
    readExponent atEnd (e.text ++ rest) =
      .ok (some (e.sign?.getD false, e.digits.chars), rest) := by
  have hdigits := readDigits_append atEnd e.digits h
  have hletter : (if e.capital then 'E' else 'e') = 'e' ∨
      (if e.capital then 'E' else 'e') = 'E' := by cases e.capital <;> decide
  simp only [text, List.cons_append, readExponent, if_pos hletter, List.append_assoc]
  match e.sign? with
  | none =>
    -- The reader looks for a sign first, and the digits must not be taken for one.
    simp only [signText, List.nil_append]
    split
    · rename_i heq
      exact absurd (Digits.isDigit_of_append_eq_cons heq) (by decide)
    · rename_i heq
      exact absurd (Digits.isDigit_of_append_eq_cons heq) (by decide)
    · rw [hdigits]
      rfl
  | some false =>
    simp only [signText, List.cons_append, List.nil_append, hdigits]
    rfl
  | some true =>
    simp only [signText, List.cons_append, List.nil_append, hdigits]
    rfl

namespace SpelledNumeral

variable (n : SpelledNumeral)

theorem head_exponentText (h : Delimited rest) :
    ∀ c ∈ (n.exponentText ++ rest).head?, c.isDigit = false ∧ c ≠ '.' := by
  intro c hc
  rw [exponentText] at hc
  cases he : n.exponent? with
  | none =>
    have hhead := h.head c (by simpa [he] using hc)
    exact ⟨hhead.1, hhead.2.1⟩
  | some e =>
    simp only [he, SpelledExponent.text, List.cons_append, List.head?_cons,
      Option.mem_some_iff] at hc
    subst hc
    cases e.capital <;> decide

theorem head_fractionText (h : Delimited rest) :
    ∀ c ∈ (n.fractionText ++ (n.exponentText ++ rest)).head?, c.isDigit = false := by
  intro c hc
  rw [fractionText] at hc
  cases hf : n.fraction? with
  | none => exact (n.head_exponentText h c (by simpa [hf] using hc)).1
  | some digits =>
    have hpoint : '.' = c := by simpa [hf] using hc
    rw [← hpoint]
    rfl

/-- The digits in front of the point are read. A zero there is the only one. -/
theorem readWhole_append (atEnd : FaultCause) (h : ∀ c ∈ rest.head?, c.isDigit = false) :
    readWhole atEnd (n.whole.chars ++ rest) = .ok (n.whole.chars, rest) := by
  by_cases hzero : n.whole.chars.head? = some '0'
  · rw [n.leading hzero]
    cases rest with
    | nil => rfl
    | cons c rest =>
      have hc : c.isDigit = false := h c rfl
      simp [readWhole, hc]
  · rw [readWhole.eq_def]
    split
    · rename_i heq
      exact absurd (Digits.head?_of_append_eq_cons heq) hzero
    · exact readDigits_append atEnd n.whole h

theorem readFraction_append (atEnd : FaultCause)
    (h : ∀ c ∈ rest.head?, c.isDigit = false ∧ c ≠ '.') :
    readFraction atEnd (n.fractionText ++ rest) = .ok (n.numeral.fraction, rest) := by
  rw [fractionText, numeral]
  cases n.fraction? with
  | none =>
    cases rest with
    | nil => rfl
    | cons c rest =>
      rw [List.nil_append, readFraction.eq_def]
      split
      · rename_i heq
        cases heq
        exact absurd rfl (h '.' rfl).2
      · rfl
  | some digits => exact readDigits_append atEnd digits fun c hc => (h c hc).1

theorem readExponent_append (atEnd : FaultCause) (h : Delimited rest) :
    readExponent atEnd (n.exponentText ++ rest) = .ok (n.numeral.exponent?, rest) := by
  rw [exponentText, numeral]
  cases n.exponent? with
  | none =>
    cases rest with
    | nil => rfl
    | cons c rest =>
      obtain ⟨-, -, hsmall, hcapital⟩ := h.head c rfl
      simp [readExponent, hsmall, hcapital]
  | some e => exact e.readExponent_append atEnd fun c hc => (h.head c hc).1

theorem readUnsigned_append (atEnd : FaultCause) (h : Delimited rest) :
    readUnsigned atEnd n.negative (n.unsignedText ++ rest) = .ok (n.numeral, rest) := by
  have hwhole := n.readWhole_append atEnd (n.head_fractionText h)
  have hfraction := n.readFraction_append atEnd (n.head_exponentText h)
  have hexponent := n.readExponent_append atEnd h
  rw [unsignedText, List.append_assoc, List.append_assoc, readUnsigned, hwhole]
  simp only [andThen, convert, hfraction, hexponent]
  rfl

/-- A number is read as the parts that are spelled. -/
theorem readNumeral_append (atEnd : FaultCause) (h : Delimited rest) :
    readNumeral atEnd (n.text ++ rest) = .ok (n.numeral, rest) := by
  have hread := n.readUnsigned_append atEnd h
  rw [text]
  cases hneg : n.negative with
  | false =>
    simp only [hneg, unsignedText, List.append_assoc] at hread
    simp only [Bool.false_eq_true, if_false, unsignedText, List.append_assoc]
    rw [readNumeral.eq_def]
    split
    · rename_i heq
      exact absurd (Digits.isDigit_of_append_eq_cons heq) (by decide)
    · exact hread
  | true =>
    rw [hneg] at hread
    exact hread

theorem exists_text_eq_cons : ∃ c cs, n.text = c :: cs ∧ (c = '-' ∨ c.isDigit = true) := by
  cases hneg : n.negative with
  | false =>
    obtain ⟨c, cs, hcons⟩ := List.exists_cons_of_ne_nil n.whole.ne_nil
    exact ⟨c, cs ++ (n.fractionText ++ n.exponentText), by simp [text, hneg, unsignedText, hcons],
      .inr (n.whole.isDigit c (by simp [hcons]))⟩
  | true => exact ⟨'-', n.unsignedText, by simp [text, hneg], .inl rfl⟩

end SpelledNumeral

theorem head_of_number {c : Char} (h : c = '-' ∨ c.isDigit = true) :
    isBlank c = false ∧ c ≠ '[' ∧ c ≠ ']' ∧ c ≠ '\x7b' := by
  have hnot : c ∉ [' ', '\n', '\t', '\r', '[', ']', '\x7b'] := by
    intro hc
    simp only [List.mem_cons, List.not_mem_nil, or_false] at hc
    rcases hc with rfl | rfl | rfl | rfl | rfl | rfl | rfl <;> exact absurd h (by decide)
  simpa [isBlank, and_assoc] using hnot

/-! ### The value of a number -/

/-- Digits are taken up to the last one if the number that they make up is in bounds. -/
theorem absorb_of_lt {bound : Nat} (digits : List Char) (n : Nat)
    (h : Nat.ofDigitChars 10 digits n < bound) :
    absorb bound n digits = (Nat.ofDigitChars 10 digits n, []) := by
  induction digits generalizing n with
  | nil => rfl
  | cons c digits ih =>
    rw [Nat.ofDigitChars_cons] at h ⊢
    -- A number only grows with its digits, so it is in bounds after each of them.
    have hle : 10 * n + digitValue c ≤
        Nat.ofDigitChars 10 digits (10 * n + (c.toNat - '0'.toNat)) := by
      rw [Nat.ofDigitChars_eq_ofDigitChars_zero]
      exact Nat.le_add_right_of_le (Nat.le_mul_of_pos_left _ (Nat.pow_pos (by decide)))
    rw [absorb, if_pos (Nat.lt_of_le_of_lt hle h)]
    exact ih _ h

theorem toDigits_of_head?_eq_zero {k : Nat} (h : (Nat.toDigits 10 k).head? = some '0') :
    Nat.toDigits 10 k = ['0'] := by
  induction k using Nat.strongRecOn with
  | ind k ih =>
    rcases Nat.lt_or_ge k 10 with hk | hk
    · rw [Nat.toDigits_of_lt_base hk] at h ⊢
      rw [Option.some.inj h]
    · rw [Nat.toDigits_of_base_le (by decide) hk] at h
      have hfront : Nat.toDigits 10 (k / 10) = ['0'] := by
        obtain ⟨d, ds, hcons⟩ := List.exists_cons_of_ne_nil (Nat.toDigits_ne_nil (n := k / 10))
        rw [hcons] at h
        exact ih (k / 10) (by omega) (by rw [hcons]; exact h)
      have hzero : k / 10 = 0 := by
        rw [← Nat.ofDigitChars_ten_toDigits (n := k / 10), hfront]
        rfl
      omega

def SpelledNumeral.ofInt (n : Int) : SpelledNumeral where
  negative := n < 0
  whole := {
    chars := Nat.toDigits 10 n.natAbs
    isDigit := fun _ hc => Nat.isDigit_of_mem_toDigits (by decide) (by decide) hc
    ne_nil := Nat.toDigits_ne_nil }
  leading := toDigits_of_head?_eq_zero
  fraction? := none
  exponent? := none

theorem significand_ofInt {n : Int} (h : n.natAbs < Nat.pow 2 64) :
    (SpelledNumeral.ofInt n).numeral.significand = (n.natAbs, 0) := by
  have hdigits : absorb (Nat.pow 2 64) 0 (Nat.toDigits 10 n.natAbs) = (n.natAbs, []) := by
    rw [absorb_of_lt _ _ (by rwa [Nat.ofDigitChars_ten_toDigits]), Nat.ofDigitChars_ten_toDigits]
  simp [Numeral.significand, SpelledNumeral.numeral, SpelledNumeral.ofInt, hdigits, absorb]

/-- A number without fraction and exponent is an integer, if 64 bits hold it. -/
theorem value_of_significand {n : Numeral} {k : Nat} (hfraction : n.fraction = [])
    (hexponent : n.exponent? = none) (hsignificand : n.significand = (k, 0))
    (hsign : (!n.negative) = true ∨ 0 < k ∧ k ≤ Nat.pow 2 63) (rest : List Char) :
    n.value rest = .ok (.int (if n.negative then -(k : Int) else k), rest) := by
  rw [Numeral.value, hsignificand]
  exact if_pos ⟨hfraction, hexponent, rfl, hsign⟩

theorem value_ofInt {n : Int} (hleast : -(Nat.pow 2 63 : Nat) ≤ n) (hgreatest : n < Nat.pow 2 64)
    (rest : List Char) : (SpelledNumeral.ofInt n).numeral.value rest = .ok (.int n, rest) := by
  have hbound : n.natAbs < Nat.pow 2 64 := by
    simp only [Nat.pow_eq] at *
    omega
  have hnegative : (SpelledNumeral.ofInt n).numeral.negative = decide (n < 0) := rfl
  have hvalue : (if decide (n < 0) = true then -(n.natAbs : Int) else n.natAbs) = n := by
    simp only [decide_eq_true_eq]
    split <;> omega
  rw [value_of_significand rfl rfl (significand_ofInt hbound), hnegative, hvalue]
  rw [hnegative, Bool.not_eq_true', decide_eq_false_iff_not]
  omega

/-- What is behind a number does not change its value. -/
theorem value_of_value_nil {n : Numeral} {x : Number} (h : n.value [] = .ok (x, []))
    (rest : List Char) : n.value rest = .ok (x, rest) := by
  simp only [Numeral.value] at h ⊢
  split at h
  · rename_i hinteger
    rw [if_pos hinteger]
    cases h
    rfl
  · rename_i hinteger
    rw [if_neg hinteger]
    split at h
    · rename_i hbeyond
      rw [if_pos hbeyond]
      split at h
      · cases h
      · rename_i hrange
        rw [if_neg hrange]
        cases h
        rfl
    · rename_i hbeyond
      rw [if_neg hbeyond]
      split at h
      · cases h
        rfl
      · cases h

end Exemplar.Json
