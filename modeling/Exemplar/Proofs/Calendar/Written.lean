import Exemplar.Calendar.Expression
import Exemplar.Proofs.Blanks

/-!
# The shape of an expression

A text is an expression if it has the shape of one: a base, which may be left out, and a row
of adjustments, each of them a sign, digits and letters, with blanks anywhere between these. A
`WrittenExpression` is a text that is taken apart in this way.

Of a text that has the shape, the base is known, and the adjustments are searched for in the
text of the row. There may be two ways to take a text apart, since blanks in front of the
first sign belong to the row or, where there is no base, stand before it. Nothing depends on
it: `Expression.parse?_eq_some_iff` holds of either.

No character is of two kinds, so every part of an adjustment ends where the next one begins.
A reader that takes each of them as far as it goes finds the only way there is.
-/

namespace Exemplar.Unicode

theorem CodePoints.has_eq_false_of_has {s t : CodePoints}
    (h : ∀ r ∈ s, ∀ r' ∈ t, r.2 < r'.1 ∨ r'.2 < r.1) {c : Char} (hc : s.has c = true) :
    t.has c = false := by
  rw [has, List.any_eq_true] at hc
  obtain ⟨r, hr, hin⟩ := hc
  rw [has, List.any_eq_false]
  intro r' hr'
  have := h r hr r' hr'
  simp only [Bool.and_eq_true, decide_eq_true_eq] at hin ⊢
  omega

end Exemplar.Unicode

namespace Exemplar.Calendar

open Unicode (CodePoints isBlank isDecimalDigit)

/-! ## Kinds of characters -/

section Kinds

variable {c : Char}

theorem isUnitLetter_eq_has (c : Char) : isUnitLetter c = CodePoints.has [(0x61, 0x7a)] c := by
  simp [isUnitLetter, CodePoints.has, Char.le_def, UInt32.le_iff_toNat_le]

theorem isBlank_of_isUnitLetter (h : isUnitLetter c = true) : isBlank c = false :=
  CodePoints.has_eq_false_of_has (by decide) (isUnitLetter_eq_has c ▸ h)

theorem isBlank_of_isDecimalDigit (h : isDecimalDigit c = true) : isBlank c = false :=
  CodePoints.has_eq_false_of_has (by decide +kernel) h

theorem isDecimalDigit_of_isUnitLetter (h : isUnitLetter c = true) : isDecimalDigit c = false :=
  CodePoints.has_eq_false_of_has (by decide) (isUnitLetter_eq_has c ▸ h)

theorem isDecimalDigit_of_isBlank (h : isBlank c = true) : isDecimalDigit c = false :=
  CodePoints.has_eq_false_of_has (by decide +kernel) h

theorem isUnitLetter_of_isBlank (h : isBlank c = true) : isUnitLetter c = false := by
  rw [isUnitLetter_eq_has]
  exact CodePoints.has_eq_false_of_has (by decide) h

theorem direction?_of_isBlank (h : isBlank c = true) : Adjustment.direction? c = none := by
  have hplus : c ≠ '+' := by
    rintro rfl
    exact absurd h (by decide)
  have hminus : c ≠ '-' := by
    rintro rfl
    exact absurd h (by decide)
  rw [Adjustment.direction?, if_neg hplus, if_neg hminus]

end Kinds

theorem mem_of_mem_head?_append {xs ys : List Char} (h : xs ≠ []) {c : Char}
    (hc : c ∈ (xs ++ ys).head?) : c ∈ xs := by
  obtain ⟨d, ds, rfl⟩ := List.exists_cons_of_ne_nil h
  obtain rfl : d = c := by simpa using hc
  exact List.mem_cons_self

/-! ## Texts taken apart -/

abbrev Blanks := Exemplar.Blanks isBlank

/-- An adjustment as it stands in a text. Digits may be of any script, and letters need not
be the word for a unit. -/
structure WrittenAdjustment where
  front : Blanks
  forward : Bool
  behindSign : Blanks
  digits : List Char
  behindDigits : Blanks
  letters : List Char
  digits_ne_nil : digits ≠ []
  isDecimalDigit_of_mem : ∀ c ∈ digits, isDecimalDigit c = true
  letters_ne_nil : letters ≠ []
  isUnitLetter_of_mem : ∀ c ∈ letters, isUnitLetter c = true

namespace WrittenAdjustment

variable (w : WrittenAdjustment)

def sign : Char := if w.forward then '+' else '-'

def body : List Char :=
  w.behindSign.chars ++ (w.digits ++ (w.behindDigits.chars ++ w.letters))

def text : List Char := w.sign :: w.body

def reading : Adjustment := ⟨w.forward, w.digits, w.letters, w.text⟩

end WrittenAdjustment

def rowText (row : List WrittenAdjustment) : List Char :=
  row.flatMap fun w => w.front.chars ++ w.text

/-- A text with the shape of an expression. -/
structure WrittenExpression where
  front : Blanks
  base? : Option Base
  row : List WrittenAdjustment
  back : Blanks

def WrittenExpression.chars (w : WrittenExpression) : List Char :=
  w.front.chars ++ (w.base?.elim [] Base.word ++ (rowText w.row ++ w.back.chars))

/-! ## One adjustment -/

namespace Adjustment

variable {c : Char} {cs rest : List Char} {a : Adjustment} {forward : Bool}

theorem direction?_eq_some_iff :
    direction? c = some forward ↔ c = if forward then '+' else '-' := by
  rw [direction?]
  split
  · next h => cases forward <;> simp [h]
  · next h =>
    split
    · next h' => cases forward <;> simp [h']
    · next h' => cases forward <;> simp [h, h']

end Adjustment

namespace WrittenAdjustment

variable (w : WrittenAdjustment) {rest : List Char}

theorem direction?_sign : Adjustment.direction? w.sign = some w.forward :=
  Adjustment.direction?_eq_some_iff.2 rfl

theorem isBlank_sign : isBlank w.sign = false := by
  rw [sign]
  cases w.forward <;> decide

theorem isUnitLetter_sign : isUnitLetter w.sign = false := by
  rw [sign]
  cases w.forward <;> rfl

theorem split?_sign (hrest : ∀ c ∈ rest.head?, isUnitLetter c = false) :
    Adjustment.split? w.sign (w.body ++ rest) = some (w.reading, rest) := by
  have hbody : w.body ++ rest = w.behindSign.chars ++
      (w.digits ++ (w.behindDigits.chars ++ (w.letters ++ rest))) := by
    simp only [body, List.append_assoc]
  have hletter : ∀ c ∈ (w.letters ++ rest).head?, isUnitLetter c = true :=
    fun c hc => w.isUnitLetter_of_mem c (mem_of_mem_head?_append w.letters_ne_nil hc)
  have hsign : (w.body ++ rest).dropWhile isBlank =
      w.digits ++ (w.behindDigits.chars ++ (w.letters ++ rest)) := by
    rw [hbody]
    refine w.behindSign.dropWhile_append_of_head? fun c hc => isBlank_of_isDecimalDigit ?_
    exact w.isDecimalDigit_of_mem c (mem_of_mem_head?_append w.digits_ne_nil hc)
  obtain ⟨htake, hdrop⟩ := Reading.takeWhile_dropWhile_append w.isDecimalDigit_of_mem
    (w.behindDigits.head?_append (fun _ => isDecimalDigit_of_isBlank)
      fun c hc => isDecimalDigit_of_isUnitLetter (hletter c hc))
  have hdigits : (w.behindDigits.chars ++ (w.letters ++ rest)).dropWhile isBlank =
      w.letters ++ rest :=
    w.behindDigits.dropWhile_append_of_head? fun c hc => isBlank_of_isUnitLetter (hletter c hc)
  obtain ⟨htake', hdrop'⟩ := Reading.takeWhile_dropWhile_append w.isUnitLetter_of_mem hrest
  have htext : (w.body ++ rest).take ((w.body ++ rest).length - rest.length) = w.body := by
    rw [List.length_append, Nat.add_sub_cancel, List.take_left]
  simp only [Adjustment.split?, w.direction?_sign, Option.bind_some, hsign, htake, hdrop,
    hdigits, htake', hdrop', htext]
  rw [if_neg (not_or.2 ⟨w.digits_ne_nil, w.letters_ne_nil⟩)]
  rfl

/-- What is read as an adjustment is one. -/
theorem exists_of_split? {c : Char} {cs : List Char} {a : Adjustment}
    (h : Adjustment.split? c cs = some (a, rest)) (front : Blanks) :
    ∃ w : WrittenAdjustment, w.front = front ∧ w.reading = a ∧ c :: cs = w.text ++ rest := by
  rw [Adjustment.split?, Option.bind_eq_some_iff] at h
  obtain ⟨forward, hforward, h⟩ := h
  dsimp only at h
  rw [Option.ite_none_left_eq_some, not_or] at h
  obtain ⟨⟨hdigits, hletters⟩, h⟩ := h
  obtain ⟨rfl, rfl⟩ := Prod.mk.inj (Option.some.inj h)
  let behindSign := cs.dropWhile isBlank
  let behindDigits := behindSign.dropWhile isDecimalDigit
  let unit := behindDigits.dropWhile isBlank
  let w : WrittenAdjustment :=
    { front, forward
      behindSign := .before cs
      digits := behindSign.takeWhile isDecimalDigit
      behindDigits := .before behindDigits
      letters := unit.takeWhile isUnitLetter
      digits_ne_nil := hdigits
      isDecimalDigit_of_mem := List.all_eq_true.1 List.all_takeWhile
      letters_ne_nil := hletters
      isUnitLetter_of_mem := List.all_eq_true.1 List.all_takeWhile }
  have hcs : cs = w.body ++ unit.dropWhile isUnitLetter := by
    simp only [w, body, unit, behindDigits, behindSign, List.append_assoc,
      List.takeWhile_append_dropWhile, Blanks.before_append_dropWhile]
  have hsign : w.sign = c := (Adjustment.direction?_eq_some_iff.1 hforward).symm
  -- The reader tells the text of the adjustment by what it leaves over.
  have htake : ∀ taken left, cs = taken ++ left → cs.take (cs.length - left.length) = taken := by
    rintro taken left rfl
    simp
  refine ⟨w, rfl, ?_, ?_⟩
  · rw [reading, text, hsign, ← htake _ _ hcs]
  · rw [text, hsign, List.cons_append, ← hcs]

end WrittenAdjustment

/-! ## A row of adjustments -/

section Row

variable (row : List WrittenAdjustment) (back : Blanks)

theorem rowText_cons (w : WrittenAdjustment) :
    rowText (w :: row) = w.front.chars ++ (w.sign :: (w.body ++ rowText row)) := by
  simp [rowText, WrittenAdjustment.text]

theorem head?_rowText_append :
    ∀ c ∈ (rowText row ++ back.chars).head?, isUnitLetter c = false := by
  cases row with
  | nil =>
      intro c hc
      exact isUnitLetter_of_isBlank (back.blank c (List.mem_of_mem_head? hc))
  | cons w row =>
      rw [rowText_cons, List.append_assoc]
      refine w.front.head?_append (fun _ => isUnitLetter_of_isBlank) ?_
      simpa using w.isUnitLetter_sign

theorem dropWhile_rowText_cons (w : WrittenAdjustment) :
    (rowText (w :: row) ++ back.chars).dropWhile isBlank =
      w.sign :: (w.body ++ (rowText row ++ back.chars)) := by
  rw [rowText_cons, List.append_assoc, List.cons_append, List.append_assoc]
  exact w.front.dropWhile_append_cons w.isBlank_sign _

theorem head?_dropWhile_rowText :
    ∀ c ∈ ((rowText row ++ back.chars).dropWhile isBlank).head?, isUnitLetter c = false := by
  cases row with
  | nil =>
      rw [rowText, List.flatMap_nil, List.nil_append, back.dropWhile_chars]
      nofun
  | cons w row =>
      rw [dropWhile_rowText_cons]
      simpa using w.isUnitLetter_sign

end Row

namespace Adjustment

variable {cs ds rest : List Char} {c : Char} {a : Adjustment} {as : List Adjustment}

theorem readAll?_of_nil (h : cs.dropWhile isBlank = []) : readAll? cs = some [] := by
  rw [readAll?]
  split
  · rfl
  · simp_all

theorem readAll?_of_none (h : cs.dropWhile isBlank = c :: ds) (ha : split? c ds = none) :
    readAll? cs = none := by
  rw [readAll?]
  split
  · simp_all
  · split <;> simp_all

theorem readAll?_of_some (h : cs.dropWhile isBlank = c :: ds)
    (ha : split? c ds = some (a, rest)) : readAll? cs = (readAll? rest).map (a :: ·) := by
  rw [readAll?]
  split
  · simp_all
  · split <;> simp_all

theorem readAll?_append (b : Blanks) (cs : List Char) : readAll? (b.chars ++ cs) = readAll? cs := by
  have hdrop := b.dropWhile_append cs
  cases h : cs.dropWhile isBlank with
  | nil => rw [readAll?_of_nil (hdrop.trans h), readAll?_of_nil h]
  | cons c ds =>
      cases ha : split? c ds with
      | none => rw [readAll?_of_none (hdrop.trans h) ha, readAll?_of_none h ha]
      | some read => rw [readAll?_of_some (hdrop.trans h) ha, readAll?_of_some h ha]

theorem readAll?_dropWhile (cs : List Char) : readAll? (cs.dropWhile isBlank) = readAll? cs := by
  rw [← readAll?_append (.before cs), Blanks.before_append_dropWhile]

theorem readAll?_rowText (row : List WrittenAdjustment) (back : Blanks) :
    readAll? (rowText row ++ back.chars) = some (row.map (·.reading)) := by
  induction row with
  | nil => exact readAll?_of_nil back.dropWhile_chars
  | cons w row ih =>
      have hsplit := w.split?_sign (head?_rowText_append row back)
      rw [readAll?_of_some (dropWhile_rowText_cons row back w) hsplit, ih]
      rfl

theorem exists_row_of_readAll? (h : readAll? cs = some as) :
    ∃ (row : List WrittenAdjustment) (back : Blanks),
      cs = rowText row ++ back.chars ∧ row.map (·.reading) = as := by
  fun_induction readAll? cs generalizing as with
  | case1 cs hblank =>
      cases h
      refine ⟨[], .before cs, ?_, rfl⟩
      have hcs : (Blanks.before cs).chars ++ cs.dropWhile isBlank = cs :=
        Blanks.before_append_dropWhile cs
      rw [hblank, List.append_nil] at hcs
      exact hcs.symm
  | case2 => cases h
  | case3 cs c ds hblank a rest hsplit ih =>
      obtain ⟨as, hrest, rfl⟩ := Option.map_eq_some_iff.1 h
      obtain ⟨row, back, rfl, rfl⟩ := ih hrest
      obtain ⟨w, hfront, rfl, hcs⟩ := WrittenAdjustment.exists_of_split? hsplit (.before cs)
      refine ⟨w :: row, back, ?_, rfl⟩
      calc
        cs = (Blanks.before cs).chars ++ c :: ds :=
          hblank ▸ (Blanks.before_append_dropWhile cs).symm
        _ = w.front.chars ++ (w.text ++ (rowText row ++ back.chars)) := by rw [hcs, hfront]
        _ = rowText (w :: row) ++ back.chars := by simp [rowText]

/-! ## The search for adjustments -/

theorem scan_of_none (ha : split? c cs = none) : scan (c :: cs) = scan cs := by
  rw [scan]
  split <;> simp_all

theorem scan_of_some (ha : split? c cs = some (a, rest)) : scan (c :: cs) = a :: scan rest := by
  rw [scan]
  split <;> simp_all

/-- No adjustment begins with a blank. -/
theorem scan_append_of_blank (b : Blanks) (cs : List Char) : scan (b.chars ++ cs) = scan cs := by
  obtain ⟨chars, hchars⟩ := b
  induction chars with
  | nil => rfl
  | cons c chars ih =>
      obtain ⟨hc, hchars⟩ := List.forall_mem_cons.1 hchars
      have hnone : split? c (chars ++ cs) = none := by
        rw [split?, direction?_of_isBlank hc, Option.bind_none]
      exact (scan_of_none hnone).trans (ih hchars)

theorem scan_rowText (row : List WrittenAdjustment) :
    scan (rowText row) = row.map (·.reading) := by
  induction row with
  | nil => rw [rowText, List.flatMap_nil, scan, List.map_nil]
  | cons w row ih =>
      have hrest : ∀ c ∈ (rowText row).head?, isUnitLetter c = false := by
        have hnone := head?_rowText_append row .none
        rwa [Blanks.none, List.append_nil] at hnone
      rw [rowText_cons, scan_append_of_blank, scan_of_some (w.split?_sign hrest), ih]
      rfl

end Adjustment

/-! ## Expressions -/

namespace Base

theorem split?_word (b : Base) (rest : List Char) : split? (b.word ++ rest) = (some b, rest) := by
  cases b <;> rfl

theorem word_ne_nil (b : Base) : b.word ≠ [] := by
  cases b <;> decide

theorem isUnitLetter_of_mem_word (b : Base) {c : Char} (h : c ∈ b.word) :
    isUnitLetter c = true := by
  have hall : b.word.all isUnitLetter = true := by cases b <;> decide
  exact List.all_eq_true.1 hall c h

theorem split?_of_head? {cs : List Char} (h : ∀ c ∈ cs.head?, isUnitLetter c = false) :
    split? cs = (none, cs) := by
  have hnone : ∀ b ∈ all, ¬ b.word.isPrefixOf cs = true := by
    intro b hb hfront
    obtain ⟨rest, rfl⟩ := List.isPrefixOf_iff_prefix.1 hfront
    cases b <;> simp [word, isUnitLetter] at h
  rw [split?, List.find?_eq_none.2 hnone]

theorem eq_append_of_split? {cs rest : List Char} {base? : Option Base}
    (h : split? cs = (base?, rest)) : cs = base?.elim [] Base.word ++ rest := by
  rw [split?] at h
  split at h
  · next b hb =>
    cases h
    have hfront : b.word.isPrefixOf cs = true := by simpa using List.find?_some hb
    obtain ⟨rest, rfl⟩ := List.isPrefixOf_iff_prefix.1 hfront
    simp
  · cases h
    rfl

end Base

namespace Expression

variable {cs : List Char} {e : Expression}

theorem parse?_chars (w : WrittenExpression) :
    parse? w.chars = some ⟨w.base?, w.row.map (·.reading)⟩ := by
  rw [WrittenExpression.chars, parse?, Blanks.dropWhile_append]
  cases w.base? with
  | none =>
      simp only [Option.elim_none, List.nil_append,
        Base.split?_of_head? (head?_dropWhile_rowText w.row w.back),
        Adjustment.readAll?_dropWhile, Adjustment.readAll?_rowText, Option.map_some]
  | some b =>
      have hword : (b.word ++ (rowText w.row ++ w.back.chars)).dropWhile isBlank =
          b.word ++ (rowText w.row ++ w.back.chars) := by
        refine Blanks.none.dropWhile_append_of_head? fun c hc => isBlank_of_isUnitLetter ?_
        exact b.isUnitLetter_of_mem_word (mem_of_mem_head?_append b.word_ne_nil hc)
      simp only [Option.elim_some, hword, Base.split?_word, Adjustment.readAll?_rowText,
        Option.map_some]

theorem exists_written_of_parse? (h : parse? cs = some e) :
    ∃ w : WrittenExpression, w.chars = cs ∧ e = ⟨w.base?, w.row.map (·.reading)⟩ := by
  rw [parse?] at h
  cases hsplit : Base.split? (cs.dropWhile isBlank) with
  | mk base? rest =>
      rw [hsplit] at h
      obtain ⟨as, has, rfl⟩ := Option.map_eq_some_iff.1 h
      obtain ⟨row, back, rfl, rfl⟩ := Adjustment.exists_row_of_readAll? has
      refine ⟨⟨.before cs, base?, row, back⟩, ?_, rfl⟩
      rw [WrittenExpression.chars, ← Base.eq_append_of_split? hsplit,
        Blanks.before_append_dropWhile]

/-- An expression is a text with the shape of one. However it is taken apart, its base is the
one that is read, and its adjustments are those that a search finds in the text of the row. -/
theorem parse?_eq_some_iff :
    parse? cs = some e ↔ ∃ w : WrittenExpression, w.chars = cs ∧ e.base? = w.base? ∧
      e.adjustments = Adjustment.scan (rowText w.row) := by
  constructor
  · intro h
    obtain ⟨w, rfl, rfl⟩ := exists_written_of_parse? h
    exact ⟨w, rfl, rfl, (Adjustment.scan_rowText w.row).symm⟩
  · rintro ⟨w, rfl, hbase, hadjustments⟩
    rw [parse?_chars, ← hbase, ← Adjustment.scan_rowText, ← hadjustments]

end Expression

end Exemplar.Calendar
