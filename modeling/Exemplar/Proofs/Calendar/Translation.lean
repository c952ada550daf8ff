import Exemplar.Calendar.Translation
import Exemplar.Proofs.Calendar.Grammar
import Exemplar.Proofs.Calendar.Literal

/-!
# Translated patterns show the same

A pattern is read by way of marks, pieces and symbols, or translated in one pass with a
buffer. Both go by what stands at the front of a text, which is a pair of quotes, a literal, a
run of a letter or another character, and stand behind it as they would stand at the beginning
of the rest. So the parts of a draft are those of the symbols that have been read:
`translate_parts`.

A buffer must not be taken apart, since what is a directive depends on the characters in front
of it. It does not come to that, as all that is put into the buffer is `Whole`: it is read in
the same way whatever stands behind it. So no directive is broken, the formatter has nothing
to object to, and both ways of reading lead to the same texts: `Translation.agrees`.
-/

namespace Exemplar.Calendar

variable {text rest literal : List Char} {c : Char} {n : Nat}

/-! ## What stands at the front of a pattern -/

theorem cons_eq_replicate_append (c : Char) (cs : List Char) :
    c :: cs = List.replicate ((cs.takeWhile (· = c)).length + 1) c ++ cs.dropWhile (· = c) := by
  have htake : cs.takeWhile (· = c) = List.replicate (cs.takeWhile (· = c)).length c :=
    List.eq_replicate_iff.2 ⟨rfl, fun d hd => by
      simpa using List.all_eq_true.1 List.all_takeWhile d hd⟩
  rw [List.replicate_succ, List.cons_append, ← htake, List.takeWhile_append_dropWhile]

theorem head?_dropWhile_ne (c : Char) (cs : List Char) :
    (cs.dropWhile (· = c)).head? ≠ some c := by
  intro h
  have hnot := List.head?_dropWhile_not (· = c) cs
  rw [h] at hnot
  simp at hnot

namespace DatePattern

theorem readSymbols_of_front {marks : List Mark} {pieces : List Piece}
    (hread : Mark.ofText false text =
      (marks ++ (Mark.ofText false rest).1, (Mark.ofText false rest).2))
    (hpieces : Piece.ofMarks (marks ++ (Mark.ofText false rest).1) =
      pieces ++ Piece.ofMarks (Mark.ofText false rest).1) :
    readSymbols text = (Symbol.ofPieces pieces).bind fun symbols =>
      (readSymbols rest).map (symbols ++ ·) := by
  simp only [readSymbols, hread, hpieces, Symbol.ofPieces_append]
  cases Symbol.ofPieces pieces with
  | error e => rfl
  | ok symbols =>
      cases Symbol.ofPieces (Piece.ofMarks (Mark.ofText false rest).1) with
      | error e => rfl
      | ok symbols' => cases (Mark.ofText false rest).2 <;> rfl

theorem ofMarks_texts_append (literal : List Char) (marks : List Mark) :
    Piece.ofMarks (literal.map .text ++ marks) =
      literal.map .text ++ Piece.ofMarks marks := by
  rw [Piece.ofMarks_append, Piece.ofMarks_text]
  intro c hc
  simpa using List.mem_of_getLast? hc

theorem readSymbols_literal
    (hread : Mark.ofText false text =
      (literal.map .text ++ (Mark.ofText false rest).1, (Mark.ofText false rest).2)) :
    readSymbols text = (readSymbols rest).map (literal.map .text ++ ·) := by
  rw [readSymbols_of_front hread (ofMarks_texts_append _ _), Symbol.ofPieces_text]
  rfl

theorem readSymbols_run (hc : c.isAlpha = true) (hn : 0 < n) (hrest : rest.head? ≠ some c) :
    readSymbols (List.replicate n c ++ rest) =
      match Field.ofRun? c n with
      | none => .error (.unsupported c n)
      | some f => (readSymbols rest).map ([.field f] ++ ·) := by
  have hhead : (Mark.ofText false rest).1.head? ≠ some (.letter c) := fun h =>
    hrest (Mark.head?_ofText_eq_letter_iff.1 h).2
  have hpieces : Piece.ofMarks (List.replicate n (.letter c) ++ (Mark.ofText false rest).1) =
      [.run c n] ++ Piece.ofMarks (Mark.ofText false rest).1 := Piece.ofMarks_run hn hhead
  rw [readSymbols_of_front (Mark.ofText_letters hc n rest) hpieces]
  simp only [Symbol.ofPieces, Symbol.ofPiece]
  cases Field.ofRun? c n <;> rfl

end DatePattern

/-! ## Texts that are not taken apart -/

namespace Directive

/-- What stands behind the text does not change what it is read as. -/
def Whole (text : List Char) : Prop :=
  ∀ cs, read (text ++ cs) = read text ++ read cs

theorem whole_nil : Whole [] := fun _ => rfl

theorem Whole.append (h : Whole text) (h' : Whole rest) : Whole (text ++ rest) := by
  intro cs
  rw [List.append_assoc, h, h', h, List.append_assoc]

theorem read_cons (h : c ≠ '%') (cs : List Char) : read (c :: cs) = some (.text c) :: read cs := by
  rw [read.eq_def]
  split <;> simp_all

theorem read_escaped_append (c : Char) (cs : List Char) :
    read (escaped c ++ cs) = some (.text c) :: read cs := by
  rw [escaped]
  split
  · next hc => rw [hc]; rfl
  · next hc => exact read_cons hc cs

theorem read_literal_append (literal cs : List Char) :
    read (literal.flatMap escaped ++ cs) = (literal.map .text).map some ++ read cs := by
  induction literal with
  | nil => rfl
  | cons c literal ih =>
      rw [List.flatMap_cons, List.append_assoc, read_escaped_append, ih]
      rfl

theorem read_literal (literal : List Char) :
    read (literal.flatMap escaped) = (literal.map .text).map some := by
  rw [← List.append_nil (literal.flatMap escaped), read_literal_append, read, List.append_nil]

theorem whole_literal (literal : List Char) : Whole (literal.flatMap escaped) := by
  intro cs
  rw [read_literal_append, read_literal]

theorem render?_map_some (m : Moment) (symbols : List Symbol) :
    render? m (symbols.map some) = some (symbols.flatMap (·.render m)) := by
  induction symbols with
  | nil => rfl
  | cons s symbols ih =>
      rw [List.map_cons, render?, ih]
      rfl

end Directive

namespace Chunk

open Directive (Whole)

theorem map_items_ofRun? (hn : 0 < n) :
    (ofRun? c n).map items = (Field.ofRun? c n).map fun f => [some (.field f)] := by
  rw [ofRun?.eq_def, Field.ofRun?.eq_def]
  split
  case h_20 => split <;> first | rfl | contradiction
  -- The forms of a field are told apart by a length of one, of two, of three, and of more.
  all_goals
    obtain _ | _ | _ | _ | n := n
    · exact absurd hn (Nat.lt_irrefl 0)
    all_goals rfl

theorem ofRun?_eq_none (hn : 0 < n) (h : ofRun? c n = none) : Field.ofRun? c n = none := by
  have hitems := map_items_ofRun? (c := c) hn
  rwa [h, Option.map_none, eq_comm, Option.map_eq_none_iff] at hitems

theorem exists_field_of_ofRun? {chunk : Chunk} (hn : 0 < n) (h : ofRun? c n = some chunk) :
    ∃ f, Field.ofRun? c n = some f ∧ chunk.items = [some (.field f)] := by
  have hitems := map_items_ofRun? (c := c) hn
  rw [h, Option.map_some, eq_comm, Option.map_eq_some_iff] at hitems
  obtain ⟨f, hf, hchunk⟩ := hitems
  exact ⟨f, hf, hchunk.symm⟩

/-- A directive is read to its last letter before anything behind it is looked at. -/
theorem whole_of_ofRun? (h : ofRun? c n = some (.directives text)) : Whole text := by
  rw [ofRun?.eq_def] at h
  split at h
  all_goals try split at h
  all_goals cases h
  all_goals exact fun _ => rfl

theorem isUnusable_eq (chunk : Chunk) : chunk.isUnusable = chunk.items.any Option.isNone := by
  cases chunk <;> rfl

theorem any_isUnusable (chunks : List Chunk) :
    chunks.any isUnusable = (chunks.flatMap items).any Option.isNone := by
  rw [List.any_flatMap, funext isUnusable_eq]

end Chunk

/-! ## Drafts -/

namespace Draft

open Directive (Whole)

/-- The parts of what has been translated so far. -/
def parts (d : Draft) : List (Option Symbol) :=
  d.chunks.flatMap Chunk.items ++ Directive.read d.buffer

variable {d : Draft}

theorem parts_flush (d : Draft) : d.flush.flatMap Chunk.items = d.parts := by
  rw [flush, parts]
  split
  · next h => rw [List.isEmpty_iff.1 h, Directive.read, List.append_nil]
  · rw [List.flatMap_append, List.flatMap_singleton]
    rfl

theorem parts_push (h : Whole d.buffer) (text : List Char) :
    (d.push text).parts = d.parts ++ Directive.read text := by
  rw [parts, push, h, parts, List.append_assoc]

theorem parts_push_literal (h : Whole d.buffer) (literal : List Char) :
    (d.push (literal.flatMap escaped)).parts = d.parts ++ (literal.map .text).map some := by
  rw [parts_push h, Directive.read_literal]

theorem parts_put (h : Whole d.buffer) (chunk : Chunk) :
    (d.put chunk).parts = d.parts ++ chunk.items := by
  cases chunk with
  | directives text => exact parts_push h text
  | number quantity width =>
      change (d.flush ++ [_]).flatMap Chunk.items ++ [] = _
      rw [List.append_nil, List.flatMap_append, parts_flush, List.flatMap_singleton]

theorem whole_put (h : Whole d.buffer) {chunk : Chunk} (hrun : Chunk.ofRun? c n = some chunk) :
    Whole (d.put chunk).buffer := by
  cases chunk with
  | directives text => exact h.append (Chunk.whole_of_ofRun? hrun)
  | number quantity width => exact Directive.whole_nil

end Draft

/-! ## Literals -/

theorem head?_ne_some_of_forall_cons (h : ∀ cs, text = c :: cs → False) : text.head? ≠ some c := by
  intro hc
  obtain ⟨cs, rfl⟩ := List.head?_eq_some_iff.1 hc
  exact h cs rfl

theorem exists_literal_of_eq_none {buffer : List Char} (h : readLiteral? buffer text = none) :
    ∃ literal : List Char, Mark.ofText true text = (literal.map .text, true) := by
  fun_induction readLiteral? buffer text with
  | case1 => exact ⟨[], rfl⟩
  | case2 buffer cs ih =>
      obtain ⟨literal, hread⟩ := ih h
      exact ⟨'\'' :: literal, by rw [Mark.ofText_twice, hread]; rfl⟩
  | case3 => cases h
  | case4 buffer c cs _ hc ih =>
      obtain ⟨literal, hread⟩ := ih h
      exact ⟨c :: literal, by rw [Mark.ofText_cons true hc, hread]; rfl⟩

theorem exists_literal_of_eq_some {buffer buffer' : List Char}
    (h : readLiteral? buffer text = some (buffer', rest)) :
    ∃ literal : List Char, buffer' = buffer ++ literal.flatMap escaped ∧
      Mark.ofText true text =
        (literal.map .text ++ (Mark.ofText false rest).1, (Mark.ofText false rest).2) := by
  fun_induction readLiteral? buffer text with
  | case1 => cases h
  | case2 buffer cs ih =>
      obtain ⟨literal, hbuffer, hread⟩ := ih h
      refine ⟨'\'' :: literal, ?_, by rw [Mark.ofText_twice, hread]; rfl⟩
      rw [hbuffer, List.append_assoc]
      rfl
  | case3 buffer cs hcs =>
      cases h
      refine ⟨[], (List.append_nil _).symm, ?_⟩
      rw [Mark.ofText_quote true (head?_ne_some_of_forall_cons hcs)]
      rfl
  | case4 buffer c cs _ hc ih =>
      obtain ⟨literal, hbuffer, hread⟩ := ih h
      refine ⟨c :: literal, ?_, by rw [Mark.ofText_cons true hc, hread]; rfl⟩
      rw [hbuffer, List.append_assoc]
      rfl

namespace DatePattern

theorem readSymbols_char (hquote : c ≠ '\'') (hc : ¬ c.isAlpha = true) (cs : List Char) :
    readSymbols (c :: cs) = (readSymbols cs).map ([c].map .text ++ ·) := by
  have hmark : Mark.ofChar false c = .text c := by simp [Mark.ofChar, hc]
  refine readSymbols_literal ?_
  rw [Mark.ofText_cons false hquote, hmark]
  rfl

theorem readSymbols_open (h : text.head? ≠ some '\'')
    (hread : Mark.ofText true text = (literal.map .text, true)) :
    readSymbols ('\'' :: text) = .error .unterminatedQuote := by
  simp only [readSymbols, Mark.ofText_quote false h, Bool.not_false, hread, Piece.ofMarks_text,
    Symbol.ofPieces_text, if_true]

theorem readSymbols_closed (h : text.head? ≠ some '\'')
    (hread : Mark.ofText true text =
      (literal.map .text ++ (Mark.ofText false rest).1, (Mark.ofText false rest).2)) :
    readSymbols ('\'' :: text) = (readSymbols rest).map (literal.map .text ++ ·) := by
  refine readSymbols_literal ?_
  rw [Mark.ofText_quote false h, Bool.not_false, hread]

end DatePattern

/-! ## Translation -/

open Directive (Whole)

theorem map_front_append (read : Except DatePatternError (List Symbol)) (front : List Symbol)
    (parts : List (Option Symbol)) :
    (read.map (front ++ ·)).map (fun symbols => parts ++ symbols.map some) =
      read.map fun symbols => (parts ++ front.map some) ++ symbols.map some := by
  cases read <;> simp [Except.map]

theorem Draft.map_push_literal {d : Draft} (h : Whole d.buffer)
    (hread : DatePattern.readSymbols text =
      (DatePattern.readSymbols rest).map (literal.map .text ++ ·)) :
    (DatePattern.readSymbols text).map (fun symbols => d.parts ++ symbols.map some) =
      (DatePattern.readSymbols rest).map fun symbols =>
        (d.push (literal.flatMap escaped)).parts ++ symbols.map some := by
  rw [hread, map_front_append, parts_push_literal h]

/-- Behind what has been translated already stands what the symbols of the pattern are. -/
theorem translate_parts (d : Draft) (text : List Char) (h : Whole d.buffer) :
    (translate d text).map (·.flatMap Chunk.items) =
      (DatePattern.readSymbols text).map fun symbols => d.parts ++ symbols.map some := by
  fun_induction translate d text with
  | case1 d =>
      change Except.ok (d.flush.flatMap Chunk.items) = .ok (d.parts ++ [])
      rw [d.parts_flush, List.append_nil]
  | case2 d cs ih =>
      have hread : DatePattern.readSymbols ('\'' :: '\'' :: cs) =
          (DatePattern.readSymbols cs).map (['\''].map .text ++ ·) :=
        DatePattern.readSymbols_literal (Mark.ofText_twice false cs)
      rw [Draft.map_push_literal h hread]
      exact ih (h.append (Directive.whole_literal ['\'']))
  | case3 d cs hcs hnone =>
      obtain ⟨literal, hread⟩ := exists_literal_of_eq_none hnone
      rw [DatePattern.readSymbols_open (head?_ne_some_of_forall_cons hcs) hread]
      rfl
  | case4 d cs hcs buffer rest hsome ih =>
      obtain ⟨literal, rfl, hread⟩ := exists_literal_of_eq_some hsome
      have hclosed := DatePattern.readSymbols_closed (head?_ne_some_of_forall_cons hcs) hread
      rw [Draft.map_push_literal h hclosed]
      exact ih (h.append (Directive.whole_literal literal))
  | case5 d c cs _ _ hc length hnone =>
      -- The run is cut off whole, so that both readers are asked about the same length.
      rw [cons_eq_replicate_append c cs,
        DatePattern.readSymbols_run hc (Nat.succ_pos _) (head?_dropWhile_ne c cs),
        Chunk.ofRun?_eq_none (Nat.succ_pos _) hnone]
      rfl
  | case6 d c cs _ _ hc length chunk hchunk ih =>
      obtain ⟨f, hf, hitems⟩ := Chunk.exists_field_of_ofRun? (Nat.succ_pos _) hchunk
      rw [cons_eq_replicate_append c cs,
        DatePattern.readSymbols_run hc (Nat.succ_pos _) (head?_dropWhile_ne c cs), hf]
      dsimp only
      -- What has no directive closes the buffer; every other field goes into it as a whole one.
      rw [ih (Draft.whole_put h hchunk), map_front_append, Draft.parts_put h, hitems]
      rfl
  | case7 d c cs _ hquote hc ih =>
      rw [Draft.map_push_literal h (DatePattern.readSymbols_char hquote hc cs),
        List.flatMap_singleton]
      exact ih (h.append (List.flatMap_singleton escaped c ▸ Directive.whole_literal [c]))

/-! ## Both ways of reading a pattern -/

theorem translate_of_readSymbols_eq_error {e : DatePatternError}
    (h : DatePattern.readSymbols text = .error e) : translate ⟨[], []⟩ text = .error e := by
  have hparts := translate_parts ⟨[], []⟩ text Directive.whole_nil
  rw [h] at hparts
  cases htranslate : translate ⟨[], []⟩ text with
  | error e' =>
      rw [htranslate] at hparts
      cases hparts
      rfl
  | ok chunks =>
      rw [htranslate] at hparts
      cases hparts

/-- What a pattern is translated into has the parts that are read of it, and the formatter
knows all of these. -/
theorem exists_translate_of_readSymbols_eq_ok {symbols : List Symbol}
    (h : DatePattern.readSymbols text = .ok symbols) :
    ∃ chunks, translate ⟨[], []⟩ text = .ok chunks ∧
      chunks.flatMap Chunk.items = symbols.map some ∧ chunks.any Chunk.isUnusable = false := by
  have hparts := translate_parts ⟨[], []⟩ text Directive.whole_nil
  rw [h] at hparts
  cases htranslate : translate ⟨[], []⟩ text with
  | error e =>
      rw [htranslate] at hparts
      cases hparts
  | ok chunks =>
      rw [htranslate] at hparts
      have hitems : chunks.flatMap Chunk.items = symbols.map some := Except.ok.inj hparts
      refine ⟨chunks, rfl, hitems, ?_⟩
      rw [Chunk.any_isUnusable, hitems]
      simp

namespace Translation

/-- A pattern that is translated is refused for the reason for which it is refused otherwise,
and if it is not refused, it can be formatted at every moment and shows the same. -/
theorem agrees (text : String) :
    (∀ e, parse text = .error e ↔ DatePattern.parse text = .error e) ∧
    ∀ p, DatePattern.parse text = .ok p →
      ∃ t, parse text = .ok t ∧ t.source = p.source ∧ ∀ m, t.format m = .ok (p.format m) := by
  rw [parse, DatePattern.parse]
  cases hread : DatePattern.readSymbols text.toList with
  | error e =>
      rw [translate_of_readSymbols_eq_error hread]
      constructor
      · simp [Except.map]
      · rintro p ⟨⟩
  | ok symbols =>
      obtain ⟨chunks, htranslate, hitems, husable⟩ := exists_translate_of_readSymbols_eq_ok hread
      simp only [htranslate, husable]
      constructor
      · simp [Except.map]
      · rintro p ⟨⟩
        refine ⟨⟨text, chunks⟩, rfl, rfl, fun m => ?_⟩
        rw [format, hitems, Directive.render?_map_some]
        rfl

/-- The formatter never objects to what a pattern is translated into. -/
theorem parse_ne_unusable (text : String) : parse text ≠ .error .unusable := by
  intro h
  have hread : Generator.datePattern text = .error (.refused (.datePattern text .unusable)) := by
    rw [Generator.datePattern, ((agrees text).1 _).1 h]
    rfl
  rcases Generator.datePattern_cases text with
    ⟨-, -, p, hp⟩ | ⟨-, -, hopen⟩ | ⟨c, n, -, hunsupported⟩
  · cases hread.symm.trans hp
  · cases hread.symm.trans hopen
  · cases hread.symm.trans hunsupported

end Translation

end Exemplar.Calendar
