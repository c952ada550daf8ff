import Exemplar.Pattern.Term.Escape

/-!
# Bracketed classes

A class is read with a stack of the brackets that are open. A `ClassLevel` is
what has been read between two brackets so far: the parts of the operand that
is being read, and the set operation, if any, that waits for it together with
its left operand. The three operations bind equally and to the left.
-/

namespace Exemplar.Pattern

/-- What has been read inside of an open bracket. -/
structure ClassLevel where
  negated : Bool
  /-- The operation that waits for its right operand, with the left one. -/
  pending : Option (SetOperation × ClassSet) := none
  /-- The parts of the operand that is being read, the last one first. -/
  items : List ClassItem := []

namespace ClassLevel

def push (l : ClassLevel) (i : ClassItem) : ClassLevel :=
  { l with items := i :: l.items }

def set (l : ClassLevel) : ClassSet :=
  let operand : ClassSet := .item (.ofItems l.items.reverse)
  match l.pending with
  | none => operand
  | some (kind, lhs) => .operation kind lhs operand

/-- Begin a new operand behind a set operation. -/
def operate (l : ClassLevel) (kind : SetOperation) : ClassLevel :=
  { l with pending := some (kind, l.set), items := [] }

end ClassLevel

/-- Hyphens at the beginning of a class stand for themselves. -/
def readHyphens (verbose : Bool) (l : ClassLevel) : List Char → ClassLevel × List Char
  | [] => (l, [])
  | c :: cs =>
    if c = '-' then readHyphens verbose (l.push (.literal ⟨'-', false⟩)) (skip verbose cs)
    else (l, c :: cs)
termination_by cs => cs.length
decreasing_by
  have := length_skip_le verbose cs
  simp only [List.length_cons]
  omega

/-- The beginning of a class, behind its bracket: a sign of negation, hyphens,
and a closing bracket if nothing else has come before it. There has to be more
behind each of them. -/
def readClassStart (verbose : Bool) (cs : List Char) : Reading PatternError ClassLevel :=
  match skip verbose cs with
  | [] => .error .classUnclosed
  | c :: rest =>
    let (level, rest) : ClassLevel × List Char :=
      if c = '^' then ({ negated := true }, skip verbose rest)
      else ({ negated := false }, c :: rest)
    match readHyphens verbose level rest with
    | (_, []) => .error .classUnclosed
    | (level, c :: rest) =>
      if c = ']' && level.items.isEmpty then
        match skip verbose rest with
        | [] => .error .classUnclosed
        | rest => .ok (level.push (.literal ⟨']', false⟩), rest)
      else .ok (level, c :: rest)

/-- A class with a name between colons, behind its bracket. What is not quite
one is not an error, but the beginning of a class in brackets. -/
def namedClass? : List Char → Option (ClassItem × List Char)
  | ':' :: cs =>
    let (negated, cs) := match cs with
      | '^' :: rest => (true, rest)
      | _ => (false, cs)
    match cutAt? [':'] cs with
    | some (name, ']' :: rest) =>
      (NamedClass.ofName? (String.ofList name)).map fun kind => (.named kind negated, rest)
    | _ => none
  | _ => none

def readClassPrimitive (verbose : Bool) (c : Char) (cs : List Char) :
    Reading PatternError Primitive :=
  if c = '\\' then readEscape verbose cs else .ok (.literal ⟨c, false⟩, cs)

/-- A range, whose ends have to be characters in order. -/
def classRange (first last : Primitive) : Except PatternError ClassItem :=
  match first.toBoundary, last.toBoundary with
  | .error e, _ => .error e
  | _, .error e => .error e
  | .ok first, .ok last =>
    if first.char ≤ last.char then .ok (.range first last) else .error .classRangeInvalid

/-- A part of a class: a range, or a primitive. A hyphen makes a range unless it
is the last part of the class or one half of a set operation. -/
def readClassPart (verbose : Bool) (c : Char) (cs : List Char) : Reading PatternError ClassItem :=
  (readClassPrimitive verbose c cs).andThen fun first rest =>
    match skip verbose rest with
    | [] => .error .classUnclosed
    | d :: behind =>
      if d = '-' && peek verbose behind ≠ some ']' && peek verbose behind ≠ some '-' then
        match skip verbose behind with
        | [] => .error .classUnclosed
        | e :: rest => (readClassPrimitive verbose e rest).refine (classRange first)
      else
        match first.toItem with
        | .error e => .error e
        | .ok item => .ok (item, d :: behind)

/-- The set operation that is spelled by a character written twice. -/
def SetOperation.ofChar? (c : Char) : Option SetOperation :=
  if c = '&' then some .intersection
  else if c = '-' then some .difference
  else if c = '~' then some .symmetricDifference
  else none

def setOperation? (c : Char) : List Char → Option (SetOperation × List Char)
  | [] => none
  | d :: cs => if c = d then (SetOperation.ofChar? c).map (·, cs) else none

inductive ClassStep where
  | more (level : ClassLevel) (outer : List ClassLevel)
  | done (negated : Bool) (set : ClassSet)

/-- One step inside of a class, at a character that counts. -/
def stepClass (verbose : Bool) (level : ClassLevel) (outer : List ClassLevel) (c : Char)
    (cs : List Char) : Reading PatternError ClassStep :=
  if c = '[' then
    match namedClass? cs with
    | some (item, rest) => .ok (.more (level.push item) outer, rest)
    | none => (readClassStart verbose cs).convert fun inner => .more inner (level :: outer)
  else if c = ']' then
    match outer with
    | [] => .ok (.done level.negated level.set, cs)
    | l :: outer => .ok (.more (l.push (.bracketed level.negated level.set)) outer, cs)
  else
    match setOperation? c cs with
    | some (kind, rest) => .ok (.more (level.operate kind) outer, rest)
    | none => (readClassPart verbose c cs).convert fun item => .more (level.push item) outer

/-! ## The rest is an end of what was there -/

open Reading

theorem readHyphens_suffix (verbose : Bool) (l : ClassLevel) (cs : List Char) :
    (readHyphens verbose l cs).2 <:+ cs := by
  fun_induction readHyphens verbose l cs with
  | case1 => exact List.suffix_refl _
  | case2 l cs ih => exact (ih.trans (skip_suffix _ _)).trans (List.suffix_cons _ cs)
  | case3 => exact List.suffix_refl _

theorem readClassStart_within (verbose : Bool) (cs : List Char) :
    (readClassStart verbose cs).Within cs := by
  rw [readClassStart]
  split
  · exact .error _
  · next c rest h =>
    refine Within.trans ?_ (h ▸ skip_suffix verbose cs)
    have hstart : (if c = '^' then (({ negated := true } : ClassLevel), skip verbose rest)
        else ({ negated := false }, c :: rest)).2 <:+ c :: rest := by
      split
      · exact (skip_suffix _ _).trans (List.suffix_cons c rest)
      · exact List.suffix_refl _
    have hhyphens := (readHyphens_suffix verbose
      (if c = '^' then (({ negated := true } : ClassLevel), skip verbose rest)
        else ({ negated := false }, c :: rest)).1 _).trans hstart
    simp only
    split
    · exact .error _
    · next level d rest' hr =>
      rw [hr] at hhyphens
      split
      · split
        · exact .error _
        · exact .ok _ (((skip_suffix _ _).trans (List.suffix_cons d rest')).trans hhyphens)
      · exact .ok _ hhyphens

theorem cutAt?_suffix {mark cs before behind : List Char}
    (h : cutAt? mark cs = some (before, behind)) : behind <:+ cs := by
  induction cs generalizing before with
  | nil => cases h
  | cons c cs ih =>
    rw [cutAt?] at h
    split at h
    · simp only [Option.some.injEq, Prod.mk.injEq] at h
      exact h.2 ▸ List.drop_suffix _ _
    · obtain ⟨⟨b, d⟩, hcut, hb⟩ := Option.map_eq_some_iff.1 h
      simp only [Prod.mk.injEq] at hb
      obtain ⟨-, rfl⟩ := hb
      exact (ih hcut).trans (List.suffix_cons c cs)

theorem namedClass?_suffix {cs rest : List Char} {item : ClassItem}
    (h : namedClass? cs = some (item, rest)) : rest <:+ cs := by
  unfold namedClass? at h
  split at h
  · next cs =>
    simp only at h
    split at h
    · next name rest' hcut =>
      obtain ⟨kind, -, hk⟩ := Option.map_eq_some_iff.1 h
      simp only [Prod.mk.injEq] at hk
      have hcs := (List.suffix_cons ']' rest').trans (cutAt?_suffix hcut)
      rw [← hk.2]
      refine hcs.trans (List.IsSuffix.trans ?_ (List.suffix_cons ':' cs))
      split
      · exact List.suffix_cons _ _
      · exact List.suffix_refl _
    · cases h
  · cases h

theorem readClassPrimitive_within (verbose : Bool) (c : Char) (cs : List Char) :
    (readClassPrimitive verbose c cs).Within cs := by
  rw [readClassPrimitive]
  split
  · exact readEscape_within _ _
  · exact .ok _ (List.suffix_refl _)

theorem readClassPart_within (verbose : Bool) (c : Char) (cs : List Char) :
    (readClassPart verbose c cs).Within cs := by
  refine (readClassPrimitive_within verbose c cs).andThen fun first rest hrest => ?_
  refine Within.trans ?_ hrest
  split
  · exact .error _
  · next d behind h =>
    have hbehind : d :: behind <:+ rest := h ▸ skip_suffix verbose rest
    split
    · split
      · exact .error _
      · next e more h' =>
        have hmore : e :: more <:+ behind := h' ▸ skip_suffix verbose behind
        refine ((readClassPrimitive_within _ _ _).refine _).trans ?_
        exact (((List.suffix_cons e more).trans hmore).trans (List.suffix_cons d behind)).trans
          hbehind
    · split
      · exact .error _
      · exact .ok _ hbehind

theorem setOperation?_suffix {c : Char} {cs rest : List Char} {kind : SetOperation}
    (h : setOperation? c cs = some (kind, rest)) : rest <:+ cs := by
  cases cs with
  | nil => cases h
  | cons d cs =>
    rw [setOperation?] at h
    split at h
    · obtain ⟨k, -, hk⟩ := Option.map_eq_some_iff.1 h
      simp only [Prod.mk.injEq] at hk
      exact hk.2 ▸ List.suffix_cons d cs
    · cases h

theorem stepClass_within (verbose : Bool) (level : ClassLevel) (outer : List ClassLevel) (c : Char)
    (cs : List Char) : (stepClass verbose level outer c cs).Within cs := by
  unfold stepClass
  split
  · split
    · next item rest h => exact .ok _ (namedClass?_suffix h)
    · exact (readClassStart_within _ _).convert _
  split
  · split
    · exact .ok _ (List.suffix_refl _)
    · exact .ok _ (List.suffix_refl _)
  split
  · next kind rest h => exact .ok _ (setOperation?_suffix h)
  · exact (readClassPart_within _ _ _).convert _

/-! ## A class as a whole -/

def readClassRest (verbose : Bool) (level : ClassLevel) (outer : List ClassLevel)
    (cs : List Char) : Reading PatternError (Bool × ClassSet) :=
  match _ : skip verbose cs with
  | [] => .error .classUnclosed
  | c :: rest =>
    match _ : stepClass verbose level outer c rest with
    | .error e => .error e
    | .ok (.done negated set, rest) => .ok ((negated, set), rest)
    | .ok (.more level outer, rest) => readClassRest verbose level outer rest
termination_by cs.length
decreasing_by
  rename_i hc hs
  have h₁ := (stepClass_within _ _ _ _ _ _ _ hs).length_le
  have h₂ := length_skip_le verbose cs
  rw [hc, List.length_cons] at h₂
  omega

def readClass (verbose : Bool) (cs : List Char) : Reading PatternError (Bool × ClassSet) :=
  (readClassStart verbose cs).andThen fun level rest => readClassRest verbose level [] rest

theorem readClassRest_within (verbose : Bool) (level : ClassLevel) (outer : List ClassLevel)
    (cs : List Char) : (readClassRest verbose level outer cs).Within cs := by
  fun_induction readClassRest verbose level outer cs with
  | case1 => exact .error _
  | case2 => exact .error _
  | case3 level outer cs c rest hc negated set rest' hs =>
    exact .ok _ (((stepClass_within _ _ _ _ _ _ _ hs).trans (List.suffix_cons c rest)).trans
      (hc ▸ skip_suffix verbose cs))
  | case4 level outer cs c rest hc level' outer' rest' hs ih =>
    exact ih.trans (((stepClass_within _ _ _ _ _ _ _ hs).trans (List.suffix_cons c rest)).trans
      (hc ▸ skip_suffix verbose cs))

theorem readClass_within (verbose : Bool) (cs : List Char) : (readClass verbose cs).Within cs :=
  (readClassStart_within verbose cs).andThen fun _ _ h => (readClassRest_within _ _ _ _).trans h

end Exemplar.Pattern
