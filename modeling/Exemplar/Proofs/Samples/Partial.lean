import Exemplar.Proofs.Json.Skipping
import Exemplar.Proofs.Samples.Spelling

/-!
# Partial samples

An object may name any of the sample values, in any order and with members of other names in
between, whatever values these have. What it names is set, and all else keeps its default:
`parse_spelledSamples`. A name is a text, so the escapes in a key make up characters; in the
values of other members they need not.

The members are read one after the other. A member of another name is skipped up to its end, so
it leaves the sample values as they are, and a member of a sample value sets that value and no
other. Since no sample value comes up twice, what is set is there to the end, and the order is
of no importance.
-/

namespace Exemplar.Samples

open Exemplar.Json Exemplar.Reading

/-! ### Setting sample values -/

def value (s : Samples) : Field → Value
  | .string => .string s.string
  | .integer => .integer s.integer
  | .decimal => .decimal s.decimal
  | .boolean => .boolean s.boolean
  | .id => .id s.id
  | .hex => .hex s.hex
  | .uuid => .uuid s.uuid
  | .ipAddress => .ipAddress s.ipAddress
  | .examples => .examples s.examples

theorem value_set_self (s : Samples) (v : Value) : (s.set v).value v.field = v := by
  cases v <;> rfl

theorem value_set_of_ne (s : Samples) {v : Value} {f : Field} (h : v.field ≠ f) :
    (s.set v).value f = s.value f := by
  cases v <;> cases f <;> first | rfl | exact absurd rfl h

theorem eq_of_value_eq {s t : Samples} (h : ∀ f, s.value f = t.value f) : s = t := by
  cases s
  cases t
  simp only [mk.injEq]
  exact ⟨Value.string.inj (h .string), Value.integer.inj (h .integer),
    Value.decimal.inj (h .decimal), Value.boolean.inj (h .boolean), Value.id.inj (h .id),
    Value.hex.inj (h .hex), Value.uuid.inj (h .uuid), Value.ipAddress.inj (h .ipAddress),
    Value.examples.inj (h .examples)⟩

theorem set_comm (s : Samples) {v w : Value} (h : v.field ≠ w.field) :
    (s.set v).set w = (s.set w).set v := by
  refine eq_of_value_eq fun f => ?_
  by_cases hv : v.field = f
  · subst hv
    rw [value_set_of_ne _ h.symm, value_set_self, value_set_self]
  · rw [value_set_of_ne (s.set w) hv]
    by_cases hw : w.field = f
    · subst hw
      rw [value_set_self, value_set_self]
    · rw [value_set_of_ne _ hw, value_set_of_ne _ hv, value_set_of_ne _ hw]

def setAll (s : Samples) (vs : List Value) : Samples := vs.foldl set s

variable {vs ws : List Value}

theorem value_setAll_of_ne (s : Samples) {f : Field} (h : ∀ v ∈ vs, v.field ≠ f) :
    (s.setAll vs).value f = s.value f := by
  induction vs generalizing s with
  | nil => rfl
  | cons v vs ih =>
    rw [List.forall_mem_cons] at h
    exact (ih (s.set v) h.2).trans (value_set_of_ne s h.1)

theorem value_setAll_of_mem (s : Samples) (hnodup : (vs.map Value.field).Nodup) {v : Value}
    (h : v ∈ vs) : (s.setAll vs).value v.field = v := by
  induction vs generalizing s with
  | nil => cases h
  | cons w vs ih =>
    rw [List.map_cons, List.nodup_cons] at hnodup
    rcases List.mem_cons.1 h with rfl | hmem
    · have hother : ∀ w ∈ vs, w.field ≠ v.field := fun w hw heq =>
        hnodup.1 (List.mem_map.2 ⟨w, hw, heq⟩)
      exact (value_setAll_of_ne (s.set v) hother).trans (value_set_self s v)
    · exact ih (s.set w) hnodup.2 hmem

/-- Values of different names may be set in any order. -/
theorem setAll_eq_of_perm (s : Samples) (hnodup : (vs.map Value.field).Nodup) (h : vs.Perm ws) :
    s.setAll vs = s.setAll ws := by
  refine h.foldl_eq' (fun v hv w hw s => ?_) s
  by_cases heq : v.field = w.field
  · have hsame : v = w := by
      rw [← value_setAll_of_mem s hnodup hv, heq, value_setAll_of_mem s hnodup hw]
    rw [hsame]
  · exact set_comm s heq

/-! ### Members as they are spelled -/

/-- What a member of some name holds: the sample value of this name, or any value if there is
none. -/
inductive SpelledContent (name : List Char) where
  | sample (v : SpelledSample) (h : name = v.value.field.name.toList)
  | other (v : SpelledValue) (h : ∀ f : Field, name ≠ f.name.toList)

namespace SpelledContent

variable {name : List Char}

def text : SpelledContent name → List Char
  | .sample v _ => v.text
  | .other v _ => v.text

def value? : SpelledContent name → Option Value
  | .sample v _ => some v.value
  | .other _ _ => none

end SpelledContent

structure SpelledMember where
  front : Json.Blanks
  key : SpelledText
  behindKey : Json.Blanks
  behindColon : Json.Blanks
  content : SpelledContent key.chars
  behind : Json.Blanks

namespace SpelledMember

def body (m : SpelledMember) : List Char :=
  m.key.text ++ (m.behindKey.chars ++ ':' :: (m.behindColon.chars ++ m.content.text))

def values (members : List SpelledMember) : List Value :=
  members.filterMap (·.content.value?)

def membersText (first : Bool) : List SpelledMember → List Char
  | [] => []
  | m :: members =>
    commaText first ++ (m.front.chars ++ ('"' :: (m.body ++
      (m.behind.chars ++ membersText false members))))

end SpelledMember

/-- An object that gives some sample values, none of them twice, as it is spelled. -/
structure SpelledSamples where
  front : Json.Blanks
  inner : Json.Blanks
  members : List SpelledMember
  back : Json.Blanks
  distinct : ((SpelledMember.values members).map Value.field).Nodup

namespace SpelledSamples

def values (e : SpelledSamples) : List Value := SpelledMember.values e.members

def text (e : SpelledSamples) : String :=
  .ofList (e.front.chars ++ '\x7b' :: (e.inner.chars ++
    (SpelledMember.membersText true e.members ++ '\x7d' :: e.back.chars)))

end SpelledSamples

/-! ### Steps of the reader -/

variable {rest : List Char}

theorem readKeyStart_end (first : Bool) (b : Json.Blanks) (rest : List Char) :
    readKeyStart first (b.chars ++ '\x7d' :: rest) = .ok (false, rest) := by
  rw [readKeyStart, dropBlanks_append b rfl]
  rfl

theorem readKeyStart_quote (b : Json.Blanks) (rest : List Char) :
    readKeyStart true (b.chars ++ '"' :: rest) = .ok (true, rest) := by
  rw [readKeyStart, dropBlanks_append b rfl]
  rfl

theorem readKeyStart_comma (b front : Json.Blanks) (rest : List Char) :
    readKeyStart false (b.chars ++ ',' :: (front.chars ++ '"' :: rest)) = .ok (true, rest) := by
  have hquote : dropBlanks (front.chars ++ '"' :: rest) = '"' :: rest :=
    dropBlanks_append front rfl
  rw [readKeyStart, dropBlanks_append b rfl]
  simp [hquote]

theorem readKeyStart_member (first : Bool) (b front : Json.Blanks) (rest : List Char) :
    readKeyStart first (b.chars ++ (commaText first ++ (front.chars ++ '"' :: rest))) =
      .ok (true, rest) := by
  cases first with
  | true =>
    have hquote := readKeyStart_quote (b.append front) rest
    rwa [Blanks.append, List.append_assoc] at hquote
  | false => exact readKeyStart_comma b front rest

theorem readColon_append (b : Json.Blanks) (rest : List Char) :
    readColon (b.chars ++ ':' :: rest) = .ok ((), rest) := by
  rw [readColon, dropBlanks_append b rfl]
  rfl

theorem ofName?_of_ne {name : List Char} (h : ∀ f : Field, name ≠ f.name.toList) :
    Field.ofName? (.ofList name) = none := by
  rw [Field.ofName?, List.find?_eq_none]
  intro f _ hname
  refine h f ?_
  rw [of_decide_eq_true hname, String.toList_ofList]

theorem placed_ok {α : Type} (place : Place) (a : α) (rest : List Char) :
    placed place (.ok (a, rest)) = .ok (a, rest) := rfl

/-- A member is read up to its end, and gives the sample value that it holds. -/
theorem readMember_body (m : SpelledMember) (seen : List Field)
    (hseen : ∀ v ∈ m.content.value?, v.field ∉ seen) (hrest : Delimited rest) :
    readMember seen (m.body ++ rest) =
      .ok (m.content.value?.map fun v => (v.field, v), rest) := by
  obtain ⟨front, key, behindKey, behindColon, content, behind⟩ := m
  have hkey := readString_text key
    (behindKey.chars ++ ':' :: (behindColon.chars ++ (content.text ++ rest)))
  have hcolon := readColon_append behindKey (behindColon.chars ++ (content.text ++ rest))
  simp only [SpelledMember.body, List.append_assoc, List.cons_append]
  rw [readMember, hkey, placed_ok, andThen]
  cases content with
  | sample v h =>
    have hname : Field.ofName? (.ofList key.chars) = some v.value.field := by
      rw [h, String.ofList_toList, Field.ofName?_name]
    rw [hname]
    simp only
    rw [if_neg (hseen v.value rfl), hcolon, placed_ok, andThen, SpelledContent.text,
      Field.read_text v behindColon hrest]
    rfl
  | other v h =>
    rw [ofName?_of_ne h]
    simp only
    rw [hcolon, placed_ok, andThen, SpelledContent.text, skip_text behindColon v hrest]
    rfl

theorem delimited_membersText (members : List SpelledMember) (rest : List Char) :
    Delimited (SpelledMember.membersText false members ++ '\x7d' :: rest) := by
  cases members with
  | nil => exact delimited_cons (by decide)
  | cons m members => exact delimited_cons (by decide)

/-- The members are read one after the other, and what they hold is set. -/
theorem readMembers_text (members : List SpelledMember) (seen : List Field) (s : Samples)
    (first : Bool) (b : Json.Blanks) (rest : List Char) {fuel : Nat} (hfuel : members.length ≤ fuel)
    (hseen : ∀ v ∈ SpelledMember.values members, v.field ∉ seen)
    (hnodup : ((SpelledMember.values members).map Value.field).Nodup) :
    readMembers fuel seen s first
        (b.chars ++ (SpelledMember.membersText first members ++ '\x7d' :: rest)) =
      .ok (s.setAll (SpelledMember.values members)) := by
  -- What has been seen grows with what has been set, and no later member is in it.
  induction members generalizing seen s first b fuel with
  | nil =>
    cases fuel with
    | zero => rfl
    | succ fuel =>
      rw [readMembers, SpelledMember.membersText, List.nil_append, readKeyStart_end, placed_ok]
      rfl
  | cons m members ih =>
    obtain ⟨fuel, rfl⟩ : ∃ n, fuel = n + 1 :=
      Nat.exists_eq_add_one.2 (Nat.lt_of_lt_of_le (Nat.succ_pos _) hfuel)
    have hfuel' : members.length ≤ fuel := Nat.le_of_succ_le_succ hfuel
    have hmember := readMember_body m seen
      (fun v hv => hseen v (List.mem_filterMap.2 ⟨m, List.mem_cons_self, hv⟩))
      ((delimited_membersText members rest).blanks m.behind)
    simp only [SpelledMember.membersText, List.append_assoc, List.cons_append]
    rw [readMembers, readKeyStart_member, placed_ok]
    simp only [hmember]
    cases hvalue : m.content.value? with
    | none =>
      have hvalues : SpelledMember.values (m :: members) = SpelledMember.values members :=
        List.filterMap_cons_none hvalue
      rw [hvalues] at hseen hnodup ⊢
      exact ih seen s false m.behind hfuel' hseen hnodup
    | some v =>
      have hvalues : SpelledMember.values (m :: members) = v :: SpelledMember.values members :=
        List.filterMap_cons_some hvalue
      rw [hvalues, List.forall_mem_cons] at hseen
      rw [hvalues, List.map_cons, List.nodup_cons] at hnodup
      rw [hvalues]
      refine ih (v.field :: seen) (s.set v) false m.behind hfuel' (fun w hw => ?_) hnodup.2
      rw [List.mem_cons, not_or]
      exact ⟨fun heq => hnodup.1 (List.mem_map.2 ⟨w, hw, heq⟩), hseen.2 w hw⟩

/-- A member takes a character at least, so there are no more of them than the reader allows. -/
theorem length_le_length_membersText (first : Bool) (members : List SpelledMember) :
    members.length ≤ (SpelledMember.membersText first members).length := by
  induction members generalizing first with
  | nil => exact Nat.zero_le _
  | cons m members ih =>
    have hrest := ih false
    simp only [SpelledMember.membersText, List.length_append, List.length_cons]
    omega

/-- An object is read as the defaults with what it gives set. -/
theorem parse_eq_setAll (e : SpelledSamples) :
    Samples.parse e.text = .ok (({} : Samples).setAll e.values) := by
  have hread (fuel : Nat) (hfuel : e.members.length ≤ fuel) :=
    readMembers_text e.members [] {} true e.inner e.back.chars hfuel
      (fun _ _ => List.not_mem_nil) e.distinct
  rw [Samples.parse, SpelledSamples.text, String.toList_ofList, read,
    dropBlanks_append e.front rfl]
  simp only
  rw [if_neg (by decide), if_true, hread]
  · rfl
  · have hlength := length_le_length_membersText true e.members
    simp only [List.length_append, List.length_cons]
    omega

/-- An object of sample values and any other members is read, with blanks and in an order as
one likes. What it gives is set, and the others keep their defaults; so the order and what else
there is do not matter. -/
theorem parse_spelledSamples (e : SpelledSamples) :
    (∃ s, Samples.parse e.text = .ok s ∧ (∀ v ∈ e.values, s.value v.field = v) ∧
      ∀ f, (∀ v ∈ e.values, v.field ≠ f) → s.value f = ({} : Samples).value f) ∧
    ∀ e' : SpelledSamples, e.values.Perm e'.values →
      Samples.parse e.text = Samples.parse e'.text := by
  refine ⟨⟨({} : Samples).setAll e.values, parse_eq_setAll e,
    fun v hv => value_setAll_of_mem _ e.distinct hv, fun f hf => value_setAll_of_ne _ hf⟩,
    fun e' hperm => ?_⟩
  have hsame : ({} : Samples).setAll e.values = ({} : Samples).setAll e'.values :=
    setAll_eq_of_perm _ e.distinct hperm
  rw [parse_eq_setAll, parse_eq_setAll, hsame]

/-- The member `"note" : [{"x":null}, "\ud800"]`, which holds half of a character. -/
def note : SpelledMember where
  front := .none
  key := .ofPlain ['n', 'o', 't', 'e'] (by decide)
  behindKey := .single ' ' rfl
  behindColon := .single ' ' rfl
  content := .other
    (.container .array .none
      (.cons .none .none
        (.container .object .none
          (.cons .none (.key [.plain 'x' (by decide)] .none .none) .null .none .nil))
        .none
        (.cons (.single ' ' rfl) .none
          (.string [.unit ⟨⟨13, false⟩, ⟨8, false⟩, ⟨0, false⟩, ⟨0, false⟩⟩]) .none .nil)))
    fun f => by cases f <;> decide
  behind := .none

def seven : SpelledMember where
  front := .none
  key := SpelledText.ofPlain ['i', 'n', 't'] (by decide) ++
    .unit ⟨⟨0, false⟩, ⟨0, false⟩, ⟨6, false⟩, ⟨5, false⟩⟩ (by decide) ::
      SpelledText.ofPlain ['g', 'e', 'r'] (by decide)
  behindKey := .none
  behindColon := .none
  content := .sample (.integer ⟨7, by decide, by decide⟩) (by decide)
  behind := .none

def falsehood : SpelledMember where
  front := .none
  key := .ofPlain ['b', 'o', 'o', 'l', 'e', 'a', 'n'] (by decide)
  behindKey := .none
  behindColon := .none
  content := .sample (.boolean false) (by decide)
  behind := .none

def annotated : SpelledSamples := ⟨.none, .none, [note, seven, falsehood], .none, by decide⟩

def reordered : SpelledSamples := ⟨.none, .none, [falsehood, seven], .none, by decide⟩

theorem parse_spelledSamples_annotated :
    (∃ s, Samples.parse annotated.text = .ok s ∧ s.value .integer = .integer 7 ∧
      s.value .string = .string "string") ∧
    annotated.values.Perm reordered.values ∧
      Samples.parse annotated.text = Samples.parse reordered.text := by
  have hvalues : annotated.values = [.integer 7, .boolean false] := rfl
  obtain ⟨⟨s, hparse, hset, hkept⟩, hsame⟩ := parse_spelledSamples annotated
  have hperm : annotated.values.Perm reordered.values := .swap ..
  refine ⟨⟨s, hparse, hset (.integer 7) ?_, hkept .string ?_⟩, hperm, hsame reordered hperm⟩
  · rw [hvalues]
    exact List.mem_cons_self
  · rw [hvalues]
    decide

end Exemplar.Samples
