import Exemplar.Proofs.Builder.Independence
import Exemplar.Proofs.Pattern.Anchor

/-!
# Examples satisfy their rules

A typed generator makes an example together with the rule by which real values are
checked. The example may be handed in, it may be a sample value, or it is made up from
a pattern. In all three cases it satisfies its own rule, with one gap. A floating-point
number that is not finite has no written form and is put as null. Nobody asks whether
that has happened, so a decimal number whose example is null is made without complaint.
-/

namespace Exemplar

open Calendar Pattern

def Number.Written : Number → Prop
  | .int _ => True
  | .float x => x.isFinite = true

def NumberKind.Has : NumberKind → Number → Prop
  | .integer, n => ∃ k, n = .int k
  | .decimal, n | .number, n => n.Written

/-- A pattern can be read, and describes a text from its first character to its last. -/
def Pattern.Describes (pattern text : String) : Prop :=
  ∃ e, Expr.ofPattern pattern.toList = .ok e ∧
    e.Matches text.toList.toArray 0 text.toList.length

/-- A value is what a rule asks for, where a rule about moments asks for one moment. Any
value is of its own type, and the rules that no typed generator gives ask for nothing. -/
def Rule.ShownBy (m : Moment) (v : Json) : Rule → Prop
  | .regex pattern => ∃ text, v = .str text ∧ Pattern.Describes pattern text
  | .includes part => ∃ text : String, v = .str text ∧ part.toList <:+: text.toList
  | .number kind => ∃ n, v = .num n ∧ kind.Has n
  | .format _ pattern => ∃ p, DatePattern.parse pattern = .ok p ∧ v = .str (p.format m)
  | .exactType | .minLength _ | .maxLength _ | .expression .. | .eachKey .. => True

namespace Pattern.Whole

variable {pattern text : String}

theorem describes_of_check (h : check pattern text = .ok ()) : Describes pattern text := by
  cases he : Expr.ofPattern pattern.toList with
  | error err =>
      rw [check_of_parse_eq_error (parse_of_ofPattern_eq_error he)] at h
      cases h
  | ok e =>
      rcases parse_of_ofPattern_eq_ok he with ⟨err, -, hparse⟩ | hparse
      · rw [check_of_parse_eq_error hparse] at h
        cases h
      · exact ⟨e, he, isMatch_whole.1 ((check_eq_ok_iff hparse text).1 h)⟩

/-- A text that is made up passes the check. -/
theorem check_of_synthesize (h : synthesize pattern = .ok text) : check pattern text = .ok () := by
  cases he : Expr.ofPattern pattern.toList with
  | error err => simp [synthesize, he] at h
  | ok e =>
      cases hparse : parse pattern with
      | error err => simp [synthesize, he, hparse] at h
      | ok w =>
          cases hmatch : w.matchesText (.ofList e.specimen) with
          | false => simp [synthesize, he, hparse, hmatch] at h
          | true =>
              obtain rfl : String.ofList e.specimen = text := by
                simpa [synthesize, he, hparse, hmatch] using h
              exact (check_eq_ok_iff hparse _).2 hmatch

end Pattern.Whole

namespace Generator

variable {config : Config} {g : Generator} {v : Generated} {m : Moment}

/-- A generator that gives an example with a rule of its own. -/
def Typed : Generator → Prop
  | .exact _ | .exactMoment .. | .matched .. | .expression .. => False
  | .string _ | .integer _ | .decimal _ | .number _ | .boolean _ | .id _ | .hex _ | .uuid _
  | .ipAddress _ | .matching .. | .including _ | .temporal .. => True

def moment (config : Config) : Generator → Moment
  | .temporal _ _ instant? zone? => config.moment instant? zone?
  | _ => config.clock

/-- The number of a generator, if it has one, has a written form. -/
def Writable (config : Config) : Generator → Prop
  | .decimal example? => (Number.float (example?.getD config.samples.decimal)).Written
  | .number (some n) => n.Written
  | _ => True

theorem exists_eq_ok_of_map {α β : Type} {r : Except Failure α} {k : α → β} {x : β}
    (h : r.map k = .ok x) : ∃ a, r = .ok a ∧ k a = x := by
  cases r with
  | error f => cases h
  | ok a => exact ⟨a, rfl, Except.ok.inj h⟩

theorem parse_of_datePattern {pattern : String} {p : DatePattern}
    (h : datePattern pattern = .ok p) : DatePattern.parse pattern = .ok p := by
  rw [datePattern] at h
  cases hp : DatePattern.parse pattern with
  | error fault =>
      rw [hp] at h
      cases h
  | ok q =>
      rw [hp] at h
      cases h
      rfl

/-! ## One kind of rule after the other -/

theorem shownBy_of_checked {pattern text : String} (h : checked pattern text = .ok v) :
    (Rule.regex pattern).ShownBy m v.value := by
  obtain ⟨_, hcheck, rfl⟩ := exists_eq_ok_of_map h
  exact ⟨text, rfl, Whole.describes_of_check (orRefuse_eq_ok_iff.1 hcheck)⟩

theorem shownBy_of_synthesized {pattern : String} (h : synthesized pattern = .ok v) :
    (Rule.regex pattern).ShownBy m v.value := by
  obtain ⟨text, htext, rfl⟩ := exists_eq_ok_of_map h
  have hcheck := Whole.check_of_synthesize (orRefuse_eq_ok_iff.1 htext)
  exact ⟨text, rfl, Whole.describes_of_check hcheck⟩

theorem shownBy_of_temporal {part : Temporal} {pattern : String} {instant? : Option Instant}
    {zone? : Option Int} (h : (temporal part pattern instant? zone?).make config = .ok v) :
    (Rule.format part pattern).ShownBy (config.moment instant? zone?) v.value := by
  obtain ⟨p, hp, rfl⟩ := exists_eq_ok_of_map h
  exact ⟨p, parse_of_datePattern hp, rfl⟩

/-- A floating-point number is put as a number exactly if it has a written form. -/
theorem shownBy_ofFloat_iff {x : Float} :
    (Rule.number .decimal).ShownBy m (.ofFloat x) ↔ (Number.float x).Written := by
  rw [Json.ofFloat]
  split
  case isTrue hx => exact iff_of_true ⟨.float x, rfl, hx⟩ hx
  case isFalse hx => exact iff_of_false (fun ⟨n, hn, _⟩ => nomatch hn) hx

theorem shownBy_num_iff {n : Number} :
    (Rule.number .number).ShownBy m (.num n) ↔ n.Written := by
  constructor
  · rintro ⟨n, ⟨⟩, hn⟩
    exact hn
  · exact fun hn => ⟨n, rfl, hn⟩

/-- The example of a typed generator is what the rule that comes with it asks for, as long
as it is not a number without a written form. -/
theorem example_shows_rule_iff (hg : g.Typed) (h : g.make config = .ok v) :
    ∃ rule, v.rule? = some rule ∧
      (rule.ShownBy (g.moment config) v.value ↔ g.Writable config) := by
  have hrule := rule?_make h
  cases g with
  | exact | exactMoment | matched | expression => exact hg.elim
  | string | boolean | id =>
      exact ⟨_, hrule, Iff.rfl⟩
  | integer example? =>
      cases h
      exact ⟨_, rfl, iff_of_true ⟨_, rfl, _, rfl⟩ trivial⟩
  | decimal example? =>
      cases h
      exact ⟨_, rfl, shownBy_ofFloat_iff⟩
  | number example? =>
      cases h
      refine ⟨_, rfl, shownBy_num_iff.trans ?_⟩
      cases example? <;> exact Iff.rfl
  | hex | uuid | ipAddress => exact ⟨_, hrule, iff_of_true (shownBy_of_checked h) trivial⟩
  | matching pattern example? =>
      refine ⟨_, hrule, iff_of_true ?_ trivial⟩
      cases example? with
      | none => exact shownBy_of_synthesized h
      | some text => exact shownBy_of_checked h
  | including text =>
      cases h
      exact ⟨_, rfl, iff_of_true ⟨text, rfl, List.infix_rfl⟩ trivial⟩
  | temporal part pattern instant? zone? =>
      exact ⟨_, hrule, iff_of_true (shownBy_of_temporal h) trivial⟩

def notANumber : Float := 0 / 0

theorem example_shows_rule_iff_of_notANumber :
    (Generator.decimal (some notANumber)).Typed ∧
    (Generator.decimal (some notANumber)).make {} = .ok (.matched .null (.number .decimal)) ∧
    ¬ (Rule.number .decimal).ShownBy ((Generator.decimal (some notANumber)).moment {}) .null := by
  have hnan : notANumber.isFinite = false := by decide
  have hmake : (Generator.decimal (some notANumber)).make {} =
      .ok (.matched .null (.number .decimal)) := by
    simp [make, Json.ofFloat, hnan]
  obtain ⟨rule, hrule, hshown⟩ := example_shows_rule_iff (g := .decimal (some notANumber))
    trivial hmake
  cases hrule
  refine ⟨trivial, hmake, fun h => ?_⟩
  have hwritten : notANumber.isFinite = true := hshown.1 h
  rw [hnan] at hwritten
  cases hwritten

end Generator

end Exemplar
