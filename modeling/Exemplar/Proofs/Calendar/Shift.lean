import Exemplar.Proofs.Calendar.Evaluation
import Exemplar.Proofs.Calendar.Quotes
import Mathlib.Data.List.Basic

/-!
# Zones as shifts

What a moment shows is read off its local seconds, the sum of the time in Greenwich and
the offset of the zone. Two moments with the same sum, in different zones, are told apart
by the offset only: all fields but the zone have the same text, and the steps of an
expression lead from them to moments that again have the same sum. Seconds are added to
the time in Greenwich and months to the date that is shown, but the sum does not know
which of its parts has grown.

So any zone may be taken for Greenwich, with a clock that is ahead by the offset.
-/

namespace Exemplar.Calendar

namespace Moment

/-- Two moments show the same date and the same time of day, each in its zone. -/
structure ShowsSame (m m' : Moment) : Prop where
  localSeconds : m.localSeconds = m'.localSeconds
  nanos : m.instant.nanos = m'.instant.nanos

theorem showsSame_greenwich (i : Instant) (zone : Int) :
    ShowsSame ⟨i, zone⟩ ⟨⟨i.seconds + zone, i.nanos⟩, 0⟩ :=
  ⟨by simp only [localSeconds]; omega, rfl⟩

namespace ShowsSame

variable {m m' r r' : Moment}

theorem day (h : m.ShowsSame m') : m.day = m'.day := by
  rw [Moment.day, Moment.day, h.localSeconds]

theorem date (h : m.ShowsSame m') : m.date = m'.date := by
  rw [Moment.date, Moment.date, h.day]

theorem secondOfDay (h : m.ShowsSame m') : m.secondOfDay = m'.secondOfDay := by
  rw [Moment.secondOfDay, Moment.secondOfDay, h.localSeconds]

/-! ## Fields -/

theorem value (h : m.ShowsSame m') (q : Quantity) : q.value m = q.value m' := by
  cases q <;>
    simp only [Quantity.value, hour, minute, second, millisecond, h.day, h.date, h.secondOfDay,
      h.nanos]

/-- All fields but the zone have the same text. -/
theorem render_field (h : m.ShowsSame m') {f : Field} (hf : ∀ style, f ≠ .zone style) :
    f.render m = f.render m' := by
  cases f with
  | zone style => exact absurd rfl (hf style)
  | number q width => rw [Field.render, Field.render, h.value]
  | halfDay => rw [Field.render, Field.render, hour, hour, h.secondOfDay]
  | year | weekYear | monthName | weekdayName => simp only [Field.render, h.day, h.date]

theorem format (h : m.ShowsSame m') {p : DatePattern}
    (hp : ∀ style, .field (.zone style) ∉ p.symbols) : p.format m = p.format m' := by
  rw [DatePattern.format, DatePattern.format]
  refine congrArg String.ofList (List.flatMap_congr fun s hs => ?_)
  cases s with
  | text c => rfl
  | field f =>
      refine h.render_field fun style hf => ?_
      rw [hf] at hs
      exact hp style hs

/-! ## Steps of an expression -/

theorem addSeconds (h : m.ShowsSame m') {n : Int} (hr : m.addSeconds? n = some r)
    (hr' : m'.addSeconds? n = some r') : r.ShowsSame r' := by
  obtain ⟨-, rfl⟩ := addSeconds?_eq_some_iff.1 hr
  obtain ⟨-, rfl⟩ := addSeconds?_eq_some_iff.1 hr'
  obtain ⟨hsum, hnanos⟩ := h
  simp only [Moment.localSeconds] at hsum
  rcases Nat.lt_or_ge m.instant.nanos nanosPerSecond with hlt | hle
  · rw [Instant.addSeconds_of_lt hlt, Instant.addSeconds_of_lt (hnanos ▸ hlt)]
    exact ⟨by simp only [Moment.localSeconds]; omega, hnanos⟩
  · obtain ⟨hseconds, hrest⟩ := Instant.addSeconds_of_le hle n
    obtain ⟨hseconds', hrest'⟩ := Instant.addSeconds_of_le (hnanos ▸ hle) n
    refine ⟨?_, ?_⟩
    · simp only [Moment.localSeconds, hseconds, hseconds']
      omega
    · rw [hrest, hrest', hnanos]

theorem ofDate (d : Date) (secondOfDay nanos : Nat) (zone zone' : Int) :
    ShowsSame (.ofDate d secondOfDay nanos zone) (.ofDate d secondOfDay nanos zone') :=
  ⟨by simp only [Moment.localSeconds, Moment.ofDate]; omega, rfl⟩

theorem addMonths (h : m.ShowsSame m') {n : Int} (hr : m.addMonths? n = some r)
    (hr' : m'.addMonths? n = some r') : r.ShowsSame r' := by
  rcases addMonths?_eq_some_iff.1 hr with ⟨rfl, rfl⟩ | ⟨hn, -, rfl⟩
  · rcases addMonths?_eq_some_iff.1 hr' with ⟨-, rfl⟩ | ⟨hn, -, -⟩
    · exact h
    · exact absurd rfl hn
  · rcases addMonths?_eq_some_iff.1 hr' with ⟨hn', -⟩ | ⟨-, -, rfl⟩
    · exact absurd hn' hn
    · rw [h.date, h.secondOfDay, h.nanos]
      exact .ofDate ..

theorem shift (h : m.ShowsSame m') {forward : Bool} {amount : Nat} {span : Span}
    (hr : m.shift? forward amount span = some r)
    (hr' : m'.shift? forward amount span = some r') : r.ShowsSame r' := by
  cases span with
  | seconds n => exact h.addSeconds hr hr'
  | months n =>
      rw [shift?, Option.ite_none_right_eq_some] at hr hr'
      exact h.addMonths hr.2 hr'.2

end ShowsSame

end Moment

def zoneLetters : List Char := ['z', 'Z', 'X']

theorem Field.mem_zoneLetters {c : Char} {n : Nat} {style : ZoneStyle}
    (h : ofRun? c n = some (.zone style)) : c ∈ zoneLetters := by
  fun_cases ofRun? c n <;> simp_all [ofRun?, zoneLetters]

/-- A pattern without a letter for the zone outside of quotes does not show the zone. -/
theorem DatePattern.zone_notMem_symbols {text : String} {p : DatePattern}
    (h : parse text = .ok p) (hz : ∀ c ∈ zoneLetters, ¬ Unquoted text.toList c)
    (style : ZoneStyle) : .field (.zone style) ∉ p.symbols := by
  intro hf
  obtain ⟨c, n, hc, hrun⟩ := exists_unquoted_of_field_mem h hf
  exact hz c (Field.mem_zoneLetters hrun) hc

/-- A zone is no more than a shift. A pattern that does not show the zone has the text that
it has in Greenwich as many seconds later as the offset is. An expression that leads
somewhere in both places leads to the same date and the same time of day, and keeps the
zone that it has started in. -/
theorem zone_shifts_uniformly (i : Instant) (zone : Int) :
    (∀ (text : String) (p : DatePattern), DatePattern.parse text = .ok p →
      (∀ c ∈ zoneLetters, ¬ Unquoted text.toList c) →
        p.format ⟨i, zone⟩ = p.format ⟨⟨i.seconds + zone, i.nanos⟩, 0⟩) ∧
    ∀ (text : String) (m m' : Moment), evaluate text ⟨i, zone⟩ = .ok m →
      evaluate text ⟨⟨i.seconds + zone, i.nanos⟩, 0⟩ = .ok m' →
        m.date = m'.date ∧ m.secondOfDay = m'.secondOfDay ∧
          m.instant.nanos = m'.instant.nanos ∧ m.zone = zone := by
  have hstart := Moment.showsSame_greenwich i zone
  refine ⟨fun text p hparse hz => ?_, fun text m m' hm hm' => ?_⟩
  · exact hstart.format (DatePattern.zone_notMem_symbols hparse hz)
  · have hkept : Moment.Kept fun m m' => m.ShowsSame m' ∧ m.zone = zone := by
      rintro forward amount span m m' r r' ⟨hsame, hzone⟩ hr hr'
      exact ⟨hsame.shift hr hr', (Moment.zone_of_shift hr).trans hzone⟩
    obtain ⟨hsame, hzone⟩ := hkept.evaluate ⟨hstart, rfl⟩ hm hm'
    exact ⟨hsame.date, hsame.secondOfDay, hsame.nanos, hzone⟩

theorem zone_shifts_uniformly_on_the_west_coast :
    (∃ p : DatePattern, DatePattern.parse "yyyy-MM-dd'T'HH:mm:ss.SSS'Z'" = .ok p ∧
      p.format ⟨⟨0, 7000000⟩, -28800⟩ = p.format ⟨⟨-28800, 7000000⟩, 0⟩) ∧
    ∃ m m' : Moment,
      evaluate "tomorrow + 1 month - 2 hours" ⟨⟨0, 7000000⟩, -28800⟩ = .ok m ∧
      evaluate "tomorrow + 1 month - 2 hours" ⟨⟨-28800, 7000000⟩, 0⟩ = .ok m' ∧
      m.date = m'.date ∧ m.secondOfDay = m'.secondOfDay ∧ m.zone = -28800 := by
  have hparse : Expression.parse? "tomorrow + 1 month - 2 hours".toList =
      some ⟨some .tomorrow, [⟨true, ['1'], ['m', 'o', 'n', 't', 'h'], "+ 1 month".toList⟩,
        ⟨false, ['2'], ['h', 'o', 'u', 'r', 's'], "- 2 hours".toList⟩]⟩ := by decide +kernel
  have hwest : evaluate "tomorrow + 1 month - 2 hours" ⟨⟨0, 7000000⟩, -28800⟩ =
      .ok ⟨⟨2757600, 7000000⟩, -28800⟩ :=
    evaluate_eq_ok_iff.2 ⟨_, ⟨⟨86400, 7000000⟩, -28800⟩, hparse, by decide +kernel,
      by decide +kernel⟩
  have hgreenwich : evaluate "tomorrow + 1 month - 2 hours" ⟨⟨-28800, 7000000⟩, 0⟩ =
      .ok ⟨⟨2728800, 7000000⟩, 0⟩ :=
    evaluate_eq_ok_iff.2 ⟨_, ⟨⟨57600, 7000000⟩, 0⟩, hparse, by decide +kernel,
      by decide +kernel⟩
  have hletters : ∀ c ∈ zoneLetters, ¬ Unquoted "yyyy-MM-dd'T'HH:mm:ss.SSS'Z'".toList c := by
    rw [zoneLetters, List.forall_mem_cons, List.forall_mem_cons, List.forall_mem_singleton]
    exact ⟨by decide, by decide, by decide⟩
  obtain ⟨hformat, hevaluate⟩ := zone_shifts_uniformly ⟨0, 7000000⟩ (-28800)
  obtain ⟨hdate, htime, -, hzone⟩ := hevaluate _ _ _ hwest hgreenwich
  obtain ⟨p, hp⟩ : ∃ p, DatePattern.parse "yyyy-MM-dd'T'HH:mm:ss.SSS'Z'" = .ok p := ⟨_, rfl⟩
  exact ⟨⟨p, hp, hformat _ p hp hletters⟩, _, _, hwest, hgreenwich, hdate, htime, hzone⟩

end Exemplar.Calendar
