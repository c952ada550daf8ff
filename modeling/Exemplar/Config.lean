import Exemplar.Calendar.Moment
import Exemplar.Samples.Basic

/-!
# Configuration

What calls fall back on that do not say everything themselves: the moment that
is taken for now, and the sample values.
-/

namespace Exemplar

open Calendar

/-- What calls fall back on. -/
structure Config where
  clock : Moment := ⟨⟨0, 0⟩, 0⟩
  samples : Samples := {}

/-- The moment of a call: what it says goes before what is configured. -/
def Config.moment (c : Config) (instant? : Option Instant) (zone? : Option Int) : Moment :=
  ⟨instant?.getD c.clock.instant, zone?.getD c.clock.zone⟩

end Exemplar
