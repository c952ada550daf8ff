import Exemplar.Proofs.Pattern.Specimen
import Mathlib.Data.Char
import Mathlib.Order.Bounds.Basic
import Mathlib.Order.MinMax

/-!
# The member of a set that is easiest to read

The specimen of a set is looked for band by band, and in each band range by range. It is
described here without either loop: it is the least member in the first band that has one,
and the least of all where no band has one. `specimen?_most_readable` says so for the sets
whose ranges ascend and have nothing in common.

The bands and the whole alphabet are searched alike. What is found in a range is the least of
its characters with some property, and as the ranges ascend, the first thing that is found is
the least such member of the set: `isLeast_of_findSome?`.
-/

namespace Exemplar

namespace CharRange

variable {r s t : CharRange} {c : Char}

theorem has_iff : r.has c = true ↔ r.first ≤ c ∧ c ≤ r.last := by
  simp [has]

theorem inter?_eq (r s : CharRange) :
    r.inter? s = if h : max r.first s.first ≤ min r.last s.last then some ⟨_, _, h⟩ else none :=
  rfl

/-- What two ranges have in common begins with the least character of both. -/
theorem isLeast_of_inter? (h : r.inter? s = some t) :
    IsLeast {d | r.has d = true ∧ s.has d = true} t.first := by
  obtain ⟨hmeet, ht⟩ := Option.dite_none_right_eq_some.1 (inter?_eq r s ▸ h)
  obtain ⟨hlast, hlast'⟩ := le_min_iff.1 hmeet
  rw [← Option.some.inj ht]
  constructor
  · exact ⟨has_iff.2 ⟨le_max_left _ _, hlast⟩, has_iff.2 ⟨le_max_right _ _, hlast'⟩⟩
  · rintro d ⟨hr, hs⟩
    exact max_le (has_iff.1 hr).1 (has_iff.1 hs).1

theorem not_has_of_inter? (h : r.inter? s = none) (hr : r.has c = true) : ¬ s.has c = true := by
  intro hs
  rw [inter?_eq, dif_pos] at h
  · cases h
  · exact (max_le (has_iff.1 hr).1 (has_iff.1 hs).1).trans
      (le_min (has_iff.1 hr).2 (has_iff.1 hs).2)

end CharRange

namespace CharSet

variable {s : CharSet} {c : Char}

/-- The ranges of a set ascend, and no character lies in two of them. -/
def Ascending (s : CharSet) : Prop :=
  s.ranges.Pairwise fun r t => r.last < t.first

theorem has_iff_exists : s.has c = true ↔ ∃ r ∈ s.ranges, r.has c = true := by
  rw [has, List.any_eq_true]

/-- Where the least character of each range with a property is looked for, what is found
first is the least member with that property. -/
theorem isLeast_of_findSome? {p : Char → Prop} {find : CharRange → Option Char}
    (hsome : ∀ r c, find r = some c → IsLeast {d | r.has d = true ∧ p d} c)
    (hnone : ∀ r, find r = none → ∀ d, r.has d = true → ¬ p d)
    (h : s.Ascending) (hfind : s.ranges.findSome? find = some c) :
    IsLeast {d | s.has d = true ∧ p d} c := by
  obtain ⟨ranges⟩ := s
  simp only [has_iff_exists, Ascending] at h hfind ⊢
  induction ranges with
  | nil => cases hfind
  | cons r ranges ih =>
      obtain ⟨hr, hranges⟩ := List.pairwise_cons.1 h
      rw [List.findSome?_cons] at hfind
      cases hfirst : find r with
      | none =>
          rw [hfirst] at hfind
          obtain ⟨⟨⟨t, ht, hc⟩, hp⟩, hleast⟩ := ih hranges hfind
          refine ⟨⟨⟨t, List.mem_cons_of_mem r ht, hc⟩, hp⟩, ?_⟩
          rintro d ⟨⟨t, ht, hd⟩, hp⟩
          rcases List.mem_cons.1 ht with rfl | ht
          · exact absurd hp (hnone t hfirst d hd)
          · exact hleast ⟨⟨t, ht, hd⟩, hp⟩
      | some d =>
          rw [hfirst] at hfind
          obtain rfl := Option.some.inj hfind
          obtain ⟨⟨hc, hp⟩, hleast⟩ := hsome r d hfirst
          refine ⟨⟨⟨r, List.mem_cons_self, hc⟩, hp⟩, ?_⟩
          rintro e ⟨⟨t, ht, he⟩, hp⟩
          rcases List.mem_cons.1 ht with rfl | ht
          · exact hleast ⟨he, hp⟩
          · -- A later range begins behind the end of this one.
            calc d ≤ r.last := (CharRange.has_iff.1 hc).2
              _ ≤ t.first := (hr t ht).le
              _ ≤ e := (CharRange.has_iff.1 he).1

theorem ranges_eq_nil_iff : s.ranges = [] ↔ ∀ d, s.has d = false := by
  constructor
  · intro h d
    rw [has, h, List.any_nil]
  · intro h
    rw [List.eq_nil_iff_forall_not_mem]
    intro r hr
    have hfirst : s.has r.first = true := has_iff_exists.2 ⟨r, hr, r.has_first⟩
    exact absurd hfirst (by simp [h])

def membersIn (s : CharSet) (band : CharRange) : Set Char :=
  {d | s.has d = true ∧ band.has d = true}

def inBand? (s : CharSet) (band : CharRange) : Option Char :=
  s.ranges.findSome? fun r => (r.inter? band).map (·.first)

variable {band : CharRange}

theorem isLeast_of_inBand? (h : s.Ascending) (hc : s.inBand? band = some c) :
    IsLeast (s.membersIn band) c := by
  refine isLeast_of_findSome? (fun r c hr => ?_) (fun r hr d hd => ?_) h hc
  · obtain ⟨t, ht, rfl⟩ := Option.map_eq_some_iff.1 hr
    exact CharRange.isLeast_of_inter? ht
  · exact CharRange.not_has_of_inter? (Option.map_eq_none_iff.1 hr) hd

theorem inBand?_eq_none_iff (h : s.Ascending) : s.inBand? band = none ↔ s.membersIn band = ∅ := by
  constructor
  · intro hnone
    refine Set.eq_empty_of_forall_notMem ?_
    rintro d ⟨hd, hband⟩
    obtain ⟨r, hr, hd⟩ := has_iff_exists.1 hd
    have hmeet := Option.map_eq_none_iff.1 (List.findSome?_eq_none_iff.1 hnone r hr)
    exact CharRange.not_has_of_inter? hmeet hd hband
  · intro hempty
    cases hc : s.inBand? band with
    | none => rfl
    | some c => exact absurd (isLeast_of_inBand? h hc).1 (by simp [hempty])

theorem inBand?_eq_some_iff (h : s.Ascending) :
    s.inBand? band = some c ↔ IsLeast (s.membersIn band) c := by
  refine ⟨isLeast_of_inBand? h, fun hc => ?_⟩
  cases hfound : s.inBand? band with
  | none =>
      rw [(inBand?_eq_none_iff h).1 hfound] at hc
      exact hc.1.elim
  | some d => rw [(isLeast_of_inBand? h hfound).unique hc]

theorem head?_eq_some_iff (h : s.Ascending) :
    s.ranges.head?.map (·.first) = some c ↔ IsLeast {d | s.has d = true} c := by
  have hleast : ∀ d, s.ranges.head?.map (·.first) = some d → IsLeast {d | s.has d = true} d := by
    intro d hd
    have hfind : s.ranges.findSome? (fun r => some r.first) = some d := by
      rw [← hd]
      cases s.ranges <;> rfl
    have := isLeast_of_findSome? (p := fun _ => True)
      (fun r c hr => ⟨⟨Option.some.inj hr ▸ r.has_first, trivial⟩, ?_⟩) nofun h hfind
    · simpa using this
    · rintro d ⟨hd, -⟩
      exact Option.some.inj hr ▸ (CharRange.has_iff.1 hd).1
  refine ⟨hleast c, fun hc => ?_⟩
  cases hhead : s.ranges.head?.map (·.first) with
  | none =>
      have hnil : s.ranges = [] := by simpa using hhead
      exact absurd hc.1 (by simp [ranges_eq_nil_iff.1 hnil c])
  | some d => rw [(hleast d hhead).unique hc]

/-- Every set with a member has a specimen. It is the least member in the first band that
has one: small letters, digits, capital letters, and what else is printable. Where no band
has a member, it is the least of all. -/
theorem specimen?_most_readable (s : CharSet) (h : s.Ascending) :
    readableBands.map (fun band => (band.first, band.last)) =
      [('a', 'z'), ('0', '9'), ('A', 'Z'), (' ', '~')] ∧
    (s.specimen? = none ↔ ∀ d, s.has d = false) ∧
    ∀ c, s.specimen? = some c ↔ s.has c = true ∧
      ((∃ front band behind, readableBands = front ++ band :: behind ∧
          (∀ b ∈ front, s.membersIn b = ∅) ∧ IsLeast (s.membersIn band) c) ∨
        (∀ b ∈ readableBands, s.membersIn b = ∅) ∧ IsLeast {d | s.has d = true} c) := by
  have hspecimen : s.specimen? =
      (readableBands.findSome? s.inBand?).or (s.ranges.head?.map (·.first)) := by
    rw [specimen?, Option.orElse_eq_orElse, Option.orElse_eq_or]
    rfl
  -- Either some band is the first one with a member, or the first range decides.
  refine ⟨rfl, ?_, fun c => ⟨fun hc => ?_, fun hc => ?_⟩⟩
  · rw [← ranges_eq_nil_iff, hspecimen, Option.or_eq_none_iff]
    refine ⟨fun hnone => by simpa using hnone.2, fun hnil => ?_⟩
    simp [inBand?, hnil]
  · refine ⟨has_of_specimen? hc, ?_⟩
    rw [hspecimen, Option.or_eq_some_iff, List.findSome?_eq_some_iff] at hc
    rcases hc with ⟨front, band, behind, hbands, hband, hfront⟩ | ⟨hnone, hhead⟩
    · exact .inl ⟨front, band, behind, hbands,
        fun b hb => (inBand?_eq_none_iff h).1 (hfront b hb), isLeast_of_inBand? h hband⟩
    · rw [List.findSome?_eq_none_iff] at hnone
      exact .inr ⟨fun b hb => (inBand?_eq_none_iff h).1 (hnone b hb),
        (head?_eq_some_iff h).1 hhead⟩
  · rw [hspecimen, Option.or_eq_some_iff, List.findSome?_eq_some_iff,
      List.findSome?_eq_none_iff]
    rcases hc.2 with ⟨front, band, behind, hbands, hfront, hband⟩ | ⟨hnone, hleast⟩
    · exact .inl ⟨front, band, behind, hbands, (inBand?_eq_some_iff h).2 hband,
        fun b hb => (inBand?_eq_none_iff h).2 (hfront b hb)⟩
    · exact .inr ⟨fun b hb => (inBand?_eq_none_iff h).2 (hnone b hb),
        (head?_eq_some_iff h).2 hleast⟩

/-- Two ranges that each begin in front of a band: one of them ends among the digits, the
other one before the small letters. -/
def straddling : CharSet := ⟨[.between '+' '5', .between 'Y' '_']⟩

/-- There is a capital letter in the set, and a sign in front of the digits, but a digit is
easier to read. -/
theorem specimen?_most_readable_of_straddling :
    straddling.Ascending ∧ straddling.specimen? = some '0' ∧
      ∃ front band behind, readableBands = front ++ band :: behind ∧
        (∀ b ∈ front, straddling.membersIn b = ∅) ∧ IsLeast (straddling.membersIn band) '0' := by
  have hascending : straddling.Ascending :=
    List.pairwise_cons.2 ⟨List.forall_mem_singleton.2 (by decide), List.pairwise_singleton _ _⟩
  have hspecimen : straddling.specimen? = some '0' := by decide
  refine ⟨hascending, hspecimen, ?_⟩
  have hzero := ((specimen?_most_readable straddling hascending).2.2 '0').1 hspecimen
  rcases hzero.2 with hband | ⟨hnone, -⟩
  · exact hband
  · have hdigits := hnone (.between '0' '9') (by decide)
    have hmem : '0' ∈ straddling.membersIn (.between '0' '9') := ⟨by decide, by decide⟩
    simp [hdigits] at hmem

end CharSet

end Exemplar
