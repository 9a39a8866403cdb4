import Sequencer.Proofs.RoundTrip

/-!
# Identifiers in the order of their parts

Zero-padded fields of fixed widths are ordered as texts the way their numbers are, from the first
field that differs on (`spellFields_lt_iff`). So the spellings of moments are in chronological
order (`Moment.spelled_lt_iff`) and identifiers under one ceiling in that of moment, counter and
suffix (`Identifier.text_lt_iff`).
-/

namespace Sequencer

open Text

/-! ## Fields of fixed widths -/

/-- Numbers as zero-padded decimals of their widths, one after another. -/
def spellFields (widths numbers : List Nat) : List Char :=
  (List.zipWith paddedNatural widths numbers).flatten

/-- Numbers fit their widths, and no width is zero. -/
def FitWidths (widths numbers : List Nat) : Prop :=
  List.Forall₂ (fun width n => 0 < width ∧ n < 10 ^ width) widths numbers

/-- Fields of fixed widths are ordered as texts the way their numbers are, from the first that
differs on. -/
theorem spellFields_lt_iff {widths numbers numbers' : List Nat} (h : FitWidths widths numbers)
    (h' : FitWidths widths numbers') :
    spellFields widths numbers < spellFields widths numbers' ↔ numbers < numbers' := by
  -- Over the fields: the first two have one width, so they decide or are the same.
  induction h generalizing numbers' with
  | nil =>
    cases h'
    simp
  | @cons width n widths numbers hn hrest ih =>
    cases h' with
    | @cons _ n' _ numbers' hn' hrest' =>
      have hnum := isNumeral_paddedNatural hn.1 hn.2
      have hnum' := isNumeral_paddedNatural hn'.1 hn'.2
      have heq : paddedNatural width n = paddedNatural width n' ↔ n = n' :=
        ⟨paddedNatural_inj, congrArg _⟩
      show paddedNatural width n ++ spellFields widths numbers <
        paddedNatural width n' ++ spellFields widths numbers' ↔ _
      rw [append_lt_append_iff (hnum.length_eq.trans hnum'.length_eq.symm),
        paddedNatural_lt_iff hn.1 hn.2 hn'.2, heq, ih hrest', List.cons_lt_cons_iff]

/-! ## Moments -/

namespace Moment

/-- What the wall clock shows, the most significant number first. -/
def wall (m : Moment) : List Nat :=
  [m.date.year, m.date.month, m.date.day, m.time.hour, m.time.minute, m.time.second,
    m.time.microsecond]

/-- Chronological order of what wall clocks show. -/
def Before (m n : Moment) : Prop := m.wall < n.wall

instance (m n : Moment) : Decidable (m.Before n) :=
  inferInstanceAs (Decidable (m.wall < n.wall))

theorem spelled_eq_spellFields (m : Moment) :
    m.spelled = spellFields [4, 2, 2, 2, 2, 2, 3]
      [m.date.year, m.date.month, m.date.day, m.time.hour, m.time.minute, m.time.second,
        m.time.microsecond / 1000] := by
  simp [spelled, cut, StampCut.text, spellFields]

theorem fitWidths (m : Moment) :
    FitWidths [4, 2, 2, 2, 2, 2, 3]
      [m.date.year, m.date.month, m.date.day, m.time.hour, m.time.minute, m.time.second,
        m.time.microsecond / 1000] := by
  obtain ⟨hyear, hmonth, hday⟩ := m.date.valid
  have hdays := daysInMonth_le m.date.year m.date.month
  have hhour := m.time.hour_lt
  have hminute := m.time.minute_lt
  have hsecond := m.time.second_lt
  have hmicro := m.time.microsecond_lt
  simp only [FitWidths, List.forall₂_cons, List.forall₂_nil_left_iff, and_true]
  omega

/-- The spellings of moments are in chronological order, as far as milliseconds tell. -/
theorem spelled_lt_iff {m n : Moment} :
    m.spelled < n.spelled ↔ m.toMilliseconds.Before n.toMilliseconds := by
  rw [spelled_eq_spellFields, spelled_eq_spellFields, spellFields_lt_iff m.fitWidths n.fitWidths]
  have hmicro : m.time.microsecond / 1000 < n.time.microsecond / 1000 ↔
      m.time.microsecond / 1000 * 1000 < n.time.microsecond / 1000 * 1000 := by
    omega
  simp only [List.cons_lt_cons_iff, List.not_lt_nil, and_false, or_false, hmicro]
  simp only [Before, wall, toMilliseconds, TimeOfDay.toMilliseconds, List.cons_lt_cons_iff,
    List.not_lt_nil, and_false, or_false]

theorem spelled_inj {m n : Moment} :
    m.spelled = n.spelled ↔ m.toMilliseconds = n.toMilliseconds := by
  constructor
  · intro h
    have hread := m.readStamp_spelled
    rw [h, readStamp_spelled] at hread
    exact (Except.ok.inj hread).symm
  · intro h
    rw [← spelled_toMilliseconds, h, spelled_toMilliseconds]

end Moment

/-! ## Parts -/

namespace Identifier

/-- The order of moment, counter and suffix, the first that differs deciding. -/
def Parts.Before (p q : Parts) : Prop :=
  p.moment.Before q.moment ∨
    (p.moment = q.moment ∧
      (p.counter < q.counter ∨ (p.counter = q.counter ∧ p.suffix < q.suffix)))

instance (p q : Parts) : Decidable (p.Before q) := by
  unfold Parts.Before; infer_instance

variable {ceiling : Int} {p q : Parts}

theorem text_lt_iff (hp : p.Allowed ceiling) (hq : q.Allowed ceiling) :
    p.text ceiling < q.text ceiling ↔ p.Before q := by
  have hstamp := isNumeral_spelled p.moment
  have hstamp' := isNumeral_spelled q.moment
  have hcounter := isNumeral_counter hp.counter_le
  have hcounter' := isNumeral_counter hq.counter_le
  have heq : paddedNatural (counterWidth ceiling) p.counter =
      paddedNatural (counterWidth ceiling) q.counter ↔ p.counter = q.counter :=
    ⟨paddedNatural_inj, congrArg _⟩
  show (p.text ceiling).toList < (q.text ceiling).toList ↔ _
  rw [Parts.text, Parts.text, String.toList_ofList, String.toList_ofList, List.append_assoc,
    List.append_assoc, append_lt_append_iff (hstamp.length_eq.trans hstamp'.length_eq.symm),
    append_lt_append_iff (hcounter.length_eq.trans hcounter'.length_eq.symm),
    Moment.spelled_lt_iff, Moment.spelled_inj, hp.toMilliseconds, hq.toMilliseconds, heq,
    hcounter.lt_iff hcounter', hp.isNumeral_suffix.lt_iff hq.isNumeral_suffix,
    naturalValue_padded, naturalValue_padded, naturalValue_padded, naturalValue_padded]
  rfl

theorem text_inj (hp : p.Allowed ceiling) (hq : q.Allowed ceiling) :
    p.text ceiling = q.text ceiling ↔ p = q := by
  constructor
  · intro h
    have hparse := parse_text hp
    rw [h, parse_text hq] at hparse
    exact (Except.ok.inj hparse).symm
  · rintro rfl
    rfl

end Identifier

end Sequencer
