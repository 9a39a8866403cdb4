import Sequencer.Generator.Basic
import Sequencer.Proofs.Decimal

/-!
# The layout of a composed identifier

`spelled` is the text that stamp, counter value and suffix make. Its three parts have fixed
widths as long as the value fits under the ceiling, so the text determines them (`spelled_inj`)
and the counter segment can be cut out again (`counterPart_spelled`); it is well formed iff the
value is not negative (`wellFormed_spelled_iff`). A clock's answer gives a stamp iff it is a
moment of a year from 1000 on (`stamp?_eq_ok_iff`), and a random source's answer a suffix iff it
is an integer of six digits (`suffix_eq_ok_iff`).
-/

namespace Sequencer

open Text

/-! ## Stamps -/

namespace Moment

theorem length_digits (m : Moment) : m.digits.length = (natural m.date.year).length + 13 := by
  have hmonth := m.date.valid.2.1
  have hday := m.date.valid.2.2
  have hdays := daysInMonth_le m.date.year m.date.month
  have hhour := m.time.hour_lt
  have hminute := m.time.minute_lt
  have hsecond := m.time.second_lt
  have hmicro := m.time.microsecond_lt
  unfold digits
  simp only [List.length_append]
  rw [length_paddedNatural_of_lt (by omega) (by omega : m.date.month < 10 ^ 2),
    length_paddedNatural_of_lt (by omega) (by omega : m.date.day < 10 ^ 2),
    length_paddedNatural_of_lt (by omega) (by omega : m.time.hour < 10 ^ 2),
    length_paddedNatural_of_lt (by omega) (by omega : m.time.minute < 10 ^ 2),
    length_paddedNatural_of_lt (by omega) (by omega : m.time.second < 10 ^ 2),
    length_paddedNatural_of_lt (by omega) (by omega : m.time.microsecond / 1000 < 10 ^ 3)]

theorem isDigit_of_mem_digits {m : Moment} {c : Char} (h : c ∈ m.digits) : c.isDigit = true := by
  unfold digits at h
  simp only [List.mem_append] at h
  rcases h with (((((h | h) | h) | h) | h) | h) | h
  · exact isDigit_of_mem_natural h
  all_goals exact isDigit_of_mem_paddedNatural h

/-- Seventeen digits are exactly what the years from 1000 on give. -/
theorem length_digits_eq_iff (m : Moment) : m.digits.length = stampWidth ↔ 1000 ≤ m.date.year := by
  have hyear := m.date.valid.1
  rw [length_digits, stampWidth]
  constructor
  · intro h
    by_cases hlow : m.date.year < 10 ^ 3
    · have := (length_natural_le_iff (by omega : 0 < 3)).mpr hlow
      omega
    · omega
  · intro h
    rw [length_natural_eq (by omega : 10 ^ 3 ≤ m.date.year) (by omega)]

theorem stamp?_eq_ok_iff {m : Moment} {stamp : List Char} :
    m.stamp? = .ok stamp ↔ 1000 ≤ m.date.year ∧ stamp = m.digits := by
  have hdigits : m.digits.all Text.isDigit = true :=
    List.all_eq_true.mpr fun c hc => isDigit_of_ascii (isDigit_of_mem_digits hc)
  unfold stamp?
  constructor
  · intro h
    split at h
    · rename_i hwidth
      injection h with h
      exact ⟨m.length_digits_eq_iff.mp hwidth.1, h.symm⟩
    · cases h
  · rintro ⟨hyear, rfl⟩
    rw [if_pos ⟨m.length_digits_eq_iff.mpr hyear, hdigits⟩]

end Moment

/-- A stamp is that of a moment whose year has four digits. -/
theorem ClockAnswer.stamp_eq_ok_iff {answer : ClockAnswer} {stamp : List Char} :
    answer.stamp = .ok stamp ↔
      ∃ m, answer = .reading m ∧ 1000 ≤ m.date.year ∧ stamp = m.digits := by
  cases answer with
  | reading m =>
    simp only [ClockAnswer.stamp, ClockAnswer.reading.injEq, exists_eq_left']
    rw [← Moment.stamp?_eq_ok_iff]
    cases m.stamp? with
    | error fault =>
      show Except.error (ClockFault.noStamp fault) = .ok stamp ↔ Except.error fault = .ok stamp
      simp
    | ok digits =>
      show Except.ok digits = .ok stamp ↔ Except.ok digits = .ok stamp
      simp
  | other v => simp [ClockAnswer.stamp]
  | raised message => simp [ClockAnswer.stamp]

theorem ClockAnswer.length_of_stamp {answer : ClockAnswer} {stamp : List Char}
    (h : answer.stamp = .ok stamp) : stamp.length = stampWidth := by
  obtain ⟨m, -, hyear, rfl⟩ := ClockAnswer.stamp_eq_ok_iff.mp h
  exact m.length_digits_eq_iff.mpr hyear

theorem ClockAnswer.isDigit_of_stamp {answer : ClockAnswer} {stamp : List Char}
    (h : answer.stamp = .ok stamp) : stamp.all Char.isDigit = true := by
  obtain ⟨m, -, -, rfl⟩ := ClockAnswer.stamp_eq_ok_iff.mp h
  exact List.all_eq_true.mpr fun c hc => Moment.isDigit_of_mem_digits hc

/-! ## Suffixes -/

theorem DrawAnswer.suffix_eq_ok_iff {answer : DrawAnswer} {suffix : Nat} :
    answer.suffix = .ok suffix ↔
      answer = .value (.int suffix) ∧ suffixMin ≤ suffix ∧ suffix ≤ suffixMax := by
  constructor
  · intro h
    unfold DrawAnswer.suffix at h
    split at h
    · rename_i n
      split at h
      · rename_i hrange
        injection h with h
        have hn : (suffix : Int) = n := by omega
        rw [hn]
        exact ⟨rfl, by omega, by omega⟩
      · cases h
    · cases h
    · cases h
  · rintro ⟨rfl, low, high⟩
    simp only [DrawAnswer.suffix]
    rw [if_pos ⟨by omega, by omega⟩]
    rfl

theorem length_suffix {suffix : Nat} (low : suffixMin ≤ suffix) (high : suffix ≤ suffixMax) :
    (natural suffix).length = suffixWidth := by
  unfold suffixMin at low
  unfold suffixMax at high
  exact length_natural_eq (by omega : 10 ^ 5 ≤ suffix) (by omega)

/-! ## Counter segments -/

namespace Identifier

theorem counterWidth_pos (ceiling : Int) : 0 < counterWidth ceiling := by
  unfold counterWidth
  cases ceiling with
  | ofNat n => exact length_natural_pos n
  | negSucc n => exact Nat.succ_pos _

/-- A value that is zero or lies below the ceiling fills exactly the ceiling's width. -/
theorem length_counterSegment {value ceiling : Int} (low : 0 ≤ value)
    (fits : value = 0 ∨ value ≤ ceiling) :
    (counterSegment value ceiling).length = counterWidth ceiling := by
  have hpos := counterWidth_pos ceiling
  have hwide : (natural value.toNat).length ≤ counterWidth ceiling := by
    rcases fits with rfl | hle
    · exact hpos
    · obtain ⟨n, rfl⟩ := Int.eq_ofNat_of_zero_le (Int.le_trans low hle)
      exact length_natural_mono (by omega)
  unfold counterSegment
  rw [padded_of_nonneg _ low, length_paddedNatural]
  omega

theorem counterSegment_inj {v w ceiling : Int} (hv : 0 ≤ v) (hw : 0 ≤ w)
    (h : counterSegment v ceiling = counterSegment w ceiling) : v = w := by
  unfold counterSegment at h
  rw [padded_of_nonneg _ hv, padded_of_nonneg _ hw] at h
  have := paddedNatural_inj h
  omega

/-! ## The whole text -/

/-- Stamp, counter segment and suffix, one after another. -/
def spelled (ceiling value : Int) (stamp : List Char) (suffix : Nat) : String :=
  String.ofList (stamp ++ counterSegment value ceiling ++ natural suffix)

/-- The characters of a text at the place of the counter segment. -/
def counterPart (ceiling : Int) (text : String) : List Char :=
  (text.toList.drop stampWidth).take (counterWidth ceiling)

section

variable {ceiling value : Int} {stamp : List Char} {suffix : Nat}

theorem counterPart_spelled (hstamp : stamp.length = stampWidth) (low : 0 ≤ value)
    (fits : value = 0 ∨ value ≤ ceiling) :
    counterPart ceiling (spelled ceiling value stamp suffix) = counterSegment value ceiling := by
  unfold counterPart spelled
  rw [String.toList_ofList, List.append_assoc, ← hstamp, List.drop_left,
    ← length_counterSegment low fits, List.take_left]

/-- A composed text is well formed iff no minus sign gets into it. -/
theorem wellFormed_spelled_iff (hstamp : stamp.length = stampWidth)
    (hdigits : stamp.all Char.isDigit = true) (hmin : suffixMin ≤ suffix)
    (hmax : suffix ≤ suffixMax) (fits : value = 0 ∨ value ≤ ceiling) :
    wellFormed ceiling (spelled ceiling value stamp suffix) = true ↔ 0 ≤ value := by
  have hsuffix : (natural suffix).all Char.isDigit = true :=
    List.all_eq_true.mpr fun c hc => isDigit_of_mem_natural hc
  have hsegment : (counterSegment value ceiling).all Char.isDigit = true ↔ 0 ≤ value :=
    all_isDigit_padded_iff _ _
  unfold wellFormed spelled
  rw [Bool.and_eq_true, decide_eq_true_eq, String.length_ofList, String.toList_ofList,
    List.all_append, List.all_append, hdigits, hsuffix, Bool.true_and, Bool.and_true, hsegment]
  constructor
  · exact fun h => h.2
  · intro low
    refine ⟨?_, low⟩
    rw [List.length_append, List.length_append, hstamp, length_counterSegment low fits,
      length_suffix hmin hmax]
    rfl

/-- The text determines the three parts. -/
theorem spelled_inj {value' : Int} {stamp' : List Char} {suffix' : Nat}
    (hstamp : stamp.length = stampWidth) (hstamp' : stamp'.length = stampWidth)
    (low : 0 ≤ value) (low' : 0 ≤ value') (fits : value = 0 ∨ value ≤ ceiling)
    (fits' : value' = 0 ∨ value' ≤ ceiling) :
    spelled ceiling value stamp suffix = spelled ceiling value' stamp' suffix' ↔
      value = value' ∧ stamp = stamp' ∧ suffix = suffix' := by
  constructor
  · intro h
    have hlist := String.ofList_injective h
    rw [List.append_assoc, List.append_assoc] at hlist
    -- Stamps have one width, and so have segments: the text splits in one way only.
    obtain ⟨hs, hrest⟩ := List.append_inj hlist (by rw [hstamp, hstamp'])
    obtain ⟨hv, hr⟩ := List.append_inj hrest
      (by rw [length_counterSegment low fits, length_counterSegment low' fits'])
    exact ⟨counterSegment_inj low low' hv, hs, natural_inj hr⟩
  · rintro ⟨rfl, rfl, rfl⟩
    rfl

end

end Identifier

/-! ## Counters -/

namespace Counter

theorem compose_eq_spelled (c : Counter) (stamp : List Char) (suffix : Nat) :
    c.compose stamp suffix = Identifier.spelled c.ceiling c.effective stamp suffix := rfl

/-- What an identifier is made of is zero or does not exceed the ceiling. -/
theorem effective_fits (c : Counter) : c.effective = 0 ∨ c.effective ≤ c.ceiling := by
  unfold effective
  split <;> omega

/-- The only value that is taken as it is and is negative is one below zero under the ceiling. -/
theorem effective_nonneg_iff (c : Counter) :
    0 ≤ c.effective ↔ ¬ (c.value < 0 ∧ c.value ≤ c.ceiling) := by
  unfold effective
  split <;> omega

end Counter

end Sequencer
