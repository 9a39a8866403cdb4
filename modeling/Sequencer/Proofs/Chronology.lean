import Mathlib.Algebra.BigOperators.Intervals
import Mathlib.Algebra.Order.BigOperators.Group.Finset
import Sequencer.Proofs.Ordering

/-!
# Stamps in chronological order

What is chronological is said by a count: the microseconds that have gone by on the wall clock,
from the days of the years and months before (`Moment.elapsed`). A calendar counts in blocks, years
of months and months of days, whose sizes differ; as long as a place stays inside its block, the
count orders places the way their numbers do (`sizeBefore_add_lt_iff`). So the order of the fields
of a wall clock is that of time (`Moment.before_iff_elapsed_lt`), and the texts of stamps are in it
too (`Moment.inTimeOrder_of_stamp?`).

Rendering and reading are inverse where a moment has a stamp, to the millisecond
(`stamp_round_trip`).
-/

namespace Sequencer

open Text

/-! ## Counting in blocks -/

/-- The size of the blocks before a block; the first has the number one. -/
def sizeBefore (size : Nat → Nat) (block : Nat) : Nat := ∑ i ∈ Finset.Ico 1 block, size i

section

variable {size : Nat → Nat} {i j r s : Nat}

/-- A block ends before any later one starts. -/
theorem sizeBefore_add_le (hi : 1 ≤ i) (h : i < j) :
    sizeBefore size i + size i ≤ sizeBefore size j := by
  have hsub : Finset.Ico 1 (i + 1) ⊆ Finset.Ico 1 j := Finset.Ico_subset_Ico_right h
  calc sizeBefore size i + size i
      = ∑ k ∈ Finset.Ico 1 (i + 1), size k := (Finset.sum_Ico_succ_top hi size).symm
    _ ≤ sizeBefore size j := Finset.sum_le_sum_of_subset hsub

/-- Places in blocks are in the order of their blocks, and in one block in their own. -/
theorem sizeBefore_add_lt_iff (hi : 1 ≤ i) (hj : 1 ≤ j) (hr : 1 ≤ r ∧ r ≤ size i)
    (hs : 1 ≤ s ∧ s ≤ size j) :
    sizeBefore size i + r < sizeBefore size j + s ↔ i < j ∨ i = j ∧ r < s := by
  rcases Nat.lt_trichotomy i j with hlt | rfl | hgt
  · have hends : sizeBefore size i + size i ≤ sizeBefore size j := sizeBefore_add_le hi hlt
    omega
  · omega
  · have hends : sizeBefore size j + size j ≤ sizeBefore size i := sizeBefore_add_le hj hgt
    omega

end

/-! ## Days -/

/-- The days of a year, as the sum of its months. -/
def daysInYear (year : Nat) : Nat := sizeBefore (daysInMonth year) 13

theorem daysInYear_eq (year : Nat) : daysInYear year = if isLeapYear year then 366 else 365 := by
  have hyear : daysInYear year = 31 + daysInMonth year 2 + 306 := by
    simp [daysInYear, sizeBefore, Finset.sum_Ico_succ_top, daysInMonth]
  rw [hyear, daysInMonth, if_pos rfl]
  split <;> rfl

namespace Date

/-- The number of a day in its year, from one on. -/
def dayOfYear (d : Date) : Nat := sizeBefore (daysInMonth d.year) d.month + d.day

/-- The number of a day in the calendar, from one on. -/
def ordinal (d : Date) : Nat := sizeBefore daysInYear d.year + d.dayOfYear

-- Four years have gone by, one of them a leap year.
example : Date.ordinal (.mk 5 1 1) = 4 * 365 + 1 + 1 := by decide +kernel

theorem dayOfYear_range (d : Date) : 1 ≤ d.dayOfYear ∧ d.dayOfYear ≤ daysInYear d.year := by
  obtain ⟨-, hmonth, hday⟩ := d.valid
  have hends : sizeBefore (daysInMonth d.year) d.month + daysInMonth d.year d.month ≤
      daysInYear d.year := sizeBefore_add_le hmonth.1 (by omega)
  unfold dayOfYear
  omega

theorem dayOfYear_lt_iff {d e : Date} (h : d.year = e.year) :
    d.dayOfYear < e.dayOfYear ↔ d.month < e.month ∨ d.month = e.month ∧ d.day < e.day := by
  obtain ⟨-, hmonth, hday⟩ := d.valid
  obtain ⟨-, hmonth', hday'⟩ := e.valid
  unfold dayOfYear
  rw [h] at hday ⊢
  exact sizeBefore_add_lt_iff hmonth.1 hmonth'.1 hday hday'

/-- Days follow each other as year, month and day do. -/
theorem ordinal_lt_iff (d e : Date) :
    d.ordinal < e.ordinal ↔ d.year < e.year ∨ d.year = e.year ∧
      (d.month < e.month ∨ d.month = e.month ∧ d.day < e.day) := by
  have hyears : d.ordinal < e.ordinal ↔
      d.year < e.year ∨ d.year = e.year ∧ d.dayOfYear < e.dayOfYear :=
    sizeBefore_add_lt_iff d.valid.1.1 e.valid.1.1 d.dayOfYear_range e.dayOfYear_range
  rw [hyears]
  exact or_congr_right (and_congr_right dayOfYear_lt_iff)

end Date

/-! ## Elapsed time -/

/-- The microseconds since midnight. -/
def TimeOfDay.elapsed (t : TimeOfDay) : Nat :=
  ((t.hour * 60 + t.minute) * 60 + t.second) * 1000000 + t.microsecond

theorem TimeOfDay.elapsed_lt (t : TimeOfDay) : t.elapsed < 86400000000 := by
  have hhour := t.hour_lt
  have hminute := t.minute_lt
  have hsecond := t.second_lt
  have hmicro := t.microsecond_lt
  unfold elapsed
  omega

theorem TimeOfDay.elapsed_lt_iff {t u : TimeOfDay} :
    t.elapsed < u.elapsed ↔ t.hour < u.hour ∨ t.hour = u.hour ∧
      (t.minute < u.minute ∨ t.minute = u.minute ∧
        (t.second < u.second ∨ t.second = u.second ∧ t.microsecond < u.microsecond)) := by
  have hminute := t.minute_lt
  have hminute' := u.minute_lt
  have hsecond := t.second_lt
  have hsecond' := u.second_lt
  unfold elapsed
  rw [mul_add_lt_mul_add_iff t.microsecond_lt u.microsecond_lt,
    mul_add_lt_mul_add_iff hsecond hsecond', mul_add_lt_mul_add_iff hminute hminute']
  -- Equal counts of seconds are equal hours, minutes and seconds.
  omega

namespace Moment

/-- The microseconds on the wall clock since the midnight before day zero of the calendar. -/
def elapsed (m : Moment) : Nat := m.date.ordinal * 86400000000 + m.time.elapsed

/-- The fields of a wall clock are in the order of time. -/
theorem before_iff_elapsed_lt {m n : Moment} : m.Before n ↔ m.elapsed < n.elapsed := by
  have hsame : m.date.ordinal = n.date.ordinal ↔
      m.date.year = n.date.year ∧ m.date.month = n.date.month ∧ m.date.day = n.date.day := by
    have hlt := Date.ordinal_lt_iff m.date n.date
    have hgt := Date.ordinal_lt_iff n.date m.date
    omega
  unfold elapsed
  rw [mul_add_lt_mul_add_iff m.time.elapsed_lt n.time.elapsed_lt, hsame, Date.ordinal_lt_iff,
    TimeOfDay.elapsed_lt_iff]
  simp only [Before, wall, List.cons_lt_cons_iff, List.not_lt_nil, and_false, or_false,
    and_or_left, or_assoc, and_assoc]

/-- Cutting the fields to milliseconds cuts the time. -/
theorem elapsed_toMilliseconds (m : Moment) :
    m.toMilliseconds.elapsed = m.elapsed / 1000 * 1000 := by
  unfold elapsed toMilliseconds TimeOfDay.toMilliseconds TimeOfDay.elapsed
  dsimp only
  omega

theorem before_toMilliseconds_iff {m n : Moment} :
    m.toMilliseconds.Before n.toMilliseconds ↔ m.elapsed / 1000 < n.elapsed / 1000 := by
  rw [before_iff_elapsed_lt, elapsed_toMilliseconds, elapsed_toMilliseconds]
  omega

end Moment

/-! ## Stamps -/

/-- In ASCII the decimals are the ten digits from `0` to `9`. -/
theorem Text.isDigit_of_isDecimal_ascii {c : Char} (hascii : c.toNat < 128)
    (h : isDecimal c = true) : c.isDigit = true := by
  -- All other scripts have their digits further up.
  have hzeros : ∀ z ∈ decimalZeros, z = 48 ∨ 128 ≤ z := by decide
  unfold isDecimal decimalValue? at h
  rw [Option.isSome_map, List.find?_isSome] at h
  obtain ⟨z, hz, hrange⟩ := h
  rw [Bool.and_eq_true, decide_eq_true_eq, decide_eq_true_eq] at hrange
  have hfirst := hzeros z hz
  rw [isDigit_iff_toNat]
  omega

theorem isDecimal_of_readStamp {text : String} {m : Moment} (h : readStamp text = .ok m) :
    ∀ c ∈ text.toList, isDecimal c = true := by
  obtain ⟨f, htext, hw, -⟩ := readStamp_eq_ok_iff.mp h
  have hdecimals := hw.decimals_front.append hw.millisecond
  rw [← StampCut.text_eq, htext] at hdecimals
  exact hdecimals.2

namespace Moment

variable {m n : Moment} {stamp stamp' : List Char}

theorem exists_stamp?_iff (m : Moment) :
    (∃ stamp, m.stamp? = .ok stamp) ↔ 1000 ≤ m.date.year := by
  constructor
  · rintro ⟨stamp, h⟩
    exact (stamp?_eq_ok_iff.mp h).1
  · intro hyear
    exact ⟨m.digits, stamp?_eq_ok_iff.mpr ⟨hyear, rfl⟩⟩

/-- A year of less than four digits leaves the text too short. -/
theorem stamp?_of_earlyYear (hyear : m.date.year < 1000) :
    m.stamp? = .error (.wrongWidth (String.ofList m.digits)) := by
  have hwidth : m.digits.length ≠ stampWidth := by
    intro hlen
    have := m.length_digits_eq_iff.mp hlen
    omega
  unfold stamp?
  rw [if_neg fun h => hwidth h.1]

theorem eq_spelled_of_stamp? (h : m.stamp? = .ok stamp) : stamp = m.spelled := by
  obtain ⟨hyear, rfl⟩ := stamp?_eq_ok_iff.mp h
  exact digits_eq_spelled hyear

/-- Texts in the order of the moments that they stand for, which is the order of the fields of the
wall clocks cut to milliseconds, and of the whole milliseconds gone by. -/
structure InTimeOrder (m n : Moment) (stamp stamp' : String) : Prop where
  lt_iff_before : stamp < stamp' ↔ m.toMilliseconds.Before n.toMilliseconds
  lt_iff_elapsed : stamp < stamp' ↔ m.elapsed / 1000 < n.elapsed / 1000
  eq_iff : stamp = stamp' ↔ m.toMilliseconds = n.toMilliseconds

theorem inTimeOrder_of_stamp? (hm : m.stamp? = .ok stamp) (hn : n.stamp? = .ok stamp') :
    InTimeOrder m n (String.ofList stamp) (String.ofList stamp') := by
  have hbefore : String.ofList stamp < String.ofList stamp' ↔
      m.toMilliseconds.Before n.toMilliseconds := by
    rw [String.lt_iff, String.toList_ofList, String.toList_ofList, eq_spelled_of_stamp? hm,
      eq_spelled_of_stamp? hn, spelled_lt_iff]
  constructor
  case lt_iff_before => exact hbefore
  case lt_iff_elapsed => exact hbefore.trans before_toMilliseconds_iff
  case eq_iff =>
    rw [String.ofList_inj, eq_spelled_of_stamp? hm, eq_spelled_of_stamp? hn, spelled_inj]

/-- Reading and rendering again gives the same text, if it is one in ASCII. -/
theorem stamp?_of_readStamp {text : String} (hascii : ∀ c ∈ text.toList, c.toNat < 128)
    (h : readStamp text = .ok m) (hyear : 1000 ≤ m.date.year) : m.stamp? = .ok text.toList := by
  have hdigits : ∀ c ∈ text.toList, c.isDigit = true := by
    intro c hc
    exact isDigit_of_isDecimal_ascii (hascii c hc) (isDecimal_of_readStamp h c hc)
  have hspelled : text.toList = m.spelled := (spelled_of_readStamp hdigits h).1
  rw [stamp?_eq_ok_iff, hspelled, digits_eq_spelled hyear]
  exact ⟨hyear, rfl⟩

end Moment

/-- **Rendering and reading clocks.** A moment has a stamp iff its year is at least 1000, whatever
its offset is; an earlier year is refused as rendering to the wrong width. A stamp is seventeen
ASCII digits, reads back as what the wall clock showed, to the millisecond and without offset, and
stamps are in the order of time. A text in ASCII that is read as a moment of a year from 1000 on is
the stamp of that moment. -/
theorem stamp_round_trip :
    (∀ m : Moment, ((∃ stamp, m.stamp? = .ok stamp) ↔ 1000 ≤ m.date.year) ∧
      (m.date.year < 1000 → m.stamp? = .error (.wrongWidth (String.ofList m.digits))) ∧
      ∀ offset, { m with offset }.stamp? = m.stamp?) ∧
    (∀ (m : Moment) (stamp : List Char), m.stamp? = .ok stamp →
      IsNumeral 17 stamp ∧ readStamp (String.ofList stamp) = .ok m.toMilliseconds) ∧
    (∀ (m n : Moment) (stamp stamp' : List Char), m.stamp? = .ok stamp → n.stamp? = .ok stamp' →
      Moment.InTimeOrder m n (String.ofList stamp) (String.ofList stamp')) ∧
    ∀ (text : String) (m : Moment), (∀ c ∈ text.toList, c.toNat < 128) →
      readStamp text = .ok m → 1000 ≤ m.date.year → m.stamp? = .ok text.toList := by
  refine ⟨?_, ?_, ?_, ?_⟩
  · intro m
    exact ⟨m.exists_stamp?_iff, Moment.stamp?_of_earlyYear, fun _ => rfl⟩
  · intro m stamp h
    rw [Moment.eq_spelled_of_stamp? h]
    exact ⟨Identifier.isNumeral_spelled m, m.readStamp_spelled⟩
  · intro m n stamp stamp' hm hn
    exact Moment.inTimeOrder_of_stamp? hm hn
  · intro text m hascii h hyear
    exact Moment.stamp?_of_readStamp hascii h hyear

/-- The last microsecond of a leap day in the far west and the first of the day after in the far
east, which comes first where both are reduced to UTC: the stamps are in the order of the wall
clocks, and the first reads back to the millisecond. The last moment before the year 1000 has no
stamp. -/
theorem stamp_round_trip_leapDay :
    let last : Moment := ⟨.mk 2024 2 29, .mk 23 59 59 999999, some (-720)⟩
    let next : Moment := ⟨.mk 2024 3 1, .mk 0 0 0 0, some 840⟩
    let early : Moment := ⟨.mk 999 12 31, .mk 23 59 59 999999, none⟩
    last.stamp? = .ok "20240229235959999".toList ∧ next.stamp? = .ok "20240301000000000".toList ∧
      readStamp "20240229235959999" = .ok last.toMilliseconds ∧
      last.elapsed / 1000 < next.elapsed / 1000 ∧
      last.toMilliseconds.stamp? = .ok "20240229235959999".toList ∧
      ¬ ∃ stamp, early.stamp? = .ok stamp := by
  intro last next early
  obtain ⟨hrender, hread, horder, hback⟩ := stamp_round_trip
  have hlast : last.stamp? = .ok "20240229235959999".toList := by decide +kernel
  have hnext : next.stamp? = .ok "20240301000000000".toList := by decide +kernel
  have hmoment : readStamp "20240229235959999" = .ok last.toMilliseconds :=
    (hread last _ hlast).2
  refine ⟨hlast, hnext, hmoment, ?_, ?_, ?_⟩
  · exact (horder last next _ _ hlast hnext).lt_iff_elapsed.mp (by decide +kernel)
  · exact hback _ _ (by simp) hmoment (by decide)
  · exact mt (hrender early).1.mp (by decide)

end Sequencer
