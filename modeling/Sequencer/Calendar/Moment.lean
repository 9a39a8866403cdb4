/-!
# Dates, moments and clock modes

A date of the proleptic Gregorian calendar between the years 1 and 9999, a time of day down to
the microsecond, and the two together with an optional offset from UTC. A date that does not
exist cannot be written down: the structures carry the proof.

`ClockMode` says which clock a generator reads: the local one, whose moments have no offset, or
that of UTC, whose moments have the offset zero.
-/

namespace Sequencer

/-- Every fourth year is a leap year, except every hundredth, except every four-hundredth. -/
def isLeapYear (year : Nat) : Bool :=
  year % 4 = 0 && (year % 100 ≠ 0 || year % 400 = 0)

/-- The number of days of a month. -/
def daysInMonth (year month : Nat) : Nat :=
  if month = 2 then if isLeapYear year then 29 else 28
  else if month ∈ [4, 6, 9, 11] then 30
  else 31

/-- What makes year, month and day a date. -/
def DateExists (year month day : Nat) : Prop :=
  (1 ≤ year ∧ year ≤ 9999) ∧ (1 ≤ month ∧ month ≤ 12) ∧ (1 ≤ day ∧ day ≤ daysInMonth year month)

instance (year month day : Nat) : Decidable (DateExists year month day) := by
  unfold DateExists; infer_instance

/-- A date that exists. -/
structure Date where
  year : Nat
  month : Nat
  day : Nat
  valid : DateExists year month day := by decide
  deriving DecidableEq, Repr

/-- A time of day. -/
structure TimeOfDay where
  hour : Nat
  minute : Nat
  second : Nat
  microsecond : Nat
  hour_lt : hour < 24 := by decide
  minute_lt : minute < 60 := by decide
  second_lt : second < 60 := by decide
  microsecond_lt : microsecond < 1000000 := by decide
  deriving DecidableEq, Repr

/-- A reading of a clock: date and time as the wall shows them, and the offset from UTC in
minutes if the clock knows it. -/
structure Moment where
  date : Date
  time : TimeOfDay
  offset : Option Int
  deriving DecidableEq, Repr

/-- The date with these numbers, if it exists. -/
def Date.of? (year month day : Nat) : Option Date :=
  if h : DateExists year month day then some ⟨year, month, day, h⟩ else none

/-- The time of day with these numbers, if it exists. -/
def TimeOfDay.of? (hour minute second microsecond : Nat) : Option TimeOfDay :=
  if h : hour < 24 ∧ minute < 60 ∧ second < 60 ∧ microsecond < 1000000 then
    some ⟨hour, minute, second, microsecond, h.1, h.2.1, h.2.2.1, h.2.2.2⟩
  else none

/-- The time of day cut to milliseconds. -/
def TimeOfDay.toMilliseconds (t : TimeOfDay) : TimeOfDay :=
  { t with
    microsecond := t.microsecond / 1000 * 1000
    microsecond_lt := Nat.lt_of_le_of_lt (Nat.div_mul_le_self ..) t.microsecond_lt }

/-- What a wall clock without offset shows, cut to milliseconds. -/
def Moment.toMilliseconds (m : Moment) : Moment :=
  { date := m.date, time := m.time.toMilliseconds, offset := none }

theorem daysInMonth_le (year month : Nat) : daysInMonth year month ≤ 31 := by
  unfold daysInMonth
  split
  · split <;> omega
  · split <;> omega

theorem Date.of?_eq_some {year month day : Nat} {d : Date} :
    Date.of? year month day = some d ↔ d.year = year ∧ d.month = month ∧ d.day = day := by
  unfold Date.of?
  constructor
  · intro h
    split at h
    · cases h; exact ⟨rfl, rfl, rfl⟩
    · cases h
  · rintro ⟨rfl, rfl, rfl⟩
    simp [d.valid]

theorem TimeOfDay.of?_eq_some {hour minute second microsecond : Nat} {t : TimeOfDay} :
    TimeOfDay.of? hour minute second microsecond = some t ↔
      t.hour = hour ∧ t.minute = minute ∧ t.second = second ∧ t.microsecond = microsecond := by
  unfold TimeOfDay.of?
  constructor
  · intro h
    split at h
    · cases h; exact ⟨rfl, rfl, rfl, rfl⟩
    · cases h
  · rintro ⟨rfl, rfl, rfl, rfl⟩
    simp [t.hour_lt, t.minute_lt, t.second_lt, t.microsecond_lt]

/-! ## Clock modes -/

/-- A clock to read. -/
inductive ClockMode
  | «local»
  | utc
  deriving DecidableEq, Repr

namespace ClockMode

/-- The mode of a name. -/
def ofName? : String → Option ClockMode
  | "local" => some .local
  | "utc" => some .utc
  | _ => none

/-- The text for a name that no mode has. -/
def unknownMessage (name : String) : String := s!"Unknown clock mode: {name}"

/-- What the clock shows when the local wall shows the one moment and UTC the other. -/
def read (mode : ClockMode) (here utc : Moment) : Moment :=
  match mode with
  | .local => { here with offset := none }
  | .utc => { utc with offset := some 0 }

end ClockMode

end Sequencer
