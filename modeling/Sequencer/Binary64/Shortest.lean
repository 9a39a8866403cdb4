import Sequencer.Binary64.Basic
import Sequencer.Text.Integer

/-!
# The shortest decimal of a double

The text of a double has the fewest digits that read back as the same double, and of those the
decimal nearest to it. For one, two and up to seventeen digits, the two neighbours of the number
on that decimal grid are tested against the interval of numbers that round to the double; the
first grid with a hit gives the digits. `Layout` holds what a format decides besides: where
positional notation ends and how an exponent is written.
-/

namespace Sequencer.Binary64

open Text

/-! ## Digits -/

/-- The decimal exponent of the leading digit of a positive number of units. -/
def leadingExponent (units : Nat) : Int :=
  if units ≥ unitsInOne then (natural (units / unitsInOne)).length - 1
  else - (natural ((unitsInOne - 1) / units)).length

/-- The grid of the multiples of a power of ten, as a fraction: the number of grid steps in so
many units is `units * num / den`. -/
def grid (power : Int) : Nat × Nat :=
  if power ≥ 0 then (1, Nat.pow 10 power.toNat * unitsInOne)
  else (Nat.pow 10 (-power).toNat, unitsInOne)

/-- Four times the distances in units from a finite double to the ends of the interval that
rounds to it: below and above. The lower neighbour of a power of two is half as far. -/
def reach (units : Nat) : Nat × Nat :=
  let step := Nat.pow 2 (lastBit units)
  if units = Nat.pow 2 units.log2 ∧ lastBit units > 0 then (step, 2 * step)
  else (2 * step, 2 * step)

/-- Whether `steps` grid steps round to the double of so many units. -/
def roundsTo (units : Nat) (num den steps : Nat) : Bool :=
  let (below, above) := reach units
  let low := (4 * units - below) * num
  let high := (4 * units + above) * num
  let point := 4 * steps * den
  if units / Nat.pow 2 (lastBit units) % 2 = 0 then low ≤ point && point ≤ high
  else low < point && point < high

/-- The number of steps of a grid nearest to the double, if one of its two neighbours there
rounds to it. -/
def onGrid? (units : Nat) (power : Int) : Option Nat :=
  let (num, den) := grid power
  let below := units * num / den
  match roundsTo units num den below, roundsTo units num den (below + 1) with
  | true, true => some (roundDiv (units * num) den)
  | true, false => some below
  | false, true => some (below + 1)
  | false, false => none

/-- Tries the grids with `count` digits and more. -/
def searchGrids (units : Nat) (leading : Int) (count : Nat) : Nat → Nat × Int
  | 0 => (units, 0)
  | fuel + 1 =>
    let power := leading + 1 - count
    match onGrid? units power with
    | some steps => (steps, power)
    | none => searchGrids units leading (count + 1) fuel

/-- The shortest decimal of a positive number of units: a whole number and a power of ten. -/
def shortest (units : Nat) : Nat × Int := searchGrids units (leadingExponent units) 1 17

/-! ## Layout -/

/-- The decisions of a format for numbers. -/
structure Layout where
  /-- The least exponent of the leading digit that is written positionally. -/
  leastPositional : Int
  /-- The least exponent that is not written positionally any more. -/
  positionalEnd : Int
  /-- The least number of digits of an exponent. -/
  exponentWidth : Nat
  /-- The texts of the infinity and of what is no number. -/
  infinity : String
  notANumber : String

/-- Exponents from -4 to 15 are positional, always with a point; others have a sign and at
least two digits. -/
def plainLayout : Layout := ⟨-4, 16, 2, "inf", "nan"⟩

/-- As `plainLayout`, with the names that JSON readers take for what JSON has no numbers for. -/
def jsonLayout : Layout := { plainLayout with infinity := "Infinity", notANumber := "NaN" }

/-- The digits of a decimal without trailing zeros. -/
def significant (steps : Nat) : List Char :=
  let cut := ((natural steps).reverse.dropWhile (· == '0')).reverse
  if cut.isEmpty then ['0'] else cut

/-- The text of a positive number: its digits, and the exponent of the first one. -/
def Layout.positive (layout : Layout) (digits : List Char) (exponent : Int) : List Char :=
  if layout.leastPositional ≤ exponent ∧ exponent < layout.positionalEnd then
    if exponent < 0 then
      '0' :: '.' :: List.replicate (-exponent - 1).toNat '0' ++ digits
    else
      let whole := digits.take (exponent.toNat + 1)
      let fraction := digits.drop (exponent.toNat + 1)
      whole ++ List.replicate (exponent.toNat + 1 - whole.length) '0'
        ++ '.' :: (if fraction.isEmpty then ['0'] else fraction)
  else
    let mantissa := match digits with
      | [] => []
      | [d] => [d]
      | d :: rest => d :: '.' :: rest
    mantissa ++ 'e' :: (if exponent < 0 then '-' else '+')
      :: paddedNatural layout.exponentWidth exponent.natAbs

/-- The text of a double. -/
def Layout.render (layout : Layout) : Binary64 → List Char
  | .nan => layout.notANumber.toList
  | .infinite negative => (if negative then ['-'] else []) ++ layout.infinity.toList
  | .finite negative units =>
    let magnitude :=
      if units = 0 then layout.positive ['0'] 0
      else
        let (steps, power) := shortest units
        layout.positive (significant steps) (power + (natural steps).length - 1)
    (if negative then ['-'] else []) ++ magnitude

/-- The text of a double in messages and answers. -/
def text (x : Binary64) : String := String.ofList (plainLayout.render x)

end Sequencer.Binary64
