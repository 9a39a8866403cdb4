import Sequencer.Binary64.Shortest

/-!
# Doubles with a fixed number of digits

Three ways to write the magnitude of a finite double with a given number of digits: with so many
places behind the point, with an exponent and so many places behind the first digit, and with so
many significant digits in whichever of the two forms suits. The double is taken exactly; a half
goes to the even digit.
-/

namespace Sequencer.Binary64

open Text

/-- A point in front of digits; none in front of no digits, unless it is asked for. -/
def pointed (always : Bool) (digits : List Char) : List Char :=
  if digits = [] ∧ ! always then [] else '.' :: digits

/-- So many places behind the point. -/
def fixed (alwaysPoint : Bool) (places units : Nat) : List Char :=
  let digits := paddedNatural (places + 1) (roundDiv (units * Nat.pow 10 places) unitsInOne)
  let whole := digits.length - places
  digits.take whole ++ pointed alwaysPoint (digits.drop whole)

/-- The digits of a number of units, one and so many more, and the exponent of the first. -/
def scientificDigits (places units : Nat) : List Char × Int :=
  if units = 0 then (List.replicate (places + 1) '0', 0)
  else
    let leading := leadingExponent units
    let (num, den) := grid (leading - places)
    let steps := roundDiv (units * num) den
    if steps = Nat.pow 10 (places + 1) then (natural (Nat.pow 10 places), leading + 1)
    else (natural steps, leading)

/-- Digits with the point behind the first one, and an exponent of two digits at least. -/
def withExponent (alwaysPoint : Bool) (digits : List Char) (exponent : Int) : List Char :=
  digits.take 1 ++ pointed alwaysPoint (digits.drop 1) ++ 'e' ::
    (if exponent < 0 then '-' else '+') :: paddedNatural 2 exponent.natAbs

/-- An exponent, and so many places behind the first digit. -/
def scientific (alwaysPoint : Bool) (places units : Nat) : List Char :=
  let (digits, exponent) := scientificDigits places units
  withExponent alwaysPoint digits exponent

/-- Digits without the zeros at their end. -/
def dropZeros (digits : List Char) : List Char := (digits.reverse.dropWhile (· == '0')).reverse

/-- So many significant digits: with an exponent if that of the first digit is below -4 or not
below the number of digits. Zeros at the end of a fraction go, unless all digits are asked for. -/
def general (allDigits : Bool) (count units : Nat) : List Char :=
  let count := max 1 count
  let (digits, exponent) := scientificDigits (count - 1) units
  let cut (fraction : List Char) := if allDigits then fraction else dropZeros fraction
  if exponent < -4 ∨ exponent ≥ count then
    withExponent allDigits (digits.take 1 ++ cut (digits.drop 1)) exponent
  else if exponent < 0 then
    '0' :: pointed allDigits (cut (List.replicate (-exponent - 1).toNat '0' ++ digits))
  else
    let whole := exponent.toNat + 1
    digits.take whole ++ pointed allDigits (cut (digits.drop whole))

end Sequencer.Binary64
