import Sequencer.Binary64.Basic
import Sequencer.Text.Integer

/-!
# Reading a double

What counts as the text of a double: white space around it, a sign, and either the name of an
infinity or of what is no number in any case of letters, or digits with at most one point and an
exponent. Decimals of any script are digits, and single underscores may stand between digits.
The double is the one nearest to the decimal.
-/

namespace Sequencer.Binary64

open Text

/-- The double nearest to `digits * 10 ^ exponent`. Exponents far outside the range of doubles
are not raised to: the number is zero or infinite. -/
def ofDecimal (negative : Bool) (digits : Nat) (exponent : Int) : Binary64 :=
  let leading := exponent + (natural digits).length
  if digits = 0 ∨ leading < -330 then .finite negative 0
  else if leading > 330 then .infinite negative
  else if exponent ≥ 0 then ofRatio negative (digits * Nat.pow 10 exponent.toNat) 1
  else ofRatio negative digits (Nat.pow 10 (-exponent).toNat)

/-- Digits in front, none allowed, an underscore only between two of them. -/
def takeDecimals? (text : List Char) : Option (List Nat × List Char) :=
  if text.head? = some '_' then none else takeDigits? 10 text

/-- The exponent at the end of a numeral: absent, or a letter, a sign and digits. -/
def readExponent? : List Char → Option Int
  | [] => some 0
  | e :: rest =>
    if e = 'e' ∨ e = 'E' then
      let (negative, body) := takeSign rest
      match takeDecimals? body with
      | some (d :: ds, []) =>
        let n : Int := ofDigits 10 (d :: ds)
        some (if negative then -n else n)
      | _ => none
    else none

/-- The digits behind a point, none if there is no point, and what follows. -/
def takeFraction? : List Char → Option (List Nat × List Char)
  | '.' :: rest => takeDecimals? rest
  | text => some ([], text)

/-- Reads the text of a double without white space around it. -/
def readNumeral? (text : List Char) : Option Binary64 :=
  let (negative, body) := takeSign text
  let name := String.ofList (body.map Char.toLower)
  if name = "inf" ∨ name = "infinity" then some (.infinite negative)
  else if name = "nan" then some .nan
  else do
    let (whole, rest) ← takeDecimals? body
    let (fraction, rest) ← takeFraction? rest
    if whole = [] ∧ fraction = [] then none
    else
      let exponent ← readExponent? rest
      some (ofDecimal negative (ofDigits 10 (whole ++ fraction)) (exponent - fraction.length))

/-- Reads the text of a double. -/
def read? (text : String) : Option Binary64 := readNumeral? (trim text.toList)

end Sequencer.Binary64
