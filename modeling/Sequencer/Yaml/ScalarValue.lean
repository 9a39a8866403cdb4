import Sequencer.Text.CaseMap
import Sequencer.Value
import Sequencer.Yaml.Graph

/-!
# The values of YAML scalars

What a scalar's text stands for under each tag. A text that a tag was put on by hand need not
have the form of that tag, and then fails in a way of its own.
-/

namespace Sequencer.Yaml

open Text

/-! ## Integers -/

/-- Reads an integer in a base. -/
def readBase (base : Nat) (text : List Char) : Except Failure Int :=
  (readInteger base (String.ofList text)).mapError .integer

/-- The parts of a text between its colons. -/
def colonParts : List Char → List (List Char)
  | [] => [[]]
  | c :: rest =>
    if c = ':' then [] :: colonParts rest
    else
      match colonParts rest with
      | part :: parts => (c :: part) :: parts
      | [] => [[c]]

/-- The number that parts of sixty make, the last one counting ones. -/
def sixties (parts : List Int) : Int := parts.foldl (fun n part => 60 * n + part) 0

/-- Reads an integer without a sign. -/
def readUnsigned (text : List Char) : Except Failure Int :=
  match text with
  | [] => .error .emptyNumber
  | ['0'] => .ok 0
  | '0' :: 'b' :: digits => readBase 2 digits
  | '0' :: 'x' :: digits => readBase 16 digits
  | '0' :: _ => readBase 8 text
  | _ =>
    if text.contains ':' then ((colonParts text).mapM (readBase 10)).map sixties
    else readBase 10 text

/-- A text without its underscores. -/
def dropUnderscores (text : String) : List Char := text.toList.filter (· ≠ '_')

/-- Splits off a sign: whether it is a minus, and what is behind it. -/
def splitSign (text : List Char) : Bool × List Char :=
  (text.head? = some '-', dropSign text)

/-- Reads an integer. -/
def readInt (text : String) : Except Failure Int :=
  let digits := dropUnderscores text
  if digits = [] then .error .emptyNumber
  else
    let (negative, rest) := splitSign digits
    (readUnsigned rest).map fun n => if negative then -n else n

/-! ## Doubles -/

/-- Reads a double in decimal notation. -/
def readDecimal (text : List Char) : Except Failure Binary64 :=
  match Binary64.read? (String.ofList text) with
  | some x => .ok x
  | none => .error (.double (String.ofList text))

/-- The double that parts of sixty make, summed from the last one on. -/
def sixtiesDouble (parts : List Binary64) : Binary64 :=
  let sum := parts.reverse.foldl
    (fun (total, base) part =>
      (total.add (part.mul (Binary64.ofRatio false base 1)), 60 * base))
    (Binary64.zero, 1)
  sum.1

/-- Reads a double without a sign. -/
def readUnsignedDouble (text : List Char) : Except Failure Binary64 :=
  if text = ".inf".toList then .ok (.infinite false)
  else if text = ".nan".toList then .ok .nan
  else if text.contains ':' then ((colonParts text).mapM readDecimal).map sixtiesDouble
  else readDecimal text

/-- Reads a double. -/
def readDouble (text : String) : Except Failure Binary64 :=
  let digits := (lowered (String.ofList (dropUnderscores text))).toList
  if digits = [] then .error .emptyNumber
  else
    let (negative, rest) := splitSign digits
    (readUnsignedDouble rest).map fun x => if negative then x.neg else x

/-! ## Truth values -/

/-- Reads a truth value, in any case of letters. -/
def readBool (text : String) : Except Failure Bool :=
  let name := lowered text
  if name ∈ ["yes", "true", "on"] then .ok true
  else if name ∈ ["no", "false", "off"] then .ok false
  else .error (.truthValue name)

/-! ## Times -/

/-- The date with these numbers. -/
def dateOf (year month day : Nat) : Except TimeFault Date :=
  if year = 0 then .error .yearZero
  else if month = 0 ∨ month > 12 then .error .badMonth
  else
    match Date.of? year month day with
    | some date => .ok date
    | none => .error .noSuchDay

/-- The time of day with these numbers. -/
def timeOf (hour minute second microsecond : Nat) : Except TimeFault TimeOfDay :=
  if hour ≥ 24 then .error .badHour
  else if minute ≥ 60 then .error .badMinute
  else
    match TimeOfDay.of? hour minute second microsecond with
    | some time => .ok time
    | none => .error .badSecond

/-- The offset of these parts in minutes. -/
def offsetOf : List Char × List Char × List Char → Except TimeFault Int
  | ([], _, _) => .ok 0
  | (sign, hours, minutes) =>
    let total : Int := 60 * naturalValue hours + naturalValue minutes
    let signed := if sign = ['-'] then -total else total
    if total < 1440 then .ok signed else .error (.badOffset signed)

/-- The microseconds of a fraction of a second: its first six digits. -/
def microseconds (fraction : List Char) : Nat :=
  naturalValue ((fraction.take 6).rightpad 6 '0')

/-- The value of a time that is written. -/
def TimeText.value (t : TimeText) : Except TimeFault Scalar := do
  match t.clock with
  | none =>
    return .date (← dateOf (naturalValue t.year) (naturalValue t.month) (naturalValue t.day))
  | some (hour, minute, second, fraction) =>
    let offset ← t.offset.mapM offsetOf
    let date ← dateOf (naturalValue t.year) (naturalValue t.month) (naturalValue t.day)
    let time ← timeOf (naturalValue hour) (naturalValue minute) (naturalValue second)
      (microseconds fraction)
    return .moment { date, time, offset }

/-- Reads a time. -/
def readTime (text : String) : Except Failure Scalar :=
  match readTimeText (dropFinalBreak text.toList) with
  | none => .error .notTime
  | some time => time.value.mapError .time

/-! ## Binary data -/

/-- The value of a character of base 64. -/
def base64Value? (c : Char) : Option Nat :=
  if 'A' ≤ c ∧ c ≤ 'Z' then some (c.toNat - 65)
  else if 'a' ≤ c ∧ c ≤ 'z' then some (c.toNat - 71)
  else if c.isDigit then some (c.toNat + 4)
  else if c = '+' then some 62
  else if c = '/' then some 63
  else none

/-- Decodes base 64: the bits of the characters read so far that make no byte yet, their number
of characters in the group of four, and the padding seen in it. Characters of no value are
skipped, and what follows the end of a padded group is. -/
def decodeBase64 (group bits padding : Nat) : List Char → Option (List UInt8)
  | [] => if group = 0 then some [] else none
  | c :: rest =>
    if c = '=' then
      if group ≥ 2 ∧ group + padding + 1 ≥ 4 then some []
      else decodeBase64 group bits (if group ≥ 2 then padding + 1 else padding) rest
    else
      match base64Value? c with
      | none => decodeBase64 group bits padding rest
      | some v =>
        match group with
        | 0 => decodeBase64 1 v 0 rest
        | 1 => (decodeBase64 2 (v % 16) 0 rest).map (UInt8.ofNat (bits * 4 + v / 16) :: ·)
        | 2 => (decodeBase64 3 (v % 4) 0 rest).map (UInt8.ofNat (bits * 16 + v / 4) :: ·)
        | _ => (decodeBase64 0 0 0 rest).map (UInt8.ofNat (bits * 64 + v) :: ·)

/-- Reads binary data. -/
def readBinary (text : String) : Except Failure (List UInt8) :=
  if text.toList.any (·.toNat ≥ 128) then .error .malformed
  else
    match decodeBase64 0 0 0 text.toList with
    | some bytes => .ok bytes
    | none => .error .malformed

/-! ## Scalars -/

/-- The value of a text under a tag; none for the tags of collections and those without a
meaning. -/
def scalarValue? (tag : Tag) (text : String) : Option (Except Failure Scalar) :=
  match tag with
  | .null => some (.ok .null)
  | .bool => some ((readBool text).map .bool)
  | .int => some ((readInt text).map .int)
  | .float => some ((readDouble text).map .float)
  | .binary => some ((readBinary text).map .bytes)
  | .timestamp => some (readTime text)
  | .str => some (.ok (.text text))
  | _ => none

end Sequencer.Yaml
