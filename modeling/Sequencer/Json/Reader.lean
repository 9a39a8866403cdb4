import Sequencer.Binary64.Reading
import Sequencer.Value

/-!
# Reading JSON

The inverse of writing: `read?` gives the value of a JSON text, with white space anywhere
between its tokens. A number with a point or an exponent is a double and any other an integer,
of any size. The names `NaN` and `Infinity` are read as doubles. The last of several entries
with one key wins.
-/

namespace Sequencer.Json

open Text

/-- Drops white space in front. -/
def skipBlanks (text : List Char) : List Char :=
  text.dropWhile fun c => c = ' ' || c = '\n' || c = '\r' || c = '\t'

/-! ## Strings -/

/-- The value of a hexadecimal digit. -/
def hexValue? (c : Char) : Option Nat :=
  if c.isDigit then some (c.toNat - 48)
  else if 'a' ≤ c ∧ c ≤ 'f' then some (c.toNat - 87)
  else if 'A' ≤ c ∧ c ≤ 'F' then some (c.toNat - 55)
  else none

/-- The value of four hexadecimal digits. -/
def unitValue? (a b c d : Char) : Option Nat := do
  return 4096 * (← hexValue? a) + 256 * (← hexValue? b) + 16 * (← hexValue? c) + (← hexValue? d)

/-- The character that a letter after a backslash stands for. -/
def unescape? : Char → Option Char
  | '"' => some '"'
  | '\\' => some '\\'
  | '/' => some '/'
  | 'n' => some '\n'
  | 'r' => some '\r'
  | 't' => some '\t'
  | 'b' => some (Char.ofNat 8)
  | 'f' => some (Char.ofNat 12)
  | _ => none

/-- What a UTF-16 unit may still be when the next character is looked at: nothing, or the first
half of a pair. -/
abbrev HalfPair := Option Nat

/-- The character of a unit alone; one half of a pair alone is no character and gives the
replacement character. -/
def unitChar (unit : Nat) : Char :=
  if 0xd800 ≤ unit ∧ unit < 0xe000 then Char.ofNat 0xfffd else Char.ofNat unit

/-- The characters that a pending half gives when no second half follows. -/
def flushHalf (half : HalfPair) : List Char := half.elim [] fun _ => [Char.ofNat 0xfffd]

/-- Reads the inside of a string up to the closing quote: its characters, and the rest. -/
def readChars (half : HalfPair) : List Char → Option (List Char × List Char)
  | [] => none
  | '"' :: rest => some (flushHalf half, rest)
  | '\\' :: 'u' :: a :: b :: c :: d :: rest => do
    let unit ← unitValue? a b c d
    match half with
    | some first =>
      if 0xdc00 ≤ unit ∧ unit < 0xe000 then
        let c := Char.ofNat (0x10000 + (first - 0xd800) * 0x400 + (unit - 0xdc00))
        (readChars none rest).map fun (cs, r) => (c :: cs, r)
      else if 0xd800 ≤ unit ∧ unit < 0xdc00 then
        (readChars (some unit) rest).map fun (cs, r) => (flushHalf half ++ cs, r)
      else (readChars none rest).map fun (cs, r) => (flushHalf half ++ unitChar unit :: cs, r)
    | none =>
      if 0xd800 ≤ unit ∧ unit < 0xdc00 then readChars (some unit) rest
      else (readChars none rest).map fun (cs, r) => (unitChar unit :: cs, r)
  | '\\' :: e :: rest => do
    let c ← unescape? e
    (readChars none rest).map fun (cs, r) => (flushHalf half ++ c :: cs, r)
  | c :: rest =>
    if c.toNat < 0x20 then none
    else (readChars none rest).map fun (cs, r) => (flushHalf half ++ c :: cs, r)

/-! ## Numbers and names -/

/-- Whether a character may stand in a number or a name. -/
def isWordChar (c : Char) : Bool := c.isAlphanum || c = '-' || c = '+' || c = '.'

/-- Whether a text has the shape of a JSON integer. -/
def isInteger (word : List Char) : Bool :=
  match word.dropWhile (· == '-') with
  | [] => false
  | '0' :: rest => rest.isEmpty && word.length ≤ 2
  | digits => digits.all Char.isDigit && word.length ≤ digits.length + 1

/-- The scalar of a word. -/
def readWord? (word : List Char) : Option Scalar :=
  if isInteger word then
    let n : Int := naturalValue (word.dropWhile (· == '-'))
    some (.int (if word.head? = some '-' then -n else n))
  else if word = "null".toList then some .null
  else if word = "true".toList then some (.bool true)
  else if word = "false".toList then some (.bool false)
  else if word = "NaN".toList then some (.float .nan)
  else if word = "Infinity".toList then some (.float (.infinite false))
  else if word = "-Infinity".toList then some (.float (.infinite true))
  else
    match word.dropWhile (· == '-') with
    | d :: _ => if d.isDigit then (Binary64.readNumeral? word).map .float else none
    | [] => none

/-! ## Documents -/

mutual

/-- Reads one value, without white space in front: the value and the rest. -/
def readValue : Nat → List Char → Option (Value × List Char)
  | 0, _ => none
  | _ + 1, [] => none
  | fuel + 1, c :: rest =>
    if c = '"' then (readChars none rest).map fun (cs, r) => (.text (String.ofList cs), r)
    else if c = '[' then
      match skipBlanks rest with
      | ']' :: r => some (.list [], r)
      | start => (readItems fuel start).map fun (items, r) => (.list items, r)
    else if c = '\x7b' then
      match skipBlanks rest with
      | '\x7d' :: r => some (.map [], r)
      | start =>
        (readEntries fuel start).map fun (pairs, r) => (.map (Entries.ofPairs pairs), r)
    else
      (readWord? ((c :: rest).takeWhile isWordChar)).map fun s =>
        (.scalar s, (c :: rest).dropWhile isWordChar)

/-- Reads the items of a list up to its closing bracket. -/
def readItems : Nat → List Char → Option (List Value × List Char)
  | 0, _ => none
  | fuel + 1, text => do
    let (item, rest) ← readValue fuel (skipBlanks text)
    match skipBlanks rest with
    | ',' :: r => (readItems fuel r).map fun (items, r) => (item :: items, r)
    | ']' :: r => some ([item], r)
    | _ => none

/-- Reads the entries of a mapping up to its closing brace. -/
def readEntries : Nat → List Char → Option (List (Scalar × Value) × List Char)
  | 0, _ => none
  | fuel + 1, text =>
    match skipBlanks text with
    | '"' :: r => do
      let (cs, rest) ← readChars none r
      match skipBlanks rest with
      | ':' :: r => do
        let (value, rest) ← readValue fuel (skipBlanks r)
        let entry := (Scalar.text (String.ofList cs), value)
        match skipBlanks rest with
        | ',' :: r => (readEntries fuel r).map fun (entries, r) => (entry :: entries, r)
        | '\x7d' :: r => some ([entry], r)
        | _ => none
      | _ => none
    | _ => none

end

/-- Reads a whole JSON text. A value takes at most two steps for each of its characters. -/
def read? (text : String) : Option Value :=
  match readValue (2 * text.length + 2) (skipBlanks text.toList) with
  | some (value, rest) => if skipBlanks rest = [] then some value else none
  | none => none

end Sequencer.Json
