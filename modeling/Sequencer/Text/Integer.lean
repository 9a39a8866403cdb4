import Sequencer.Text.Printable

/-!
# Integers and their texts

An integer is written in ASCII digits, most significant first, with a minus sign in front of a
negative number and no leading zero. `padded` fills up to a width with zeros after the sign and
never cuts. The core library's `Nat.ofDigitChars 10` reads digits back: `naturalValue_natural` and
`naturalValue_padded`.

What is read as an integer in a command line or a configuration file: white space around it, a
sign, decimals of any script, and single underscores between digits. In the bases 2, 8 and 16 the
usual letter after a zero may stand in front.

A numeral of more than `maxDigits` digits is refused both ways, in writing and in reading, unless
the base is a power of two. The texts below are those of all integers; where a limit is kept in
writing, `isLong` is asked first.
-/

namespace Sequencer.Text

/-! ## Writing -/

/-- The digits of a natural number. -/
def natural (n : Nat) : List Char := Nat.toDigits 10 n

/-- The text of an integer. -/
def integer : Int → List Char
  | .ofNat n => natural n
  | .negSucc n => '-' :: natural (n + 1)

/-- The digits of a natural number, filled up to a width with leading zeros. -/
def paddedNatural (width n : Nat) : List Char := (natural n).leftpad width '0'

/-- The text of an integer, filled up to a width with zeros after the sign. -/
def padded (width : Nat) : Int → List Char
  | .ofNat n => paddedNatural width n
  | .negSucc n => '-' :: paddedNatural (width - 1) (n + 1)

/-- The number that a row of ASCII digits reads as. -/
def naturalValue (digits : List Char) : Nat := Nat.ofDigitChars 10 digits 0

theorem naturalValue_natural (n : Nat) : naturalValue (natural n) = n :=
  Nat.ofDigitChars_ten_toDigits

theorem naturalValue_padded (width n : Nat) : naturalValue (paddedNatural width n) = n := by
  simp [naturalValue, paddedNatural, List.leftpad, Nat.ofDigitChars_append, natural,
    Nat.ofDigitChars_replicate_zero]

theorem length_paddedNatural (width n : Nat) :
    (paddedNatural width n).length = max width (natural n).length := by
  simp [paddedNatural]
  omega

/-- The most digits a numeral may have, in a base that is no power of two. -/
def maxDigits : Nat := 4300

/-- Whether an integer has too many digits to be written in base ten. -/
def isLong (n : Int) : Bool := maxDigits < (natural n.natAbs).length

/-- The text of the refusal to write such an integer. -/
def longMessage : String :=
  "Exceeds the limit (4300 digits) for integer string conversion; " ++
    "use sys.set_int_max_str_digits() to increase the limit"

/-! ## White space -/

/-- The ranges of the white-space characters. -/
def blanks : List (Nat × Nat) :=
  [(0x9, 0xd), (0x20, 0x20), (0x85, 0x85), (0xa0, 0xa0), (0x1680, 0x1680), (0x2000, 0x200a),
   (0x2028, 0x2029), (0x202f, 0x202f), (0x205f, 0x205f), (0x3000, 0x3000)]

/-- Whether the character is white space. -/
def isBlank (c : Char) : Bool := inRanges blanks c.toNat

/-- The text without the white space at its two ends. -/
def trim (text : List Char) : List Char :=
  ((text.dropWhile isBlank).reverse.dropWhile isBlank).reverse

/-! ## Reading -/

/-- Why a text is not read as an integer. -/
inductive IntegerFault
  /-- The text is no numeral of the base. -/
  | notNumeral (base : Nat) (text : String)
  /-- The numeral has too many digits. -/
  | tooLong (digits : Nat)
  deriving DecidableEq, Repr

/-- The text of a fault. A text that is no numeral is shown up to two hundred characters. -/
def IntegerFault.message : IntegerFault → String
  | notNumeral base text =>
    s!"invalid literal for int() with base {base}: " ++
      String.ofList ((quoteChars text.toList).take 200)
  | tooLong digits =>
    "Exceeds the limit (4300 digits) for integer string conversion: " ++
      s!"value has {digits} digits; use sys.set_int_max_str_digits() to increase the limit"

/-- The value of a digit: a decimal of any script, or an ASCII letter from ten on. -/
def digitValue? (base : Nat) (c : Char) : Option Nat :=
  let value? :=
    if 'a' ≤ c ∧ c ≤ 'z' then some (c.toNat - 'a'.toNat + 10)
    else if 'A' ≤ c ∧ c ≤ 'Z' then some (c.toNat - 'A'.toNat + 10)
    else decimalValue? c
  value?.filter (· < base)

/-- Takes the digits in front, with single underscores between them, and the rest of the text.
No result if an underscore is not followed by a digit. -/
def takeDigits? (base : Nat) : List Char → Option (List Nat × List Char)
  | [] => some ([], [])
  | '_' :: rest =>
    match rest with
    | [] => none
    | c :: rest' =>
      match digitValue? base c with
      | none => none
      | some d => (takeDigits? base rest').map fun (ds, r) => (d :: ds, r)
  | c :: rest =>
    match digitValue? base c with
    | none => some ([], c :: rest)
    | some d => (takeDigits? base rest).map fun (ds, r) => (d :: ds, r)

/-- Splits off a sign: whether it is a minus, and the rest. -/
def takeSign : List Char → Bool × List Char
  | '-' :: rest => (true, rest)
  | '+' :: rest => (false, rest)
  | text => (false, text)

/-- The letters that announce a base after a zero. -/
def baseLetters : Nat → List Char
  | 2 => ['b', 'B']
  | 8 => ['o', 'O']
  | 16 => ['x', 'X']
  | _ => []

/-- Drops the announcement of the base, and one underscore after it. -/
def dropBase (base : Nat) : List Char → List Char
  | '0' :: letter :: rest =>
    if letter ∈ baseLetters base then
      match rest with
      | '_' :: rest' => rest'
      | _ => rest
    else '0' :: letter :: rest
  | text => text

/-- The number that digits make in a base, most significant first. -/
def ofDigits (base : Nat) (digits : List Nat) : Nat :=
  digits.foldl (fun n d => base * n + d) 0

/-- Reads an integer. -/
def readInteger (base : Nat) (text : String) : Except IntegerFault Int :=
  let (negative, body) := takeSign (text.toList.dropWhile isBlank)
  let numeral := dropBase base body
  if numeral.head? = some '_' then .error (.notNumeral base text) else
  match takeDigits? base numeral with
  | none => .error (.notNumeral base text)
  | some (digits, rest) =>
    if digits.length > maxDigits ∧ baseLetters base = [] then .error (.tooLong digits.length)
    else if digits = [] ∨ rest.any (! isBlank ·) then .error (.notNumeral base text)
    else
      let n : Int := ofDigits base digits
      .ok (if negative then -n else n)

end Sequencer.Text
