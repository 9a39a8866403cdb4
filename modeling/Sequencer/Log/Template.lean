import Sequencer.Binary64.Places
import Sequencer.Json.Writer
import Sequencer.Number

/-!
# Message templates

A template is a text with directives that arguments are put in for: a percent sign, perhaps a
key in parentheses, flags, a width, a precision, and a letter that says how the argument is
written. Two percent signs stand for one. Every argument must be used, except that a single
mapping serves as a dictionary for the keys.
-/

namespace Sequencer.Log

open Text

/-- Why a template does not go with its arguments. -/
inductive TemplateFault
  /-- The template ends in a directive. -/
  | incomplete
  /-- The template ends in a key. -/
  | incompleteKey
  /-- No directive has this letter. -/
  | unsupported (letter : Char) (index : Nat)
  /-- A width is too big. -/
  | widthTooBig
  /-- A precision is too big. -/
  | precisionTooBig
  /-- An argument that is a width is too large. -/
  | widthOutOfRange
  /-- An argument that is a precision is too large. -/
  | precisionOutOfRange
  /-- What is no number is to be an integer. -/
  | notFinite (x : Binary64)
  /-- An integer is too large for a double. -/
  | tooLarge
  /-- A number is that of no character. -/
  | noSuchCharacter
  /-- An integer has too many digits to be written in base ten. -/
  | tooLong
  /-- There is no argument for a key. -/
  | missingKey (key : String)
  /-- The arguments are too few, too many, or of a wrong type. -/
  | mismatch
  deriving DecidableEq, Repr

/-- The text of a fault, if it has one. -/
def TemplateFault.message? : TemplateFault → Option String
  | incomplete => some "incomplete format"
  | incompleteKey => some "incomplete format key"
  | unsupported letter index =>
    let shown := if 31 ≤ letter.toNat ∧ letter.toNat ≤ 126 then letter else '?'
    let code := String.ofList (hex 1 letter.toNat)
    some ("unsupported format character '" ++ shown.toString
      ++ s!"' (0x{code}) at index {index}")
  | widthTooBig => some "width too big"
  | precisionTooBig => some "precision too big"
  | notFinite .nan => some "cannot convert float NaN to integer"
  | notFinite _ => some "cannot convert float infinity to integer"
  | tooLarge => some "int too large to convert to float"
  | noSuchCharacter => some "%c arg not in range(0x110000)"
  | tooLong => some longMessage
  | missingKey key => some key
  | widthOutOfRange | precisionOutOfRange | mismatch => none

/-! ## Arguments -/

/-- The arguments still to be used. -/
inductive Arguments
  /-- Arguments in order. -/
  | inOrder (rest : List Value)
  /-- A dictionary, and the argument that a directive without a key takes, if it is still to be
  used. -/
  | byKey (entries : Entries) (next : Option Value)

/-- The arguments of a list. -/
def Arguments.ofList : List Value → Arguments
  | [.map (entry :: entries)] =>
    .byKey (entry :: entries) (some (.map (entry :: entries)))
  | values => .inOrder values

/-- Uses an argument. -/
def Arguments.take : Arguments → Except TemplateFault (Value × Arguments)
  | inOrder (v :: rest) => .ok (v, inOrder rest)
  | byKey entries (some v) => .ok (v, byKey entries none)
  | _ => .error .mismatch

/-- Makes the argument of a key the next one. -/
def Arguments.choose (key : String) : Arguments → Except TemplateFault Arguments
  | inOrder _ => .error .mismatch
  | byKey entries _ =>
    match Entries.get? (.text key) entries with
    | some v => .ok (byKey entries (some v))
    | none => .error (.missingKey key)

/-- Whether arguments in order are left over. -/
def Arguments.leftOver : Arguments → Bool
  | inOrder (_ :: _) => true
  | _ => false

/-! ## Directives -/

/-- The flags of a directive. -/
structure Flags where
  left : Bool
  plus : Bool
  blank : Bool
  alternate : Bool
  zero : Bool
  deriving DecidableEq, Repr

/-- A directive but for its letter. -/
structure Directive where
  flags : Flags
  width : Nat
  precision : Option Nat
  deriving DecidableEq, Repr

/-- The template still to be read, with the index of its first character. -/
abbrev Rest := List Char × Nat

/-- Goes on so many characters. -/
def Rest.skip (r : Rest) (n : Nat) : Rest := (r.1.drop n, r.2 + n)

/-- Reads a key up to the parenthesis that closes it. -/
def takeKey (depth : Nat) : Rest → Except TemplateFault (List Char × Rest)
  | ([], _) => .error .incompleteKey
  | (c :: text, i) =>
    if c = ')' ∧ depth = 0 then .ok ([], text, i + 1)
    else
      let inner := if c = '(' then depth + 1 else if c = ')' then depth - 1 else depth
      (takeKey inner (text, i + 1)).map fun (key, r) => (c :: key, r)
termination_by r => r.1.length

/-- Reads flags. -/
def takeFlags (flags : Flags) : Rest → Flags × Rest
  | ([], i) => (flags, [], i)
  | (c :: text, i) =>
    match c with
    | '-' => takeFlags { flags with left := true } (text, i + 1)
    | '+' => takeFlags { flags with plus := true } (text, i + 1)
    | ' ' => takeFlags { flags with blank := true } (text, i + 1)
    | '#' => takeFlags { flags with alternate := true } (text, i + 1)
    | '0' => takeFlags { flags with zero := true } (text, i + 1)
    | _ => (flags, c :: text, i)
termination_by r => r.1.length

/-- The numbers that a width or a precision may be, and the faults of digits and of an argument
that are none of them. -/
structure Bounds where
  /-- The number of binary digits, the sign not counted. -/
  bits : Nat
  tooBig : TemplateFault
  outOfRange : TemplateFault

/-- One more than the largest number. -/
def Bounds.limit (bounds : Bounds) : Nat := Nat.pow 2 bounds.bits

/-- The bounds of a width. -/
def widthBounds : Bounds := ⟨63, .widthTooBig, .widthOutOfRange⟩

/-- The bounds of a precision. -/
def precisionBounds : Bounds := ⟨31, .precisionTooBig, .precisionOutOfRange⟩

/-- Reads a number: digits, or an asterisk that an argument is used for. -/
def takeNumber (bounds : Bounds) (arguments : Arguments) (r : Rest) :
    Except TemplateFault (Int × Arguments × Rest) := do
  if r.1.head? = some '*' then
    let (v, arguments) ← arguments.take
    match v with
    | .int n =>
      if -(bounds.limit : Int) ≤ n ∧ n < bounds.limit then
        return (n, arguments, Rest.skip r 1)
      else .error bounds.outOfRange
    | .bool b => return (if b then 1 else 0, arguments, Rest.skip r 1)
    | _ => .error .mismatch
  else
    let digits := r.1.takeWhile Char.isDigit
    let n := naturalValue digits
    if n < bounds.limit then return (n, arguments, Rest.skip r digits.length)
    else .error bounds.tooBig

/-- Reads a directive up to its letter: the directive, and the arguments and the template with
the letter in front. -/
def takeDirective (arguments : Arguments) (r : Rest) :
    Except TemplateFault (Directive × Arguments × Rest) := do
  let (arguments, r) ←
    if r.1.head? = some '(' then do
      match arguments with
      | .inOrder _ => .error .mismatch
      | .byKey .. =>
        let (key, r) ← takeKey 0 (Rest.skip r 1)
        pure (← arguments.choose (String.ofList key), r)
    else pure (arguments, r)
  let (flags, r) := takeFlags ⟨false, false, false, false, false⟩ r
  let (width, arguments, r) ← takeNumber widthBounds arguments r
  -- A width from the arguments may be negative, which asks for the left side.
  let flags := if width < 0 then { flags with left := true } else flags
  let (precision, arguments, r) ←
    if r.1.head? = some '.' then do
      let (n, arguments, r) ←
        takeNumber precisionBounds arguments (Rest.skip r 1)
      pure (some n.toNat, arguments, r)
    else pure (none, arguments, r)
  let r := if r.1.head?.any fun c => c = 'h' || c = 'l' || c = 'L' then Rest.skip r 1 else r
  return (⟨flags, width.natAbs, precision⟩, arguments, r)

/-! ## Writing arguments -/

/-- The text of a value: a text itself, a date or moment in the form of ISO 8601, anything else as
messages show it. -/
def plainText : Value → List Char
  | .text s => s.toList
  | .scalar (.date d) => d.iso
  | .scalar (.moment m) => m.iso ' '
  | v => v.shown

/-- The text that a function gives of a value, unless an integer in it is too long for that. -/
def textOf (text : Value → List Char) (v : Value) : Except TemplateFault (List Char) :=
  if v.hasLong then .error .tooLong else .ok (text v)

/-- A text in ASCII: other characters as escapes. -/
def asciiText (text : List Char) : List Char :=
  text.flatMap fun c =>
    if c.toNat < 0x80 then [c]
    else if c.toNat < 0x100 then '\\' :: 'x' :: hex 2 c.toNat
    else if c.toNat < 0x10000 then '\\' :: 'u' :: hex 4 c.toNat
    else '\\' :: 'U' :: hex 8 c.toNat

/-- Fills up to the width with spaces. -/
def fill (d : Directive) (text : List Char) : List Char :=
  if d.flags.left then text.rightpad d.width ' ' else text.leftpad d.width ' '

/-- A number's sign as it is written. -/
def signText (d : Directive) (negative : Bool) : List Char :=
  if negative then ['-'] else if d.flags.plus then ['+'] else if d.flags.blank then [' '] else []

/-- A number of a sign, a base mark and digits. Zeros are filled in before the digits. -/
def fillNumber (d : Directive) (negative : Bool) (mark digits : List Char) : List Char :=
  let front := signText d negative ++ mark
  if d.flags.zero ∧ ! d.flags.left then
    front ++ digits.leftpad (d.width - front.length) '0'
  else fill d (front ++ digits)

/-- The integer that a value is. -/
def integer? : Value → Option Int
  | .int n => some n
  | .bool b => some (if b then 1 else 0)
  | _ => none

/-- The integer that a number is or is cut to. -/
def wholeNumber : Value → Except TemplateFault Int
  | .float x => match x.truncate? with
    | some n => .ok n
    | none => .error (.notFinite x)
  | v => match integer? v with
    | some n => .ok n
    | none => .error .mismatch

/-- The double that a number is. -/
def double : Value → Except TemplateFault Binary64
  | .float x => .ok x
  | v => match integer? v with
    | none => .error .mismatch
    | some n => match Binary64.ofInt? n with
      | some x => .ok x
      | none => .error .tooLarge

/-- The integer that a number is or is cut to, which must not be too long for base ten. -/
def decimalNumber (v : Value) : Except TemplateFault Int := do
  let n ← wholeNumber v
  if isLong n then .error .tooLong else return n

/-- An integer in a base. -/
def writeInteger (d : Directive) (base : Nat) (mark : List Char) (n : Int) : List Char :=
  let digits := (Nat.toDigits base n.natAbs).leftpad (d.precision.getD 0) '0'
  fillNumber d (n < 0) (if d.flags.alternate then mark else []) digits

/-- A double, its magnitude written by a function of precision and units. -/
def writeDouble (d : Directive) (magnitude : Nat → Nat → List Char) :
    Binary64 → List Char
  | .finite negative units =>
    fillNumber d negative [] (magnitude (d.precision.getD 6) units)
  | .infinite negative => fillNumber d negative [] "inf".toList
  | .nan => fillNumber d false [] "nan".toList

/-- Letters in upper case. -/
def upper (text : List Char) : List Char := text.map Char.toUpper

/-- Cuts a text to the precision and fills it up. -/
def writeText (d : Directive) (text : List Char) : List Char :=
  fill d (match d.precision with
    | some n => text.take n
    | none => text)

/-- A character: that of a number, or a text of one. -/
def writeCharacter (d : Directive) (v : Value) : Except TemplateFault (List Char) :=
  match v with
  | .text s => match s.toList with
    | [c] => .ok (fill d [c])
    | _ => .error .mismatch
  | v => match integer? v with
    | none => .error .mismatch
    | some n =>
      if 0 ≤ n ∧ n ≤ 0x10ffff then .ok (fill d [Char.ofNat n.toNat])
      else .error .noSuchCharacter

/-- Writes an argument as a letter says. -/
def write (d : Directive) (letter : Char) (index : Nat) (v : Value) :
    Except TemplateFault (List Char) :=
  let alternate := d.flags.alternate
  let whole (base : Nat) (mark : List Char) : Except TemplateFault (List Char) :=
    match integer? v with
    | some n => .ok (writeInteger d base mark n)
    | none => .error .mismatch
  let real (magnitude : Nat → Nat → List Char) : Except TemplateFault (List Char) :=
    (double v).map (writeDouble d magnitude)
  match letter with
  | 's' => (textOf plainText v).map (writeText d)
  | 'r' => (textOf Value.shown v).map (writeText d)
  | 'a' => (textOf Value.shown v).map fun text => writeText d (asciiText text)
  | 'd' | 'i' | 'u' =>
    (decimalNumber v).map (writeInteger { d with flags.alternate := false } 10 [])
  | 'x' => whole 16 ['0', 'x']
  | 'X' => (whole 16 ['0', 'x']).map upper
  | 'o' => whole 8 ['0', 'o']
  | 'e' => real (Binary64.scientific alternate)
  | 'E' => (real (Binary64.scientific alternate)).map upper
  | 'f' => real (Binary64.fixed alternate)
  | 'F' => (real (Binary64.fixed alternate)).map upper
  | 'g' => real (Binary64.general alternate)
  | 'G' => (real (Binary64.general alternate)).map upper
  | 'c' => writeCharacter d v
  | _ => .error (.unsupported letter index)

/-! ## Templates -/

/-- Puts arguments in for the directives of the rest of a template. -/
def expand (arguments : Arguments) (r : Rest) : (fuel : Nat) → Except TemplateFault (List Char)
  | 0 => .ok []
  | fuel + 1 =>
    match r with
    | ([], _) => if arguments.leftOver then .error .mismatch else .ok []
    | ('%' :: '%' :: text, i) => (expand arguments (text, i + 2) fuel).map ('%' :: ·)
    | ('%' :: text, i) => do
      let (directive, arguments, r) ← takeDirective arguments (text, i + 1)
      match r with
      | ([], _) => .error .incomplete
      | (letter :: text, i) =>
        let (v, arguments) ← arguments.take
        let written ← write directive letter i v
        return written ++ (← expand arguments (text, i + 1) fuel)
    | (c :: text, i) => (expand arguments (text, i + 1) fuel).map (c :: ·)

/-- The message of a template and its arguments. Without arguments it is the template itself. -/
def formatMessage (template : String) (arguments : List Value) : Except TemplateFault String :=
  if arguments.isEmpty then .ok template
  else
    (expand (.ofList arguments) (template.toList, 0) (template.length + 1)).map String.ofList

end Sequencer.Log
