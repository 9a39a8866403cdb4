import Sequencer.Yaml.Token

/-!
# The tags of YAML nodes

A tag names the kind of value a node stands for. A node without a tag of its own gets one: a
collection that of its form, a quoted scalar that of texts, and a plain scalar the tag whose form
its text has. The forms are those of YAML 1.1: `yes` and `off` are truth values, `010` and `0x1f`
integers, `1:30` counts by sixties, and an exponent needs a point before and a sign behind it.
-/

namespace Sequencer.Yaml

/-- The kinds of value that a node may stand for. -/
inductive Tag
  | null
  | bool
  | int
  | float
  | binary
  | timestamp
  | omap
  | pairs
  | set
  | str
  | seq
  | map
  /-- The key under which another mapping's entries are taken over. -/
  | merge
  /-- The key under which a mapping keeps its own value. -/
  | value
  /-- A tag without a meaning here. -/
  | other (name : String)
  deriving DecidableEq, Repr

/-- What the names of all tags of the language start with. -/
def coreTags : String := "tag:yaml.org,2002:"

/-- The tag of a full name. -/
def Tag.ofName (name : String) : Tag :=
  let known := [("null", Tag.null), ("bool", .bool), ("int", .int), ("float", .float),
    ("binary", .binary), ("timestamp", .timestamp), ("omap", .omap), ("pairs", .pairs),
    ("set", .set), ("str", .str), ("seq", .seq), ("map", .map), ("merge", .merge),
    ("value", .value)]
  match known.find? fun (short, _) => coreTags ++ short = name with
  | some (_, tag) => tag
  | none => .other name

/-! ## The forms of plain scalars -/

/-- Splits off a sign. -/
def dropSign : List Char → List Char
  | '+' :: rest => rest
  | '-' :: rest => rest
  | text => text

/-- Whether a character is a digit or an underscore. -/
def isDigitOrUnderscore (c : Char) : Bool := c.isDigit || c = '_'

/-- Whether a text is one or more parts of sixty, a colon before each. -/
def isSixties : List Char → Bool
  | [':', a] => a.isDigit
  | ':' :: a :: ':' :: rest => a.isDigit && isSixties (':' :: rest)
  | ':' :: a :: b :: rest =>
    '0' ≤ a && a ≤ '5' && b.isDigit && (rest.isEmpty || isSixties rest)
  | _ => false

/-- The form of an integer without its sign. -/
def isPlainInt : List Char → Bool
  | '0' :: 'b' :: rest => ! rest.isEmpty && rest.all fun c => c = '0' || c = '1' || c = '_'
  | '0' :: 'x' :: rest =>
    ! rest.isEmpty && rest.all fun c => (Json.hexValue? c).isSome || c = '_'
  | '0' :: rest => rest.all fun c => ('0' ≤ c && c ≤ '7') || c = '_'
  | d :: rest =>
    d.isDigit &&
      (rest.all isDigitOrUnderscore || isSixties (rest.dropWhile isDigitOrUnderscore))
  | [] => false

/-- The form of an exponent: absent, or a letter, a sign and digits. -/
def isExponent : List Char → Bool
  | [] => true
  | e :: sign :: rest =>
    (e = 'e' || e = 'E') && (sign = '+' || sign = '-') && ! rest.isEmpty && rest.all Char.isDigit
  | _ => false

/-- The form of a double: digits with a point, a fraction, parts of sixty with a point behind
them, an infinity, or what is no number. -/
def isPlainFloat (text : List Char) : Bool :=
  let unsigned := dropSign text
  match unsigned with
  | d :: rest =>
    if d.isDigit then
      let behind := rest.dropWhile isDigitOrUnderscore
      match behind with
      | '.' :: fraction => isExponent (fraction.dropWhile isDigitOrUnderscore)
      | ':' :: _ =>
        isSixties (behind.takeWhile (· ≠ '.'))
          && (match behind.dropWhile (· ≠ '.') with
            | '.' :: fraction => fraction.all isDigitOrUnderscore
            | _ => false)
      | _ => false
    else if d = '.' then
      rest ∈ ["inf".toList, "Inf".toList, "INF".toList]
        || (unsigned = text && (rest ∈ ["nan".toList, "NaN".toList, "NAN".toList]
          || (match rest with
            | e :: more => e.isDigit && isExponent (more.dropWhile isDigitOrUnderscore)
            | [] => false)))
    else false
  | [] => false

/-- The parts of a time as they are written. -/
structure TimeText where
  year : List Char
  month : List Char
  day : List Char
  /-- Hour, minute, second and fraction, if there is a time of day. -/
  clock : Option (List Char × List Char × List Char × List Char)
  /-- The offset: its sign, hours and minutes; all empty for UTC. -/
  offset : Option (List Char × List Char × List Char)

/-- Takes digits off the front of a text: so many at least and at most. -/
def takeDigits (least most : Nat) (text : List Char) : Option (List Char × List Char) :=
  let digits := (text.take most).takeWhile Char.isDigit
  if digits.length < least then none else some (digits, text.drop digits.length)

/-- Takes a character off the front of a text. -/
def takeChar (c : Char) : List Char → Option (List Char)
  | d :: rest => if d = c then some rest else none
  | [] => none

/-- Reads the offset at the end of a time: absent, `Z`, or a sign, hours and minutes. -/
def readOffset (text : List Char) : Option (Option (List Char × List Char × List Char)) :=
  match text.dropWhile fun c => c = ' ' || c = '\t' with
  | [] => if text = [] then some none else none
  | ['Z'] => some (some ([], [], []))
  | sign :: rest =>
    if sign = '+' ∨ sign = '-' then do
      let (hours, rest) ← takeDigits 1 2 rest
      match rest with
      | [] => some (some ([sign], hours, []))
      | _ =>
        let (minutes, rest) ← takeDigits 2 2 (← takeChar ':' rest)
        if rest = [] then some (some ([sign], hours, minutes)) else none
    else none

/-- Reads the time of day behind a date. -/
def readClock (text : List Char) :
    Option ((List Char × List Char × List Char × List Char) ×
      Option (List Char × List Char × List Char)) := do
  let (hour, rest) ← takeDigits 1 2 text
  let (minute, rest) ← takeDigits 2 2 (← takeChar ':' rest)
  let (second, rest) ← takeDigits 2 2 (← takeChar ':' rest)
  let (fraction, rest) := match rest with
    | '.' :: rest => (rest.takeWhile Char.isDigit, rest.dropWhile Char.isDigit)
    | _ => ([], rest)
  return ((hour, minute, second, fraction), ← readOffset rest)

/-- Reads a time: a date, and perhaps a time of day behind a `T` or a gap. -/
def readTimeText (text : List Char) : Option TimeText := do
  let (year, rest) ← takeDigits 4 4 text
  let (month, rest) ← takeDigits 1 2 (← takeChar '-' rest)
  let (day, rest) ← takeDigits 1 2 (← takeChar '-' rest)
  match rest with
  | [] => some ⟨year, month, day, none, none⟩
  | t :: behind =>
    let start := if t = 'T' ∨ t = 't' then behind
      else rest.dropWhile fun c => c = ' ' || c = '\t'
    if start.length = rest.length then none
    else
      let (clock, offset) ← readClock start
      some ⟨year, month, day, some clock, offset⟩

/-- The form of a time: a date alone has all its digits. -/
def isPlainTime (text : List Char) : Bool :=
  match readTimeText text with
  | some time => time.clock.isSome || (time.month.length = 2 && time.day.length = 2)
  | none => false

/-- The texts of truth values, as they may be written plain. -/
def plainBools : List String :=
  ["yes", "Yes", "YES", "no", "No", "NO", "true", "True", "TRUE", "false", "False", "FALSE",
    "on", "On", "ON", "off", "Off", "OFF"]

/-- A text without a line break at its end. -/
def dropFinalBreak (text : List Char) : List Char :=
  if text.getLast? = some '\n' then text.dropLast else text

/-- The tag whose form a text has. -/
def Tag.ofPlain (text : String) : Tag :=
  let chars := if text = "\n" then ['\n'] else dropFinalBreak text.toList
  let name := String.ofList chars
  if name ∈ plainBools then .bool
  else if isPlainFloat chars then .float
  else if isPlainInt (dropSign chars) then .int
  else if name = "<<" then .merge
  else if name ∈ ["", "~", "null", "Null", "NULL"] then .null
  else if isPlainTime chars then .timestamp
  else if name = "=" then .value
  else .str

end Sequencer.Yaml
