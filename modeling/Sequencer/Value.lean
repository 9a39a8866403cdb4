import Sequencer.Binary64.Shortest
import Sequencer.Calendar.Iso
import Sequencer.Text.Printable

/-!
# Dynamic values

The values that configuration files and log fields hold: scalars, lists, mappings in insertion
order and sets. The keys of a mapping are scalars; `Entries` looks up, sets and merges them.
`Value.typeName` and `Value.shown` give the names and texts that messages use.
-/

namespace Sequencer

open Text

/-- A value without parts. -/
inductive Scalar
  | null
  | bool (b : Bool)
  | int (n : Int)
  | float (x : Binary64)
  | text (s : String)
  | date (d : Date)
  | moment (m : Moment)
  | bytes (content : List UInt8)
  deriving DecidableEq, Repr

/-- A value. The entries of a mapping are in the order in which their keys came first, and the
members of a set in the order in which it gives them. -/
inductive Value
  | scalar (s : Scalar)
  | list (items : List Value)
  | map (entries : List (Scalar × Value))
  | set (members : List Scalar)

instance : Inhabited Value := ⟨.scalar .null⟩

/-- The entries of a mapping. -/
abbrev Entries := List (Scalar × Value)

namespace Value

@[match_pattern] abbrev null : Value := .scalar .null
@[match_pattern] abbrev bool (b : Bool) : Value := .scalar (.bool b)
@[match_pattern] abbrev int (n : Int) : Value := .scalar (.int n)
@[match_pattern] abbrev float (x : Binary64) : Value := .scalar (.float x)
@[match_pattern] abbrev text (s : String) : Value := .scalar (.text s)

/-- A mapping with texts as keys. -/
def ofFields (fields : List (String × Value)) : Value :=
  .map (fields.map fun (key, value) => (.text key, value))

end Value

/-! ## Entries -/

namespace Entries

/-- The value of a key. -/
def get? (key : Scalar) (entries : Entries) : Option Value := entries.lookup key

/-- Whether there is an entry for the key. -/
def hasKey (key : Scalar) (entries : Entries) : Bool := (entries.get? key).isSome

/-- Sets the value of a key: in its place if it is there, else at the end. -/
def put (key : Scalar) (value : Value) : Entries → Entries
  | [] => [(key, value)]
  | (k, v) :: rest => if k = key then (k, value) :: rest else (k, v) :: put key value rest

/-- The entries that pairs make one after another, the last value of a key winning. -/
def ofPairs (pairs : List (Scalar × Value)) : Entries :=
  pairs.foldl (fun entries (key, value) => put key value entries) []

end Entries

/-- The value under a text key, if this is a mapping with such an entry. -/
def Value.field? (name : String) : Value → Option Value
  | .map entries => Entries.get? (.text name) entries
  | _ => none

/-- The moment that a value is. -/
def Value.moment? : Value → Option Moment
  | .scalar (.moment m) => some m
  | _ => none

/-! ## Names and texts -/

/-- The name of a scalar's type. -/
def Scalar.typeName : Scalar → String
  | null => "NoneType"
  | bool _ => "bool"
  | int _ => "int"
  | float _ => "float"
  | text _ => "str"
  | date _ => "date"
  | moment _ => "datetime"
  | bytes _ => "bytes"

/-- The name of a value's type. -/
def Value.typeName : Value → String
  | .scalar s => s.typeName
  | .list _ => "list"
  | .map _ => "dict"
  | .set _ => "set"

/-- Texts with a separator between them. -/
def separated (separator : List Char) : List (List Char) → List Char
  | [] => []
  | [text] => text
  | text :: rest => text ++ separator ++ separated separator rest

/-- Arguments in parentheses after a name. -/
def call (name : String) (arguments : List (List Char)) : List Char :=
  name.toList ++ '(' :: separated [',', ' '] arguments ++ [')']

/-- A byte inside the given quotes. -/
def quoteByte (mark : Char) (b : UInt8) : List Char :=
  if b < 0x80 then quoteChar mark (Char.ofNat b.toNat) else '\\' :: 'x' :: hex 2 b.toNat

/-- Bytes between quotes, which are chosen as for a text. -/
def quoteBytes (content : List UInt8) : List Char :=
  let mark := quoteFor (content.map fun b => Char.ofNat b.toNat)
  'b' :: mark :: content.flatMap (quoteByte mark) ++ [mark]

/-- The text of a scalar in messages. -/
def Scalar.shown : Scalar → List Char
  | null => "None".toList
  | bool b => (if b then "True" else "False").toList
  | int n => integer n
  | float x => Binary64.plainLayout.render x
  | text s => quoteChars s.toList
  | date d => call "datetime.date" ([d.year, d.month, d.day].map natural)
  | moment m =>
    let zone := m.offset.map fun minutes => ("tzinfo=" ++ zoneText minutes).toList
    call "datetime.datetime" (m.numbers.map natural ++ zone.toList)
  | bytes content => quoteBytes content

mutual

/-- The text of a value in messages. -/
def Value.shown : Value → List Char
  | .scalar s => s.shown
  | .list items => '[' :: separated [',', ' '] (shownItems items) ++ [']']
  | .map entries => '\x7b' :: separated [',', ' '] (shownEntries entries) ++ ['\x7d']
  | .set members =>
    if members.isEmpty then "set()".toList
    else '\x7b' :: separated [',', ' '] (members.map Scalar.shown) ++ ['\x7d']

/-- The texts of the items of a list. -/
def shownItems : List Value → List (List Char)
  | [] => []
  | item :: rest => item.shown :: shownItems rest

/-- The texts of the entries of a mapping. -/
def shownEntries : List (Scalar × Value) → List (List Char)
  | [] => []
  | (key, value) :: rest => (key.shown ++ ':' :: ' ' :: value.shown) :: shownEntries rest

end

/-- The text of a value in messages. -/
def Value.display (v : Value) : String := String.ofList v.shown

/-! ## Integers that are too long -/

/-- Whether a scalar is an integer with too many digits to be written. -/
def Scalar.isLong : Scalar → Bool
  | int n => Text.isLong n
  | _ => false

mutual

/-- Whether there is an integer with too many digits to be written anywhere in a value. -/
def Value.hasLong : Value → Bool
  | .scalar s => s.isLong
  | .list items => itemsLong items
  | .map entries => entriesLong entries
  | .set members => members.any Scalar.isLong

/-- `Value.hasLong` for the items of a list. -/
def itemsLong : List Value → Bool
  | [] => false
  | item :: rest => item.hasLong || itemsLong rest

/-- `Value.hasLong` for the keys and values of a mapping. -/
def entriesLong : List (Scalar × Value) → Bool
  | [] => false
  | (key, value) :: rest => key.isLong || value.hasLong || entriesLong rest

end

/-! ## Laws of entries -/

namespace Entries

theorem get?_put_self (key : Scalar) (value : Value) (entries : Entries) :
    get? key (put key value entries) = some value := by
  induction entries with
  | nil => simp [put, get?]
  | cons entry rest ih =>
    obtain ⟨k, v⟩ := entry
    by_cases h : k = key
    · simp [put, get?, h]
    · have hb : (key == k) = false := beq_eq_false_iff_ne.2 (Ne.symm h)
      simpa [put, get?, h, List.lookup_cons, hb] using ih

theorem get?_put_of_ne {key other : Scalar} (value : Value) (entries : Entries)
    (h : other ≠ key) : get? other (put key value entries) = get? other entries := by
  have hb : (other == key) = false := beq_eq_false_iff_ne.2 h
  induction entries with
  | nil => simp [put, get?, List.lookup_cons, hb]
  | cons entry rest ih =>
    obtain ⟨k, v⟩ := entry
    by_cases hk : k = key
    · subst hk
      simp [put, get?, List.lookup_cons, hb]
    · simp only [get?] at ih
      simp [put, get?, hk, List.lookup_cons, ih]

end Entries

end Sequencer
