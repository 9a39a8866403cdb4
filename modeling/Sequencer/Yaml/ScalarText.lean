import Sequencer.Json.Reader
import Sequencer.Yaml.Cursor

/-!
# The text of a YAML scalar

How the text of a scalar is read from its notation: between quotes, in blocks and plain. A line
break inside a quoted or plain scalar is folded: it becomes a space, or, if empty lines follow
it, one line break for each of these.
-/

namespace Sequencer.Yaml

/-- The text read so far together with the place behind it. -/
abbrev Scanned := Except Failure (List Char × Cursor)

/-- What a line break and the breaks of the empty lines after it fold to. -/
def fold (lineBreak : Char) (breaks : List Char) : List Char :=
  if lineBreak ≠ '\n' then lineBreak :: breaks
  else if breaks = [] then [' ']
  else breaks

/-! ## Quoted scalars -/

/-- The character that a letter after a backslash stands for. -/
def unescape? : Char → Option Char
  | '0' => some (Char.ofNat 0)
  | 'a' => some (Char.ofNat 7)
  | 'b' => some (Char.ofNat 8)
  | 't' => some '\t'
  | '\t' => some '\t'
  | 'n' => some '\n'
  | 'v' => some (Char.ofNat 11)
  | 'f' => some (Char.ofNat 12)
  | 'r' => some '\r'
  | 'e' => some (Char.ofNat 27)
  | ' ' => some ' '
  | '"' => some '"'
  | '\\' => some '\\'
  | '/' => some '/'
  | 'N' => some (Char.ofNat 0x85)
  | '_' => some (Char.ofNat 0xa0)
  | 'L' => some lineSeparator
  | 'P' => some paragraphSeparator
  | _ => none

/-- The number of hexadecimal digits after a letter after a backslash. -/
def escapeWidth? : Char → Option Nat
  | 'x' => some 2
  | 'u' => some 4
  | 'U' => some 8
  | _ => none

/-- The number that hexadecimal digits make. -/
def hexNumber? (digits : List Char) : Option Nat :=
  digits.foldlM (fun n c => (Json.hexValue? c).map (16 * n + ·)) 0

/-- The character of a number in an escape. -/
def codeChar (code : Nat) : Except Failure Char :=
  if code ≥ 0x80000000 then .error .hugeCharacter
  else if code > 0x10ffff then .error .noSuchCharacter
  else .ok (Json.unitChar code)

/-- The breaks of empty lines in a quoted scalar. A document may not start or end there. -/
def quotedBreaks (c : Cursor) : (fuel : Nat) → Scanned
  | 0 => .ok ([], c)
  | fuel + 1 =>
    if c.atDocumentMark then .error .malformed
    else
      let c := c.dropWhile fun d => d = ' ' || d = '\t'
      match c.takeBreak? with
      | some (b, c) => (quotedBreaks c fuel).map fun (breaks, c) => (b :: breaks, c)
      | none => .ok ([], c)

/-- The breaks of empty lines from here on. -/
def takeQuotedBreaks (c : Cursor) : Scanned := quotedBreaks c (c.rest.length + 1)

/-- Reads the inside of a quoted scalar and the closing quote. -/
def quotedBody (double : Bool) (c : Cursor) : (fuel : Nat) → Scanned
  | 0 => .error .malformed
  | fuel + 1 => do
    let d := c.peek
    if d = endMark then .error .malformed
    else if d = (if double then '"' else '\'') then
      if ! double ∧ c.peekAt 1 = '\'' then
        let (text, c) ← quotedBody double (c.skip 2) fuel
        return ('\'' :: text, c)
      else return ([], c.next)
    else if double ∧ d = '\\' then
      let e := c.peekAt 1
      if e ≠ endMark ∧ isBreak e then
        let (breaks, c) ← takeQuotedBreaks (c.skip 2)
        let (text, c) ← quotedBody double c fuel
        return (breaks ++ text, c)
      else
        match unescape? e, escapeWidth? e with
        | some escaped, _ =>
          let (text, c) ← quotedBody double (c.skip 2) fuel
          return (escaped :: text, c)
        | none, some width =>
          let c := c.skip 2
          let digits := c.rest.take width
          match hexNumber? digits with
          | some code =>
            if digits.length < width then .error .malformed
            else
              let escaped ← codeChar code
              let (text, c) ← quotedBody double (c.skip width) fuel
              return (escaped :: text, c)
          | none => .error .malformed
        | none, none => .error .malformed
    else if isGap d then
      let (spaces, c) := c.takeWhile fun d => d = ' ' || d = '\t'
      match c.takeBreak? with
      | some (b, c) =>
        let (breaks, c) ← takeQuotedBreaks c
        let (text, c) ← quotedBody double c fuel
        return (fold b breaks ++ text, c)
      | none =>
        let (text, c) ← quotedBody double c fuel
        return (spaces ++ text, c)
    else
      let (text, c) ← quotedBody double c.next fuel
      return (d :: text, c)

/-- Reads a quoted scalar from its opening quote on. -/
def takeQuoted (double : Bool) (c : Cursor) : Scanned :=
  quotedBody double c.next (c.rest.length + 1)

/-! ## Plain scalars -/

/-- Whether a plain scalar ends at a place. -/
def endsPlain (inFlow : Bool) (c : Cursor) : Bool :=
  let d := c.peek
  isGap d
    || (d = ':' && (isGap (c.peekAt 1) || (inFlow && ",[]\x7b\x7d".toList.contains (c.peekAt 1))))
    || (inFlow && ",?[]\x7b\x7d".toList.contains d)

/-- The characters of a plain scalar up to the next gap or its end. -/
def plainRun (inFlow : Bool) (c : Cursor) : (fuel : Nat) → List Char × Cursor
  | 0 => ([], c)
  | fuel + 1 =>
    if endsPlain inFlow c then ([], c)
    else
      let (text, end_) := plainRun inFlow c.next fuel
      (c.peek :: text, end_)

/-- The breaks of the empty lines between two lines of a plain scalar, and the place behind them
and the indentation; none if a document starts or ends there. -/
def plainBreaks (c : Cursor) : (fuel : Nat) → Option (List Char) × Cursor
  | 0 => (some [], c)
  | fuel + 1 =>
    if c.peek = ' ' then plainBreaks c.next fuel
    else
      match c.takeBreak? with
      | none => (some [], c)
      | some (b, c) =>
        if c.atDocumentMark then (none, c)
        else
          let (breaks, c) := plainBreaks c fuel
          (breaks.map (b :: ·), c)

/-- The gap after a run of a plain scalar: the text it stands for, none if the scalar ends
there, whether a line ended in it, and the place behind it. -/
def plainGap (c : Cursor) : Option (List Char) × Bool × Cursor :=
  let (spaces, c) := c.takeWhile (· == ' ')
  match c.takeBreak? with
  | none => (if spaces = [] then none else some spaces, false, c)
  | some (b, c) =>
    if c.atDocumentMark then (none, true, c)
    else
      let (breaks, c) := plainBreaks c (c.rest.length + 1)
      (breaks.map (fold b), true, c)

/-- Reads a plain scalar whose lines are indented so far at least: its text, whether a line ended
after it, and the place behind it. -/
def plainBody (inFlow : Bool) (indent : Int) (gap : List Char) (lineEnded : Bool) (c : Cursor) :
    (fuel : Nat) → List Char × Bool × Cursor
  | 0 => ([], lineEnded, c)
  | fuel + 1 =>
    if c.peek = '#' then ([], lineEnded, c)
    else
      match plainRun inFlow c (c.rest.length + 1) with
      | ([], _) => ([], lineEnded, c)
      | (run, c) =>
        match plainGap c with
        | (none, ended, c) => (gap ++ run, ended, c)
        | (some next, ended, c) =>
          if c.peek = '#' ∨ (! inFlow ∧ (c.column : Int) < indent) then (gap ++ run, ended, c)
          else
            let (text, ended, c) := plainBody inFlow indent next ended c fuel
            (gap ++ run ++ text, ended, c)

/-- Reads a plain scalar. -/
def takePlain (inFlow : Bool) (indent : Int) (c : Cursor) : List Char × Bool × Cursor :=
  plainBody inFlow indent [] false c (c.rest.length + 1)

/-! ## Block scalars -/

/-- What becomes of the line breaks at the end of a block scalar. -/
inductive Chomping
  /-- The last one stays. -/
  | clip
  /-- All go. -/
  | strip
  /-- All stay. -/
  | keep
  deriving DecidableEq, Repr

/-- Takes a sign for chomping. -/
def takeChomping (c : Cursor) : Option (Chomping × Cursor) :=
  if c.peek = '+' then some (.keep, c.next)
  else if c.peek = '-' then some (.strip, c.next)
  else none

/-- Takes a digit for the indentation, which may not be zero. -/
def takeIncrement (c : Cursor) : Except Failure (Option Nat × Cursor) :=
  if c.peek = '0' then .error .malformed
  else if c.peek.isDigit then .ok (some (c.peek.toNat - 48), c.next)
  else .ok (none, c)

/-- Reads the header of a block scalar: chomping and indentation, in either order. -/
def blockHeader (c : Cursor) : Except Failure (Chomping × Option Nat × Cursor) := do
  let (chomping, increment, c) ←
    match takeChomping c with
    | some (chomping, c) =>
      let (increment, c) ← takeIncrement c
      pure (chomping, increment, c)
    | none =>
      let (increment, c) ← takeIncrement c
      match increment, takeChomping c with
      | some _, some (chomping, c) => pure (chomping, increment, c)
      | _, _ => pure (.clip, increment, c)
  if isSpaceOrEnd c.peek then return (chomping, increment, ← c.endLine) else .error .malformed

/-- The breaks of the empty lines that a block scalar starts with, and the widest indentation
among them and the first line. -/
def leadingBreaks (widest : Nat) (c : Cursor) : (fuel : Nat) → List Char × Nat × Cursor
  | 0 => ([], widest, c)
  | fuel + 1 =>
    if c.peek = ' ' then leadingBreaks (max widest c.next.column) c.next fuel
    else
      match c.takeBreak? with
      | some (b, c) =>
        let (breaks, widest, c) := leadingBreaks widest c fuel
        (b :: breaks, widest, c)
      | none => ([], widest, c)

/-- Skips at most the indentation. -/
def skipIndent (indent : Nat) (c : Cursor) : (fuel : Nat) → Cursor
  | 0 => c
  | fuel + 1 => if c.column < indent ∧ c.peek = ' ' then skipIndent indent c.next fuel else c

/-- The breaks of empty lines in a block scalar, with the indentation of the line after them. -/
def blockBreaks (indent : Nat) (c : Cursor) : (fuel : Nat) → List Char × Cursor
  | 0 => ([], c)
  | fuel + 1 =>
    let c := skipIndent indent c indent
    match c.takeBreak? with
    | some (b, c) =>
      let (breaks, c) := blockBreaks indent c fuel
      (b :: breaks, c)
    | none => ([], c)

/-- The breaks of empty lines from here on. -/
def takeBlockBreaks (indent : Nat) (c : Cursor) : List Char × Cursor :=
  blockBreaks indent c (c.rest.length + 1)

/-- Whether a line of a block scalar starts at a place. -/
def atBlockLine (indent : Nat) (c : Cursor) : Bool := c.column = indent && c.peek ≠ endMark

/-- Reads the lines of a block scalar, given the breaks before the first one: the text, the last
line break, the breaks after it, and the place behind. -/
def blockBody (folded : Bool) (indent : Nat) (breaks : List Char) (c : Cursor) :
    (fuel : Nat) → List Char × List Char × List Char × Cursor
  | 0 => ([], [], breaks, c)
  | fuel + 1 =>
    let more := c.peek = ' ' || c.peek = '\t'
    let (line, c) := c.takeWhile (! isBreak ·)
    let (lineBreak, c) := match c.takeBreak? with
      | some (b, c) => ([b], c)
      | none => ([], c)
    let (after, c) := takeBlockBreaks indent c
    if atBlockLine indent c then
      let joint :=
        if folded ∧ lineBreak = ['\n'] ∧ ! more ∧ c.peek ≠ ' ' ∧ c.peek ≠ '\t' then
          if after = [] then [' '] else []
        else lineBreak
      let (text, last, tail, c) := blockBody folded indent after c fuel
      (breaks ++ line ++ joint ++ text, last, tail, c)
    else (breaks ++ line, lineBreak, after, c)

/-- Reads a block scalar from its indicator on, in a block that is indented so far. -/
def takeBlock (folded : Bool) (indent : Int) (c : Cursor) : Scanned := do
  let (chomping, increment, c) ← blockHeader c.next
  let least := max 1 (indent + 1).toNat
  let (breaks, indent, c) := match increment with
    | none =>
      let (breaks, widest, c) := leadingBreaks 0 c (c.rest.length + 1)
      (breaks, max least widest, c)
    | some increment =>
      let indent := least + increment - 1
      let (breaks, c) := takeBlockBreaks indent c
      (breaks, indent, c)
  let (text, last, tail, c) :=
    if atBlockLine indent c then blockBody folded indent breaks c (c.rest.length + 1)
    else ([], [], breaks, c)
  return match chomping with
    | .clip => (text ++ last, c)
    | .strip => (text, c)
    | .keep => (text ++ last ++ tail, c)

end Sequencer.Yaml
