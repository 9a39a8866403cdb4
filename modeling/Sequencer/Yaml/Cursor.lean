import Sequencer.Yaml.Failure

/-!
# Places in a YAML text

A cursor is a place in a text: what is still to be read, and its index, line and column. The end
of the text reads as the character NUL, which no text holds. Four characters end a line; two of
them, the line and the paragraph separator, are kept in scalars, the others become a line feed.
-/

namespace Sequencer.Yaml

/-- A place in a text. -/
structure Cursor where
  rest : List Char
  index : Nat
  line : Nat
  column : Nat

/-! ## Characters -/

/-- The character that stands for the end of the text. -/
def endMark : Char := '\x00'

/-- Whether a character may stand in a text at all. -/
def isAllowed (c : Char) : Bool :=
  let n := c.toNat
  n = 0x09 || n = 0x0a || n = 0x0d || (0x20 ≤ n && n ≤ 0x7e) || n = 0x85
    || (0xa0 ≤ n && n ≤ 0xd7ff) || (0xe000 ≤ n && n ≤ 0xfffd) || 0x10000 ≤ n

/-- The byte order mark, which takes no column. -/
def byteOrderMark : Char := Char.ofNat 0xfeff

/-- The line separator. -/
def lineSeparator : Char := Char.ofNat 0x2028

/-- The paragraph separator. -/
def paragraphSeparator : Char := Char.ofNat 0x2029

/-- Whether a character ends a line. -/
def isBreak (c : Char) : Bool :=
  c = '\n' || c.toNat = 0x85 || c = lineSeparator || c = paragraphSeparator

/-- Whether a line ends at a character, or the text. -/
def isLineEnd (c : Char) : Bool := c = endMark || isBreak c

/-- Whether a line ends at a character, or a space stands there. -/
def isSpaceOrEnd (c : Char) : Bool := c = ' ' || isLineEnd c

/-- Whether a line ends at a character, or a space or a tab stands there. -/
def isGap (c : Char) : Bool := c = '\t' || isSpaceOrEnd c

/-- Whether a character may stand in the name of an anchor, a directive or a tag handle. -/
def isNameChar (c : Char) : Bool := c.isAlphanum || c = '-' || c = '_'

/-- Line ends as single line feeds: a carriage return counts as one, alone or before one. -/
def uniformLineEnds : List Char → List Char
  | [] => []
  | '\r' :: '\n' :: rest => '\n' :: uniformLineEnds rest
  | c :: rest => (if c = '\r' then '\n' else c) :: uniformLineEnds rest

/-! ## Cursors -/

namespace Cursor

/-- The start of a text. -/
def start (text : List Char) : Cursor := ⟨text, 0, 0, 0⟩

/-- The character so many places on. -/
def peekAt (c : Cursor) (n : Nat) : Char := c.rest.getD n endMark

/-- The character at the cursor. -/
def peek (c : Cursor) : Char := c.peekAt 0

/-- The next place. -/
def next (c : Cursor) : Cursor :=
  match c.rest with
  | [] => c
  | d :: rest =>
    if isBreak d then ⟨rest, c.index + 1, c.line + 1, 0⟩
    else if d = byteOrderMark then ⟨rest, c.index + 1, c.line, c.column⟩
    else ⟨rest, c.index + 1, c.line, c.column + 1⟩

/-- The place so many characters on. -/
def skip (c : Cursor) : Nat → Cursor
  | 0 => c
  | n + 1 => c.next.skip n

/-- The characters in front that are in a class, and the place behind them. -/
def takeWhile (c : Cursor) (p : Char → Bool) : List Char × Cursor :=
  let taken := c.rest.takeWhile p
  (taken, c.skip taken.length)

/-- The place behind the characters of a class. -/
def dropWhile (c : Cursor) (p : Char → Bool) : Cursor := (c.takeWhile p).2

/-- The place behind the spaces here. -/
def skipSpaces (c : Cursor) : Cursor := c.dropWhile (· == ' ')

/-- The end of the line. -/
def skipLine (c : Cursor) : Cursor := c.dropWhile (! isBreak ·)

/-- Takes a line break, if there is one: what it is read as, and the place behind it. -/
def takeBreak? (c : Cursor) : Option (Char × Cursor) :=
  match c.rest with
  | d :: _ =>
    if d = lineSeparator ∨ d = paragraphSeparator then some (d, c.next)
    else if isBreak d then some ('\n', c.next)
    else none
  | [] => none

/-- Whether three characters stand here with a gap behind them: the mark of a document's start
or end. -/
def atMark (c : Cursor) (mark : Char) : Bool :=
  c.peekAt 0 = mark && c.peekAt 1 = mark && c.peekAt 2 = mark && isGap (c.peekAt 3)

/-- Whether a document starts or ends here. -/
def atDocumentMark (c : Cursor) : Bool := c.atMark '-' || c.atMark '.'

/-- Skips spaces and a comment up to the end of the line, where nothing else may stand. -/
def endLine (c : Cursor) : Except Failure Cursor :=
  let c := c.skipSpaces
  let c := if c.peek = '#' then c.skipLine else c
  if isLineEnd c.peek then .ok ((c.takeBreak?.map (·.2)).getD c) else .error .malformed

end Cursor

end Sequencer.Yaml
