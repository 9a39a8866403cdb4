import Sequencer.Yaml.ScalarText

/-!
# The tokens of a YAML text

`tokens` cuts a text into tokens. Besides the marks that are written there are some that are
not: the indentation of lines opens and closes block collections, and a key that has no mark of
its own is known only when the colon behind it is reached, so that a mark for it is put in
afterwards. A key without a mark must lie on one line and within 1024 characters.
-/

namespace Sequencer.Yaml

/-- The name of a tag as it is written: a handle and a suffix, or the suffix alone. -/
structure TagName where
  handle : Option String
  suffix : String
  deriving DecidableEq, Repr

/-- A directive in front of a document. -/
inductive Directive
  /-- The version of the notation. -/
  | version (major : Nat)
  /-- What a tag handle stands for. -/
  | tagHandle (handle expansion : String)
  /-- Any other. -/
  | other
  deriving DecidableEq, Repr

/-- A token. -/
inductive Token
  | directive (d : Directive)
  | documentStart
  | documentEnd
  | blockSequenceStart
  | blockMappingStart
  | blockEnd
  | blockEntry
  | key
  | value
  | flowSequenceStart
  | flowSequenceEnd
  | flowMappingStart
  | flowMappingEnd
  | flowEntry
  | «alias» (name : String)
  | anchor (name : String)
  | tag (name : TagName)
  | scalar (plain : Bool) (text : String)
  deriving DecidableEq, Repr

/-! ## Tags, anchors and directives -/

/-- Whether a character may stand in the suffix of a tag. -/
def isTagChar (c : Char) : Bool :=
  c.isAlphanum || "-;/?:@&=+$,_.!~*'()[]%".toList.contains c

/-- The bytes of characters written as percent signs and two hexadecimal digits each. -/
def percentBytes (c : Cursor) : (fuel : Nat) → Except Failure (List UInt8 × Cursor)
  | 0 => .ok ([], c)
  | fuel + 1 =>
    if c.peek = '%' then
      match hexNumber? [c.peekAt 1, c.peekAt 2] with
      | some n => (percentBytes (c.skip 3) fuel).map fun (bytes, c) => (UInt8.ofNat n :: bytes, c)
      | none => .error .malformed
    else .ok ([], c)

/-- Reads characters of a tag's suffix. -/
def tagChars (c : Cursor) : (fuel : Nat) → Scanned
  | 0 => .ok ([], c)
  | fuel + 1 => do
    if c.peek = '%' then
      let (bytes, c) ← percentBytes c (c.rest.length + 1)
      match String.fromUTF8? (ByteArray.mk bytes.toArray) with
      | some text =>
        let (more, c) ← tagChars c fuel
        return (text.toList ++ more, c)
      | none => .error .malformed
    else if isTagChar c.peek then
      let (more, d) ← tagChars c.next fuel
      return (c.peek :: more, d)
    else return ([], c)

/-- Reads the suffix of a tag, which is not empty. -/
def takeTagSuffix (c : Cursor) : Except Failure (String × Cursor) := do
  if isTagChar c.peek then
    let (text, c) ← tagChars c (c.rest.length + 1)
    return (String.ofList text, c)
  else .error .malformed

/-- Reads a tag handle: an exclamation mark, or a name between two. -/
def takeTagHandle (c : Cursor) : Except Failure (String × Cursor) :=
  if c.peek ≠ '!' then .error .malformed
  else if c.peekAt 1 = ' ' then .ok ("!", c.next)
  else
    let (name, d) := c.next.takeWhile isNameChar
    if d.peek = '!' then .ok (String.ofList ('!' :: name ++ ['!']), d.next)
    else .error .malformed

/-- Whether a tag has a handle with a name: a second exclamation mark before the next gap. -/
def hasHandle (c : Cursor) : Bool :=
  (c.next.rest.takeWhile (! isSpaceOrEnd ·)).contains '!'

/-- Reads a tag. -/
def takeTag (c : Cursor) : Except Failure (TagName × Cursor) := do
  let (name, c) ←
    if c.peekAt 1 = '<' then do
      let (suffix, c) ← takeTagSuffix (c.skip 2)
      if c.peek = '>' then pure (⟨none, suffix⟩, c.next) else .error .malformed
    else if isGap (c.peekAt 1) then pure (⟨none, "!"⟩, c.next)
    else do
      let (handle, c) ← if hasHandle c then takeTagHandle c else pure ("!", c.next)
      let (suffix, c) ← takeTagSuffix c
      pure ((⟨some handle, suffix⟩ : TagName), c)
  if isSpaceOrEnd c.peek then return (name, c) else .error .malformed

/-- Reads the name of an anchor or an alias behind its indicator. -/
def takeAnchor (c : Cursor) : Except Failure (String × Cursor) :=
  let (name, c) := c.next.takeWhile isNameChar
  if name ≠ [] ∧ (isGap c.peek ∨ c.peek ∈ "?:,]\x7d%@".toList ∨ c.peek.toNat = 0x60) then
    .ok (String.ofList name, c)
  else .error .malformed

/-- Reads the number of a version. -/
def takeVersionNumber (c : Cursor) : Except Failure (Nat × Cursor) :=
  let (digits, c) := c.takeWhile Char.isDigit
  if digits = [] then .error .malformed else .ok (Text.naturalValue digits, c)

/-- Reads the version of the notation. -/
def takeVersion (c : Cursor) : Except Failure (Directive × Cursor) := do
  let (major, c) ← takeVersionNumber c.skipSpaces
  if c.peek ≠ '.' then .error .malformed
  let (_, c) ← takeVersionNumber c.next
  if isSpaceOrEnd c.peek then return (.version major, c) else .error .malformed

/-- Reads what a tag handle stands for. -/
def takeTagDirective (c : Cursor) : Except Failure (Directive × Cursor) := do
  let (handle, c) ← takeTagHandle c.skipSpaces
  if c.peek ≠ ' ' then .error .malformed
  let (expansion, c) ← takeTagSuffix c.skipSpaces
  if isSpaceOrEnd c.peek then return (.tagHandle handle expansion, c) else .error .malformed

/-- Reads a directive with the end of its line. -/
def takeDirective (c : Cursor) : Except Failure (Directive × Cursor) := do
  let (name, c) := c.next.takeWhile isNameChar
  if name = [] ∨ ! isSpaceOrEnd c.peek then .error .malformed
  let (directive, c) ←
    if name = "YAML".toList then takeVersion c
    else if name = "TAG".toList then takeTagDirective c
    else pure (.other, c.skipLine)
  return (directive, ← c.endLine)

/-! ## The state of reading -/

/-- A place where a key without a mark may have started. -/
structure PossibleKey where
  /-- The number of tokens before the key. -/
  position : Nat
  /-- Whether it must be a key, because nothing else can stand there. -/
  required : Bool
  index : Nat
  line : Nat
  column : Nat

/-- What is known while a text is cut into tokens. -/
structure Tokenizer where
  cursor : Cursor
  /-- The number of flow collections that are open. -/
  flowLevel : Nat
  /-- The column of the innermost block collection, -1 outside of all. -/
  indent : Int
  /-- The columns of the block collections around it. -/
  outerIndents : List Int
  /-- Whether a key without a mark may start here. -/
  keyAllowed : Bool
  /-- The keys that may have started, each with its flow level. -/
  possibleKeys : List (Nat × PossibleKey)
  tokens : Array Token

namespace Tokenizer

/-- The start of a text. -/
def start (text : List Char) : Tokenizer :=
  ⟨.start text, 0, -1, [], true, [], #[]⟩

/-- The state with a token at the end. -/
def emit (t : Tokenizer) (token : Token) : Tokenizer := { t with tokens := t.tokens.push token }

/-- Forgets a possible key; one that is required must not be forgotten. -/
def forgetKey (t : Tokenizer) : Except Failure Tokenizer :=
  match t.possibleKeys.lookup t.flowLevel with
  | none => .ok t
  | some key =>
    if key.required then .error .malformed
    else .ok { t with possibleKeys := t.possibleKeys.filter (·.1 ≠ t.flowLevel) }

/-- Forgets the possible keys that lie on an earlier line or too far back. -/
def forgetStaleKeys (t : Tokenizer) : Except Failure Tokenizer :=
  let isStale (key : PossibleKey) :=
    key.line ≠ t.cursor.line || t.cursor.index - key.index > 1024
  if t.possibleKeys.any fun (_, key) => isStale key && key.required then .error .malformed
  else .ok { t with possibleKeys := t.possibleKeys.filter fun (_, key) => ! isStale key }

/-- Remembers that a key may start here. -/
def rememberKey (t : Tokenizer) : Except Failure Tokenizer :=
  if t.keyAllowed then do
    let c := t.cursor
    let t ← t.forgetKey
    -- At the column of an open block mapping nothing but its next key can stand.
    let required := t.flowLevel = 0 && t.indent = c.column
    let key := ⟨t.tokens.size, required, c.index, c.line, c.column⟩
    return { t with possibleKeys := (t.flowLevel, key) :: t.possibleKeys }
  else .ok t

/-- Closes the block collections that are indented more than a column. -/
def closeBlocks (t : Tokenizer) (column : Int) : Tokenizer :=
  if t.flowLevel > 0 then t
  else close t.outerIndents t
where
  close : List Int → Tokenizer → Tokenizer
    | [], t => t
    | outer :: rest, t =>
      if t.indent > column then
        close rest { t.emit .blockEnd with indent := outer, outerIndents := rest }
      else t

/-- Opens a block collection at a column unless one is open there: whether it was opened. -/
def openBlock (t : Tokenizer) (column : Int) : Bool × Tokenizer :=
  if t.indent < column then
    (true, { t with indent := column, outerIndents := t.indent :: t.outerIndents })
  else (false, t)

/-- Opens a block collection here, with its token. -/
def openBlockHere (t : Tokenizer) (token : Token) : Tokenizer :=
  match t.openBlock t.cursor.column with
  | (true, t) => t.emit token
  | (false, t) => t

/-- Goes so many characters on. -/
def skip (t : Tokenizer) (n : Nat) : Tokenizer := { t with cursor := t.cursor.skip n }

/-- Skips spaces, comments and line breaks. After a line break, outside of flow collections, a
key may start. -/
def skipGaps (t : Tokenizer) : (fuel : Nat) → Tokenizer
  | 0 => t
  | fuel + 1 =>
    let c := t.cursor.skipSpaces
    let c := if c.peek = '#' then c.skipLine else c
    match c.takeBreak? with
    | some (_, c) =>
      skipGaps { t with cursor := c, keyAllowed := t.keyAllowed || t.flowLevel = 0 } fuel
    | none => { t with cursor := c }

/-! ## Marks -/

/-- A mark of a document's start or end. -/
def documentMark (t : Tokenizer) (token : Token) : Except Failure Tokenizer := do
  let t ← (t.closeBlocks (-1)).forgetKey
  return { (t.skip 3).emit token with keyAllowed := false }

/-- A directive. -/
def directive (t : Tokenizer) : Except Failure Tokenizer := do
  let t ← (t.closeBlocks (-1)).forgetKey
  let (directive, cursor) ← takeDirective t.cursor
  return { t.emit (.directive directive) with cursor, keyAllowed := false }

/-- The start of a flow collection. -/
def flowStart (t : Tokenizer) (token : Token) : Except Failure Tokenizer := do
  let t ← t.rememberKey
  return { (t.skip 1).emit token with flowLevel := t.flowLevel + 1, keyAllowed := true }

/-- The end of a flow collection. -/
def flowEnd (t : Tokenizer) (token : Token) : Except Failure Tokenizer := do
  let t ← t.forgetKey
  if t.flowLevel = 0 then .error .malformed
  return { (t.skip 1).emit token with flowLevel := t.flowLevel - 1, keyAllowed := false }

/-- A comma between the entries of a flow collection. -/
def flowEntry (t : Tokenizer) : Except Failure Tokenizer := do
  let t ← t.forgetKey
  return { (t.skip 1).emit .flowEntry with keyAllowed := true }

/-- A dash before an item. -/
def blockEntry (t : Tokenizer) : Except Failure Tokenizer := do
  if t.flowLevel = 0 ∧ ! t.keyAllowed then .error .malformed
  let t := if t.flowLevel = 0 then t.openBlockHere .blockSequenceStart else t
  let t ← t.forgetKey
  return { (t.skip 1).emit .blockEntry with keyAllowed := true }

/-- A question mark before a key. -/
def key (t : Tokenizer) : Except Failure Tokenizer := do
  if t.flowLevel = 0 ∧ ! t.keyAllowed then .error .malformed
  let t := if t.flowLevel = 0 then t.openBlockHere .blockMappingStart else t
  let t ← t.forgetKey
  return { (t.skip 1).emit .key with keyAllowed := t.flowLevel = 0 }

/-- Puts tokens in at a position. -/
def insertTokens (t : Tokenizer) (position : Nat) (tokens : List Token) : Tokenizer :=
  { t with
    tokens := t.tokens.extract 0 position ++ tokens.toArray ++
      t.tokens.extract position t.tokens.size }

/-- A colon before a value: the mark of its key is put in afterwards if the key has none. -/
def value (t : Tokenizer) : Except Failure Tokenizer := do
  match t.possibleKeys.lookup t.flowLevel with
  | some key =>
    let t := { t with possibleKeys := t.possibleKeys.filter (·.1 ≠ t.flowLevel) }
    -- The first key of a block mapping opens it, too.
    let (opened, t) := if t.flowLevel = 0 then t.openBlock key.column else (false, t)
    let marks := if opened then [Token.blockMappingStart, .key] else [.key]
    return { ((t.insertTokens key.position marks).skip 1).emit .value with keyAllowed := false }
  | none =>
    if t.flowLevel = 0 ∧ ! t.keyAllowed then .error .malformed
    let t := if t.flowLevel = 0 then t.openBlockHere .blockMappingStart else t
    let t ← { t with keyAllowed := t.flowLevel = 0 }.forgetKey
    return (t.skip 1).emit .value

/-! ## Nodes -/

/-- A token that may be a key, read from here on. -/
def keyLike (t : Tokenizer) (read : Cursor → Except Failure (Token × Cursor)) :
    Except Failure Tokenizer := do
  let t ← t.rememberKey
  let (token, cursor) ← read t.cursor
  return { t.emit token with cursor, keyAllowed := false }

/-- A quoted scalar. -/
def quotedScalar (t : Tokenizer) (double : Bool) : Except Failure Tokenizer :=
  t.keyLike fun c => do
    let (text, c) ← takeQuoted double c
    return (.scalar false (String.ofList text), c)

/-- A plain scalar. If a line ended after it, a key may start behind it. -/
def plainScalar (t : Tokenizer) : Except Failure Tokenizer := do
  let t ← t.rememberKey
  let (text, lineEnded, cursor) := takePlain (t.flowLevel > 0) (t.indent + 1) t.cursor
  return { t.emit (.scalar true (String.ofList text)) with cursor, keyAllowed := lineEnded }

/-- A block scalar. A key may start behind it. -/
def blockScalar (t : Tokenizer) (folded : Bool) : Except Failure Tokenizer := do
  let t ← t.forgetKey
  let (text, cursor) ← takeBlock folded t.indent t.cursor
  return { t.emit (.scalar false (String.ofList text)) with cursor, keyAllowed := true }

/-- Whether a plain scalar starts at a place. -/
def startsPlain (t : Tokenizer) : Bool :=
  let c := t.cursor.peek
  let indicators := "-?:,[]\x7b\x7d#&*!|>'%@".toList ++ ['"', Char.ofNat 0x60]
  ! (isGap c || indicators.contains c)
    || (! isGap (t.cursor.peekAt 1) && (c = '-' || (t.flowLevel = 0 && (c = '?' || c = ':'))))

/-- The next token, which starts here; no result at the end of the text. -/
def token? (t : Tokenizer) : Except Failure (Option Tokenizer) := do
  let c := t.cursor
  let inFlow := t.flowLevel > 0
  let gapNext := isGap (c.peekAt 1)
  if c.peek = endMark then return none
  else if c.peek = '%' ∧ c.column = 0 then return some (← t.directive)
  else if c.column = 0 ∧ c.atMark '-' then return some (← t.documentMark .documentStart)
  else if c.column = 0 ∧ c.atMark '.' then return some (← t.documentMark .documentEnd)
  else if c.peek = '[' then return some (← t.flowStart .flowSequenceStart)
  else if c.peek = '\x7b' then return some (← t.flowStart .flowMappingStart)
  else if c.peek = ']' then return some (← t.flowEnd .flowSequenceEnd)
  else if c.peek = '\x7d' then return some (← t.flowEnd .flowMappingEnd)
  else if c.peek = ',' then return some (← t.flowEntry)
  else if c.peek = '-' ∧ gapNext then return some (← t.blockEntry)
  else if c.peek = '?' ∧ (inFlow ∨ gapNext) then return some (← t.key)
  else if c.peek = ':' ∧ (inFlow ∨ gapNext) then return some (← t.value)
  else if c.peek = '*' then
    return some (← t.keyLike fun c => (takeAnchor c).map fun (name, c) => (.alias name, c))
  else if c.peek = '&' then
    return some (← t.keyLike fun c => (takeAnchor c).map fun (name, c) => (.anchor name, c))
  else if c.peek = '!' then
    return some (← t.keyLike fun c => (takeTag c).map fun (name, c) => (.tag name, c))
  else if c.peek = '|' ∧ ! inFlow then return some (← t.blockScalar false)
  else if c.peek = '>' ∧ ! inFlow then return some (← t.blockScalar true)
  else if c.peek = '\'' then return some (← t.quotedScalar false)
  else if c.peek = '"' then return some (← t.quotedScalar true)
  else if t.startsPlain then return some (← t.plainScalar)
  else .error .malformed

/-- Reads tokens up to the end of the text. -/
def run (t : Tokenizer) : (fuel : Nat) → Except Failure (List Token)
  | 0 => .error .malformed
  | fuel + 1 => do
    let t ← (t.skipGaps (t.cursor.rest.length + 1)).forgetStaleKeys
    let t := t.closeBlocks t.cursor.column
    match ← t.token? with
    | some t => run t fuel
    | none =>
      let t ← (t.closeBlocks (-1)).forgetKey
      return t.tokens.toList

end Tokenizer

/-- The tokens of a text. Every token takes at least one character. -/
def tokens (text : List Char) : Except Failure (List Token) :=
  if text.all isAllowed then
    let t := Tokenizer.start text
    let t := if t.cursor.peek = byteOrderMark then t.skip 1 else t
    t.run (text.length + 1)
  else .error .malformed

end Sequencer.Yaml
