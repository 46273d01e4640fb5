import ResourceStubs.Yaml.Scalar

/-! The tokens of a YAML text. Indentation is told by tokens of its own, and a key without a mark is
told by a token put before it once its colon is found. -/

namespace ResourceStubs.Yaml

/-- How a scalar is written. -/
inductive Style where
  | plain
  | quoted
  | literal
  | folded
  deriving DecidableEq, Repr

/-- A token. -/
inductive Token where
  | version (major minor : Nat)
  | tagHandle (handle stem : String)
  | documentStart
  | documentEnd
  | blockSequenceStart
  | blockMappingStart
  | blockEnd
  | flowSequenceStart
  | flowSequenceEnd
  | flowMappingStart
  | flowMappingEnd
  | blockEntry
  | flowEntry
  | key
  | value
  | alias (name : String)
  | anchor (name : String)
  | tag (handle rest : String)
  | scalar (text : String) (style : Style)
  deriving DecidableEq, Repr

/-- A place where a key without a mark may have begun: the number of tokens before it, and whether
it has to be a key because the block it stands in expects one. -/
structure PossibleKey where
  position : Nat
  required : Bool
  start : Cursor

/-- The longest key without a mark. -/
def maxKeyLength : Nat := 1024

/-- The tokens read so far, where the reading stands, and what may follow there. There is a possible
key, or none, for every open bracket and for the block around them, innermost first. -/
structure Lexer where
  cursor : Cursor
  tokens : Array Token
  flowLevel : Nat
  indent : Int
  indents : List Int
  keyAllowed : Bool
  keys : List (Option PossibleKey)

namespace Lexer

/-- Before a text. -/
def start (text : List Char) : Lexer := ⟨Cursor.start text, #[], 0, -1, [], true, [none]⟩

/-- Within brackets. -/
def inFlow (l : Lexer) : Bool := 0 < l.flowLevel

/-- The tokens with one more. -/
def emit (l : Lexer) (token : Token) : Lexer := { l with tokens := l.tokens.push token }

/-- The tokens with one more that is so many characters long. -/
def emitMark (l : Lexer) (token : Token) (length : Nat) : Lexer :=
  { l.emit token with cursor := l.cursor.advance length }

/-- Blocks indented further than a column are closed. -/
def closeBlocks (column indent : Int) : List Int → Array Token → Int × List Int × Array Token
  | outer :: indents, tokens =>
    if column < indent then closeBlocks column outer indents (tokens.push .blockEnd)
    else (indent, outer :: indents, tokens)
  | [], tokens => (indent, [], tokens)

/-- Outside brackets, blocks indented further than a column are closed. -/
def unroll (l : Lexer) (column : Int) : Lexer :=
  if l.inFlow then l
  else
    let (indent, indents, tokens) := closeBlocks column l.indent l.indents l.tokens
    { l with indent, indents, tokens }

/-- Outside brackets, a block starts at a column that is further than the current one. Its token is
put before the token of the given number. -/
def roll (l : Lexer) (column : Nat) (position : Nat) (token : Token) : Lexer :=
  if !l.inFlow && l.indent < column then
    { l with
      indent := column
      indents := l.indent :: l.indents
      tokens := (l.tokens.toList.take position ++ token :: l.tokens.toList.drop position).toArray }
  else l

/-- No key begins at the possible place any more, which fails where one has to. -/
def dropKey (l : Lexer) : Option Lexer :=
  match l.keys with
  | some key :: outer => if key.required then none else some { l with keys := none :: outer }
  | _ => some l

/-- A key may begin here, if one is allowed here. -/
def saveKey (l : Lexer) : Option Lexer :=
  if l.keyAllowed then do
    let l ← l.dropKey
    let key : PossibleKey :=
      ⟨l.tokens.size, !l.inFlow && l.indent == (l.cursor.column : Int), l.cursor⟩
    some { l with keys := some key :: l.keys.tail }
  else some l

/-- The possible key that the colon here belongs to: it is on the same line and not too long. -/
def keyHere (l : Lexer) : Option (Option PossibleKey) :=
  match l.keys with
  | some key :: _ =>
    if key.start.line < l.cursor.line ∨ key.start.index + maxKeyLength < l.cursor.index then
      if key.required then none else some none
    else some (some key)
  | _ => some none

/-- A marker of a document, which closes all blocks. -/
def documentMarker (l : Lexer) (token : Token) : Option Lexer := do
  let l ← (l.unroll (-1)).dropKey
  some ({ l with keyAllowed := false }.emitMark token 3)

/-- An opening bracket. -/
def openFlow (l : Lexer) (token : Token) : Option Lexer := do
  let l ← l.saveKey
  some ({ l with keys := none :: l.keys, flowLevel := l.flowLevel + 1, keyAllowed := true }.emitMark
    token 1)

/-- A closing bracket. -/
def closeFlow (l : Lexer) (token : Token) : Option Lexer := do
  let l ← l.dropKey
  let keys := if l.inFlow then l.keys.tail else l.keys
  some ({ l with keys, flowLevel := l.flowLevel - 1, keyAllowed := false }.emitMark token 1)

/-- A comma within brackets. -/
def flowEntry (l : Lexer) : Option Lexer := do
  let l ← l.dropKey
  some ({ l with keyAllowed := true }.emitMark .flowEntry 1)

/-- A block starts here, where a key is allowed; within brackets none does. -/
def rollHere (l : Lexer) (token : Token) : Option Lexer :=
  if l.inFlow then some l
  else if l.keyAllowed then some (l.roll l.cursor.column l.tokens.size token)
  else none

/-- The mark of an item of a block sequence. -/
def blockEntry (l : Lexer) : Option Lexer := do
  let l ← (← l.rollHere .blockSequenceStart).dropKey
  some ({ l with keyAllowed := true }.emitMark .blockEntry 1)

/-- The mark of a key. -/
def keyMark (l : Lexer) : Option Lexer := do
  let l ← (← l.rollHere .blockMappingStart).dropKey
  some ({ l with keyAllowed := !l.inFlow }.emitMark .key 1)

/-- The mark of a value. The key before it, if it has no mark, gets its token now. -/
def valueMark (l : Lexer) : Option Lexer := do
  match ← l.keyHere with
  | some key =>
    let tokens := l.tokens.toList.take key.position ++ .key :: l.tokens.toList.drop key.position
    let l := { l with tokens := tokens.toArray }.roll key.start.column key.position
      .blockMappingStart
    some ({ l with keys := none :: l.keys.tail, keyAllowed := false }.emitMark .value 1)
  | none =>
    let l ← l.rollHere .blockMappingStart
    some ({ l with keyAllowed := !l.inFlow }.emitMark .value 1)

/-- An anchor or an alias. -/
def name (l : Lexer) (token : String → Token) : Option Lexer := do
  let l ← l.saveKey
  let name := (l.cursor.rest.drop 1).takeWhile isNameChar
  let after := l.cursor.advance (name.length + 1)
  let ends := endsWord after.rest || after.peek?.any ("?:,]\x7d%@\x60".toList.contains ·)
  if name.isEmpty || !ends then none
  some { l.emit (token (String.ofList name)) with cursor := after, keyAllowed := false }

/-- A character of a tag, which may be a flow mark only between angle brackets. -/
def isTagChar (verbatim : Bool) (c : Char) : Bool :=
  isNameChar c || ";/?:@&=+$.%!~*'()".toList.contains c || (verbatim && ",[]".toList.contains c)

/-- The text of a tag with its escapes of two hexadecimal digits read. They name bytes of the
text. -/
def unescapeTag : List Char → Option (List UInt8)
  | '%' :: rest =>
    match rest with
    | a :: b :: after => do
      let byte := (← hexDigit? a) * 16 + (← hexDigit? b)
      some (byte.toUInt8 :: (← unescapeTag after))
    | _ => none
  | c :: rest => do some (c.toNat.toUInt8 :: (← unescapeTag rest))
  | [] => some []

/-- The text of a tag. -/
def tagText (cs : List Char) : Option String := do
  String.fromUTF8? ⟨(← unescapeTag cs).toArray⟩

/-- The handle of a tag at the start of a text: one mark, or a name between two. -/
def tagHandle (cs : List Char) : List Char :=
  let name := (cs.drop 1).takeWhile isNameChar
  if (cs.drop (name.length + 1)).head? = some '!' then '!' :: name ++ ['!'] else ['!']

/-- A tag: its handle, what follows that, and its length. -/
def tagParts (cs : List Char) : Option (String × String × Nat) :=
  match cs with
  | '!' :: '<' :: rest => do
    let uri := rest.takeWhile (isTagChar true)
    if uri.isEmpty || (rest.drop uri.length).head? ≠ some '>' then none
    some ("", ← tagText uri, uri.length + 3)
  | _ => do
    let handle := tagHandle cs
    let after := cs.drop handle.length
    let rest := after.takeWhile (isTagChar false)
    let length := handle.length + rest.length
    if handle.length = 1 then
      if rest.isEmpty then some ("", "!", length) else some ("!", ← tagText rest, length)
    else if rest.isEmpty then none
    else some (String.ofList handle, ← tagText rest, length)

/-- A tag. -/
def tag (l : Lexer) : Option Lexer := do
  let l ← l.saveKey
  let (handle, rest, length) ← tagParts l.cursor.rest
  let after := l.cursor.advance length
  if !endsWord after.rest && !(l.inFlow && after.peek? = some ',') then none
  some { l.emit (.tag handle rest) with cursor := after, keyAllowed := false }

/-- A number of a version. -/
def versionNumber (cs : List Char) : Option (Nat × List Char) :=
  let digits := cs.takeWhile Char.isDigit
  if digits.isEmpty || 9 < digits.length then none
  else some (digits.foldl (fun n d => n * 10 + (d.toNat - 48)) 0, cs.drop digits.length)

/-- The token of a directive whose name is given, and the text behind it. -/
def directiveToken (name : String) (cs : List Char) : Option (Token × List Char) :=
  match name with
  | "YAML" => do
    let (major, rest) ← versionNumber (cs.dropWhile isBlank)
    match rest with
    | '.' :: rest => do
      let (minor, rest) ← versionNumber rest
      some (.version major minor, rest)
    | _ => none
  | "TAG" => do
    let cs := cs.dropWhile isBlank
    let handle := tagHandle cs
    let after := cs.drop handle.length
    if cs.head? ≠ some '!' || !after.head?.any isBlank then none
    let stem := (after.dropWhile isBlank).takeWhile (isTagChar true)
    let rest := (after.dropWhile isBlank).drop stem.length
    if stem.isEmpty || !endsWord rest then none
    some (.tagHandle (String.ofList handle) (← tagText stem), rest)
  | _ => none

/-- A directive, which has its line for itself. -/
def directive (l : Lexer) : Option Lexer := do
  let l ← (l.unroll (-1)).dropKey
  let named := l.cursor.rest.drop 1
  let name := named.takeWhile isNameChar
  let after := named.drop name.length
  if !endsWord after then none
  let (token, rest) ← directiveToken (String.ofList name) after
  let c := (l.cursor.advance (l.cursor.rest.length - rest.length)).skipWhile isBlank
  let c := if c.peek? = some '#' then c.skipWhile (!isBreak ·) else c
  if !c.rest.isEmpty && !c.peek?.any isBreak then none
  some { l.emit token with cursor := c.readBreak.2, keyAllowed := false }

/-- A block scalar. -/
def blockScalar (l : Lexer) (style : Style) : Option Lexer := do
  let l ← l.dropKey
  let (text, cursor) ← block l.indent (style == .folded) l.cursor
  some { l.emit (.scalar (String.ofList text) style) with cursor, keyAllowed := true }

/-- A quoted scalar. -/
def quotedScalar (l : Lexer) (quote : Char) : Option Lexer := do
  let l ← l.saveKey
  let (text, cursor) ← quoted quote l.cursor
  some { l.emit (.scalar (String.ofList text) .quoted) with cursor, keyAllowed := false }

/-- A plain scalar. A key may follow on a new line. -/
def plainScalar (l : Lexer) : Option Lexer := do
  let l ← l.saveKey
  let (text, broken, cursor) ← plain l.inFlow (l.indent + 1) l.cursor
  some { l.emit (.scalar (String.ofList text) .plain) with cursor, keyAllowed := broken }

/-- A plain scalar may start with the character that `rest` follows. -/
def startsPlain (inFlow : Bool) (c : Char) (rest : List Char) : Bool :=
  (!isBlank c && !"-?:,[]\x7b\x7d#&*!|>'\"%@\x60".toList.contains c)
    || (c == '-' && !rest.head?.any isBlank)
    || (!inFlow && (c == '?' || c == ':') && !endsWord rest)

/-- One more token, at a place where one starts. -/
def nextToken (l : Lexer) (c : Char) (rest : List Char) : Option Lexer :=
  let marks := l.inFlow || endsWord rest
  if l.cursor.column = 0 ∧ c = '%' then l.directive
  else if l.cursor.atDocumentMarker then
    l.documentMarker (if c = '-' then .documentStart else .documentEnd)
  else if c = '[' then l.openFlow .flowSequenceStart
  else if c = '\x7b' then l.openFlow .flowMappingStart
  else if c = ']' then l.closeFlow .flowSequenceEnd
  else if c = '\x7d' then l.closeFlow .flowMappingEnd
  else if c = ',' then l.flowEntry
  else if c = '-' ∧ endsWord rest then l.blockEntry
  else if c = '?' ∧ marks then l.keyMark
  else if c = ':' ∧ marks then l.valueMark
  else if c = '*' then l.name .alias
  else if c = '&' then l.name .anchor
  else if c = '!' then l.tag
  else if c = '|' ∧ !l.inFlow then l.blockScalar .literal
  else if c = '>' ∧ !l.inFlow then l.blockScalar .folded
  else if c = '\'' ∨ c = '"' then l.quotedScalar c
  else if startsPlain l.inFlow c rest then l.plainScalar
  else none

/-- All tokens from here on. -/
def run : Nat → Lexer → Option (List Token)
  | 0, _ => none
  | fuel + 1, l =>
    let (cursor, keyAllowed) :=
      l.cursor.toToken l.inFlow (l.cursor.rest.length + 1) l.keyAllowed
    let l := { l with cursor, keyAllowed }.unroll cursor.column
    match cursor.rest with
    | [] => ((l.unroll (-1)).dropKey).map (·.tokens.toList)
    | c :: rest => (l.nextToken c rest).bind (run fuel)

end Lexer

/-- The tokens of a text. A byte order mark at its start is skipped. -/
def tokens? (text : List Char) : Option (List Token) :=
  let text := if text.head? = some '\ufeff' then text.drop 1 else text
  if text.all isAllowed then Lexer.run (text.length + 1) (Lexer.start text) else none

end ResourceStubs.Yaml
