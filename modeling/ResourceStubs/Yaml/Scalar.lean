import ResourceStubs.Yaml.Cursor

/-! Reading the scalars of a YAML text: plain, quoted, and block scalars. -/

namespace ResourceStubs.Yaml

/-! ### Gaps between words -/

/-- The white space between two words: the blanks before the first line break, what that break
stands for, and what the further breaks stand for. -/
structure Gap where
  broken : Bool
  blanks : List Char
  first : List Char
  later : List Char

namespace Gap

/-- No white space. -/
def empty : Gap := ⟨false, [], [], []⟩

/-- White space after a line break that stands for nothing. -/
def afterEscape : Gap := ⟨true, [], [], []⟩

/-- What the white space stands for: a single line break is a space, and of several the first is
dropped. -/
def text (gap : Gap) : List Char :=
  if gap.broken then
    if gap.first = ['\n'] then if gap.later.isEmpty then [' '] else gap.later
    else gap.first ++ gap.later
  else gap.blanks

/-- The white space from here on. On a new line no tab stands before the column `least`. -/
def read (least : Int) : Nat → Gap → Cursor → Option (Gap × Cursor)
  | 0, gap, c => some (gap, c)
  | fuel + 1, gap, c =>
    match c.peek? with
    | none => some (gap, c)
    | some x =>
      if isBlank x then
        if !gap.broken then read least fuel { gap with blanks := gap.blanks ++ [x] } (c.advance 1)
        else if x == '\t' && c.column < least then none
        else read least fuel gap (c.advance 1)
      else if isBreak x then
        let (stands, after) := c.readBreak
        if gap.broken then read least fuel { gap with later := gap.later ++ stands } after
        else read least fuel ⟨true, [], stands, []⟩ after
      else some (gap, c)

end Gap

/-! ### Plain scalars -/

/-- The word that a text starts with. It ends at white space and at a colon before white space, and
within brackets at a comma or bracket, before which no colon may stand. -/
def plainWord (inFlow : Bool) : List Char → Option (List Char)
  | [] => some []
  | x :: rest =>
    if isBlank x || isBreak x then some []
    else if inFlow && x == ':' && rest.head?.any (",?[]\x7b\x7d".toList.contains ·) then none
    else if x == ':' && endsWord rest then some []
    else if inFlow && ",[]\x7b\x7d".toList.contains x then some []
    else (plainWord inFlow rest).map (x :: ·)

/-- The plain scalar from here on, whose words before this place and the gap behind them are given.
Outside brackets its lines are indented to the column `least`. The result says whether a line break
follows. -/
def plainFrom (inFlow : Bool) (least : Int) :
    Nat → List Char → Gap → Cursor → Option (List Char × Bool × Cursor)
  | 0, text, gap, c => some (text, gap.broken, c)
  | fuel + 1, text, gap, c =>
    if c.atDocumentMarker || c.peek? = some '#' then some (text, gap.broken, c)
    else do
      let word ← plainWord inFlow c.rest
      let (text, gap) := if word.isEmpty then (text, gap) else (text ++ gap.text ++ word, Gap.empty)
      let c := c.advance word.length
      if c.peek?.any fun x => isBlank x || isBreak x then
        let (gap, c) ← gap.read least c.rest.length c
        if !inFlow && c.column < least then some (text, gap.broken, c)
        else plainFrom inFlow least fuel text gap c
      else some (text, gap.broken, c)

/-- The plain scalar from here on. -/
def plain (inFlow : Bool) (least : Int) (c : Cursor) : Option (List Char × Bool × Cursor) :=
  plainFrom inFlow least (c.rest.length + 1) [] Gap.empty c

/-! ### Quoted scalars -/

/-- The value of a hexadecimal digit. -/
def hexDigit? (c : Char) : Option Nat :=
  if '0' ≤ c ∧ c ≤ '9' then some (c.toNat - 48)
  else if 'a' ≤ c ∧ c ≤ 'f' then some (c.toNat - 87)
  else if 'A' ≤ c ∧ c ≤ 'F' then some (c.toNat - 55)
  else none

/-- The character whose code the digits are, if there are as many as wanted and it is a
character. -/
def hexChar? (count : Nat) (digits : List Char) : Option Char := do
  let values ← (digits.take count).mapM hexDigit?
  if values.length ≠ count then none
  let code := values.foldl (fun n d => n * 16 + d) 0
  if (0xd800 ≤ code ∧ code ≤ 0xdfff) ∨ 0x10ffff < code then none
  some (Char.ofNat code)

/-- The character that an escape stands for, and the length of what follows the backslash. -/
def escape? : List Char → Option (Char × Nat)
  | '0' :: _ => some ('\x00', 1)
  | 'a' :: _ => some ('\x07', 1)
  | 'b' :: _ => some ('\x08', 1)
  | 't' :: _ | '\t' :: _ => some ('\t', 1)
  | 'n' :: _ => some ('\n', 1)
  | 'v' :: _ => some ('\x0b', 1)
  | 'f' :: _ => some ('\x0c', 1)
  | 'r' :: _ => some ('\r', 1)
  | 'e' :: _ => some ('\x1b', 1)
  | ' ' :: _ => some (' ', 1)
  | '"' :: _ => some ('"', 1)
  | '/' :: _ => some ('/', 1)
  | '\\' :: _ => some ('\\', 1)
  | 'N' :: _ => some ('\x85', 1)
  | '_' :: _ => some ('\xa0', 1)
  | 'L' :: _ => some ('\u2028', 1)
  | 'P' :: _ => some ('\u2029', 1)
  | 'x' :: rest => (hexChar? 2 rest).map (·, 3)
  | 'u' :: rest => (hexChar? 4 rest).map (·, 5)
  | 'U' :: rest => (hexChar? 8 rest).map (·, 9)
  | _ => none

/-- The quoted scalar from here on to its closing quote, whose text so far is given, last character
first. A quote within single quotes is doubled; within double quotes a backslash escapes. No
document marker may stand inside. -/
def quotedFrom (quote : Char) : Nat → List Char → Cursor → Option (List Char × Cursor)
  | 0, _, _ => none
  | fuel + 1, text, c =>
    match c.rest with
    | [] => none
    | x :: rest =>
      if x == quote then
        if quote == '\'' && rest.head? = some quote then
          quotedFrom quote fuel (quote :: text) (c.advance 2)
        else some (text.reverse, c.advance 1)
      else if quote == '"' && x == '\\' then
        if rest.head?.any isBreak then
          spaced fuel text Gap.afterEscape (c.advance 1).readBreak.2
        else do
          let (char, length) ← escape? rest
          quotedFrom quote fuel (char :: text) (c.advance (length + 1))
      else if isBlank x || isBreak x then spaced fuel text Gap.empty c
      else quotedFrom quote fuel (x :: text) (c.advance 1)
where
  /-- The scalar from a gap on. -/
  spaced (fuel : Nat) (text : List Char) (gap : Gap) (c : Cursor) :
      Option (List Char × Cursor) := do
    let (gap, c) ← gap.read 0 c.rest.length c
    if c.atDocumentMarker then none
    quotedFrom quote fuel (gap.text.reverse ++ text) c

/-- The quoted scalar that starts here with its opening quote. -/
def quoted (quote : Char) (c : Cursor) : Option (List Char × Cursor) :=
  quotedFrom quote c.rest.length [] (c.advance 1)

/-! ### Block scalars -/

/-- What is kept of the line breaks at the end of a block scalar. -/
inductive Chomping where
  | strip
  | clip
  | keep

/-- How a block scalar starts: what is kept at its end, and how far it is indented if that is
said. -/
structure BlockHeader where
  chomping : Chomping
  indentation : Option Nat

/-- The chomping that a character asks for. -/
def chomping? : Char → Option Chomping
  | '+' => some .keep
  | '-' => some .strip
  | _ => none

/-- The indentation that a character asks for. -/
def indentation? (c : Char) : Option Nat := if c.isDigit then some (c.toNat - 48) else none

/-- The header behind the mark of a block scalar, and its length. Chomping and indentation stand in
either order, and the indentation is not zero. -/
def blockHeader (text : List Char) : Option (BlockHeader × Nat) := do
  let a := text[0]?
  let b := text[1]?
  let (header, length) : BlockHeader × Nat :=
    match a.bind chomping?, a.bind indentation? with
    | some chomping, _ =>
      match b.bind indentation? with
      | some n => (⟨chomping, some n⟩, 2)
      | none => (⟨chomping, none⟩, 1)
    | none, some n =>
      match b.bind chomping? with
      | some chomping => (⟨chomping, some n⟩, 2)
      | none => (⟨.clip, some n⟩, 1)
    | none, none => (⟨.clip, none⟩, 0)
  if header.indentation = some 0 then none
  some (header, length)

/-- Empty lines and the indentation of the line behind them: what the breaks stand for and the
greatest column met. An `indent` of zero is not known yet. No tab stands in the indentation. -/
def blockBreaks (indent : Nat) : Nat → Nat → List Char → Cursor → Option (List Char × Nat × Cursor)
  | 0, greatest, breaks, c => some (breaks, greatest, c)
  | fuel + 1, greatest, breaks, c =>
    let spaces := (c.rest.takeWhile (· == ' ')).length
    let c := c.advance (if indent = 0 then spaces else min spaces (indent - c.column))
    let greatest := max greatest c.column
    if (indent = 0 ∨ c.column < indent) ∧ c.peek? = some '\t' then none
    else if c.peek?.any isBreak then
      let (stands, after) := c.readBreak
      blockBreaks indent fuel greatest (breaks ++ stands) after
    else some (breaks, greatest, c)

/-- The text of a block scalar so far, with what its last line break stands for, what the empty
lines behind that stand for, and whether its last line began with a blank. -/
structure BlockText where
  text : List Char
  first : List Char
  later : List Char
  blank : Bool

/-- The lines of a block scalar. In a folded one a single break between lines that do not begin with
a blank is a space. -/
def blockLines (folded : Bool) (indent : Nat) :
    Nat → BlockText → Cursor → Option (BlockText × Cursor)
  | 0, block, c => some (block, c)
  | fuel + 1, block, c =>
    if c.column ≠ indent ∨ c.rest.isEmpty then some (block, c)
    else do
      let blank := c.peek?.any isBlank
      let between :=
        if folded && block.first == ['\n'] && !block.blank && !blank then
          if block.later.isEmpty then [' '] else block.later
        else block.first ++ block.later
      let line := c.rest.takeWhile (!isBreak ·)
      let (first, c) := (c.advance line.length).readBreak
      let (later, _, c) ← blockBreaks indent (c.rest.length + 1) 0 [] c
      blockLines folded indent fuel ⟨block.text ++ between ++ line, first, later, blank⟩ c

/-- The block scalar that starts here with its mark, in a block indented to `parent`. -/
def block (parent : Int) (folded : Bool) (c : Cursor) : Option (List Char × Cursor) := do
  let c := c.advance 1
  let (header, length) ← blockHeader c.rest
  let c := (c.advance length).skipWhile isBlank
  let c := if c.peek? = some '#' then c.skipWhile (!isBreak ·) else c
  if !c.rest.isEmpty && !c.peek?.any isBreak then none
  let c := c.readBreak.2
  let known := (header.indentation.map fun n => (max parent 0).toNat + n).getD 0
  let (later, greatest, c) ← blockBreaks known (c.rest.length + 1) 0 [] c
  let indent := if known = 0 then max (max greatest (parent + 1).toNat) 1 else known
  let (lines, c) ← blockLines folded indent (c.rest.length + 1) ⟨[], [], later, false⟩ c
  let ending := match header.chomping with
    | .strip => []
    | .clip => lines.first
    | .keep => lines.first ++ lines.later
  some (lines.text ++ ending, c)

end ResourceStubs.Yaml
