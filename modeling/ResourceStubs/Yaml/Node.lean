import ResourceStubs.Decimal.Binary64
import ResourceStubs.Yaml.Token

/-! The node that a YAML document is, put together from its tokens. -/

namespace ResourceStubs.Yaml

/-- A node. `open` stands for an alias of a node that the alias itself is part of. -/
inductive Node where
  | scalar (text : String) (style : Style) (tag : Option String)
  | sequence (items : List Node)
  | mapping (pairs : List (Node × Node))
  | endless
  deriving Inhabited

namespace Node

/-- What stands where nothing is written. -/
def absent : Node := .scalar "" .plain none

/-- Nothing is written. -/
def isAbsent : Node → Bool
  | .scalar text .plain _ => text.isEmpty
  | _ => false

/-! ### Putting nodes together -/

/-- An anchor with its number and its node, once that is complete. -/
structure Anchor where
  name : String
  number : Nat
  node : Option Node

/-- The tokens left, the anchors so far, latest first, and the tag handles with what they stand
for. -/
structure Builder where
  tokens : List Token
  anchors : List Anchor
  handles : List (String × String)

/-- A step that may fail. -/
abbrev Build := StateT Builder Option

/-- Nothing fits here. -/
def fail {α : Type} : Build α := fun _ => none

/-- The next token. -/
def peek : Build (Option Token) := return (← get).tokens.head?

/-- The next token is taken. -/
def skip : Build Unit := modify fun b => { b with tokens := b.tokens.tail }

/-- The next token is taken if it is the given one. -/
def accept (token : Token) : Build Bool := do
  if (← peek) = some token then
    skip
    return true
  return false

/-- The next token must be the given one and is taken. -/
def expect (token : Token) : Build Unit := do
  if !(← accept token) then fail

/-- An anchor is set to a node that is not complete yet; the result is its number. -/
def openAnchor (name : String) : Build Nat := do
  let number := (← get).anchors.length
  modify fun b => { b with anchors := ⟨name, number, none⟩ :: b.anchors }
  return number

/-- The node of an anchor is complete. -/
def closeAnchor (number : Nat) (node : Node) : Build Unit :=
  modify fun b =>
    { b with anchors := b.anchors.map fun a => if a.number = number then { a with node } else a }

/-- The node that an alias stands for: that of the latest anchor of its name. -/
def ofAlias (name : String) : Build Node := do
  match (← get).anchors.find? (·.name == name) with
  | some anchor => return anchor.node.getD .endless
  | none => fail

/-- The tag that a handle and what follows it stand for. -/
def tagOf (handle rest : String) : Build String := do
  if handle.isEmpty then return rest
  match (← get).handles.lookup handle with
  | some stem => return stem ++ rest
  | none => fail

/-- The tag and the anchor before a node, in either order. -/
def properties : Build (Option String × Option Nat) := do
  match ← peek with
  | some (.anchor name) =>
    skip
    match ← peek with
    | some (.tag handle rest) =>
      skip
      let number ← openAnchor name
      return (some (← tagOf handle rest), some number)
    | _ => return (none, some (← openAnchor name))
  | some (.tag handle rest) =>
    skip
    match ← peek with
    | some (.anchor name) =>
      skip
      let number ← openAnchor name
      return (some (← tagOf handle rest), some number)
    | _ => return (some (← tagOf handle rest), none)
  | _ => return (none, none)

/-- The next token is one of those given, or there is none. -/
def isNext (tokens : List Token) : Build Bool := return (← peek).all tokens.contains

mutual

/-- A node. Block collections are read only outside brackets, and items without an indentation of
their own only as a key or a value. -/
def node : Nat → Bool → Bool → Build Node
  | 0, _, _ => fail
  | fuel + 1, inBlock, asMember => do
    match ← peek with
    | some (.alias name) =>
      skip
      ofAlias name
    | _ =>
      let (tag, number) ← properties
      let content ← content fuel inBlock asMember tag (tag.isSome || number.isSome)
      match number with
      | some number => closeAnchor number content
      | none => pure ()
      return content

/-- What stands behind the properties of a node; nothing may stand there if it has some. -/
def content : Nat → Bool → Bool → Option String → Bool → Build Node
  | 0, _, _, _, _ => fail
  | fuel + 1, inBlock, asMember, tag, mayBeAbsent => do
    match ← peek with
    | some .blockEntry =>
      if asMember then return .sequence (← entries fuel)
      else if mayBeAbsent then return .scalar "" .plain tag
      else fail
    | some (.scalar text style) =>
      skip
      return .scalar text style tag
    | some .flowSequenceStart =>
      skip
      return .sequence (← flowItems fuel true)
    | some .flowMappingStart =>
      skip
      return .mapping (← flowPairs fuel true)
    | some .blockSequenceStart =>
      if inBlock then
        skip
        let items ← entries fuel
        expect .blockEnd
        return .sequence items
      else if mayBeAbsent then return .scalar "" .plain tag
      else fail
    | some .blockMappingStart =>
      if inBlock then
        skip
        let pairs ← blockPairs fuel
        expect .blockEnd
        return .mapping pairs
      else if mayBeAbsent then return .scalar "" .plain tag
      else fail
    | _ => if mayBeAbsent then return .scalar "" .plain tag else fail

/-- The items of a block sequence. -/
def entries : Nat → Build (List Node)
  | 0 => fail
  | fuel + 1 => do
    if ← accept .blockEntry then
      let item ←
        if ← isNext [.blockEntry, .key, .value, .blockEnd] then pure absent
        else node fuel true false
      return item :: (← entries fuel)
    return []

/-- The pairs of a block mapping. -/
def blockPairs : Nat → Build (List (Node × Node))
  | 0 => fail
  | fuel + 1 => do
    if ← accept .key then
      let ends := [Token.key, .value, .blockEnd]
      let key ← if ← isNext ends then pure absent else node fuel true true
      let value ←
        if ← accept .value then
          if ← isNext ends then pure absent else node fuel true true
        else pure absent
      return (key, value) :: (← blockPairs fuel)
    return []

/-- The items of a flow sequence up to its closing bracket. A key makes an item a mapping of one
pair. -/
def flowItems : Nat → Bool → Build (List Node)
  | 0, _ => fail
  | fuel + 1, first => do
    if ← accept .flowSequenceEnd then return []
    if !first then expect .flowEntry
    if ← accept .flowSequenceEnd then return []
    let item ←
      if ← accept .key then
        let ends := [Token.flowEntry, .flowSequenceEnd]
        let key ← if ← isNext (.value :: ends) then pure absent else node fuel false false
        let value ←
          if ← accept .value then
            if ← isNext ends then pure absent else node fuel false false
          else pure absent
        pure (Node.mapping [(key, value)])
      else node fuel false false
    return item :: (← flowItems fuel false)

/-- The pairs of a flow mapping up to its closing bracket. -/
def flowPairs : Nat → Bool → Build (List (Node × Node))
  | 0, _ => fail
  | fuel + 1, first => do
    if ← accept .flowMappingEnd then return []
    if !first then expect .flowEntry
    if ← accept .flowMappingEnd then return []
    let ends := [Token.flowEntry, .flowMappingEnd]
    if ← accept .key then
      let key ← if ← isNext (.value :: ends) then pure absent else node fuel false false
      let value ←
        if ← accept .value then
          if ← isNext ends then pure absent else node fuel false false
        else pure absent
      return (key, value) :: (← flowPairs fuel false)
    let key ← node fuel false false
    return (key, absent) :: (← flowPairs fuel false)

end

/-! ### Documents -/

/-- What the handles stand for that need no directive. -/
def usualHandles : List (String × String) := [("!", "!"), ("!!", "tag:yaml.org,2002:")]

/-- The directives before a document: at most one version, that of the format, and at most one
meaning for each handle. -/
def directives : List Token → Bool → List (String × String) →
    Option (Bool × List (String × String) × List Token)
  | .version major minor :: rest, hasVersion, handles =>
    if hasVersion ∨ major ≠ 1 ∨ (minor ≠ 1 ∧ minor ≠ 2) then none else directives rest true handles
  | .tagHandle handle stem :: rest, hasVersion, handles =>
    if (handles.map Prod.fst).contains handle then none
    else directives rest hasVersion ((handle, stem) :: handles)
  | tokens, hasVersion, handles => some (hasVersion || !handles.isEmpty, handles, tokens)

/-- The node of the document that the tokens start with, and the tokens behind it. -/
def documentOf (explicit : Bool) (handles : List (String × String)) (tokens : List Token) :
    Option (Node × List Token) :=
  let isEmpty := explicit && match tokens with
    | [] | .documentStart :: _ | .documentEnd :: _ | .version _ _ :: _ | .tagHandle _ _ :: _ => true
    | _ => false
  if isEmpty then some (absent, tokens)
  else
    let builder : Builder := ⟨tokens, [], handles ++ usualHandles⟩
    (node (4 * tokens.length + 4) true false builder).map fun (node, after) => (node, after.tokens)

/-- The node of the only document among the tokens. Without a document nothing is written. -/
def ofTokens? (tokens : List Token) : Option Node := do
  let (declared, handles, tokens) ← directives tokens false []
  match tokens with
  | [] => if declared then none else some absent
  | token :: rest =>
    let explicit := token = .documentStart
    if declared && !explicit then none
    let (node, after) ← documentOf explicit handles (if explicit then rest else token :: rest)
    if after.all (· = .documentEnd) then some node else none

/-- The node of the only document in a text. -/
def read? (text : String) : Option Node := (tokens? text.toList).bind ofTokens?

/-! ### Reading records -/

/-- The text of a scalar, however it is written. -/
def text? : Node → Option String
  | .scalar text _ _ => some text
  | _ => none

/-- The items of a sequence; nothing written is no items. -/
def items? : Node → Option (List Node)
  | .sequence items => some items
  | node => if node.isAbsent then some [] else none

/-- The pairs of a mapping with their keys as texts; nothing written is no pairs. -/
def pairs? : Node → Option (List (String × Node))
  | .mapping pairs => pairs.mapM fun (key, value) => (text? key).map (·, value)
  | node => if node.isAbsent then some [] else none

/-- The known fields of a record, each once. Others are ignored. -/
def fields? (names : List String) (node : Node) : Option (List (String × Node)) := do
  let known := (← node.pairs?).filter fun pair => names.contains pair.1
  if (known.map Prod.fst).Nodup then some known else none

/-- The number that digits of a base stand for, if there is at least one and all are digits. -/
def ofDigits? (base : Nat) (digits : List Char) : Option Nat := do
  if digits.isEmpty then none
  digits.foldlM (fun n c => do
    let d ← hexDigit? c
    if d < base then some (n * base + d) else none) 0

/-- The digits behind the mark of a base. -/
def based? (mark : Char) (base : Nat) : List Char → Option Nat
  | '0' :: x :: digits => if x = mark then ofDigits? base digits else none
  | _ => none

/-- The natural number that a text is: hexadecimal, octal, binary, or decimal without leading zeros.
A plus may stand in front. -/
def natural? (text : List Char) : Option Nat :=
  let unsigned := if text.head? = some '+' then text.drop 1 else text
  let decimal :=
    if unsigned.head? = some '0' ∧ 1 < unsigned.length then none else ofDigits? 10 unsigned
  based? 'x' 16 unsigned <|> based? 'o' 8 unsigned <|> based? 'b' 2 unsigned <|> decimal

/-- The tag of whole numbers. -/
def intTag : String := "tag:yaml.org,2002:int"

/-- The natural number of one machine word that a plain scalar is, or a literal one with the tag of
whole numbers. -/
def word? : Node → Option Nat
  | .scalar text style tag =>
    if style = .plain ∨ (style = .literal ∧ tag = some intTag) then
      (natural? text.toList).filter (· < Decimal.twoPow 64)
    else none
  | _ => none

end Node

end ResourceStubs.Yaml
