import ResourceStubs.Json.Literal

/-! The tokens of a JSON text. -/

namespace ResourceStubs.Json

/-- A token. A string is none if it holds half of a surrogate pair, a number if it is out of
range. -/
inductive Token where
  | openArray
  | closeArray
  | openObject
  | closeObject
  | comma
  | colon
  | null
  | bool (b : Bool)
  | number (n : Option Number)
  | string (s : Option String)

/-- White space between tokens. -/
def isSpace (c : Char) : Bool := c == ' ' || c == '\n' || c == '\t' || c == '\r'

/-- The value of a hexadecimal digit. -/
def hexDigit? (c : Char) : Option Nat :=
  if '0' ≤ c ∧ c ≤ '9' then some (c.toNat - 48)
  else if 'a' ≤ c ∧ c ≤ 'f' then some (c.toNat - 87)
  else if 'A' ≤ c ∧ c ≤ 'F' then some (c.toNat - 55)
  else none

/-- A piece of a string: a character, or a 16-bit unit that an escape names. -/
inductive Piece where
  | char (c : Char)
  | unit (n : Nat)

/-- The character that a one-letter escape stands for. -/
def escaped? : Char → Option Char
  | '"' => some '"'
  | '\\' => some '\\'
  | '/' => some '/'
  | 'b' => some '\x08'
  | 'f' => some '\x0c'
  | 'n' => some '\n'
  | 'r' => some '\r'
  | 't' => some '\t'
  | _ => none

/-- The pieces of a string up to its closing quote, and the text behind that. `before` has the
pieces read so far, last first. -/
def stringPieces (before : List Piece) : List Char → Option (List Piece × List Char)
  | [] => none
  | '"' :: rest => some (before.reverse, rest)
  | '\\' :: 'u' :: a :: b :: c :: d :: rest =>
    match hexDigit? a, hexDigit? b, hexDigit? c, hexDigit? d with
    | some a, some b, some c, some d =>
      stringPieces (.unit (((a * 16 + b) * 16 + c) * 16 + d) :: before) rest
    | _, _, _, _ => none
  | '\\' :: e :: rest =>
    match escaped? e with
    | some c => stringPieces (.char c :: before) rest
    | none => none
  | c :: rest => if c = '\\' ∨ c.toNat < 32 then none else stringPieces (.char c :: before) rest

/-- The text of the pieces; two units that form a surrogate pair are one character, and a unit that
is half of a pair is none. `before` has the characters so far, last first. -/
def joinPieces (before : List Char) : List Piece → Option (List Char)
  | [] => some before.reverse
  | .char c :: rest => joinPieces (c :: before) rest
  | .unit high :: .unit low :: rest =>
    if 0xd800 ≤ high ∧ high < 0xdc00 then
      if 0xdc00 ≤ low ∧ low < 0xe000 then
        joinPieces (Char.ofNat (0x10000 + (high - 0xd800) * 0x400 + (low - 0xdc00)) :: before) rest
      else none
    else if 0xdc00 ≤ high ∧ high < 0xe000 then none
    else joinPieces (Char.ofNat high :: before) (.unit low :: rest)
  | .unit n :: rest =>
    if 0xd800 ≤ n ∧ n < 0xe000 then none else joinPieces (Char.ofNat n :: before) rest

/-- Digits at the start of a text, at least one. -/
def digits? (cs : List Char) : Option (List Char × List Char) :=
  match cs.takeWhile Char.isDigit with
  | [] => none
  | digits => some (digits, cs.dropWhile Char.isDigit)

/-- The fraction at the start of a text, if a point begins one. -/
def fraction? : List Char → Option (Option (List Char) × List Char)
  | '.' :: rest => (digits? rest).map fun (digits, after) => (some digits, after)
  | cs => some (none, cs)

/-- The exponent at the start of a text, if its letter begins one. -/
def exponent? : List Char → Option (Option (Bool × List Char) × List Char)
  | c :: rest =>
    if c = 'e' ∨ c = 'E' then
      match rest with
      | '-' :: unsigned =>
        (digits? unsigned).map fun (digits, after) => (some (true, digits), after)
      | '+' :: unsigned =>
        (digits? unsigned).map fun (digits, after) => (some (false, digits), after)
      | unsigned => (digits? unsigned).map fun (digits, after) => (some (false, digits), after)
    else some (none, c :: rest)
  | [] => some (none, [])

/-- The number literal at the start of a text; a whole part of several digits does not start with a
zero. -/
def literal? (cs : List Char) : Option (Literal × List Char) := do
  let (minus, unsigned) := match cs with
    | '-' :: rest => (true, rest)
    | rest => (false, rest)
  let (whole, cs) ← digits? unsigned
  if whole.head? = some '0' ∧ 1 < whole.length then none
  let (fraction, cs) ← fraction? cs
  let (exponent, cs) ← exponent? cs
  some (⟨minus, whole, fraction, exponent⟩, cs)

/-- The text behind a word that it starts with. -/
def afterWord? (word : String) (cs : List Char) : Option (List Char) :=
  if word.toList.isPrefixOf cs then some (cs.drop word.length) else none

/-- The first token of a text that does not start with white space, and the text behind it. -/
def token? : List Char → Option (Token × List Char)
  | [] => none
  | '[' :: rest => some (.openArray, rest)
  | ']' :: rest => some (.closeArray, rest)
  | '\x7b' :: rest => some (.openObject, rest)
  | '\x7d' :: rest => some (.closeObject, rest)
  | ',' :: rest => some (.comma, rest)
  | ':' :: rest => some (.colon, rest)
  | '"' :: rest => (stringPieces [] rest).map fun (pieces, after) =>
    (.string ((joinPieces [] pieces).map String.ofList), after)
  | 'n' :: rest => (afterWord? "ull" rest).map (.null, ·)
  | 't' :: rest => (afterWord? "rue" rest).map (.bool true, ·)
  | 'f' :: rest => (afterWord? "alse" rest).map (.bool false, ·)
  | cs => (literal? cs).map fun (literal, after) => (.number literal.number?, after)

/-- The tokens of a text, read with at most `fuel` steps, behind those before it, last first. -/
def tokensUpTo (before : List Token) : Nat → List Char → Option (List Token)
  | 0, cs => if (cs.dropWhile isSpace).isEmpty then some before.reverse else none
  | fuel + 1, cs =>
    match cs.dropWhile isSpace with
    | [] => some before.reverse
    | c :: rest =>
      match token? (c :: rest) with
      | some (token, after) => tokensUpTo (token :: before) fuel after
      | none => none

/-- The tokens of a text. Each takes at least one character. -/
def tokens? (cs : List Char) : Option (List Token) := tokensUpTo [] cs.length cs

end ResourceStubs.Json
