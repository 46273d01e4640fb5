import ResourceStubs.Decimal.Binary64
import ResourceStubs.Dict

/-! JSON values as a reader hands them on: objects keep the order of their members and repeated
keys. -/

namespace ResourceStubs

open Decimal

/-- A number: a natural number or a negative integer of one machine word, or a binary fraction with
its sign. -/
inductive Json.Number where
  | natural (n : Nat)
  | negative (n : Nat)
  | real (minus : Bool) (size : Binary64)
  deriving DecidableEq, Repr

/-- A JSON value. `unusable` stands for a well-formed value that may be skipped but not kept: a text
with half of a surrogate pair, a number out of range, or one nested too deep. -/
inductive Json where
  | null
  | bool (b : Bool)
  | number (n : Json.Number)
  | string (s : String)
  | array (items : List Json)
  | object (members : List (String × Json))
  | unusable
  deriving Inhabited

namespace Json

mutual

/-- No part of the value is unusable. -/
def usable : Json → Bool
  | .array items => allUsable items
  | .object members => membersUsable members
  | .unusable => false
  | _ => true

/-- All items are usable. -/
def allUsable : List Json → Bool
  | [] => true
  | item :: rest => usable item && allUsable rest

/-- All members are usable. -/
def membersUsable : List (String × Json) → Bool
  | [] => true
  | (_, value) :: rest => usable value && membersUsable rest

end

mutual

/-- The value with each key of an object once, in its first place and with its last value. -/
def settle : Json → Json
  | .array items => .array (settleAll items)
  | .object members => .object (settleMembers [] members)
  | value => value

/-- Each item settled. -/
def settleAll : List Json → List Json
  | [] => []
  | item :: rest => settle item :: settleAll rest

/-- The members settled, put into those before them. -/
def settleMembers (before : List (String × Json)) : List (String × Json) → List (String × Json)
  | [] => before
  | (key, value) :: rest => settleMembers (Dict.put key (settle value) before) rest

end

end Json

end ResourceStubs
