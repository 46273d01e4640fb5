/-! Sets of characters given as runs of code points. -/

namespace ResourceStubs.Text

/-- A set of code points as a list of runs, both ends of each run included. -/
abbrev Spans := List (Nat × Nat)

/-- The character lies in one of the runs. -/
def Spans.covers (spans : Spans) (c : Char) : Bool :=
  spans.any fun span => span.1 ≤ c.toNat && c.toNat ≤ span.2

end ResourceStubs.Text
