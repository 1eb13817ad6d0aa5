/-!
# Ranges of characters

Sets of characters, given by their ranges of code points.
-/
namespace CohortDesk.Text

/-- First and last code point of each range. -/
abbrev Ranges := List (Nat × Nat)

def Ranges.contains (ranges : Ranges) (c : Char) : Bool :=
  ranges.any fun (first, last) => first ≤ c.toNat && c.toNat ≤ last

end CohortDesk.Text
