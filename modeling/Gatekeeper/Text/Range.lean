/-! Classes of characters as lists of code point ranges. -/
namespace Gatekeeper.Text

def inRanges (ranges : List (Nat × Nat)) (char : Char) : Bool :=
  ranges.any fun (low, high) => low ≤ char.toNat && char.toNat ≤ high

end Gatekeeper.Text
