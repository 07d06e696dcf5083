/-!
# Classes of characters

A class of characters is a list of ranges of code points, both ends included and in rising order.
The classes themselves are data of the Unicode standard, one module each.
-/

namespace WatchLink.Text

/-- Ranges of code points. -/
abbrev Ranges := List (Nat × Nat)

namespace Ranges

def has (ranges : Ranges) (c : Char) : Bool :=
  ranges.any fun (first, last) => first ≤ c.toNat && c.toNat ≤ last

end Ranges

end WatchLink.Text
