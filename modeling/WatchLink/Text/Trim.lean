import WatchLink.Text.Blank

/-!
# Trimming

White space at both ends of a text goes, white space inside stays.
-/

namespace WatchLink.Text

/-- The characters without white space at either end. -/
def trimmed (cs : List Char) : List Char :=
  ((cs.dropWhile blank.has).reverse.dropWhile blank.has).reverse

end WatchLink.Text
