/-!
# The size of a text

How much room characters take in UTF-8. Where a size is checked before a text is read, it is
this one, so a text of wide characters is refused for its size even when it has few of them.
-/

namespace WatchLink.Text

/-- How many octets the characters take. -/
def octetCount : List Char → Nat
  | [] => 0
  | c :: cs => c.utf8Size + octetCount cs

end WatchLink.Text
