import WatchLink.Hex
import WatchLink.Text.Extending
import WatchLink.Text.Unprintable

/-!
# Quoted text

A text between quotes, fit for one line of a report: the quote and the backslash are escaped, and so
is every character that would not show as itself.
-/

namespace WatchLink.Text

def letterEscapes : List (Char × Char) :=
  [('\x00', '0'), ('\t', 't'), ('\r', 'r'), ('\n', 'n'), ('"', '"'), ('\\', '\\')]

def codeEscape (c : Char) : List Char :=
  ['\\', 'u', '{'] ++ Nat.toDigits 16 c.toNat ++ ['}']

def shownChar (c : Char) : List Char :=
  match letterEscapes.lookup c with
  | some letter => ['\\', letter]
  | none => if extending.has c || unprintable.has c then codeEscape c else [c]

def quoted (text : String) : String :=
  String.ofList ('"' :: text.toList.flatMap shownChar ++ ['"'])

end WatchLink.Text
