/-!
# Lists in one text

A list of names is kept as one text with commas between them. Reading such a text drops empty
names, so a name must neither be empty nor hold a comma to come back; `withoutCommas` is what is
done to labels before they are written.
-/

namespace WatchLink.Text

def joined (names : List String) : String := ",".intercalate names

/-- The stretches between commas, one more than there are commas. -/
def stretches : List Char → List (List Char)
  | [] => [[]]
  | c :: cs =>
    if c = ',' then [] :: stretches cs
    else
      match stretches cs with
      | [] => [[c]]
      | first :: rest => (c :: first) :: rest

/-- The names of a text, empty ones dropped. -/
def names (text : String) : List String :=
  ((stretches text.toList).filter (· ≠ [])).map String.ofList

/-- A label fit to be listed. -/
def withoutCommas (label : String) : String :=
  String.ofList (label.toList.filter (· ≠ ','))

end WatchLink.Text
