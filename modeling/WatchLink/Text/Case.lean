import WatchLink.Text.CaseIgnorable
import WatchLink.Text.Cased
import WatchLink.Text.CaseRuns

/-!
# Upper and lower case

The full case mappings of Unicode that depend on no language. One of them depends on its context:
a capital sigma at the end of a word gets the final form.
-/

namespace WatchLink.Text

/-- The other case of a character, by its runs and expansions. -/
def mapped (runs : List CaseRun) (expansions : List (Nat × List Nat)) (c : Char) : List Char :=
  match expansions.lookup c.toNat with
  | some codes => codes.map Char.ofNat
  | none =>
    match runs.find? (·.has c.toNat) with
    | some run => [Char.ofNat (c.toNat + run.shift).toNat]
    | none => [c]

def upper (text : String) : String :=
  String.ofList (text.toList.flatMap (mapped upperRuns upperExpansions))

/-- Whether the first character that case does not look past is cased. -/
def startsCased (cs : List Char) : Bool :=
  match cs.dropWhile caseIgnorable.has with
  | c :: _ => cased.has c
  | [] => false

/-- The lower case of characters, after those of the first argument in reverse order. -/
def lowerFrom : List Char → List Char → List Char
  | _, [] => []
  | before, c :: rest =>
    let image :=
      if c = 'Σ' then [if startsCased before && !startsCased rest then 'ς' else 'σ']
      else mapped lowerRuns lowerExpansions c
    image ++ lowerFrom (c :: before) rest

def lower (text : String) : String := String.ofList (lowerFrom [] text.toList)

end WatchLink.Text
