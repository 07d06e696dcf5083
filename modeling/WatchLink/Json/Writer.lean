import WatchLink.Hex
import WatchLink.Term

/-!
# Writing JSON text

A term is written over several lines, two blanks deeper inside each bracket. Records lose the name
of their type, a missing value is null, and an alternative that holds something is a record with its
name as the only key. What JSON does not let stand in a text is escaped, everything else stands for
itself.
-/

namespace WatchLink

namespace Json

def shortEscapes : List (Char × Char) :=
  [('"', '"'), ('\\', '\\'), ('\x08', 'b'), ('\x0c', 'f'), ('\n', 'n'), ('\r', 'r'), ('\t', 't')]

/-- A character inside a text. -/
def escaped (c : Char) : List Char :=
  match shortEscapes.lookup c with
  | some letter => ['\\', letter]
  | none => if c < ' ' then ['\\', 'u', '0', '0'] ++ Hex.digits (UInt8.ofNat c.toNat) else [c]

def quotedText (text : String) : String :=
  String.ofList ('"' :: text.toList.flatMap escaped ++ ['"'])

/-- The start of a line at a depth. -/
def margin (depth : Nat) : String := "\n" ++ String.ofList (List.replicate (2 * depth) ' ')

/-- Items between brackets, one a line; the brackets stand at a depth. -/
def bracketed (depth : Nat) (opening closing : String) (items : List String) : String :=
  if items = [] then opening ++ closing
  else
    opening ++ ",".intercalate (items.map (margin (depth + 1) ++ ·)) ++ margin depth ++ closing

def braced (depth : Nat) (fields : List String) : String := bracketed depth "\x7b" "\x7d" fields

/-- A field. -/
def keyed (key value : String) : String := quotedText key ++ ": " ++ value

end Json

namespace Term

open Json

mutual

/-- A term as JSON whose first line stands at a depth. -/
def jsonAt (depth : Nat) : Term → String
  | number n => toString n
  | flag true => "true"
  | flag false => "false"
  | text t => quotedText t
  | option none => "null"
  | option (some value) => jsonAt depth value
  | list items => bracketed depth "[" "]" (jsonItems (depth + 1) items)
  | record _ fields => Json.braced depth (jsonFields (depth + 1) fields)
  | bare name => quotedText name
  | holding name value => Json.braced depth [keyed name (jsonAt (depth + 1) value)]
  | parts name fields =>
    Json.braced depth [keyed name (Json.braced (depth + 1) (jsonFields (depth + 2) fields))]

def jsonItems (depth : Nat) : List Term → List String
  | [] => []
  | item :: items => jsonAt depth item :: jsonItems depth items

/-- The fields of a record. -/
def jsonFields (depth : Nat) : List (String × Term) → List String
  | [] => []
  | (key, value) :: fields => keyed key (jsonAt depth value) :: jsonFields depth fields

end

/-- A term as JSON. -/
def json (term : Term) : String := jsonAt 0 term

end Term

end WatchLink
