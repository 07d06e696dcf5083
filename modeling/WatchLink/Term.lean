import WatchLink.Text.Quoted

/-!
# Terms

A value taken apart into named constructors, records and their fields, down to numbers and texts:
what is left of a value when its type is forgotten and its names are kept. A term is written in two
ways: `Term.render` is its text in reports, on one line and with the names of types, and
`Term.json` in `WatchLink.Json.Writer` is its JSON form.
-/

namespace WatchLink

/-- A value by the names of its parts. -/
inductive Term where
  | number (n : Int)
  | flag (flag : Bool)
  | text (text : String)
  /-- A value that may be missing. -/
  | option (value : Option Term)
  | list (items : List Term)
  | record (type : String) (fields : List (String × Term))
  | bare (name : String)
  | holding (name : String) (value : Term)
  | parts (name : String) (fields : List (String × Term))

namespace Term

/-- Named values between braces. -/
def braced (name : String) (fields : List String) : String :=
  name ++ " \x7b " ++ ", ".intercalate fields ++ " \x7d"

mutual

def render : Term → String
  | number n => toString n
  | flag true => "true"
  | flag false => "false"
  | text t => Text.quoted t
  | option none => "None"
  | option (some value) => "Some(" ++ render value ++ ")"
  | list items => "[" ++ ", ".intercalate (renderItems items) ++ "]"
  | record type fields => braced type (renderFields fields)
  | bare name => name
  | holding name value => name ++ "(" ++ render value ++ ")"
  | parts name fields => braced name (renderFields fields)

/-- The texts of items. -/
def renderItems : List Term → List String
  | [] => []
  | item :: items => render item :: renderItems items

def renderFields : List (String × Term) → List String
  | [] => []
  | (name, value) :: fields => (name ++ ": " ++ render value) :: renderFields fields

end

end Term

end WatchLink
