import WatchLink.Text.Commas

/-!
# Preferences

What the host keeps for a device between connections: texts under keys. A flag is the text `true`
or `false`, a list is its names joined by commas. The device's own settings arrive as updates, each
a key with a `PreferenceValue`.
-/

namespace WatchLink

inductive PreferenceValue where
  | text (text : String)
  | flag (flag : Bool)
  | list (names : List String)
  /-- The preference goes. -/
  | unset
  deriving DecidableEq, Repr

/-- Texts under keys. -/
structure Preferences where
  /-- At most one entry per key. -/
  entries : List (String × String) := []
  deriving DecidableEq, Repr

namespace Preferences

def get? (p : Preferences) (key : String) : Option String := p.entries.lookup key

/-- Nothing under a key. -/
def remove (p : Preferences) (key : String) : Preferences :=
  ⟨p.entries.filter fun entry => entry.1 ≠ key⟩

/-- A text under a key, in place of what was there. -/
def set (p : Preferences) (key text : String) : Preferences :=
  ⟨(key, text) :: (p.remove key).entries⟩

def flagText (flag : Bool) : String := if flag then "true" else "false"

/-- The flag under a key, or the default when no flag is there. -/
def flag (p : Preferences) (key : String) (default : Bool) : Bool :=
  match p.get? key with
  | some "true" => true
  | some "false" => false
  | _ => default

/-- The names under a key. -/
def list (p : Preferences) (key : String) : List String :=
  match p.get? key with
  | some text => Text.names text
  | none => []

def put (p : Preferences) (key : String) : PreferenceValue → Preferences
  | .text text => p.set key text
  | .flag flag => p.set key (flagText flag)
  | .list names => p.set key (Text.joined names)
  | .unset => p.remove key

/-- Several updates, the later ones last. -/
def update (p : Preferences) (updates : List (String × PreferenceValue)) : Preferences :=
  updates.foldl (fun p (key, value) => p.put key value) p

end Preferences

end WatchLink
