import WatchLink.Json.Reader
import WatchLink.Octets
import WatchLink.Term

/-!
# Shapes

A shape gives a type its names: it says which term a value is and how the value is read from JSON,
in one place for both directions. A record is a list of fields, each with its key, the part it
stands for and how to replace that part; reading starts from any record of the type and replaces
its parts.

A record may also be given as the list of its parts. Keys that no field has are passed over, and a
key that comes twice is refused; so is one that does not come at all, unless its part may be
missing. An alternative without a value is given as its name, any alternative as a record with its
name as the only key.
-/

namespace WatchLink.Json

/-- The names of a type: the term of a value, and the value read from JSON. -/
structure Shape (α : Type) where
  term : α → Term
  read : Reader α

/-- A part of a record. -/
structure Field (ρ : Type) where
  key : String
  term : ρ → Term
  /-- The record with this part replaced. -/
  read : Reader (ρ → ρ)
  /-- Whether the key has to come. -/
  isNeeded : Bool := true

/-- An alternative of a choice. -/
structure Alternative (α : Type) where
  name : String
  term? : α → Option Term
  /-- The value given by the name alone. -/
  bare? : Option α
  /-- The value given behind the name. -/
  read : Reader α

namespace Field

/-- The part that `get` takes out and `set` replaces. -/
def of {ρ α : Type} (key : String) (shape : Shape α) (get : ρ → α) (set : ρ → α → ρ) :
    Field ρ where
  key := key
  term r := shape.term (get r)
  read := do
    let a ← shape.read
    return fun r => set r a

/-- The same part, of a record that has it missing from the start. -/
def optional {ρ : Type} (field : Field ρ) : Field ρ := { field with isNeeded := false }

end Field

namespace Reader

variable {α ρ : Type}

/-- Go on to the next item of a list, and whether there is one. -/
def nextItem (first : Bool) : Reader Bool := do
  let c ← ahead
  if c = ']' then return false
  else if first then return true
  else
    mark ','
    if (← ahead) = ']' then fail .malformed else return true

/-- Go on behind the opening quote of the next key of a record, and whether there is one. -/
def nextKey (first : Bool) : Reader Bool := do
  if (← ahead) = '}' then return false
  else
    if !first then mark ','
    mark '"'
    return true

/-- Items of one kind. -/
def list (item : Reader α) : Reader (List α) := do
  if (← ahead) = '[' then
    mark '['
    let items ← untilDone (fun (done : List α) => do
      if ← nextItem done.isEmpty then return .inl ((← item) :: done)
      else return .inr done.reverse) []
    mark ']'
    return items
  else refuse

/-- A value that may be missing. -/
def option (value : Reader α) : Reader (Option α) := do
  if (← ahead) = 'n' then
    null
    return none
  else some <$> value

/-- The parts of a record as a list, in the order of its fields. -/
def parts (first : Bool) (r : ρ) : List (Field ρ) → Reader ρ
  | [] => return r
  | field :: fields => do
    if ← nextItem first then
      let replace ← field.read
      parts false (replace r) fields
    else fail .mismatch

/-- The member of a record behind the opening quote of its key. The keys read so far come along. -/
def member (fields : List (Field ρ)) (seen : List String) (r : ρ) : Reader (List String × ρ) := do
  let key ← quoted
  match fields.find? (·.key = key) with
  | some field =>
    if key ∈ seen then fail .mismatch
    else
      mark ':'
      let replace ← field.read
      return (key :: seen, replace r)
  | none =>
    mark ':'
    skip
    return (seen, r)

/-- The members of a record, by their keys. -/
def members (fields : List (Field ρ)) (r : ρ) : Reader ρ :=
  untilDone (fun (first, seen, r) => do
    if ← nextKey first then
      let (seen, r) ← member fields seen r
      return .inl (false, seen, r)
    else if fields.all fun field => !field.isNeeded || field.key ∈ seen then return .inr r
    else fail .mismatch) (true, [], r)

def record (fields : List (Field ρ)) (r : ρ) : Reader ρ := do
  match ← ahead with
  | '[' =>
    mark '['
    let r ← parts true r fields
    mark ']'
    return r
  | '{' =>
    mark '{'
    let r ← members fields r
    mark '}'
    return r
  | _ => refuse

/-- The alternative of a name behind its opening quote. -/
def alternative (alternatives : List (Alternative α)) : Reader (Alternative α) := do
  let name ← quoted
  match alternatives.find? (·.name = name) with
  | some a => return a
  | none => fail .mismatch

/-- One of some alternatives. -/
def choice (alternatives : List (Alternative α)) : Reader α := do
  match ← ahead with
  | '"' =>
    mark '"'
    match (← alternative alternatives).bare? with
    | some a => return a
    | none => fail .mismatch
  | '{' =>
    mark '{'
    mark '"'
    let chosen ← alternative alternatives
    mark ':'
    let a ← chosen.read
    mark '}'
    return a
  | _ => fail .malformed

end Reader

namespace Shape

/-- The same names for another type. -/
def map {α β : Type} (shape : Shape α) (make : α → β) (back : β → α) : Shape β where
  term b := shape.term (back b)
  read := make <$> shape.read

def text : Shape String := ⟨.text, Reader.text⟩

/-- A truth value. -/
def flag : Shape Bool := ⟨.flag, Reader.flag⟩

def natural (limit : Nat) : Shape Nat := ⟨fun n => .number n, Reader.natural limit⟩

/-- A number of eight bits. -/
def octet : Shape UInt8 := (natural UInt8.size).map UInt8.ofNat UInt8.toNat

/-- A number of sixteen bits. -/
def word16 : Shape UInt16 := (natural UInt16.size).map UInt16.ofNat UInt16.toNat

/-- A number of thirty-two bits. -/
def word32 : Shape UInt32 := (natural UInt32.size).map UInt32.ofNat UInt32.toNat

/-- A number of eight bits with a sign. -/
def signed : Shape Int8 where
  term n := .number n.toInt
  read := do
    let n ← Reader.integer 128
    return Int8.ofInt n

/-- A value that may be missing. -/
def option {α : Type} (value : Shape α) : Shape (Option α) where
  term a := .option (a.map value.term)
  read := Reader.option value.read

/-- Items of one kind. -/
def list {α : Type} (item : Shape α) : Shape (List α) where
  term items := .list (items.map item.term)
  read := Reader.list item.read

/-- Exactly `n` octets, as a list of numbers. -/
def octets (n : Nat) : Shape (Octets n) where
  term v := (list octet).term v.toList
  read := do
    match Octets.ofList? n (← Reader.list octet.read) with
    | some v => return v
    | none => Reader.fail .mismatch

/-- A record of a named type with these fields. The record given is the one that reading starts
from. -/
def record {ρ : Type} (type : String) (start : ρ) (fields : List (Field ρ)) : Shape ρ where
  term r := .record type (fields.map fun field => (field.key, field.term r))
  read := Reader.record fields start

/-- One of some alternatives. A value is of the first one that has a term for it. -/
def choice {α : Type} (alternatives : List (Alternative α)) : Shape α where
  term a := (alternatives.findSome? fun alternative => alternative.term? a).getD (.bare "")
  read := Reader.choice alternatives

end Shape

namespace Alternative

def only {α : Type} [DecidableEq α] (name : String) (value : α) : Alternative α where
  name := name
  term? a := if a = value then some (.bare name) else none
  bare? := some value
  read := do
    Reader.null
    return value

/-- The alternative of the values that `make` builds and `view` takes apart again. -/
def holding {α β : Type} (name : String) (shape : Shape β) (make : β → α) (view : α → Option β) :
    Alternative α where
  name := name
  term? a := (view a).map fun b => .holding name (shape.term b)
  bare? := none
  read := make <$> shape.read

/-- The alternative of the values that `make` builds from named parts. -/
def parts {α ρ : Type} (name : String) (start : ρ) (fields : List (Field ρ)) (make : ρ → α)
    (view : α → Option ρ) : Alternative α where
  name := name
  term? a := (view a).map fun r => .parts name (fields.map fun field => (field.key, field.term r))
  bare? := none
  read := make <$> Reader.record fields start

end Alternative

end WatchLink.Json
