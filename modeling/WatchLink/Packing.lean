import WatchLink.Octets

/-!
# Packed values

The compact binary form in which commands and settings travel. It carries no names and no types:
what is written is the fields in order, numbers wider than an octet in groups of seven bits, texts
and lists after their length, the alternatives of a choice after their number.

A `Packing` is a writer and a reader of one type, and every packing of the library is put together
from the few below. A reader takes a value off the front and returns the rest, so packings compose
and what follows a value is left alone.
-/

namespace WatchLink

namespace Varint

/-- A number in groups of seven bits, low groups first, the top bit of an octet set while more
follow; at most `groups` of them. -/
def write : (groups : Nat) → Nat → Bytes
  | 0, _ => []
  | groups + 1, n =>
    if n < 128 then [UInt8.ofNat n]
    else UInt8.ofNat (n % 128 + 128) :: write groups (n / 128)

/-- The number at the front of the bytes, in at most `groups` groups. Needless zero groups at the
high end are accepted. -/
def read : (groups : Nat) → Bytes → Option (Nat × Bytes)
  | 0, _ => none
  | _ + 1, [] => none
  | groups + 1, b :: rest =>
    if b < 128 then some (b.toNat, rest)
    else
      match read groups rest with
      | some (high, rest) => some (b.toNat - 128 + 128 * high, rest)
      | none => none

end Varint

/-- A writer and a reader of packed values of one type. -/
structure Packing (α : Type) where
  write : α → Bytes
  /-- The value at the front and what follows it. -/
  read : Bytes → Option (α × Bytes)

namespace Packing

/-- The value at the front of the bytes, whatever follows it. -/
def value? {α : Type} (p : Packing α) (bytes : Bytes) : Option α := (p.read bytes).map Prod.fst

/-- The same octets for another type. -/
def map {α β : Type} (p : Packing α) (make : α → β) (back : β → α) : Packing β where
  write b := p.write (back b)
  read bytes := (p.read bytes).map fun (a, rest) => (make a, rest)

def nothing : Packing Unit where
  write _ := []
  read bytes := some ((), bytes)

/-- One value, then another. -/
def pair {α β : Type} (p : Packing α) (q : Packing β) : Packing (α × β) where
  write v := p.write v.1 ++ q.write v.2
  read bytes :=
    match p.read bytes with
    | some (a, rest) => (q.read rest).map fun (b, rest) => ((a, b), rest)
    | none => none

def octet : Packing UInt8 where
  write b := [b]
  read
    | b :: rest => some (b, rest)
    | [] => none

def signed : Packing Int8 := octet.map UInt8.toInt8 Int8.toUInt8

/-- One octet, zero or one. -/
def flag : Packing Bool where
  write b := [if b then 1 else 0]
  read
    | 0 :: rest => some (false, rest)
    | 1 :: rest => some (true, rest)
    | _ => none

/-- A number below a limit, in at most `groups` groups of seven bits. -/
def number (groups limit : Nat) : Packing Nat where
  write n := Varint.write groups n
  read bytes :=
    match Varint.read groups bytes with
    | some (n, rest) => if n < limit then some (n, rest) else none
    | none => none

/-- A number of sixteen bits. -/
def word16 : Packing UInt16 := (number 3 UInt16.size).map UInt16.ofNat UInt16.toNat

/-- A number of thirty-two bits. -/
def word32 : Packing UInt32 := (number 5 UInt32.size).map UInt32.ofNat UInt32.toNat

/-- A length, of at most sixty-four bits. -/
def length : Packing Nat := number 10 UInt64.size

/-- Exactly `n` octets. -/
def octets (n : Nat) : Packing (Octets n) where
  write v := v.toList
  read bytes := (Octets.ofList? n (bytes.take n)).map fun v => (v, bytes.drop n)

/-- Octets after their number. -/
def blob : Packing Bytes where
  write bytes := length.write bytes.length ++ bytes
  read bytes :=
    match length.read bytes with
    | some (n, rest) =>
      let taken := rest.take n
      if taken.length = n then some (taken, rest.drop n) else none
    | none => none

/-- A text, as the octets of its UTF-8 form. -/
def text : Packing String where
  write s := blob.write s.toUTF8.toList
  read bytes :=
    match blob.read bytes with
    | some (octets, rest) =>
      (String.fromUTF8? ⟨octets.toArray⟩).map fun s => (s, rest)
    | none => none

/-- A value that may be missing, after an octet that says whether it is there. -/
def option {α : Type} (p : Packing α) : Packing (Option α) where
  write
    | none => [0]
    | some a => 1 :: p.write a
  read
    | 0 :: rest => some (none, rest)
    | 1 :: rest => (p.read rest).map fun (a, rest) => (some a, rest)
    | _ => none

/-- As many values as the first argument says. -/
def readMany {α : Type} (p : Packing α) : Nat → Bytes → Option (List α × Bytes)
  | 0, bytes => some ([], bytes)
  | n + 1, bytes =>
    match p.read bytes with
    | some (a, rest) => (readMany p n rest).map fun (as, rest) => (a :: as, rest)
    | none => none

/-- Values after their number. -/
def list {α : Type} (p : Packing α) : Packing (List α) where
  write as := length.write as.length ++ as.flatMap p.write
  read bytes :=
    match length.read bytes with
    | some (n, rest) => readMany p n rest
    | none => none

end Packing

/-- One alternative of a choice: it writes the values that are its own and reads only those. -/
structure Variant (α : Type) where
  write? : α → Option Bytes
  read : Bytes → Option (α × Bytes)

namespace Variant

/-- The alternative of the values that `make` builds and `view` takes apart again. -/
def of {α β : Type} (p : Packing β) (make : β → α) (view : α → Option β) : Variant α where
  write? a := (view a).map p.write
  read bytes := (p.read bytes).map fun (b, rest) => (make b, rest)

/-- The alternative of a single value. -/
def only {α : Type} [DecidableEq α] (value : α) : Variant α :=
  .of .nothing (fun _ => value) fun a => if a = value then some () else none

end Variant

namespace Packing

/-- A value after the number of its alternative. -/
def choice {α : Type} (variants : List (Variant α)) : Packing α where
  write a := go a 0 variants
  read bytes :=
    match (number 5 UInt32.size).read bytes with
    | some (tag, rest) =>
      match variants[tag]? with
      | some variant => variant.read rest
      | none => none
    | none => none
where
  /-- The first alternative that owns the value, counted from `tag` on. -/
  go (a : α) (tag : Nat) : List (Variant α) → Bytes
    | [] => []
    | variant :: variants =>
      match variant.write? a with
      | some bytes => (number 5 UInt32.size).write tag ++ bytes
      | none => go a (tag + 1) variants

end Packing

end WatchLink
