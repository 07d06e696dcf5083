import WatchLink.Octets

/-!
# Hexadecimal text

Two digits to an octet, the high half first. Writing uses small letters, reading takes either case
and refuses everything that is not pairs of digits.
-/

namespace WatchLink.Hex

/-- The digit of a value below sixteen. -/
def digit (value : Nat) : Char :=
  if value < 10 then Char.ofNat (0x30 + value) else Char.ofNat (0x57 + value)

/-- The value of a digit. -/
def value? (c : Char) : Option Nat :=
  if '0' ≤ c ∧ c ≤ '9' then some (c.toNat - 0x30)
  else if 'a' ≤ c ∧ c ≤ 'f' then some (c.toNat - 0x57)
  else if 'A' ≤ c ∧ c ≤ 'F' then some (c.toNat - 0x37)
  else none

def isDigit (c : Char) : Bool := (value? c).isSome

/-- The two digits of an octet. -/
def digits (b : UInt8) : List Char := [digit (b.toNat / 16), digit (b.toNat % 16)]

def encode (bytes : Bytes) : String := String.ofList (bytes.flatMap digits)

/-- The octets that pairs of digits spell. -/
def decode? : List Char → Option Bytes
  | [] => some []
  | [_] => none
  | high :: low :: rest => do
    let h ← value? high
    let l ← value? low
    let bytes ← decode? rest
    return UInt8.ofNat (16 * h + l) :: bytes

end WatchLink.Hex
