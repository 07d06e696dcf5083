import WatchLink.Octets

/-!
# Counter mode with an authenticator

Authenticated encryption over an arbitrary function on blocks, with a four-octet tag, a
twelve-octet nonce (which leaves three octets for the length) and no associated data. Both
directions use the block function forwards, so nothing here asks it to be invertible.

The key stream is one list, xored onto the text; that sealing and opening are inverse to each
other then needs only that the stream is as long as the text.
-/

namespace WatchLink.Cipher.Ccm

abbrev Block := Octets 16

/-- Three octets hold the length of the text, so texts are shorter than this. -/
def lengthLimit : Nat := 0x1000000

/-- Octets of the tag. -/
def tagSize : Nat := 4

/-- The block of a flag octet, the nonce and a number in three octets, high octet first. -/
def headBlock (flags : UInt8) (nonce : Octets 12) (value : Nat) : Block :=
  Octets.pad 16 <| flags :: nonce.toList ++
    [UInt8.ofNat (value / 0x10000), UInt8.ofNat (value / 0x100), UInt8.ofNat value]

section

variable (block : Block → Block)

/-- Block `i` of the key stream; block zero masks the tag. -/
def streamBlock (nonce : Octets 12) (i : Nat) : Block :=
  block (headBlock 0x02 nonce i)

/-- At least `length` octets of key stream, from block one on. -/
def keyStream (nonce : Octets 12) (length : Nat) : Bytes :=
  (List.range ((length + 15) / 16)).flatMap fun i => (streamBlock block nonce (i + 1)).toList

/-- The text xored with the key stream. -/
def transform (nonce : Octets 12) (text : Bytes) : Bytes :=
  List.zipWith (· ^^^ ·) text (keyStream block nonce text.length)

/-- The authenticator of a plain text: the text chained through the block function, after a
block that holds nonce and length. -/
def authenticator (nonce : Octets 12) (plain : Bytes) : Block :=
  (pieces 16 plain).foldl (fun acc piece => block (acc.xor (Octets.pad 16 piece)))
    (block (headBlock 0x0A nonce plain.length))

/-- The tag of a plain text, the masked authenticator cut to four octets. -/
def tag (nonce : Octets 12) (plain : Bytes) : Bytes :=
  ((authenticator block nonce plain).xor (streamBlock block nonce 0)).toList.take tagSize

/-- The sealed text: the encrypted plain text, then its tag. `none` when it is too long. -/
def seal? (nonce : Octets 12) (plain : Bytes) : Option Bytes :=
  if plain.length < lengthLimit then
    some (transform block nonce plain ++ tag block nonce plain)
  else none

/-- The plain text of a sealed one, when its tag is right. -/
def unseal? (nonce : Octets 12) (sealed : Bytes) : Option Bytes :=
  let size := sealed.length - tagSize
  let plain := transform block nonce (sealed.take size)
  if tagSize ≤ sealed.length ∧ size < lengthLimit ∧ sealed.drop size = tag block nonce plain then
    some plain
  else none

end

end WatchLink.Cipher.Ccm
