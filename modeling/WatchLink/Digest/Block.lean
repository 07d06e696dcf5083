import WatchLink.Octets

/-!
# Padding to whole blocks

The two block digests of the library (`Md5`, `Sha256`) close a message in the same way: one
octet `80`, as many zeros as bring the length to eight octets before a multiple of 64, and the
message length in bits in those last eight octets. They differ in the order of the octets of a
word, so the order is a parameter here.
-/

namespace WatchLink.Digest

/-- Which end of a word is written first. -/
inductive Order where
  | lowFirst
  | highFirst
  deriving DecidableEq

def Order.octet (order : Order) (octets : Nat) (word i : Nat) : UInt8 :=
  let place := match order with
    | .lowFirst => i
    | .highFirst => octets - 1 - i
  UInt8.ofNat (word >>> (8 * place))

/-- The 32-bit word that four octets spell. -/
def Order.word32 (order : Order) (octets : Bytes) : UInt32 :=
  let value := fun (bytes : Bytes) => bytes.foldl (fun acc b => acc * 256 + b.toNat) 0
  UInt32.ofNat <| match order with
    | .lowFirst => value octets.reverse
    | .highFirst => value octets

/-- How many zeros stand between the closing octet and the length. -/
def zeroCount (length : Nat) : Nat := (119 - length % 64) % 64

def padded (order : Order) (message : Bytes) : Bytes :=
  message ++ 0x80 :: List.replicate (zeroCount message.length) 0 ++
    (List.range 8).map (order.octet 8 (8 * message.length))

/-- The blocks of the padded message, each as its sixteen words. -/
def blocks (order : Order) (message : Bytes) : List (Array UInt32) :=
  (pieces 64 (padded order message)).map fun block =>
    ((pieces 4 block).map order.word32).toArray

def rotateLeft (x : UInt32) (n : UInt32) : UInt32 := (x <<< n) ||| (x >>> (32 - n))

def rotateRight (x : UInt32) (n : UInt32) : UInt32 := (x >>> n) ||| (x <<< (32 - n))

def octetsOfWords (order : Order) (n : Nat) (words : Vector UInt32 n) : Octets (4 * n) :=
  Vector.ofFn fun i : Fin (4 * n) =>
    order.octet 4 (words.get ⟨i.val / 4, by omega⟩).toNat (i.val % 4)

end WatchLink.Digest
