import WatchLink.Digest.Block

/-!
# SHA-256 and the keyed digest HMAC

The state is eight words, the schedule of a block grows from its sixteen words to sixty-four.
`hmac` is the usual nesting of two digests under a padded key; pairing keys are stretched and
both proofs of the handshake are made with it.
-/

namespace WatchLink.Digest.Sha256

/-- The round constants, from the cube roots of the first 64 primes. -/
def constants : List UInt32 :=
  [
    0x428a2f98, 0x71374491, 0xb5c0fbcf, 0xe9b5dba5, 0x3956c25b, 0x59f111f1,
    0x923f82a4, 0xab1c5ed5, 0xd807aa98, 0x12835b01, 0x243185be, 0x550c7dc3,
    0x72be5d74, 0x80deb1fe, 0x9bdc06a7, 0xc19bf174, 0xe49b69c1, 0xefbe4786,
    0x0fc19dc6, 0x240ca1cc, 0x2de92c6f, 0x4a7484aa, 0x5cb0a9dc, 0x76f988da,
    0x983e5152, 0xa831c66d, 0xb00327c8, 0xbf597fc7, 0xc6e00bf3, 0xd5a79147,
    0x06ca6351, 0x14292967, 0x27b70a85, 0x2e1b2138, 0x4d2c6dfc, 0x53380d13,
    0x650a7354, 0x766a0abb, 0x81c2c92e, 0x92722c85, 0xa2bfe8a1, 0xa81a664b,
    0xc24b8b70, 0xc76c51a3, 0xd192e819, 0xd6990624, 0xf40e3585, 0x106aa070,
    0x19a4c116, 0x1e376c08, 0x2748774c, 0x34b0bcb5, 0x391c0cb3, 0x4ed8aa4a,
    0x5b9cca4f, 0x682e6ff3, 0x748f82ee, 0x78a5636f, 0x84c87814, 0x8cc70208,
    0x90befffa, 0xa4506ceb, 0xbef9a3f7, 0xc67178f2
  ]

/-- The running state, eight words. -/
structure State where
  a : UInt32
  b : UInt32
  c : UInt32
  d : UInt32
  e : UInt32
  f : UInt32
  g : UInt32
  h : UInt32
  deriving DecidableEq, Repr

/-- The state before the first block, from the square roots of the first eight primes. -/
def State.start : State :=
  ⟨0x6a09e667, 0xbb67ae85, 0x3c6ef372, 0xa54ff53a,
   0x510e527f, 0x9b05688c, 0x1f83d9ab, 0x5be0cd19⟩

/-- The schedule word that follows the words so far. -/
def nextWord (words : Array UInt32) : UInt32 :=
  let w := fun back => words.getD (words.size - back) 0
  let s0 := rotateRight (w 15) 7 ^^^ rotateRight (w 15) 18 ^^^ (w 15 >>> 3)
  let s1 := rotateRight (w 2) 17 ^^^ rotateRight (w 2) 19 ^^^ (w 2 >>> 10)
  w 16 + s0 + w 7 + s1

/-- The sixty-four words of a block's schedule. -/
def schedule (words : Array UInt32) : Array UInt32 :=
  (List.range 48).foldl (fun ws _ => ws.push (nextWord ws)) words

def State.round (s : State) (word constant : UInt32) : State :=
  let s1 := rotateRight s.e 6 ^^^ rotateRight s.e 11 ^^^ rotateRight s.e 25
  let choice := (s.e &&& s.f) ^^^ (~~~s.e &&& s.g)
  let t1 := s.h + s1 + choice + constant + word
  let s0 := rotateRight s.a 2 ^^^ rotateRight s.a 13 ^^^ rotateRight s.a 22
  let majority := (s.a &&& s.b) ^^^ (s.a &&& s.c) ^^^ (s.b &&& s.c)
  ⟨t1 + s0 + majority, s.a, s.b, s.c, s.d + t1, s.e, s.f, s.g⟩

/-- One block. -/
def State.absorb (s : State) (words : Array UInt32) : State :=
  let t := ((schedule words).toList.zip constants).foldl (fun t (w, k) => t.round w k) s
  ⟨s.a + t.a, s.b + t.b, s.c + t.c, s.d + t.d, s.e + t.e, s.f + t.f, s.g + t.g, s.h + t.h⟩

def digest (message : Bytes) : Octets 32 :=
  let s := (blocks .highFirst message).foldl State.absorb .start
  octetsOfWords .highFirst 8 #v[s.a, s.b, s.c, s.d, s.e, s.f, s.g, s.h]

/-- The keyed digest: a key longer than a block is digested first. -/
def hmac (key message : Bytes) : Octets 32 :=
  let short := if key.length ≤ 64 then key else (digest key).toList
  let block := (Octets.pad 64 short).toList
  let inner := digest (block.map (· ^^^ 0x36) ++ message)
  digest (block.map (· ^^^ 0x5c) ++ inner.toList)

end WatchLink.Digest.Sha256
