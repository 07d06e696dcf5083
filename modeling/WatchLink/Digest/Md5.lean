import WatchLink.Digest.Block

/-!
# MD5

The checksum a firmware image is announced under. Sixty-four operations in four rounds turn the
running state by one block; `operations` lists them in order, each with the message word it
reads, its rotation and its constant, so that a block is one fold over the list.
-/

namespace WatchLink.Digest.Md5

/-- The running state, four words. -/
structure State where
  a : UInt32
  b : UInt32
  c : UInt32
  d : UInt32
  deriving DecidableEq, Repr

/-- The state before the first block. -/
def State.start : State := ⟨0x67452301, 0xefcdab89, 0x98badcfe, 0x10325476⟩

/-- The constants, the first 32 bits of the fraction of the sine of 1, 2, … 64. -/
def constants : List UInt32 :=
  [
    0xd76aa478, 0xe8c7b756, 0x242070db, 0xc1bdceee, 0xf57c0faf, 0x4787c62a,
    0xa8304613, 0xfd469501, 0x698098d8, 0x8b44f7af, 0xffff5bb1, 0x895cd7be,
    0x6b901122, 0xfd987193, 0xa679438e, 0x49b40821, 0xf61e2562, 0xc040b340,
    0x265e5a51, 0xe9b6c7aa, 0xd62f105d, 0x02441453, 0xd8a1e681, 0xe7d3fbc8,
    0x21e1cde6, 0xc33707d6, 0xf4d50d87, 0x455a14ed, 0xa9e3e905, 0xfcefa3f8,
    0x676f02d9, 0x8d2a4c8a, 0xfffa3942, 0x8771f681, 0x6d9d6122, 0xfde5380c,
    0xa4beea44, 0x4bdecfa9, 0xf6bb4b60, 0xbebfbc70, 0x289b7ec6, 0xeaa127fa,
    0xd4ef3085, 0x04881d05, 0xd9d4d039, 0xe6db99e5, 0x1fa27cf8, 0xc4ac5665,
    0xf4292244, 0x432aff97, 0xab9423a7, 0xfc93a039, 0x655b59c3, 0x8f0ccc92,
    0xffeff47d, 0x85845dd1, 0x6fa87e4f, 0xfe2ce6e0, 0xa3014314, 0x4e0811a1,
    0xf7537e82, 0xbd3af235, 0x2ad7d2bb, 0xeb86d391
  ]

/-- The rotations of the four rounds, each repeated four times. -/
def rotations : List UInt32 :=
  [[7, 12, 17, 22], [5, 9, 14, 20], [4, 11, 16, 23], [6, 10, 15, 21]].flatMap fun row =>
    row ++ row ++ row ++ row

/-- One of the sixty-four operations. -/
structure Operation where
  round : Nat
  word : Nat
  rotation : UInt32
  constant : UInt32

/-- Which message word operation `i` reads. -/
def wordOf (i : Nat) : Nat :=
  match i / 16 with
  | 0 => i
  | 1 => (5 * i + 1) % 16
  | 2 => (3 * i + 5) % 16
  | _ => (7 * i) % 16

/-- All operations, in order. -/
def operations : List Operation :=
  (rotations.zip constants).zipIdx.map fun ((rotation, constant), i) =>
    ⟨i / 16, wordOf i, rotation, constant⟩

/-- The mixing function of a round. -/
def mix (round : Nat) (b c d : UInt32) : UInt32 :=
  match round with
  | 0 => (b &&& c) ||| (~~~b &&& d)
  | 1 => (d &&& b) ||| (~~~d &&& c)
  | 2 => b ^^^ c ^^^ d
  | _ => c ^^^ (b ||| ~~~d)

def Operation.run (op : Operation) (words : Array UInt32) (s : State) : State :=
  let sum := s.a + mix op.round s.b s.c s.d + op.constant + words.getD op.word 0
  ⟨s.d, s.b + rotateLeft sum op.rotation, s.b, s.c⟩

/-- One block. -/
def State.absorb (s : State) (words : Array UInt32) : State :=
  let t := operations.foldl (fun t op => op.run words t) s
  ⟨s.a + t.a, s.b + t.b, s.c + t.c, s.d + t.d⟩

def digest (message : Bytes) : Octets 16 :=
  let s := (blocks .lowFirst message).foldl State.absorb .start
  octetsOfWords .lowFirst 4 #v[s.a, s.b, s.c, s.d]

end WatchLink.Digest.Md5
