import WatchLink.Octets

/-!
# AES-128

The block cipher under the packets of an encrypted connection, in the forward direction only:
counter mode and the CBC authenticator both encrypt. A block is sixteen octets, column after
column, and a column is a word with its first row in the low octet. The substitution is computed
once from its definition, inversion in the field of 256 elements followed by an affine map.

A round is one sum: every octet, by its value alone, contributes a column to the result, turned by
the row that it comes from. What it contributes differs between the last round and those before it.
-/

namespace WatchLink.Cipher.Aes

/-- Multiplication by the field's generator `x`, modulo `x⁸ + x⁴ + x³ + x + 1`. -/
def double (a : UInt8) : UInt8 :=
  if a &&& 0x80 = 0 then a <<< 1 else (a <<< 1) ^^^ 0x1B

/-- Multiplication in the field. -/
def mul (a b : UInt8) : UInt8 :=
  ((List.range 8).foldl
    (fun (acc, power) i =>
      (if (b >>> UInt8.ofNat i) &&& 1 = 1 then acc ^^^ power else acc, double power))
    ((0 : UInt8), a)).1

/-- The inverse in the field, the 254th power; zero stays zero. -/
def inverse (a : UInt8) : UInt8 :=
  let a2 := mul a a
  let a4 := mul a2 a2
  let a8 := mul a4 a4
  let a16 := mul a8 a8
  let a32 := mul a16 a16
  let a64 := mul a32 a32
  let a128 := mul a64 a64
  mul a2 (mul a4 (mul a8 (mul a16 (mul a32 (mul a64 a128)))))

/-- The substitution of one octet: the inverse, turned into itself by an affine map. -/
def substitute (a : UInt8) : UInt8 :=
  let b := inverse a
  let turn := fun (n : UInt8) => (b <<< n) ||| (b >>> (8 - n))
  b ^^^ turn 1 ^^^ turn 2 ^^^ turn 3 ^^^ turn 4 ^^^ 0x63

/-- The substitution of every octet. -/
def table : Vector UInt8 256 := Vector.ofFn fun i => substitute (UInt8.ofNat i.val)

/-- The substitution, read from the table. -/
def sub (a : UInt8) : UInt8 := table.get ⟨a.toNat, a.toNat_lt⟩

/-- The size that blocks and keys have. -/
abbrev Block := Octets 16

/-- A block, or the key of one round, by its columns. -/
structure State where
  first : UInt32
  second : UInt32
  third : UInt32
  fourth : UInt32
  deriving DecidableEq, Repr

def cell (column row : UInt32) : UInt8 := (column >>> (8 * row)).toUInt8

/-- A column with every row moved on by so many rows. -/
def turned (column rows : UInt32) : UInt32 :=
  (column <<< (8 * rows)) ||| (column >>> (32 - 8 * rows))

namespace State

/-- The columns of a block. -/
def ofBlock (b : Block) : State where
  first := word 0
  second := word 4
  third := word 8
  fourth := word 12
where
  /-- The column whose first row is at a place of the block. -/
  word (place : Nat) : UInt32 :=
    let octet := fun (row : Nat) => (b.getD (place + row) 0).toUInt32
    octet 0 ||| (octet 1 <<< 8) ||| (octet 2 <<< 16) ||| (octet 3 <<< 24)

/-- The block that columns make up. -/
def toBlock (s : State) : Block :=
  #v[cell s.first 0, cell s.first 1, cell s.first 2, cell s.first 3,
    cell s.second 0, cell s.second 1, cell s.second 2, cell s.second 3,
    cell s.third 0, cell s.third 1, cell s.third 2, cell s.third 3,
    cell s.fourth 0, cell s.fourth 1, cell s.fourth 2, cell s.fourth 3]

/-- Column by column exclusive or. -/
def xor (a b : State) : State :=
  ⟨a.first ^^^ b.first, a.second ^^^ b.second, a.third ^^^ b.third, a.fourth ^^^ b.fourth⟩

end State

/-- The column that four octets contribute, one from each row of the columns given. -/
def gather (contribution : UInt8 → UInt32) (a b c d : UInt32) : UInt32 :=
  contribution (cell a 0) ^^^ turned (contribution (cell b 1)) 1 ^^^
    turned (contribution (cell c 2)) 2 ^^^ turned (contribution (cell d 3)) 3

/-- Every row moved to the left by its number, and what its octets contribute there. -/
def round (contribution : UInt8 → UInt32) (s : State) : State where
  first := gather contribution s.first s.second s.third s.fourth
  second := gather contribution s.second s.third s.fourth s.first
  third := gather contribution s.third s.fourth s.first s.second
  fourth := gather contribution s.fourth s.first s.second s.third

/-- In the last round an octet contributes its substitute. -/
def substituted (a : UInt8) : UInt32 := (sub a).toUInt32

/-- Before the last round the substitute is spread over the column by the fixed matrix. -/
def spread (a : UInt8) : UInt32 :=
  let s := sub a
  (double s).toUInt32 ||| (s.toUInt32 <<< 8) ||| (s.toUInt32 <<< 16) |||
    ((double s ^^^ s).toUInt32 <<< 24)

/-- The columns that the octets contribute before the last round. -/
def spreads : Vector UInt32 256 := Vector.ofFn fun i => spread (UInt8.ofNat i.val)

/-- The spread substitute, read from the table. -/
def mixed (a : UInt8) : UInt32 := spreads.get ⟨a.toNat, a.toNat_lt⟩

/-- The round key that follows one, with the constant of its round. -/
def nextKey (key : State) (constant : UInt32) : State :=
  let last := gather substituted key.fourth key.fourth key.fourth key.fourth
  let first := key.first ^^^ turned last 3 ^^^ constant
  let second := key.second ^^^ first
  let third := key.third ^^^ second
  ⟨first, second, third, key.fourth ^^^ third⟩

def roundConstants : List UInt32 := [0x01, 0x02, 0x04, 0x08, 0x10, 0x20, 0x40, 0x80, 0x1B, 0x36]

/-- The rounds with the constants that are left, under the keys that follow `key`. -/
def rounds (key : State) : List UInt32 → State → State
  | [], s => s
  | [constant], s => (round substituted s).xor (nextKey key constant)
  | constant :: constants, s =>
    let key := nextKey key constant
    rounds key constants ((round mixed s).xor key)

def encrypt (key block : Block) : Block :=
  let key := State.ofBlock key
  (rounds key roundConstants ((State.ofBlock block).xor key)).toBlock

end WatchLink.Cipher.Aes
