/-!
# Octets

Everything on the air is a list of octets, `Bytes`. Values of a fixed size (keys, nonces,
cipher blocks, digests) carry their size in the type, `Octets n`, so that taking one apart or
xoring two never needs a length argument. Words are laid out low octet first.
-/

namespace WatchLink

/-- A string of octets of any length. -/
abbrev Bytes := List UInt8

/-- Exactly `n` octets. -/
abbrev Octets (n : Nat) := Vector UInt8 n

namespace Octets

/-- The list as a fixed-size value, when it has that size. -/
def ofList? (n : Nat) (bytes : Bytes) : Option (Octets n) :=
  if h : bytes.length = n then some ⟨bytes.toArray, by simpa using h⟩ else none

theorem ofList?_toList {n : Nat} (v : Octets n) : ofList? n v.toList = some v := by
  obtain ⟨a, h⟩ := v
  simp [ofList?, Vector.toList, h]

theorem toList_of_ofList?_eq_some {n : Nat} {bytes : Bytes} {v : Octets n}
    (h : ofList? n bytes = some v) : v.toList = bytes := by
  unfold ofList? at h
  split at h
  · cases h
    simp [Vector.toList]
  · cases h

def zero (n : Nat) : Octets n := Vector.replicate n 0

def xor {n : Nat} (a b : Octets n) : Octets n := Vector.zipWith (· ^^^ ·) a b

/-- The first `n` octets of a list, with zeros after its end. -/
def pad (n : Nat) (bytes : Bytes) : Octets n :=
  ⟨(bytes.take n ++ List.replicate (n - bytes.length) 0).toArray, by simp; omega⟩

/-- The `n` octets of `v` from position `start` on, zeros past its end. -/
def window {m : Nat} (v : Octets m) (start n : Nat) : Octets n :=
  pad n (v.toList.drop start)

end Octets

namespace Bytes

/-- A 16-bit word, low octet first. -/
def le16 (w : UInt16) : Bytes := [UInt8.ofNat w.toNat, UInt8.ofNat (w.toNat / 256)]

/-- A 32-bit word, low octet first. -/
def le32 (w : UInt32) : Bytes :=
  [UInt8.ofNat w.toNat, UInt8.ofNat (w.toNat / 0x100), UInt8.ofNat (w.toNat / 0x10000),
    UInt8.ofNat (w.toNat / 0x1000000)]

def word16 (low high : UInt8) : UInt16 := UInt16.ofNat (low.toNat + 256 * high.toNat)

@[simp] theorem length_le16 (w : UInt16) : (le16 w).length = 2 := rfl

@[simp] theorem length_le32 (w : UInt32) : (le32 w).length = 4 := rfl

theorem toNat_word16 (low high : UInt8) :
    (word16 low high).toNat = low.toNat + 256 * high.toNat := by
  have := low.toNat_lt
  have := high.toNat_lt
  simp only [word16, UInt16.toNat_ofNat']
  omega

/-- A word is read back from its two octets. -/
theorem word16_le16 (w : UInt16) :
    word16 (UInt8.ofNat w.toNat) (UInt8.ofNat (w.toNat / 256)) = w := by
  have := w.toNat_lt
  apply UInt16.toNat_inj.mp
  simp only [toNat_word16, UInt8.toNat_ofNat']
  omega

/-- Two octets are laid out again as they were read. -/
theorem le16_word16 (low high : UInt8) : le16 (word16 low high) = [low, high] := by
  have := low.toNat_lt
  have := high.toNat_lt
  simp only [le16, List.cons.injEq, and_true]
  constructor <;> apply UInt8.toNat_inj.mp <;>
    simp only [toNat_word16, UInt8.toNat_ofNat'] <;> omega

end Bytes

/-- Consecutive pieces of `n` elements, the last one possibly shorter; no piece is empty. -/
def pieces {α : Type} (n : Nat) (xs : List α) : List (List α) :=
  go xs.length xs
where
  /-- The first argument bounds the number of pieces still to come. -/
  go : Nat → List α → List (List α)
    | 0, _ => []
    | _ + 1, [] => []
    | k + 1, x :: xs => (x :: xs).take n :: go k ((x :: xs).drop n)

@[simp] theorem pieces_nil {α : Type} (n : Nat) : pieces n ([] : List α) = [] := rfl

theorem pieces_go_flatten {α : Type} (n : Nat) (hn : 0 < n) :
    ∀ (k : Nat) (xs : List α), xs.length ≤ k → (pieces.go n k xs).flatten = xs
  | 0, xs, h => by simp_all [pieces.go]
  | _ + 1, [], _ => rfl
  | k + 1, x :: xs, h => by
      have hlen : ((x :: xs).drop n).length ≤ k := by
        simp only [List.length_drop, List.length_cons] at *
        omega
      simp [pieces.go, pieces_go_flatten n hn k _ hlen]

/-- Nothing is lost in cutting. -/
theorem pieces_flatten {α : Type} {n : Nat} (hn : 0 < n) (xs : List α) :
    (pieces n xs).flatten = xs :=
  pieces_go_flatten n hn _ xs (Nat.le_refl _)

end WatchLink
