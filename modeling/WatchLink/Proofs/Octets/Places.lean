import WatchLink.Octets

/-!
# Octets by their places

A reading that asks for octets by their places fails when one of them is not there: a single one is
`bytes[i]?`, and those from one place up to another are `slice?`. So a reading that fails on no
bytes asks for no octet that is not there.
-/

namespace WatchLink

namespace Octets

/-- What stands behind enough octets is not looked at. -/
theorem pad_append {n : Nat} {bytes : Bytes} (h : n ≤ bytes.length) (more : Bytes) :
    pad n (bytes ++ more) = pad n bytes := by
  have hlen : n - (bytes ++ more).length = n - bytes.length := by
    rw [List.length_append]
    omega
  simp only [pad, List.take_append_of_le_length h, hlen]

end Octets

namespace Bytes

/-- The octets from one place up to another, when all of them are there. -/
def slice? (bytes : Bytes) (first last : Nat) : Option Bytes :=
  if first ≤ last ∧ last ≤ bytes.length then some ((bytes.take last).drop first) else none

theorem slice?_of_le {bytes : Bytes} {first last : Nat} (hfirst : first ≤ last)
    (hlast : last ≤ bytes.length) :
    slice? bytes first last = some ((bytes.take last).drop first) := if_pos ⟨hfirst, hlast⟩

/-- The octets from some place on. -/
theorem slice?_length {bytes : Bytes} {first : Nat} (h : first ≤ bytes.length) :
    slice? bytes first bytes.length = some (bytes.drop first) := by
  rw [slice?_of_le h (Nat.le_refl _), List.take_length]

end Bytes

end WatchLink
