import WatchLink.Hex
import WatchLink.Text.Size

/-!
# What digits spell

Two digits spell an octet, the high half first, and either half may have either case. Reading finds
the octets that digits spell and refuses everything else, so texts that spell the same octets differ
in case at most: in small letters both are what is written for them.
-/

namespace WatchLink.Hex

/-- The digits in small letters, by their values. -/
def smallDigits : List Char :=
  ['0', '1', '2', '3', '4', '5', '6', '7', '8', '9', 'a', 'b', 'c', 'd', 'e', 'f']

/-- The digits in capital letters, by their values. -/
def capitalDigits : List Char :=
  ['0', '1', '2', '3', '4', '5', '6', '7', '8', '9', 'A', 'B', 'C', 'D', 'E', 'F']

/-- A character is the digit of a value, in either case. -/
def IsDigitOf (c : Char) (value : Nat) : Prop :=
  smallDigits[value]? = some c ∨ capitalDigits[value]? = some c

instance (c : Char) (value : Nat) : Decidable (IsDigitOf c value) :=
  inferInstanceAs (Decidable (_ ∨ _))

/-- Pairs of digits spell octets. -/
inductive Spells : List Char → Bytes → Prop
  | nil : Spells [] []
  | cons {high low : Char} {b : UInt8} {digits : List Char} {bytes : Bytes}
      (hhigh : IsDigitOf high (b.toNat / 16)) (hlow : IsDigitOf low (b.toNat % 16))
      (rest : Spells digits bytes) : Spells (high :: low :: digits) (b :: bytes)

/-! ## Digits -/

section

variable {c : Char} {v : Nat}

/-- What holds of both digits of every value holds of every digit. -/
theorem IsDigitOf.rec_on {P : Char → Nat → Prop} (h : IsDigitOf c v)
    (hall : ∀ v : Fin 16, P smallDigits[v] v ∧ P capitalDigits[v] v) : P c v := by
  rcases h with h | h <;> obtain ⟨hv, rfl⟩ := List.getElem?_eq_some_iff.1 h
  · exact (hall ⟨v, hv⟩).1
  · exact (hall ⟨v, hv⟩).2

theorem IsDigitOf.value_lt (h : IsDigitOf c v) : v < 16 :=
  h.rec_on (P := fun _ v => v < 16) fun v => ⟨v.isLt, v.isLt⟩

theorem IsDigitOf.value?_eq (h : IsDigitOf c v) : value? c = some v :=
  h.rec_on (P := fun c v => value? c = some v) (by decide)

/-- In small letters a digit is the one that is written. -/
theorem IsDigitOf.toLower_eq (h : IsDigitOf c v) : c.toLower = digit v :=
  h.rec_on (P := fun c v => c.toLower = digit v) (by decide)

theorem IsDigitOf.utf8Size_eq (h : IsDigitOf c v) : c.utf8Size = 1 :=
  h.rec_on (P := fun c _ => c.utf8Size = 1) (by decide)

theorem isDigitOf_digit (h : v < 16) : IsDigitOf (digit v) v := by
  have hall : ∀ v : Fin 16, IsDigitOf (digit v) v := by decide
  exact hall ⟨v, h⟩

/-- Only characters of the first ranges have a value. -/
theorem toNat_lt_of_value? (h : value? c = some v) : c.toNat < 128 := by
  have hle {high : Char} (h : c ≤ high) (hhigh : high.toNat < 128) : c.toNat < 128 :=
    Nat.lt_of_le_of_lt h hhigh
  rw [value?] at h
  split at h
  · rename_i hc
    exact hle hc.2 (by decide)
  · split at h
    · rename_i hc
      exact hle hc.2 (by decide)
    · split at h
      · rename_i hc
        exact hle hc.2 (by decide)
      · cases h

theorem value?_eq_some_iff (c : Char) (v : Nat) : value? c = some v ↔ IsDigitOf c v := by
  refine ⟨fun h => ?_, IsDigitOf.value?_eq⟩
  have hall : ∀ n < 128, ∀ v ∈ value? (Char.ofNat n), IsDigitOf (Char.ofNat n) v := by decide
  have hdigit := hall c.toNat (toNat_lt_of_value? h)
  rw [Char.ofNat_toNat] at hdigit
  exact hdigit v h

end

/-! ## Spelling -/

variable {digits : List Char} {bytes : Bytes}

/-- What is read is what the digits spell. -/
theorem decode?_eq_some_iff (digits : List Char) (bytes : Bytes) :
    decode? digits = some bytes ↔ Spells digits bytes := by
  constructor
  · intro h
    induction digits using decode?.induct generalizing bytes with
    | case1 =>
        cases h
        exact .nil
    | case2 => cases h
    | case3 high low rest ih =>
        simp only [decode?, Option.bind_eq_bind, Option.bind_eq_some_iff, Option.pure_def,
          Option.some.injEq] at h
        obtain ⟨h, hh, l, hl, bytes, hrest, rfl⟩ := h
        rw [value?_eq_some_iff] at hh hl
        have hhigh := hh.value_lt
        have hlow := hl.value_lt
        have hoctet : (UInt8.ofNat (16 * h + l)).toNat = 16 * h + l := by
          rw [UInt8.toNat_ofNat']
          omega
        refine .cons ?_ ?_ (ih _ hrest)
        · rwa [hoctet, Nat.mul_add_div (by decide), Nat.div_eq_of_lt hlow, Nat.add_zero]
        · rwa [hoctet, Nat.mul_add_mod, Nat.mod_eq_of_lt hlow]
  · intro h
    induction h with
    | nil => rfl
    | @cons _ _ b _ bytes hhigh hlow _ ih =>
        have hoctet : UInt8.ofNat (16 * (b.toNat / 16) + b.toNat % 16) = b := by
          rw [Nat.div_add_mod, UInt8.ofNat_toNat]
        rw [decode?, hhigh.value?_eq, hlow.value?_eq, ih]
        exact congrArg (fun octet => some (octet :: bytes)) hoctet

theorem Spells.unique {other : Bytes} (h : Spells digits bytes) (hother : Spells digits other) :
    bytes = other := by
  rw [← decode?_eq_some_iff] at h hother
  exact Option.some.inj (h.symm.trans hother)

theorem Spells.length_eq (h : Spells digits bytes) : digits.length = 2 * bytes.length := by
  induction h with
  | nil => rfl
  | cons _ _ _ ih =>
      rw [List.length_cons, List.length_cons, List.length_cons, ih]
      omega

/-- Every character is a digit. -/
theorem Spells.forall_isDigitOf (h : Spells digits bytes) : ∀ c ∈ digits, ∃ v, IsDigitOf c v := by
  induction h with
  | nil => exact List.forall_mem_nil _
  | cons hhigh hlow _ ih =>
      exact List.forall_mem_cons.2 ⟨⟨_, hhigh⟩, List.forall_mem_cons.2 ⟨⟨_, hlow⟩, ih⟩⟩

/-- Digits take one octet each. -/
theorem Spells.octetCount_eq (h : Spells digits bytes) :
    Text.octetCount digits = 2 * bytes.length := by
  rw [← h.length_eq]
  have hdigits := h.forall_isDigitOf
  clear h
  induction digits with
  | nil => rfl
  | cons c digits ih =>
      obtain ⟨⟨v, hc⟩, hrest⟩ := List.forall_mem_cons.1 hdigits
      rw [Text.octetCount, hc.utf8Size_eq, ih hrest, List.length_cons, Nat.add_comm]

/-- In small letters the digits are those that are written. -/
theorem Spells.map_toLower (h : Spells digits bytes) :
    digits.map Char.toLower = bytes.flatMap Hex.digits := by
  induction h with
  | nil => rfl
  | cons hhigh hlow _ ih =>
      rw [List.map_cons, List.map_cons, hhigh.toLower_eq, hlow.toLower_eq, ih, List.flatMap_cons]
      rfl

/-- What is written spells what it was written for. -/
theorem spells_flatMap_digits (bytes : Bytes) : Spells (bytes.flatMap Hex.digits) bytes := by
  induction bytes with
  | nil => exact .nil
  | cons b bytes ih =>
      have hb := b.toNat_lt
      exact .cons (isDigitOf_digit (by omega)) (isDigitOf_digit (by omega)) ih

/-- Texts spell the same just when they agree up to case. -/
theorem Spells.eq_iff {others : List Char} {other : Bytes} (h : Spells digits bytes)
    (hother : Spells others other) :
    bytes = other ↔ digits.map Char.toLower = others.map Char.toLower := by
  rw [h.map_toLower, hother.map_toLower]
  refine ⟨fun heq => heq ▸ rfl, fun heq => ?_⟩
  exact (spells_flatMap_digits bytes).unique (heq ▸ spells_flatMap_digits other)

end WatchLink.Hex
