import Mathlib.Algebra.Group.Nat.Defs
import WatchLink.Packing

/-!
# Packed values are read back

`p.ReadsBack` says that what `p` writes is read as the value that was written, whatever follows it,
and that what follows is left alone. The bound on the written octets is the one under which a
length fits its sixty-four bits; it passes from a whole to its parts, so no packing asks for more
than its parts do. `v.ReadsBack` is the same of one alternative of a choice.

A choice reads back when its alternatives do and every value belongs to one of them.
-/

namespace WatchLink

namespace Varint

theorem write_ne_nil (groups n : Nat) : write (groups + 1) n ≠ [] := by
  rw [write]
  split <;> simp

theorem read_write_of_lt (groups : Nat) {n : Nat} (rest : Bytes) (h : n < 128) :
    read (groups + 1) (write (groups + 1) n ++ rest) = some (n, rest) := by
  have hoctet : (UInt8.ofNat n).toNat = n := by
    rw [UInt8.toNat_ofNat']
    exact Nat.mod_eq_of_lt (Nat.lt_trans h (by decide))
  have hlt : UInt8.ofNat n < 128 := by
    rw [UInt8.lt_iff_toNat_lt, hoctet]
    exact h
  rw [write, if_pos h, List.singleton_append, read, if_pos hlt, hoctet]

theorem read_write (groups n : Nat) (rest : Bytes) (h : n < 128 ^ (groups + 1)) :
    read (groups + 1) (write (groups + 1) n ++ rest) = some (n, rest) := by
  induction groups generalizing n with
  | zero => exact read_write_of_lt 0 rest (by simpa using h)
  | succ groups ih =>
      by_cases hn : n < 128
      · exact read_write_of_lt (groups + 1) rest hn
      · have hoctet : (UInt8.ofNat (n % 128 + 128)).toNat = n % 128 + 128 := by
          rw [UInt8.toNat_ofNat']
          omega
        have hge : ¬ UInt8.ofNat (n % 128 + 128) < 128 := by
          rw [UInt8.lt_iff_toNat_lt, hoctet]
          exact Nat.not_lt.2 (Nat.le_add_left _ _)
        have hhigh : n / 128 < 128 ^ (groups + 1) := by
          rw [Nat.div_lt_iff_lt_mul (by decide)]
          rwa [Nat.pow_succ] at h
        rw [write, if_neg hn, List.cons_append, read, if_neg hge, ih _ hhigh]
        simp only [hoctet, Option.some.injEq, Prod.mk.injEq, and_true]
        omega

end Varint

namespace Packing

/-- What is written is read back, and what follows it is left alone. -/
def ReadsBack {α : Type} (p : Packing α) : Prop :=
  ∀ a rest, (p.write a).length < UInt64.size → p.read (p.write a ++ rest) = some (a, rest)

theorem ReadsBack.map {α β : Type} {p : Packing α} {make : α → β} {back : β → α}
    (hp : p.ReadsBack) (hmake : ∀ b, make (back b) = b) : (p.map make back).ReadsBack := by
  intro b rest hb
  change (p.read (p.write (back b) ++ rest)).map _ = _
  rw [hp (back b) rest hb, Option.map_some]
  exact congrArg (fun b => some (b, rest)) (hmake b)

theorem readsBack_nothing : nothing.ReadsBack := fun _ _ _ => rfl

theorem ReadsBack.pair {α β : Type} {p : Packing α} {q : Packing β} (hp : p.ReadsBack)
    (hq : q.ReadsBack) : (p.pair q).ReadsBack := by
  rintro ⟨a, b⟩ rest hab
  change (p.write a ++ q.write b).length < _ at hab
  rw [List.length_append] at hab
  have ha := hp a (q.write b ++ rest) (by omega)
  have hb := hq b rest (by omega)
  simp only [Packing.pair, List.append_assoc]
  rw [ha]
  simp only
  rw [hb, Option.map_some]

theorem readsBack_octet : octet.ReadsBack := fun _ _ _ => rfl

theorem readsBack_signed : signed.ReadsBack :=
  readsBack_octet.map fun b => b.toInt8_toUInt8

theorem readsBack_flag : flag.ReadsBack := by
  rintro (_ | _) rest _ <;> rfl

theorem read_number (groups limit : Nat) {n : Nat} (rest : Bytes)
    (hlimit : limit ≤ 128 ^ (groups + 1)) (hn : n < limit) :
    (number (groups + 1) limit).read ((number (groups + 1) limit).write n ++ rest) =
      some (n, rest) := by
  simp only [number]
  rw [Varint.read_write groups n rest (Nat.lt_of_lt_of_le hn hlimit)]
  simp only [hn, if_true]

/-- A type whose values are numbered below the limit reads back as those numbers do. -/
theorem readsBack_map_number {α : Type} (groups limit : Nat) {make : Nat → α} {back : α → Nat}
    (hlimit : limit ≤ 128 ^ (groups + 1)) (hback : ∀ a, back a < limit)
    (hmake : ∀ a, make (back a) = a) : ((number (groups + 1) limit).map make back).ReadsBack := by
  intro a rest _
  have h := read_number groups limit rest hlimit (hback a)
  change ((number (groups + 1) limit).read
    ((number (groups + 1) limit).write (back a) ++ rest)).map _ = _
  rw [h, Option.map_some]
  exact congrArg (fun a => some (a, rest)) (hmake a)

theorem readsBack_word16 : word16.ReadsBack :=
  readsBack_map_number 2 UInt16.size (by decide) UInt16.toNat_lt fun _ => UInt16.ofNat_toNat

theorem readsBack_word32 : word32.ReadsBack :=
  readsBack_map_number 4 UInt32.size (by decide) UInt32.toNat_lt fun _ => UInt32.ofNat_toNat

theorem read_length {n : Nat} (rest : Bytes) (hn : n < UInt64.size) :
    length.read (length.write n ++ rest) = some (n, rest) :=
  read_number 9 _ rest (by decide) hn

theorem readsBack_octets (n : Nat) : (octets n).ReadsBack := by
  intro v rest _
  have hlen : v.toList.length = n := v.length_toList
  simp only [octets]
  rw [List.take_left' hlen, List.drop_left' hlen, Octets.ofList?_toList, Option.map_some]

theorem readsBack_blob : blob.ReadsBack := by
  intro bytes rest h
  simp only [blob, List.length_append] at h
  have hlen : length.read (length.write bytes.length ++ (bytes ++ rest)) =
      some (bytes.length, bytes ++ rest) :=
    read_length _ (by omega)
  simp only [blob, List.append_assoc]
  rw [hlen]
  simp

/-- Octets read off a byte array are the array's own. -/
theorem toList_loop (b : ByteArray) (i : Nat) (r : Bytes) :
    ByteArray.toList.loop b i r = r.reverse ++ b.data.toList.drop i := by
  fun_induction ByteArray.toList.loop b i r with
  | case1 i r h ih =>
      have hi : i < b.data.toList.length := by simpa using h
      have hget : b.get! i = b.data.toList[i] := by
        rw [Array.getElem_toList]
        exact getElem!_pos b.data i (by simpa using h)
      rw [ih, List.reverse_cons, List.append_assoc, hget, List.drop_eq_getElem_cons hi]
      rfl
  | case2 i r h =>
      have hi : b.data.toList.length ≤ i := by simpa using h
      rw [List.drop_eq_nil_of_le hi, List.append_nil]

theorem toArray_toList (b : ByteArray) : (⟨b.toList.toArray⟩ : ByteArray) = b := by
  rw [ByteArray.toList, toList_loop b 0 []]
  rfl

theorem fromUTF8?_toUTF8 (s : String) : String.fromUTF8? s.toUTF8 = some s := by
  have h : s.toUTF8.IsValidUTF8 := s.isValidUTF8
  rw [String.fromUTF8?, dif_pos h]
  rfl

theorem readsBack_text : text.ReadsBack := by
  intro s rest h
  have hblob := readsBack_blob s.toUTF8.toList rest h
  simp only [text, hblob]
  rw [toArray_toList, fromUTF8?_toUTF8, Option.map_some]

theorem ReadsBack.option {α : Type} {p : Packing α} (hp : p.ReadsBack) :
    (Packing.option p).ReadsBack := by
  intro a rest h
  cases a with
  | none => rfl
  | some a =>
      simp only [Packing.option, List.length_cons] at h
      change (p.read (p.write a ++ rest)).map _ = _
      rw [hp a rest (by omega), Option.map_some]

theorem readMany_flatMap {α : Type} {p : Packing α} (hp : p.ReadsBack) (as : List α)
    (rest : Bytes) (h : (as.flatMap p.write).length < UInt64.size) :
    readMany p as.length (as.flatMap p.write ++ rest) = some (as, rest) := by
  induction as with
  | nil => rfl
  | cons a as ih =>
      simp only [List.flatMap_cons, List.length_append] at h
      rw [List.flatMap_cons, List.append_assoc, List.length_cons, readMany,
        hp a _ (by omega)]
      simp only
      rw [ih (by omega), Option.map_some]

/-- Values that take at least an octet each are no more than the octets they take. -/
theorem length_le_flatMap {α : Type} {p : Packing α} (hpos : ∀ a, p.write a ≠ [])
    (as : List α) : as.length ≤ (as.flatMap p.write).length := by
  induction as with
  | nil => exact Nat.zero_le _
  | cons a as ih =>
      have ha := List.length_pos_iff.2 (hpos a)
      rw [List.flatMap_cons, List.length_append, List.length_cons]
      omega

theorem ReadsBack.list {α : Type} {p : Packing α} (hp : p.ReadsBack)
    (hpos : ∀ a, p.write a ≠ []) : (Packing.list p).ReadsBack := by
  intro as rest h
  simp only [Packing.list, List.length_append] at h
  have hlen := length_le_flatMap hpos as
  simp only [Packing.list, List.append_assoc]
  rw [read_length _ (by omega)]
  exact readMany_flatMap hp as rest (by omega)

end Packing

namespace Variant

/-- What an alternative writes of a value of its own is read back. -/
def ReadsBack {α : Type} (v : Variant α) : Prop :=
  ∀ a bytes rest, v.write? a = some bytes → bytes.length < UInt64.size →
    v.read (bytes ++ rest) = some (a, rest)

theorem ReadsBack.of {α β : Type} {p : Packing β} {make : β → α} {view : α → Option β}
    (hp : p.ReadsBack) (hmake : ∀ a b, view a = some b → make b = a) :
    (Variant.of p make view).ReadsBack := by
  intro a bytes rest hwrite hlen
  obtain ⟨b, hb, rfl⟩ := Option.map_eq_some_iff.1 hwrite
  change (p.read (p.write b ++ rest)).map _ = _
  rw [hp b rest hlen, Option.map_some]
  exact congrArg (fun a => some (a, rest)) (hmake a b hb)

end Variant

namespace Packing

/-- The octets of a choice are the number of the first alternative that owns the value and what
that alternative writes. -/
theorem choice_go {α : Type} {a : α} (tag : Nat) {variants : List (Variant α)}
    (h : ∃ v ∈ variants, (v.write? a).isSome) :
    ∃ i v bytes, variants[i]? = some v ∧ v.write? a = some bytes ∧
      choice.go a tag variants = (number 5 UInt32.size).write (tag + i) ++ bytes := by
  induction variants generalizing tag with
  | nil => simp at h
  | cons v variants ih =>
      cases hv : v.write? a with
      | some bytes => exact ⟨0, v, bytes, rfl, hv, by rw [choice.go, hv]; rfl⟩
      | none =>
          have htail : ∃ v ∈ variants, (v.write? a).isSome := by simpa [hv] using h
          obtain ⟨i, w, bytes, hi, hw, hgo⟩ := ih (tag + 1) htail
          refine ⟨i + 1, w, bytes, hi, hw, ?_⟩
          rw [choice.go, hv]
          simp only
          rw [hgo, Nat.add_assoc, Nat.add_comm 1 i]

theorem readsBack_choice {α : Type} {variants : List (Variant α)}
    (hsize : variants.length ≤ UInt32.size) (hread : ∀ v ∈ variants, v.ReadsBack)
    (hown : ∀ a, ∃ v ∈ variants, (v.write? a).isSome) : (choice variants).ReadsBack := by
  intro a rest h
  obtain ⟨i, v, bytes, hi, hv, hgo⟩ := choice_go 0 (hown a)
  obtain ⟨hlt, hget⟩ := List.getElem?_eq_some_iff.1 hi
  have hwrite : (choice variants).write a = (number 5 UInt32.size).write i ++ bytes := by
    rw [Nat.zero_add] at hgo
    exact hgo
  rw [hwrite, List.length_append] at h
  have htag : (number 5 UInt32.size).read ((number 5 UInt32.size).write i ++ (bytes ++ rest)) =
      some (i, bytes ++ rest) := read_number 4 _ _ (by decide) (by omega)
  rw [hwrite, List.append_assoc]
  simp only [choice, htag, hi]
  exact hread v (hget ▸ List.getElem_mem hlt) a bytes rest hv (by omega)

end Packing

end WatchLink
