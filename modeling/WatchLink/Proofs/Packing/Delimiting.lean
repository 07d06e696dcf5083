import WatchLink.Proofs.Packing.ReadBack

/-!
# Packed values end where they end

`p.Spells octets a` says that octets are read as a value whatever follows them, and that what
follows is left alone. A value has many spellings, because numbers may be written in more groups than they
need. `p.Delimits` says that reading finds nothing but spellings, and that what is written is the
shortest of them; so octets that stop short of the end of a spelling are read as nothing.

Like reading back, this passes from the parts of a packing to the whole. A choice needs that each
value belongs to one alternative only: the alternative that is read must be the one that is written.
-/

namespace WatchLink

namespace Varint

theorem exists_of_read (groups : Nat) {bytes rest : Bytes} {n : Nat}
    (h : read groups bytes = some (n, rest)) :
    ∃ taken, bytes = taken ++ rest ∧ (∀ more, read groups (taken ++ more) = some (n, more)) ∧
      (write groups n).length ≤ taken.length := by
  induction groups generalizing bytes n with
  | zero => cases h
  | succ groups ih =>
      cases bytes with
      | nil => cases h
      | cons b bytes =>
          rw [read] at h
          split at h
          · rename_i hlast
            cases h
            have hsmall : b.toNat < 128 := UInt8.lt_iff_toNat_lt.1 hlast
            refine ⟨[b], rfl, fun more => ?_, ?_⟩
            · rw [List.singleton_append, read, if_pos hlast]
            · rw [write, if_pos hsmall]
              exact Nat.le_refl _
          · rename_i hmore
            split at h
            · rename_i high last hread
              cases h
              obtain ⟨taken, rfl, hspells, hlength⟩ := ih hread
              refine ⟨b :: taken, rfl, fun more => ?_, ?_⟩
              · rw [List.cons_append, read, if_neg hmore, hspells]
              · -- Either the higher groups were needless, or they are written as they were read.
                rw [write]
                split
                · exact Nat.succ_le_succ (Nat.zero_le _)
                · have hlow := b.toNat_lt
                  have hhigh : (b.toNat - 128 + 128 * high) / 128 = high := by omega
                  rw [hhigh]
                  exact Nat.succ_le_succ hlength
            · cases h

end Varint

namespace Packing

/-- The octets are read as the value, whatever follows them. -/
def Spells {α : Type} (p : Packing α) (octets : Bytes) (a : α) : Prop :=
  ∀ rest, p.read (octets ++ rest) = some (a, rest)

/-- What is read is a spelling of the value, and none is shorter than the one that is written. -/
def Delimits {α : Type} (p : Packing α) : Prop :=
  ∀ bytes a rest, p.read bytes = some (a, rest) →
    ∃ taken, bytes = taken ++ rest ∧ p.Spells taken a ∧ (p.write a).length ≤ taken.length

/-- What is written of a value spells it, as long as lengths fit. -/
theorem ReadsBack.spells {α : Type} {p : Packing α} (hp : p.ReadsBack) {a : α}
    (h : (p.write a).length < UInt64.size) : p.Spells (p.write a) a := fun rest => hp a rest h

/-- Of octets that stop short of the end of a spelling nothing is read. -/
theorem Delimits.read_eq_none {α : Type} {p : Packing α} (hp : p.Delimits) {octets bytes : Bytes}
    {a : α} (hspells : p.Spells octets a) (hshort : bytes <+: octets) (hne : bytes ≠ octets) :
    p.read bytes = none := by
  obtain ⟨missing, rfl⟩ := hshort
  cases hread : p.read bytes with
  | none => rfl
  | some result =>
      obtain ⟨b, rest⟩ := result
      obtain ⟨taken, rfl, htaken, -⟩ := hp bytes b rest hread
      -- The spelling that was found is read in the whole octets too, and leaves the rest of them.
      have hwhole := hspells []
      rw [List.append_nil, List.append_assoc, htaken, Option.some.injEq, Prod.mk.injEq,
        List.append_eq_nil_iff] at hwhole
      obtain ⟨-, -, rfl⟩ := hwhole
      exact absurd (List.append_nil _).symm hne

theorem Delimits.map {α β : Type} {p : Packing α} {make : α → β} {back : β → α}
    (hp : p.Delimits) (hback : ∀ a, back (make a) = a) : (p.map make back).Delimits := by
  intro bytes b rest h
  obtain ⟨⟨a, rest⟩, hread, heq⟩ := Option.map_eq_some_iff.1 h
  cases heq
  obtain ⟨taken, rfl, hspells, hlength⟩ := hp bytes a rest hread
  refine ⟨taken, rfl, fun more => ?_, ?_⟩
  · change (p.read (taken ++ more)).map _ = _
    rw [hspells more, Option.map_some]
  · change (p.write (back (make a))).length ≤ _
    rwa [hback]

theorem delimits_nothing : nothing.Delimits := by
  intro bytes a rest h
  cases h
  exact ⟨[], rfl, fun _ => rfl, Nat.le_refl _⟩

theorem Delimits.pair {α β : Type} {p : Packing α} {q : Packing β} (hp : p.Delimits)
    (hq : q.Delimits) : (p.pair q).Delimits := by
  intro bytes ab rest h
  simp only [Packing.pair] at h
  split at h
  · rename_i a between hfirst
    obtain ⟨⟨b, rest⟩, hsecond, heq⟩ := Option.map_eq_some_iff.1 h
    cases heq
    obtain ⟨first, rfl, hspells, hlength⟩ := hp bytes a between hfirst
    obtain ⟨second, rfl, hspells', hlength'⟩ := hq between b rest hsecond
    refine ⟨first ++ second, (List.append_assoc ..).symm, fun more => ?_, ?_⟩
    · simp only [Packing.pair, List.append_assoc]
      rw [hspells]
      simp only
      rw [hspells', Option.map_some]
    · change (p.write a ++ q.write b).length ≤ _
      rw [List.length_append, List.length_append]
      exact Nat.add_le_add hlength hlength'
  · cases h

theorem delimits_octet : octet.Delimits := by
  intro bytes b rest h
  cases bytes with
  | nil => cases h
  | cons first bytes =>
      cases h
      exact ⟨[b], rfl, fun _ => rfl, Nat.le_refl _⟩

theorem delimits_signed : signed.Delimits := delimits_octet.map fun b => b.toUInt8_toInt8

theorem delimits_flag : flag.Delimits := by
  intro bytes b rest h
  simp only [flag] at h
  split at h
  · cases h
    exact ⟨[0], rfl, fun _ => rfl, Nat.le_refl _⟩
  · cases h
    exact ⟨[1], rfl, fun _ => rfl, Nat.le_refl _⟩
  · cases h

theorem delimits_number (groups limit : Nat) : (number groups limit).Delimits := by
  intro bytes n rest h
  simp only [number] at h
  split at h
  · rename_i n' last hread
    split at h
    · rename_i hlimit
      cases h
      obtain ⟨taken, rfl, hspells, hlength⟩ := Varint.exists_of_read groups hread
      refine ⟨taken, rfl, fun more => ?_, hlength⟩
      simp only [number]
      rw [hspells]
      simp only [hlimit, if_true]
    · cases h
  · cases h

theorem read_number_lt {groups limit n : Nat} {bytes rest : Bytes}
    (h : (number groups limit).read bytes = some (n, rest)) : n < limit := by
  simp only [number] at h
  split at h
  · split at h
    · cases h
      assumption
    · cases h
  · cases h

/-- Numbers below a limit may stand for the values of a type. -/
theorem delimits_map_number {α : Type} (groups limit : Nat) {make : Nat → α} {back : α → Nat}
    (hback : ∀ n < limit, back (make n) = n) :
    ((number groups limit).map make back).Delimits := by
  intro bytes a rest h
  obtain ⟨⟨n, rest⟩, hread, heq⟩ := Option.map_eq_some_iff.1 h
  cases heq
  obtain ⟨taken, rfl, hspells, hlength⟩ := delimits_number groups limit bytes n rest hread
  refine ⟨taken, rfl, fun more => ?_, ?_⟩
  · change ((number groups limit).read (taken ++ more)).map _ = _
    rw [hspells more, Option.map_some]
  · change ((number groups limit).write (back (make n))).length ≤ _
    rwa [hback n (read_number_lt hread)]

theorem delimits_word16 : word16.Delimits :=
  delimits_map_number 3 UInt16.size fun _ h => UInt16.toNat_ofNat_of_lt h

theorem delimits_word32 : word32.Delimits :=
  delimits_map_number 5 UInt32.size fun _ h => UInt32.toNat_ofNat_of_lt h

theorem delimits_octets (n : Nat) : (octets n).Delimits := by
  intro bytes v rest h
  obtain ⟨w, hv, heq⟩ := Option.map_eq_some_iff.1 h
  cases heq
  have htaken := Octets.toList_of_ofList?_eq_some hv
  refine ⟨v.toList, ?_, fun more => ?_, Nat.le_refl _⟩
  · rw [htaken, List.take_append_drop]
  · have hlen : v.toList.length = n := v.length_toList
    simp only [octets]
    rw [List.take_left' hlen, List.drop_left' hlen, Octets.ofList?_toList, Option.map_some]

theorem delimits_blob : blob.Delimits := by
  intro bytes octets rest h
  simp only [blob] at h
  split at h
  · rename_i n between hlen
    split at h
    · rename_i hsize
      cases h
      obtain ⟨counted, rfl, hspells, hlength⟩ := delimits_number _ _ bytes n between hlen
      refine ⟨counted ++ between.take n, ?_, fun more => ?_, ?_⟩
      · rw [List.append_assoc, List.take_append_drop]
      · have hread := hspells (between.take n ++ more)
        simp only [blob, List.append_assoc]
        rw [length, hread]
        simp only [List.take_left' hsize, List.drop_left' hsize, hsize, if_true]
      · simp only [blob, List.length_append, hsize]
        exact Nat.add_le_add_right hlength _
    · cases h
  · cases h

theorem toUTF8_of_fromUTF8? {b : ByteArray} {s : String} (h : String.fromUTF8? b = some s) :
    s.toUTF8 = b := by
  rw [String.fromUTF8?] at h
  split at h
  · cases h
    rfl
  · cases h

theorem toList_mk (bytes : Bytes) : (⟨bytes.toArray⟩ : ByteArray).toList = bytes := by
  rw [ByteArray.toList, toList_loop _ 0 []]
  rfl

theorem delimits_text : text.Delimits := by
  intro bytes s rest h
  simp only [text] at h
  split at h
  · rename_i octets last hblob
    obtain ⟨s', hs, heq⟩ := Option.map_eq_some_iff.1 h
    cases heq
    obtain ⟨taken, rfl, hspells, hlength⟩ := delimits_blob bytes octets rest hblob
    refine ⟨taken, rfl, fun more => ?_, ?_⟩
    · simp only [text]
      rw [hspells]
      simp only
      rw [hs, Option.map_some]
    · change (blob.write s.toUTF8.toList).length ≤ _
      rwa [toUTF8_of_fromUTF8? hs, toList_mk]
  · cases h

theorem Delimits.option {α : Type} {p : Packing α} (hp : p.Delimits) :
    (Packing.option p).Delimits := by
  intro bytes a rest h
  simp only [Packing.option] at h
  split at h
  · cases h
    exact ⟨[0], rfl, fun _ => rfl, Nat.le_refl _⟩
  · rename_i bytes
    obtain ⟨⟨a, rest⟩, hread, heq⟩ := Option.map_eq_some_iff.1 h
    cases heq
    obtain ⟨taken, rfl, hspells, hlength⟩ := hp bytes a rest hread
    refine ⟨1 :: taken, rfl, fun more => ?_, Nat.succ_le_succ hlength⟩
    change (p.read (taken ++ more)).map _ = _
    rw [hspells more, Option.map_some]
  · cases h

theorem exists_of_readMany {α : Type} {p : Packing α} (hp : p.Delimits) (n : Nat)
    {bytes rest : Bytes} {as : List α} (h : readMany p n bytes = some (as, rest)) :
    ∃ taken, bytes = taken ++ rest ∧ (∀ more, readMany p n (taken ++ more) = some (as, more)) ∧
      as.length = n ∧ (as.flatMap p.write).length ≤ taken.length := by
  induction n generalizing bytes as with
  | zero =>
      cases h
      exact ⟨[], rfl, fun _ => rfl, rfl, Nat.le_refl _⟩
  | succ n ih =>
      rw [readMany] at h
      split at h
      · rename_i a between hfirst
        obtain ⟨⟨later, last⟩, hmore, heq⟩ := Option.map_eq_some_iff.1 h
        cases heq
        obtain ⟨first, rfl, hspells, hlength⟩ := hp bytes a between hfirst
        obtain ⟨taken, rfl, hmany, hcount, hlengths⟩ := ih hmore
        refine ⟨first ++ taken, (List.append_assoc ..).symm, fun more => ?_,
          congrArg Nat.succ hcount, ?_⟩
        · rw [List.append_assoc, readMany, hspells]
          simp only
          rw [hmany, Option.map_some]
        · rw [List.flatMap_cons, List.length_append, List.length_append]
          exact Nat.add_le_add hlength hlengths
      · cases h

theorem Delimits.list {α : Type} {p : Packing α} (hp : p.Delimits) :
    (Packing.list p).Delimits := by
  intro bytes as rest h
  simp only [Packing.list] at h
  split at h
  · rename_i n between hlen
    obtain ⟨counted, rfl, hspells, hlength⟩ := delimits_number _ _ bytes n between hlen
    obtain ⟨taken, rfl, hmany, rfl, hlengths⟩ := exists_of_readMany hp n h
    refine ⟨counted ++ taken, (List.append_assoc ..).symm, fun more => ?_, ?_⟩
    · have hread := hspells (taken ++ more)
      simp only [Packing.list, List.append_assoc]
      rw [length, hread]
      exact hmany more
    · simp only [Packing.list, List.length_append]
      exact Nat.add_le_add hlength hlengths
  · cases h

end Packing

namespace Variant

/-- What an alternative reads is a spelling of a value of its own, and none is shorter than the one
that it writes. -/
def Delimits {α : Type} (v : Variant α) : Prop :=
  ∀ bytes a rest, v.read bytes = some (a, rest) →
    ∃ taken written, bytes = taken ++ rest ∧ (∀ more, v.read (taken ++ more) = some (a, more)) ∧
      v.write? a = some written ∧ written.length ≤ taken.length

theorem Delimits.of {α β : Type} {p : Packing β} {make : β → α} {view : α → Option β}
    (hp : p.Delimits) (hview : ∀ b, view (make b) = some b) :
    (Variant.of p make view).Delimits := by
  intro bytes a rest h
  obtain ⟨⟨b, rest⟩, hread, heq⟩ := Option.map_eq_some_iff.1 h
  cases heq
  obtain ⟨taken, rfl, hspells, hlength⟩ := hp bytes b rest hread
  refine ⟨taken, p.write b, rfl, fun more => ?_, ?_, hlength⟩
  · change (p.read (taken ++ more)).map _ = _
    rw [hspells more, Option.map_some]
  · change (view (make b)).map p.write = _
    rw [hview, Option.map_some]

end Variant

namespace Packing

/-- Where a value belongs to one alternative only, the octets of the choice are the number of that
alternative and what it writes. -/
theorem choice_go_of_unique {α : Type} {a : α} {variants : List (Variant α)} {v : Variant α}
    {i : Nat} {bytes : Bytes} (tag : Nat) (hi : variants[i]? = some v)
    (hv : v.write? a = some bytes)
    (hone : variants.countP (fun w => (w.write? a).isSome) = 1) :
    choice.go a tag variants = (number 5 UInt32.size).write (tag + i) ++ bytes := by
  induction variants generalizing tag i with
  | nil => cases hi
  | cons w variants ih =>
      cases i with
      | zero =>
          cases hi
          rw [choice.go, hv]
          rfl
      | succ i =>
          have hlater : 0 < variants.countP (fun w => (w.write? a).isSome) :=
            List.countP_pos_iff.2 ⟨v, List.mem_of_getElem? hi, by rw [hv]; rfl⟩
          rw [List.countP_cons] at hone
          have hw : w.write? a = none := by
            rw [← Option.not_isSome_iff_eq_none]
            intro hown
            rw [if_pos hown] at hone
            omega
          have hrest : variants.countP (fun w => (w.write? a).isSome) = 1 := by
            rw [hw] at hone
            exact hone
          rw [choice.go, hw]
          simp only
          rw [ih (tag + 1) hi hrest, Nat.add_assoc, Nat.add_comm 1 i]

theorem delimits_choice {α : Type} {variants : List (Variant α)}
    (hread : ∀ v ∈ variants, v.Delimits)
    (hone : ∀ a, variants.countP (fun v => (v.write? a).isSome) = 1) :
    (choice variants).Delimits := by
  intro bytes a rest h
  simp only [choice] at h
  split at h
  · rename_i i between htag
    split at h
    · rename_i v hi
      obtain ⟨tagged, rfl, hspells, hlength⟩ := delimits_number _ _ bytes i between htag
      obtain ⟨taken, written, rfl, hmore, hwrite, hlength'⟩ :=
        hread v (List.mem_of_getElem? hi) between a rest h
      refine ⟨tagged ++ taken, (List.append_assoc ..).symm, fun more => ?_, ?_⟩
      · simp only [choice, List.append_assoc]
        rw [hspells]
        simp only [hi]
        exact hmore more
      · change (choice.go a 0 variants).length ≤ _
        rw [choice_go_of_unique 0 hi hwrite (hone a), Nat.zero_add, List.length_append,
          List.length_append]
        exact Nat.add_le_add hlength hlength'
    · cases h
  · cases h

end Packing

/-! ## Both ways -/

/-- An alternative that reads back what it writes, and reads nothing but spellings. -/
structure Variant.Lawful {α : Type} (v : Variant α) : Prop where
  readsBack : v.ReadsBack
  delimits : v.Delimits

namespace Packing

/-- What is written is read back, and nothing but spellings is read. -/
structure Lawful {α : Type} (p : Packing α) : Prop where
  readsBack : p.ReadsBack
  delimits : p.Delimits

end Packing

theorem Variant.Lawful.of {α β : Type} {p : Packing α} {make : α → β} {view : β → Option α}
    (hp : p.Lawful) (hview : ∀ b a, view b = some a ↔ make a = b) :
    (Variant.of p make view).Lawful where
  readsBack := .of hp.readsBack fun b a => (hview b a).1
  delimits := .of hp.delimits fun a => (hview (make a) a).2 rfl

namespace Packing

theorem lawful_nothing : nothing.Lawful := ⟨readsBack_nothing, delimits_nothing⟩

theorem lawful_octet : octet.Lawful := ⟨readsBack_octet, delimits_octet⟩

theorem lawful_signed : signed.Lawful := ⟨readsBack_signed, delimits_signed⟩

theorem lawful_flag : flag.Lawful := ⟨readsBack_flag, delimits_flag⟩

theorem lawful_word16 : word16.Lawful := ⟨readsBack_word16, delimits_word16⟩

theorem lawful_word32 : word32.Lawful := ⟨readsBack_word32, delimits_word32⟩

theorem lawful_octets (n : Nat) : (octets n).Lawful := ⟨readsBack_octets n, delimits_octets n⟩

theorem lawful_blob : blob.Lawful := ⟨readsBack_blob, delimits_blob⟩

theorem lawful_text : text.Lawful := ⟨readsBack_text, delimits_text⟩

section

variable {α β : Type} {p : Packing α}

theorem Lawful.map {make : α → β} {back : β → α} (hp : p.Lawful)
    (hmake : ∀ b, make (back b) = b) (hback : ∀ a, back (make a) = a) :
    (p.map make back).Lawful := ⟨hp.readsBack.map hmake, hp.delimits.map hback⟩

theorem Lawful.pair {q : Packing β} (hp : p.Lawful) (hq : q.Lawful) : (p.pair q).Lawful :=
  ⟨hp.readsBack.pair hq.readsBack, hp.delimits.pair hq.delimits⟩

theorem Lawful.option (hp : p.Lawful) : (Packing.option p).Lawful :=
  ⟨hp.readsBack.option, hp.delimits.option⟩

theorem Lawful.list (hp : p.Lawful) (hpos : ∀ a, p.write a ≠ []) : (Packing.list p).Lawful :=
  ⟨hp.readsBack.list hpos, hp.delimits.list⟩

theorem lawful_choice {variants : List (Variant α)} (hsize : variants.length ≤ UInt32.size)
    (hlawful : ∀ v ∈ variants, v.Lawful)
    (hone : ∀ a, variants.countP (fun v => (v.write? a).isSome) = 1) :
    (choice variants).Lawful := by
  constructor
  · refine readsBack_choice hsize (fun v hv => (hlawful v hv).readsBack) fun a => ?_
    exact List.countP_pos_iff.1 (by rw [hone a]; exact Nat.one_pos)
  · exact delimits_choice (fun v hv => (hlawful v hv).delimits) hone

end

end Packing

end WatchLink
