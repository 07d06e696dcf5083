import WatchLink.Proofs.Command.ReadBack

/-!
# Commands end where they end

The bytes of a command are read as that command whatever follows them, none of their proper
beginnings is read as any command, and nothing shorter is read as the same one. Other bytes may be
read as it too, because a number may be spelled in more groups than it needs.
-/

namespace WatchLink

namespace Command

open Packing

theorem ofBytes_eq_ok_iff {bytes : Bytes} {command : Command} :
    ofBytes bytes = .ok command ↔ ∃ rest, packing.read bytes = some (command, rest) := by
  rw [ofBytes, value?]
  cases packing.read bytes with
  | none => simp
  | some result => simp [Prod.ext_iff]

theorem ofBytes_of_read_eq_none {bytes : Bytes} (h : packing.read bytes = none) :
    ofBytes bytes = .error .codec := by
  rw [ofBytes, value?, h]
  rfl

/-- A command is written as its kind, its subtype and its body. It is read from its bytes whatever
follows them, no proper beginning of them is read as a command, and no fewer bytes are read as this
one. The bound is that of a length, sixty-four bits; no string of bytes that a machine can hold is
longer. -/
theorem toBytes_delimits (command : Command) :
    command.toBytes = command.kind :: command.subtype :: Body.packing.write command.body ∧
    (command.toBytes.length < UInt64.size →
      (∀ rest, ofBytes (command.toBytes ++ rest) = .ok command) ∧
      ∀ bytes, bytes <+: command.toBytes → bytes ≠ command.toBytes →
        ofBytes bytes = .error .codec) ∧
    ∀ bytes, ofBytes bytes = .ok command → command.toBytes.length ≤ bytes.length := by
  refine ⟨rfl, fun hfits => ⟨?_, ?_⟩, ?_⟩
  · intro rest
    exact ofBytes_toBytes_append command rest hfits
  · intro bytes hshort hne
    have hspells := lawful_packing.readsBack.spells hfits
    exact ofBytes_of_read_eq_none (lawful_packing.delimits.read_eq_none hspells hshort hne)
  · intro bytes hread
    obtain ⟨rest, hread⟩ := ofBytes_eq_ok_iff.1 hread
    obtain ⟨taken, rfl, -, hlength⟩ := lawful_packing.delimits bytes command rest hread
    calc command.toBytes.length
        ≤ taken.length := hlength
      _ ≤ (taken ++ rest).length := by rw [List.length_append]; exact Nat.le_add_right _ _

/-- A command with lists of records, a number of two groups and a text that is not all ASCII. -/
def patternsCommand : Command where
  kind := 2
  subtype := 46
  body := .system (.vibrationPatterns ⟨[⟨1, 300⟩], [⟨128, "é,"⟩]⟩)

/-- Its bytes with something behind them, without the end of a character, and spelled with a
needless group for the alternative and for a number. -/
theorem toBytes_delimits_patterns :
    patternsCommand.toBytes.length < UInt64.size ∧
    patternsCommand.toBytes =
      [2, 46, 3, 9, 1, 1, 0xAC, 0x02, 1, 0x80, 0x01, 3, 0xC3, 0xA9, 0x2C] ∧
    ofBytes (patternsCommand.toBytes ++ [0xFF]) = .ok patternsCommand ∧
    ofBytes [2, 46, 3, 9, 1, 1, 0xAC, 0x02, 1, 0x80, 0x01, 3, 0xC3] = .error .codec ∧
    ofBytes [2, 46, 0x83, 0x00, 9, 1, 1, 0xAC, 0x82, 0x00, 1, 0x80, 0x01, 3, 0xC3, 0xA9, 0x2C] =
      .ok patternsCommand ∧
    patternsCommand.toBytes.length ≤ 17 := by
  have hbytes : patternsCommand.toBytes =
      [2, 46, 3, 9, 1, 1, 0xAC, 0x02, 1, 0x80, 0x01, 3, 0xC3, 0xA9, 0x2C] := by decide +kernel
  have hfits : patternsCommand.toBytes.length < UInt64.size := by
    rw [hbytes]
    decide
  have hlong : ofBytes [2, 46, 0x83, 0x00, 9, 1, 1, 0xAC, 0x82, 0x00, 1, 0x80, 0x01, 3, 0xC3, 0xA9,
      0x2C] = .ok patternsCommand := ofBytes_eq_ok_iff.2 ⟨[], by decide +kernel⟩
  obtain ⟨-, hread, hshortest⟩ := toBytes_delimits patternsCommand
  obtain ⟨hbefore, hbeginning⟩ := hread hfits
  refine ⟨hfits, hbytes, hbefore [0xFF], hbeginning _ ?_ ?_, hlong, hshortest _ hlong⟩
  · rw [hbytes]
    exact ⟨[0xA9, 0x2C], rfl⟩
  · rw [hbytes]
    decide

end Command

end WatchLink
