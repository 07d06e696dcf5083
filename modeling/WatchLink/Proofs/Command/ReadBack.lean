import WatchLink.Command.Packed
import WatchLink.Proofs.Packing.Delimiting

/-!
# Commands are read back

Every packing of the command language reads back what it writes and reads nothing but spellings,
from the records of single fields up to `Command.packing`; so the bytes of a command are read as that
command, and nothing that follows them changes this. Records follow from their fields, the
alternatives of a message from what they carry. That each value belongs to one alternative and to no
other is one case split per type.
-/

namespace WatchLink

open Packing

theorem PhoneInfo.lawful_packing : PhoneInfo.packing.Lawful :=
  (lawful_word32.pair (lawful_text.pair lawful_text)).map (fun _ => rfl) fun _ => rfl

theorem DeviceInfo.lawful_packing : DeviceInfo.packing.Lawful :=
  (lawful_text.pair (lawful_text.pair lawful_text)).map (fun _ => rfl) fun _ => rfl

theorem BatteryReading.lawful_packing : BatteryReading.packing.Lawful :=
  (lawful_octet.pair lawful_word32.option).map (fun _ => rfl) fun _ => rfl

theorem ClockSetting.lawful_packing : ClockSetting.packing.Lawful :=
  (lawful_word16.pair <| lawful_octet.pair <| lawful_octet.pair <| lawful_octet.pair <|
    lawful_octet.pair <| lawful_octet.pair <| lawful_word16.pair <|
    lawful_signed.pair <| lawful_signed.pair <| lawful_text.pair lawful_flag).map
    (fun _ => rfl) fun _ => rfl

theorem PasswordSetting.lawful_packing : PasswordSetting.packing.Lawful :=
  (lawful_word32.pair lawful_text.option).map (fun _ => rfl) fun _ => rfl

theorem DisplayItem.lawful_packing : DisplayItem.packing.Lawful :=
  (lawful_text.pair <| lawful_text.pair <| lawful_flag.pair <|
    lawful_flag.pair lawful_flag).map (fun _ => rfl) fun _ => rfl

theorem NotificationVibration.lawful_packing : NotificationVibration.packing.Lawful :=
  (lawful_word32.pair lawful_word32).map (fun _ => rfl) fun _ => rfl

theorem CustomVibration.lawful_packing : CustomVibration.packing.Lawful :=
  (lawful_word32.pair lawful_text).map (fun _ => rfl) fun _ => rfl

theorem BasicDeviceState.lawful_packing : BasicDeviceState.packing.Lawful :=
  (lawful_flag.pair <| lawful_octet.option.pair <|
    lawful_flag.pair lawful_flag).map (fun _ => rfl) fun _ => rfl

theorem DeviceState.lawful_packing : DeviceState.packing.Lawful :=
  (lawful_word32.option.pair <| lawful_word32.option.pair lawful_word32.option).map
    (fun _ => rfl) fun _ => rfl

/-! ## Lists of records

A record starts with a number, so it takes at least an octet. -/

theorem DisplayItem.write_ne_nil (item : DisplayItem) : DisplayItem.packing.write item ≠ [] := by
  intro h
  have htext := (List.append_eq_nil_iff.1 h).1
  exact Varint.write_ne_nil _ _ (List.append_eq_nil_iff.1 htext).1

theorem NotificationVibration.write_ne_nil (v : NotificationVibration) :
    NotificationVibration.packing.write v ≠ [] :=
  fun h => Varint.write_ne_nil _ _ (List.append_eq_nil_iff.1 h).1

theorem CustomVibration.write_ne_nil (v : CustomVibration) :
    CustomVibration.packing.write v ≠ [] :=
  fun h => Varint.write_ne_nil _ _ (List.append_eq_nil_iff.1 h).1

theorem VibrationPatterns.lawful_packing : VibrationPatterns.packing.Lawful :=
  ((NotificationVibration.lawful_packing.list NotificationVibration.write_ne_nil).pair
    (CustomVibration.lawful_packing.list CustomVibration.write_ne_nil)).map
    (fun _ => rfl) fun _ => rfl

/-! ## Messages -/

theorem AuthMessage.lawful_packing : AuthMessage.packing.Lawful := by
  apply lawful_choice (by decide)
  · simp only [List.forall_mem_cons, List.not_mem_nil, false_implies, implies_true, and_true]
    refine ⟨.of (lawful_octets 16) ?_,
      .of ((lawful_octets 16).pair (lawful_octets 32)) ?_,
      .of ((lawful_octets 32).pair lawful_blob) ?_, .of lawful_text ?_⟩
    all_goals
      intro a b
      constructor
      · intro h
        cases a <;> cases h
        rfl
      · rintro rfl
        rfl
  · intro a
    cases a <;> rfl

theorem SystemMessage.lawful_packing : SystemMessage.packing.Lawful := by
  apply lawful_choice (by decide)
  · simp only [List.forall_mem_cons, List.not_mem_nil, false_implies, implies_true, and_true]
    refine ⟨.of DeviceInfo.lawful_packing ?_, .of BatteryReading.lawful_packing ?_,
      .of ClockSetting.lawful_packing ?_, .of (lawful_text.pair lawful_text) ?_,
      .of lawful_word32 ?_, .of lawful_text ?_, .of PasswordSetting.lawful_packing ?_,
      .of lawful_word32 ?_,
      .of (DisplayItem.lawful_packing.list DisplayItem.write_ne_nil) ?_,
      .of VibrationPatterns.lawful_packing ?_, .of BasicDeviceState.lawful_packing ?_,
      .of DeviceState.lawful_packing ?_⟩
    all_goals
      intro a b
      constructor
      · intro h
        cases a <;> cases h
        rfl
      · rintro rfl
        rfl
  · intro a
    cases a <;> rfl

theorem UploadMessage.lawful_packing : UploadMessage.packing.Lawful := by
  apply lawful_choice (by decide)
  · simp only [List.forall_mem_cons, List.not_mem_nil, false_implies, implies_true, and_true]
    refine ⟨.of (lawful_octet.pair <| (lawful_octets 16).pair lawful_word32) ?_,
      .of (lawful_word32.pair lawful_word32) ?_⟩
    all_goals
      intro a b
      constructor
      · intro h
        cases a <;> cases h
        rfl
      · rintro rfl
        rfl
  · intro a
    cases a <;> rfl

theorem Body.lawful_packing : Body.packing.Lawful := by
  apply lawful_choice (by decide)
  · simp only [List.forall_mem_cons, List.not_mem_nil, false_implies, implies_true, and_true]
    refine ⟨.of lawful_nothing ?_, .of lawful_word32 ?_,
      .of AuthMessage.lawful_packing ?_, .of SystemMessage.lawful_packing ?_,
      .of UploadMessage.lawful_packing ?_, .of lawful_blob ?_⟩
    all_goals
      intro a b
      constructor
      · intro h
        cases a <;> cases h
        rfl
      · rintro rfl
        rfl
  · intro a
    cases a <;> rfl

namespace Command

theorem lawful_packing : packing.Lawful :=
  (lawful_octet.pair (lawful_octet.pair Body.lawful_packing)).map (fun _ => rfl) fun _ => rfl

/-- The bytes of a command are read as that command, whatever follows them. -/
theorem ofBytes_toBytes_append (command : Command) (rest : Bytes)
    (h : command.toBytes.length < UInt64.size) :
    ofBytes (command.toBytes ++ rest) = .ok command := by
  have hread := lawful_packing.readsBack command rest h
  simp only [ofBytes, value?, toBytes]
  rw [hread, Option.map_some]

theorem ofBytes_toBytes (command : Command) (h : command.toBytes.length < UInt64.size) :
    ofBytes command.toBytes = .ok command := by
  have hread := ofBytes_toBytes_append command [] h
  rwa [List.append_nil] at hread

end Command

end WatchLink
