import Mathlib.Data.List.Basic
import WatchLink.Device
import WatchLink.Proofs.Preferences.Updates
import WatchLink.Proofs.Text.Listing

/-!
# Vibrations that are kept with the preferences

What the watch says of its vibrations is put into the host's preferences: one key for every kind of
notification with a pattern, and three lists, of these kinds, of the watch's own patterns by their
numbers and of these by their names. The lists are kept as texts, and a text gives back a list
without its empty names. Kinds and numbers are never empty. A name may be, or be made of commas,
which are taken out; one such name makes the list of names shorter than that of numbers, and the
names behind it stand beside the wrong numbers.
-/

namespace WatchLink

/-- The names of a list, each once, in the order in which they first stand there. -/
structure FirstStands (names distinct : List String) : Prop where
  mem_iff : ∀ name, name ∈ distinct ↔ name ∈ names
  order : distinct.Pairwise fun a b => names.idxOf a < names.idxOf b

namespace DeviceService

/-! ## Kinds of notification -/

theorem vibrationType?_eq_some_iff (number : UInt32) (type : String) :
    vibrationType? number = some type ↔
      ∃ i, number.toNat = i + 1 ∧ vibrationTypes[i]? = some type := by
  rw [vibrationType?]
  split
  · rename_i hzero
    refine iff_of_false nofun ?_
    rintro ⟨i, hi, -⟩
    rw [hzero] at hi
    exact absurd hi (Nat.succ_ne_zero i).symm
  · rename_i hne
    have hpos : number.toNat ≠ 0 := fun h => hne (UInt32.toNat_inj.1 h)
    constructor
    · intro h
      exact ⟨number.toNat - 1, by omega, h⟩
    · rintro ⟨i, hi, h⟩
      rwa [hi, Nat.add_sub_cancel]

/-- No two kinds have one name. -/
theorem vibrationTypes_inj {i j : Nat} {type : String} (hi : vibrationTypes[i]? = some type)
    (hj : vibrationTypes[j]? = some type) : i = j := by
  have hdistinct : vibrationTypes.Nodup := by decide
  exact (List.getElem?_inj (List.getElem?_eq_some_iff.1 hi).1 hdistinct).1 (hi.trans hj.symm)

theorem firstOccurrences_concat (names : List String) (name : String) :
    firstOccurrences (names ++ [name]) =
      if name ∈ firstOccurrences names then firstOccurrences names
      else firstOccurrences names ++ [name] := by
  rw [firstOccurrences, List.foldl_append]
  rfl

theorem firstStands_firstOccurrences (names : List String) :
    FirstStands names (firstOccurrences names) := by
  induction names using List.reverseRecOn with
  | nil => exact ⟨fun _ => Iff.rfl, .nil⟩
  | append_singleton names name ih =>
      -- a name that stood there before stands at the same place still
      have horder : (firstOccurrences names).Pairwise
          fun a b => (names ++ [name]).idxOf a < (names ++ [name]).idxOf b := by
        refine ih.order.imp_of_mem fun {a b} ha hb hlt => ?_
        rwa [List.idxOf_append_of_mem ((ih.mem_iff a).1 ha),
          List.idxOf_append_of_mem ((ih.mem_iff b).1 hb)]
      rw [firstOccurrences_concat]
      split
      · rename_i hname
        refine ⟨fun a => ?_, horder⟩
        rw [List.mem_append, List.mem_singleton, ih.mem_iff]
        refine (or_iff_left_of_imp ?_).symm
        rintro rfl
        exact (ih.mem_iff a).1 hname
      · rename_i hname
        have hnew : name ∉ names := fun h => hname ((ih.mem_iff name).2 h)
        refine ⟨fun a => ?_, List.pairwise_append.2 ⟨horder, List.pairwise_singleton _ _, ?_⟩⟩
        · rw [List.mem_append, List.mem_append, ih.mem_iff]
        · intro a ha b hb
          have hmem := (ih.mem_iff a).1 ha
          rw [List.mem_singleton.1 hb, List.idxOf_append_of_mem hmem,
            List.idxOf_append_of_notMem hnew]
          exact Nat.lt_add_right _ (List.idxOf_lt_length_of_mem hmem)

/-! ## What is updated -/

/-- The kinds of notification of a reply, as far as they are known, with their patterns. -/
def knownTypes (patterns : VibrationPatterns) : List (String × UInt32) :=
  patterns.notificationTypes.filterMap fun entry =>
    (vibrationType? entry.notificationType).map fun type => (type, entry.preset)

/-- The updates for single kinds of notification. -/
def profiles (patterns : VibrationPatterns) : List (String × PreferenceValue) :=
  (knownTypes patterns).map fun (type, preset) =>
    (vibrationProfileKey type, .text (toString preset))

/-- What the host is told of a reply. -/
def vibrationUpdates (patterns : VibrationPatterns) : List (String × PreferenceValue) :=
  profiles patterns ++
    [(vibrationTypesKey, .list (firstOccurrences ((knownTypes patterns).map Prod.fst))),
     (vibrationIdsKey, .text (Text.joined (patterns.custom.map fun p => toString p.id))),
     (vibrationNamesKey, .text (Text.joined (patterns.custom.map fun p =>
       Text.withoutCommas p.name)))]

theorem vibrationProfileKey_not_mem {i : Nat} {type : String} (h : vibrationTypes[i]? = some type) :
    vibrationProfileKey type ∉ [vibrationTypesKey, vibrationIdsKey, vibrationNamesKey] := by
  have hall : ∀ type ∈ vibrationTypes,
      vibrationProfileKey type ∉ [vibrationTypesKey, vibrationIdsKey, vibrationNamesKey] := by
    decide
  exact hall type (List.mem_of_getElem? h)

/-- The updates for one kind are those that the reply has under its number. -/
theorem filter_profiles {i : Nat} {type : String} (h : vibrationTypes[i]? = some type)
    (patterns : VibrationPatterns) :
    (profiles patterns).filter (fun update => update.1 = vibrationProfileKey type) =
      (patterns.notificationTypes.filter fun entry => entry.notificationType.toNat = i + 1).map
        fun entry => (vibrationProfileKey type, .text (toString entry.preset)) := by
  obtain ⟨entries, custom⟩ := patterns
  simp only [profiles, knownTypes]
  induction entries with
  | nil => rfl
  | cons entry entries ih =>
      by_cases hentry : entry.notificationType.toNat = i + 1
      · have htype : vibrationType? entry.notificationType = some type :=
          (vibrationType?_eq_some_iff _ _).2 ⟨i, hentry, h⟩
        rw [List.filterMap_cons_some (by rw [htype]; rfl), List.map_cons,
          List.filter_cons_of_pos (by simp), ih, List.filter_cons_of_pos (by simpa using hentry),
          List.map_cons]
      · rw [List.filter_cons_of_neg (by simpa using hentry), ← ih]
        cases htype : vibrationType? entry.notificationType with
        | none => rw [List.filterMap_cons_none (by rw [htype]; rfl)]
        | some other =>
            have hne : vibrationProfileKey other ≠ vibrationProfileKey type := by
              intro hkeys
              obtain rfl := (String.append_right_inj _).1 hkeys
              obtain ⟨j, hj, hother⟩ := (vibrationType?_eq_some_iff _ _).1 htype
              exact hentry (vibrationTypes_inj hother h ▸ hj)
            rw [List.filterMap_cons_some (by rw [htype]; rfl), List.map_cons,
              List.filter_cons_of_neg (by simpa using hne)]

theorem get?_vibrationUpdates {i : Nat} {type : String} (h : vibrationTypes[i]? = some type)
    (patterns : VibrationPatterns) (p : Preferences) :
    (p.update (vibrationUpdates patterns)).get? (vibrationProfileKey type) =
      (patterns.notificationTypes.filter
          fun entry => entry.notificationType.toNat = i + 1).getLast?.elim
        (p.get? (vibrationProfileKey type)) fun entry => some (toString entry.preset) := by
  rw [Preferences.get?_update, vibrationUpdates, List.filter_append, filter_profiles h,
    Preferences.filter_eq_nil_of_not_mem (vibrationProfileKey_not_mem h), List.append_nil,
    List.getLast?_map, Option.elim_map]
  rfl

/-! ## The lists as texts -/

theorem toString_listed (n : UInt32) : toString n ≠ "" ∧ ',' ∉ (toString n).toList := by
  have hdigits : (toString n).toList = Nat.toDigits 10 n.toNat := Nat.toList_repr
  constructor
  · intro hnone
    rw [hnone] at hdigits
    exact Nat.toDigits_ne_nil hdigits.symm
  · rw [hdigits]
    intro hcomma
    have hdigit := Nat.isDigit_of_mem_toDigits (by decide) (by decide) hcomma
    exact absurd hdigit (by decide)

theorem list_vibrationTypes (patterns : VibrationPatterns) (p : Preferences) :
    (p.update (vibrationUpdates patterns)).list vibrationTypesKey =
      firstOccurrences ((knownTypes patterns).map Prod.fst) := by
  have hlast : vibrationTypesKey ∉ [vibrationIdsKey, vibrationNamesKey] := by decide
  have hlisted : ∀ type ∈ firstOccurrences ((knownTypes patterns).map Prod.fst),
      type ≠ "" ∧ ',' ∉ type.toList := by
    intro type hmem
    have hall : ∀ type ∈ vibrationTypes, type ≠ "" ∧ ',' ∉ type.toList := by decide
    rw [(firstStands_firstOccurrences _).mem_iff] at hmem
    obtain ⟨known, hknown, rfl⟩ := List.mem_map.1 hmem
    obtain ⟨entry, -, hentry⟩ := List.mem_filterMap.1 hknown
    obtain ⟨type, htype, rfl⟩ := Option.map_eq_some_iff.1 hentry
    obtain ⟨i, -, hi⟩ := (vibrationType?_eq_some_iff _ _).1 htype
    exact hall type (List.mem_of_getElem? hi)
  rw [Preferences.list, vibrationUpdates, p.get?_update_append_cons _ hlast]
  exact Text.names_joined_of_ne (fun _ hmem => (hlisted _ hmem).2) fun _ hmem => (hlisted _ hmem).1

theorem list_vibrationIds (patterns : VibrationPatterns) (p : Preferences) :
    (p.update (vibrationUpdates patterns)).list vibrationIdsKey =
      patterns.custom.map fun custom => toString custom.id := by
  have hlast : vibrationIdsKey ∉ [vibrationNamesKey] := by decide
  have hlisted : ∀ id ∈ patterns.custom.map fun custom => toString custom.id,
      id ≠ "" ∧ ',' ∉ id.toList := by
    intro id hmem
    obtain ⟨custom, -, rfl⟩ := List.mem_map.1 hmem
    exact toString_listed custom.id
  rw [vibrationUpdates, List.append_cons, p.list_update_append_cons _ hlast]
  exact Text.names_joined_of_ne (fun _ hmem => (hlisted _ hmem).2) fun _ hmem => (hlisted _ hmem).1

theorem list_vibrationNames (patterns : VibrationPatterns) (p : Preferences) :
    (p.update (vibrationUpdates patterns)).list vibrationNamesKey =
      (patterns.custom.map fun custom => Text.withoutCommas custom.name).filter (· ≠ "") := by
  rw [vibrationUpdates, List.append_cons, List.append_cons,
    p.list_update_append_cons _ List.not_mem_nil]
  refine Text.names_joined _ fun name hmem => ?_
  obtain ⟨custom, -, rfl⟩ := List.mem_map.1 hmem
  exact Text.not_mem_withoutCommas custom.name

/-- What the watch says of its vibrations is kept whatever was kept before: under every kind of
notification the last pattern that it has, the kinds in the order in which they first stand, and
the watch's own patterns by their numbers. The names of these are kept without commas, but for
those that are empty then, so they stand beside the numbers just when none is. -/
theorem onCommand_vibrations (s : DeviceService) (host : HostView) (kind : UInt8)
    (patterns : VibrationPatterns) :
    ∃ event,
      Service.onCommand s host
          ⟨kind, vibrationGetSubtype, .system (.vibrationPatterns patterns)⟩ =
        (s, .ofEvent event, .ok ()) ∧
      ∀ p : Preferences,
        (∀ i type, vibrationTypes[i]? = some type →
          (p.apply event).get? (vibrationProfileKey type) =
            (patterns.notificationTypes.filter
                fun entry => entry.notificationType.toNat = i + 1).getLast?.elim
              (p.get? (vibrationProfileKey type)) fun entry => some (toString entry.preset)) ∧
        FirstStands
          (patterns.notificationTypes.filterMap fun entry => vibrationType? entry.notificationType)
          ((p.apply event).list vibrationTypesKey) ∧
        (p.apply event).list vibrationIdsKey =
          patterns.custom.map (fun custom => toString custom.id) ∧
        (p.apply event).list vibrationNamesKey =
          (patterns.custom.map fun custom => Text.withoutCommas custom.name).filter (· ≠ "") ∧
        ((p.apply event).list vibrationNamesKey =
            patterns.custom.map (fun custom => Text.withoutCommas custom.name) ↔
          ∀ custom ∈ patterns.custom, Text.withoutCommas custom.name ≠ "") ∧
        (((p.apply event).list vibrationNamesKey).length =
            ((p.apply event).list vibrationIdsKey).length ↔
          ∀ custom ∈ patterns.custom, Text.withoutCommas custom.name ≠ "") := by
  refine ⟨.updatePreferences (vibrationUpdates patterns), rfl, fun p => ?_⟩
  have hknown : (knownTypes patterns).map Prod.fst =
      patterns.notificationTypes.filterMap fun entry => vibrationType? entry.notificationType := by
    rw [knownTypes, List.map_filterMap]
    refine List.filterMap_congr fun entry _ => ?_
    rw [Option.map_map]
    exact Option.map_id' ..
  rw [Preferences.apply, list_vibrationTypes, list_vibrationIds, list_vibrationNames, ← hknown]
  refine ⟨fun i type h => get?_vibrationUpdates h patterns p, firstStands_firstOccurrences _, rfl,
    rfl, ?_, ?_⟩
  · rw [List.filter_eq_self, List.forall_mem_map]
    simp only [decide_eq_true_eq]
  · rw [List.length_map,
      ← List.length_map (f := fun custom : CustomVibration => Text.withoutCommas custom.name),
      List.length_filter_eq_length_iff, List.forall_mem_map]
    simp only [decide_eq_true_eq]

/-- Of two patterns, the first with a comma for its name, the name of the second stands beside the
number of the first. -/
theorem onCommand_vibrations_commaName :
    ∃ event,
      Service.onCommand (ofConfig {} {}) ⟨{}, ⟨2024, 1, 1, 0, 0, 0, 0, 0, 0, "UTC"⟩⟩
          (message vibrationGetSubtype (.vibrationPatterns ⟨[], [⟨1, ","⟩, ⟨2, "Tap"⟩]⟩)) =
        (ofConfig {} {}, .ofEvent event, .ok ()) ∧
      (({} : Preferences).apply event).list vibrationIdsKey = ["1", "2"] ∧
      (({} : Preferences).apply event).list vibrationNamesKey = ["Tap"] :=
  ⟨_, rfl, by decide +kernel, by decide +kernel⟩

end DeviceService

end WatchLink
