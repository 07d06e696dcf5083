import WatchLink.Proofs.Device.Menu
import WatchLink.Proofs.Text.Listing

/-!
# The order of a rebuilt menu

A menu that is rebuilt from the view of it is in order: what is shown on the first screen, what is
shown behind "more", and then what is not shown. The settings are always shown; where the menu did
not show them they come last of what is shown, behind "more" if there is anything else. The items
are those of the menu, under labels, and whoever is not shown is in no part. A menu that is in order
already is rebuilt as it is, so a second time changes nothing.
-/

namespace WatchLink

/-- The settings as they are put back where they were not shown. -/
def DisplayItem.putBack (inMore : Bool) (i : DisplayItem) : DisplayItem :=
  { i.labelled with disabled := false, inMoreSection := inMore }

namespace MenuView

/-- The items of a menu in the order of a rebuilt one. -/
def arranged (items : List DisplayItem) : List DisplayItem :=
  (part items false).map DisplayItem.labelled ++ (part items true).map DisplayItem.labelled ++
    (hiddenSettings items).map (DisplayItem.putBack (part items true ≠ [])) ++
    (hidden items).map DisplayItem.setAside

variable {items : List DisplayItem}

theorem mem_hiddenSettings {i : DisplayItem} :
    i ∈ hiddenSettings items ↔ i ∈ items ∧ i.isSettings = true ∧ i.disabled = true := by
  simp [hiddenSettings]

theorem mem_hidden {i : DisplayItem} :
    i ∈ hidden items ↔ i ∈ items ∧ i.disabled = true ∧ i.isSettings = false := by
  simp [hidden]

theorem Regular.items_ofItems_eq_arranged (h : Regular items) (more : String) :
    (ofItems items more).items = .ok (arranged items) := by
  have hsettings (inMore : Bool) :
      (hiddenSettings items).map ((ofItems items more).shownAs inMore) =
        (hiddenSettings items).map (DisplayItem.putBack inMore) := by
    refine List.map_congr_left fun i hmem => ?_
    obtain ⟨hi, hset, -⟩ := mem_hiddenSettings.1 hmem
    have hcode : decide ((ofItems items more).settingsCode = some i.code) = i.isSettings := by
      rw [hset]
      exact decide_eq_true ((h.settingsOf_eq_some_iff hi).2 hset)
    rw [shownAs, DisplayItem.putBack, DisplayItem.labelled, hcode]
  rw [h.items_ofItems, hsettings]
  rfl

/-! ## Menus in order -/

/-- What makes up a menu that is in order: the parts that are shown, and the rest. -/
structure InOrder (main more others : List DisplayItem) : Prop where
  first : ∀ i ∈ main, i.disabled = false ∧ i.inMoreSection = false
  behind : ∀ i ∈ more, i.disabled = false ∧ i.inMoreSection = true
  rest : ∀ i ∈ others, i.disabled = true ∧ i.inMoreSection = false ∧ i.isSettings = false
  labels : ∀ i ∈ main ++ more ++ others, ',' ∉ i.name.toList

theorem map_eq_self {items : List DisplayItem} {f : DisplayItem → DisplayItem}
    (h : ∀ i ∈ items, f i = i) : items.map f = items :=
  (List.map_congr_left h).trans (List.map_id' items)

theorem filter_of_forall_eq {items : List DisplayItem} {p : DisplayItem → Bool} {b : Bool}
    (h : ∀ i ∈ items, p i = b) : items.filter p = if b = true then items else [] := by
  split
  · rename_i hb
    exact List.filter_eq_self.2 fun i hi => (h i hi).trans hb
  · rename_i hb
    exact List.filter_eq_nil_iff.2 fun i hi hp => hb ((h i hi).symm.trans hp)

section

variable {main more others : List DisplayItem} (h : InOrder main more others)

include h

theorem InOrder.part_eq (inMore : Bool) :
    part (main ++ more ++ others) inMore = if inMore = true then more else main := by
  rw [part, List.filter_append, List.filter_append,
    filter_of_forall_eq (b := !inMore) fun i hi => by simp [h.first i hi],
    filter_of_forall_eq (b := inMore) fun i hi => by simp [h.behind i hi],
    filter_of_forall_eq (b := false) fun i hi => by simp [h.rest i hi]]
  cases inMore <;> simp

theorem InOrder.hiddenSettings_eq : hiddenSettings (main ++ more ++ others) = [] := by
  rw [hiddenSettings, List.filter_append, List.filter_append,
    filter_of_forall_eq (b := false) fun i hi => by simp [h.first i hi],
    filter_of_forall_eq (b := false) fun i hi => by simp [h.behind i hi],
    filter_of_forall_eq (b := false) fun i hi => by simp [h.rest i hi]]
  rfl

theorem InOrder.hidden_eq : hidden (main ++ more ++ others) = others := by
  rw [hidden, List.filter_append, List.filter_append,
    filter_of_forall_eq (b := false) fun i hi => by simp [h.first i hi],
    filter_of_forall_eq (b := false) fun i hi => by simp [h.behind i hi],
    filter_of_forall_eq (b := true) fun i hi => by simp [h.rest i hi]]
  rfl

/-- A menu in order is arranged as it is. -/
theorem InOrder.arranged_eq : arranged (main ++ more ++ others) = main ++ more ++ others := by
  have hlabelled (i : DisplayItem) (hi : i ∈ main ++ more ++ others) : i.labelled = i := by
    rw [DisplayItem.labelled, Text.withoutCommas_of_not_mem (h.labels i hi)]
  have hmain : main.map DisplayItem.labelled = main :=
    map_eq_self fun i hi => hlabelled i (List.mem_append_left _ (List.mem_append_left _ hi))
  have hmore : more.map DisplayItem.labelled = more :=
    map_eq_self fun i hi => hlabelled i (List.mem_append_left _ (List.mem_append_right _ hi))
  have hothers : others.map DisplayItem.setAside = others := map_eq_self fun i hi => by
    rw [DisplayItem.setAside, hlabelled i (List.mem_append_right _ hi), ← (h.rest i hi).2.1]
  rw [arranged, h.part_eq, h.part_eq, h.hiddenSettings_eq, h.hidden_eq, hothers, if_pos rfl,
    if_neg Bool.false_ne_true, hmain, hmore, List.map_nil, List.append_nil]

end

/-- A menu that was arranged is in order. The settings that are put back go with the last part. -/
theorem inOrder_arranged (items : List DisplayItem) :
    ∃ main more others, arranged items = main ++ more ++ others ∧ InOrder main more others := by
  have hshown (inMore : Bool) : ∀ i ∈ (part items inMore).map DisplayItem.labelled,
      i.disabled = false ∧ i.inMoreSection = inMore := by
    intro i hi
    obtain ⟨j, hj, rfl⟩ := List.mem_map.1 hi
    exact (mem_part.1 hj).2
  have hsettings (inMore : Bool) : ∀ i ∈ (hiddenSettings items).map (DisplayItem.putBack inMore),
      i.disabled = false ∧ i.inMoreSection = inMore := by
    intro i hi
    obtain ⟨j, -, rfl⟩ := List.mem_map.1 hi
    exact ⟨rfl, rfl⟩
  have hrest : ∀ i ∈ (hidden items).map DisplayItem.setAside,
      i.disabled = true ∧ i.inMoreSection = false ∧ i.isSettings = false := by
    intro i hi
    obtain ⟨j, hj, rfl⟩ := List.mem_map.1 hi
    obtain ⟨-, hdisabled, hplain⟩ := mem_hidden.1 hj
    exact ⟨hdisabled, rfl, hplain⟩
  have hlabels : ∀ i ∈ arranged items, ',' ∉ i.name.toList := by
    intro i hi
    simp only [arranged, List.mem_append, List.mem_map] at hi
    rcases hi with ((⟨j, -, rfl⟩ | ⟨j, -, rfl⟩) | ⟨j, -, rfl⟩) | ⟨j, -, rfl⟩ <;>
      exact Text.not_mem_withoutCommas _
  by_cases hmore : part items true = []
  · refine ⟨(part items false).map DisplayItem.labelled ++
      (hiddenSettings items).map (DisplayItem.putBack false), [],
      (hidden items).map DisplayItem.setAside, ?_, ?_, nofun, hrest, ?_⟩
    · simp [arranged, hmore]
    · exact fun i hi => (List.mem_append.1 hi).elim (hshown false i) (hsettings false i)
    · simpa [arranged, hmore] using hlabels
  · refine ⟨(part items false).map DisplayItem.labelled,
      (part items true).map DisplayItem.labelled ++
        (hiddenSettings items).map (DisplayItem.putBack true),
      (hidden items).map DisplayItem.setAside, ?_, hshown false, ?_, hrest, ?_⟩
    · simp [arranged, hmore]
    · exact fun i hi => (List.mem_append.1 hi).elim (hshown true i) (hsettings true i)
    · simpa [arranged, hmore] using hlabels

/-! ## The same items -/

/-- The parts of a menu, the settings that are not shown and the rest are all of it. -/
theorem parts_perm (items : List DisplayItem) :
    (part items false ++ part items true ++ (hiddenSettings items ++ hidden items)).Perm items := by
  have hpart (inMore : Bool) : part items inMore =
      (items.filter fun i => !i.disabled).filter fun i => i.inMoreSection == inMore := by
    rw [List.filter_filter]
    exact List.filter_congr fun i _ => Bool.and_comm _ _
  have hshown : (part items false ++ part items true).Perm
      (items.filter fun i => !i.disabled) := by
    have hsplit := List.filter_append_perm (fun i => i.inMoreSection == false)
      (items.filter fun i => !i.disabled)
    simpa [hpart] using hsplit
  have hhidden : (hiddenSettings items ++ hidden items).Perm
      (items.filter fun i => !!i.disabled) := by
    have hsplit := List.filter_append_perm DisplayItem.isSettings
      (items.filter fun i => !!i.disabled)
    simpa [hiddenSettings, hidden, List.filter_filter, Bool.and_comm] using hsplit
  exact (hshown.append hhidden).trans (List.filter_append_perm _ items)

/-- Arranging changes neither the codes nor which of them is the settings. -/
theorem arranged_perm (items : List DisplayItem) :
    ((arranged items).map fun i => (i.code, i.isSettings)).Perm
      (items.map fun i => (i.code, i.isSettings)) := by
  have hparts := (parts_perm items).map fun i => (i.code, i.isSettings)
  simpa [arranged, Function.comp_def, DisplayItem.labelled, DisplayItem.putBack,
    DisplayItem.setAside] using hparts

theorem regular_arranged (h : Regular items) : Regular (arranged items) := by
  have hperm := arranged_perm items
  have hcodes : ((arranged items).map DisplayItem.code).Perm (items.map DisplayItem.code) := by
    have hfirst := hperm.map Prod.fst
    rwa [List.map_map, List.map_map] at hfirst
  refine ⟨hcodes.nodup_iff.2 h.distinct, fun i hi => ?_, ?_⟩
  · obtain ⟨j, hj, hcode⟩ := List.mem_map.1 (hcodes.mem_iff.1 (List.mem_map_of_mem hi))
    rw [← hcode]
    exact h.proper j hj
  · have hcount := hperm.countP_eq Prod.snd
    rw [List.countP_map, List.countP_map] at hcount
    exact Nat.le_trans (Nat.le_of_eq hcount) h.settings

/-- A menu that is rebuilt from the view of it is the menu arranged, and that one stays as it is
when it is rebuilt in turn. -/
theorem items_ofItems_arranged (h : Regular items) (more again : String) :
    (ofItems items more).items = .ok (arranged items) ∧
      (ofItems (arranged items) again).items = .ok (arranged items) := by
  refine ⟨h.items_ofItems_eq_arranged more, ?_⟩
  obtain ⟨main, behind, others, harranged, horder⟩ := inOrder_arranged items
  rw [(regular_arranged h).items_ofItems_eq_arranged again, harranged, horder.arranged_eq]

/-- A menu with an item in each part and two that are not shown, the settings the first of them. -/
def unorderedMenu : List DisplayItem :=
  [⟨"stress", "Stress", false, true, false⟩, ⟨"settings", "Set,tings", true, false, true⟩,
   ⟨"music", "Music", true, true, false⟩, ⟨"clock", "Clock, world", false, false, false⟩]

theorem items_ofItems_arranged_unorderedMenu :
    Regular unorderedMenu ∧
      arranged unorderedMenu =
        [⟨"clock", "Clock world", false, false, false⟩, ⟨"stress", "Stress", false, true, false⟩,
         ⟨"settings", "Settings", false, true, true⟩, ⟨"music", "Music", true, false, false⟩] ∧
      (ofItems unorderedMenu "More").items = .ok (arranged unorderedMenu) ∧
      (ofItems (arranged unorderedMenu) "More, apps").items = .ok (arranged unorderedMenu) := by
  have hregular : Regular unorderedMenu :=
    { distinct := by decide, proper := by decide, settings := by decide }
  exact ⟨hregular, by decide, items_ofItems_arranged hregular "More" "More, apps"⟩

end MenuView

end WatchLink
