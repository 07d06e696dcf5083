import WatchLink.Device
import WatchLink.Proofs.Device.Menu
import WatchLink.Proofs.Preferences.Updates
import WatchLink.Proofs.Text.Listing

/-!
# A menu that is kept with the preferences

What the watch says of its menu is put into the host's preferences, as lists of codes and labels,
and a change of these has the menu rebuilt and sent. In between the lists are texts, and a text
gives back a list without its empty names. Codes are never empty, so they come back; but an item
whose name is empty, or made of commas, has an empty label. One such item makes the list of labels
shorter than that of codes, and then nothing is sent at all.
-/

namespace WatchLink

namespace MenuView

/-- A menu whose codes can be listed in a text, the settings among what is shown. -/
structure Listed (items : List DisplayItem) : Prop extends Regular items where
  named : ∀ i ∈ items, i.code ≠ "" ∧ ',' ∉ i.code.toList
  reachable : ∀ i ∈ items, i.isSettings = true → i.disabled = false

/-- A menu shows what another does, in the same order and under labels; it has the same items that
are not shown, and the same settings. -/
structure Keeps (items kept : List DisplayItem) : Prop where
  shown : ∀ inMore, part kept inMore = (part items inMore).map DisplayItem.labelled
  disabled : (kept.filter DisplayItem.disabled).map DisplayItem.code =
    (items.filter DisplayItem.disabled).map DisplayItem.code
  settings : settingsOf kept = settingsOf items

/-- A menu as it comes back: what is shown, one part behind the other, and then the rest. -/
def rebuilt (items : List DisplayItem) : List DisplayItem :=
  (part items false).map DisplayItem.labelled ++ (part items true).map DisplayItem.labelled ++
    (hidden items).map DisplayItem.setAside

variable {items : List DisplayItem}

theorem Listed.items_ofItems (h : Listed items) (more : String) :
    (ofItems items more).items = .ok (rebuilt items) := by
  have hnone : hiddenSettings items = [] := by
    refine List.filter_eq_nil_iff.2 fun i hi hboth => ?_
    obtain ⟨hset, hdisabled⟩ := Bool.and_eq_true_iff.1 hboth
    rw [h.reachable i hi hset] at hdisabled
    exact Bool.noConfusion hdisabled
  rw [h.toRegular.items_ofItems, hnone, List.map_nil, List.append_nil]
  rfl

theorem of_mem_shown {inMore : Bool} {i : DisplayItem}
    (hmem : i ∈ (part items inMore).map DisplayItem.labelled) :
    i.disabled = false ∧ i.inMoreSection = inMore := by
  obtain ⟨j, hj, rfl⟩ := List.mem_map.1 hmem
  exact (mem_part.1 hj).2

theorem of_mem_setAside {i : DisplayItem} (hmem : i ∈ (hidden items).map DisplayItem.setAside) :
    i.disabled = true ∧ i.isSettings = false := by
  obtain ⟨j, hj, rfl⟩ := List.mem_map.1 hmem
  obtain ⟨hdisabled, hplain⟩ := Bool.and_eq_true_iff.1 (List.mem_filter.1 hj).2
  exact ⟨hdisabled, Bool.not_eq_true' _ ▸ hplain⟩

theorem part_rebuilt (items : List DisplayItem) (inMore : Bool) :
    part (rebuilt items) inMore = (part items inMore).map DisplayItem.labelled := by
  have hshown (b : Bool) : part ((part items b).map DisplayItem.labelled) inMore =
      if b = inMore then (part items b).map DisplayItem.labelled else [] := by
    split
    · rename_i hb
      refine List.filter_eq_self.2 fun i hmem => ?_
      simp [of_mem_shown hmem, hb]
    · rename_i hb
      refine List.filter_eq_nil_iff.2 fun i hmem => ?_
      simp [of_mem_shown hmem, hb]
  have hrest : part ((hidden items).map DisplayItem.setAside) inMore = [] := by
    refine List.filter_eq_nil_iff.2 fun i hmem => ?_
    simp [of_mem_setAside hmem]
  have happend (xs ys : List DisplayItem) : part (xs ++ ys) inMore =
      part xs inMore ++ part ys inMore := List.filter_append ..
  rw [rebuilt, happend, happend, hshown, hshown, hrest]
  cases inMore <;> simp

theorem Listed.disabled_rebuilt (h : Listed items) :
    ((rebuilt items).filter DisplayItem.disabled).map DisplayItem.code =
      (items.filter DisplayItem.disabled).map DisplayItem.code := by
  have hshown (b : Bool) :
      ((part items b).map DisplayItem.labelled).filter DisplayItem.disabled = [] :=
    List.filter_eq_nil_iff.2 fun i hmem => by simp [of_mem_shown hmem]
  have hrest : ((hidden items).map DisplayItem.setAside).filter DisplayItem.disabled =
      (hidden items).map DisplayItem.setAside :=
    List.filter_eq_self.2 fun i hmem => (of_mem_setAside hmem).1
  -- the settings are shown, so what is hidden is all that is not shown
  have hhidden : hidden items = items.filter DisplayItem.disabled := by
    refine List.filter_congr fun i hi => ?_
    cases hset : i.isSettings with
    | false => simp
    | true => simp [h.reachable i hi hset]
  rw [rebuilt, List.filter_append, List.filter_append, hshown, hshown, hrest, hhidden,
    List.nil_append, List.nil_append, List.map_map]
  rfl

theorem Listed.settingsOf_rebuilt (h : Listed items) :
    settingsOf (rebuilt items) = settingsOf items := by
  have hshown (b : Bool) :
      ((part items b).map DisplayItem.labelled).filter DisplayItem.isSettings =
        (part (items.filter DisplayItem.isSettings) b).map DisplayItem.labelled := by
    rw [List.filter_map, part, part, List.filter_filter, List.filter_filter]
    refine congrArg (List.map DisplayItem.labelled) (List.filter_congr fun i _ => ?_)
    exact Bool.and_comm _ _
  have hrest : ((hidden items).map DisplayItem.setAside).filter DisplayItem.isSettings = [] :=
    List.filter_eq_nil_iff.2 fun i hmem => by simp [of_mem_setAside hmem]
  have hcount := h.settings
  rw [List.countP_eq_length_filter] at hcount
  rw [settingsOf, settingsOf, rebuilt, List.filter_append, List.filter_append, hshown, hshown,
    hrest, List.append_nil]
  cases hone : items.filter DisplayItem.isSettings with
  | nil => rfl
  | cons j others =>
      rw [hone, List.length_cons] at hcount
      obtain rfl : others = [] := List.length_eq_zero_iff.1 (by omega)
      obtain ⟨hj, hset⟩ := List.mem_filter.1 (hone ▸ List.mem_cons_self)
      have hdisabled := h.reachable j hj hset
      cases hpart : j.inMoreSection <;> simp [part, hdisabled, hpart, DisplayItem.labelled]

theorem Listed.keeps_rebuilt (h : Listed items) : Keeps items (rebuilt items) :=
  ⟨part_rebuilt items, h.disabled_rebuilt, h.settingsOf_rebuilt⟩

/-! ## The lists as texts -/

theorem Listed.mem_codes (h : Listed items) (more : String) {code : String}
    (hmem : code ∈ (ofItems items more).codes) : code ≠ "" ∧ ',' ∉ code.toList := by
  rcases List.mem_append.1 hmem with hcode | hend
  · obtain ⟨i, hi, rfl⟩ := List.mem_map.1 hcode
    exact h.named i hi
  · rw [List.mem_singleton.1 hend]
    decide

theorem Listed.mem_enabled (h : Listed items) {more code : String}
    (hmem : code ∈ (ofItems items more).enabled) : code ≠ "" ∧ ',' ∉ code.toList := by
  have hshown {inMore : Bool} (hcode : code ∈ shown items inMore) :
      code ∈ (ofItems items more).codes := by
    obtain ⟨i, hi, rfl⟩ := List.mem_map.1 hcode
    exact List.mem_append_left _ (List.mem_map_of_mem (List.mem_of_mem_filter hi))
  refine h.mem_codes more ?_
  rcases List.mem_append.1 hmem with hmain | hrest
  · exact hshown hmain
  · split at hrest
    · exact absurd hrest List.not_mem_nil
    · rcases List.mem_cons.1 hrest with rfl | hcode
      · exact List.mem_append_right _ (List.mem_singleton_self _)
      · exact hshown hcode

/-- Labels never hold a comma. -/
theorem not_mem_labels {more label : String} (hmem : label ∈ (ofItems items more).labels) :
    ',' ∉ label.toList := by
  rcases List.mem_append.1 hmem with hlabel | hend
  · obtain ⟨i, -, rfl⟩ := List.mem_map.1 hlabel
    exact Text.not_mem_withoutCommas _
  · rw [List.mem_singleton.1 hend]
    exact Text.not_mem_withoutCommas _

/-- The view that its texts give back. -/
def readBack (v : MenuView) : MenuView := { v with labels := v.labels.filter (· ≠ "") }

/-- The labels all come back just when every item has one, as the section behind them has. -/
theorem readBack_ofItems_iff {more : String} (hmore : more ≠ "" ∧ ',' ∉ more.toList) :
    (ofItems items more).readBack = ofItems items more ↔
      ∀ i ∈ items, Text.withoutCommas i.name ≠ "" := by
  have hlabels : (ofItems items more).readBack = ofItems items more ↔
      (ofItems items more).labels.filter (· ≠ "") = (ofItems items more).labels :=
    ⟨congrArg MenuView.labels, fun h => congrArg (fun labels =>
      { ofItems items more with labels := labels }) h⟩
  rw [hlabels, List.filter_eq_self]
  simp only [ofItems, List.mem_append, List.mem_map, List.mem_singleton,
    Text.withoutCommas_of_not_mem hmore.2, decide_eq_true_eq]
  constructor
  · exact fun hall i hi => hall _ (.inl ⟨i, hi, rfl⟩)
  · rintro hall label (⟨i, hi, rfl⟩ | rfl)
    · exact hall i hi
    · exact hmore.1

/-- Where a label is missing the menu cannot be rebuilt. -/
theorem items_readBack_of_ne {more : String}
    (h : (ofItems items more).readBack ≠ ofItems items more) :
    ∃ error, (ofItems items more).readBack.items = .error error := by
  have hlengths : (ofItems items more).labels.length = (ofItems items more).codes.length := by
    simp [ofItems]
  have hshorter : ((ofItems items more).labels.filter (· ≠ "")).length ≠
      (ofItems items more).labels.length := by
    intro hlength
    have hall := List.length_filter_eq_length_iff.1 hlength
    exact h (congrArg (fun labels => { ofItems items more with labels := labels })
      (List.filter_eq_self.2 hall))
  have hcodes : (ofItems items more).codes ≠ [] := by simp [ofItems]
  have hmismatch : (ofItems items more).readBack.codes.length ≠
      (ofItems items more).readBack.labels.length :=
    fun heq => hshorter (heq.symm.trans hlengths.symm)
  exact ⟨_, (if_neg hcodes).trans (if_pos hmismatch)⟩

end MenuView

namespace DeviceService

open MenuView

variable {items : List DisplayItem}

/-- The view that is read where four texts were put, whatever was kept before. -/
theorem menuView_update (p : Preferences) (codes labels enabled : String)
    (settings : PreferenceValue) :
    menuView (p.update [(menuCodesKey, .text codes), (menuLabelsKey, .text labels),
      (menuSettingsKey, settings), (menuKey, .text enabled)]) =
      { codes := Text.names codes
        labels := Text.names labels
        enabled := Text.names enabled
        settingsCode := Preferences.left? settings } := by
  have hcodes : menuCodesKey ∉ [menuLabelsKey, menuSettingsKey, menuKey] := by decide
  have hlabels : menuLabelsKey ∉ [menuSettingsKey, menuKey] := by decide
  have hsettings : menuSettingsKey ∉ [menuKey] := by decide
  simp only [menuView, MenuView.mk.injEq]
  refine ⟨?_, ?_, ?_, ?_⟩
  · exact p.list_update_append_cons [] hcodes
  · exact p.list_update_append_cons [_] hlabels
  · exact p.list_update_append_cons [_, _, _] List.not_mem_nil
  · exact p.get?_update_append_cons [_, _] hsettings

/-- What the watch says of its menu leaves the view of it in the preferences, as it is read back. -/
theorem handleMenu_kept (h : Listed items) (s : DeviceService) :
    ∃ event, s.handleMenu items = .ofEvent event ∧ ∀ preferences : Preferences,
      menuView (preferences.apply event) = (ofItems items s.messages.more).readBack := by
  refine ⟨_, rfl, fun preferences => ?_⟩
  rw [Preferences.apply, menuView_update,
    Text.names_joined_of_ne (fun _ hmem => (h.mem_codes _ hmem).2)
      (fun _ hmem => (h.mem_codes _ hmem).1),
    Text.names_joined _ (fun _ hmem => not_mem_labels hmem),
    Text.names_joined_of_ne (fun _ hmem => (h.mem_enabled hmem).2)
      (fun _ hmem => (h.mem_enabled hmem).1), readBack]
  cases hsettings : (ofItems items s.messages.more).settingsCode <;> rfl

/-- A menu is sent as it was kept if every item has a label, and otherwise not at all. -/
theorem setMenu_kept (h : Listed items) {more : String} (hmore : more ≠ "" ∧ ',' ∉ more.toList)
    {host : HostView} (hview : menuView host.preferences = (ofItems items more).readBack) :
    setMenu host = if ∀ i ∈ items, Text.withoutCommas i.name ≠ "" then
      .ofCommand "set display items" (message menuSetSubtype (.displayItems (rebuilt items)))
    else {} := by
  by_cases hlabels : ∀ i ∈ items, Text.withoutCommas i.name ≠ ""
  · rw [if_pos hlabels, setMenu, hview, (readBack_ofItems_iff hmore).2 hlabels, h.items_ofItems]
  · obtain ⟨error, herror⟩ := items_readBack_of_ne (mt (readBack_ofItems_iff hmore).1 hlabels)
    rw [if_neg hlabels, setMenu, hview, herror]

/-- The watch's menu comes back from the preferences. Whatever these were, after what the watch said
of its menu a change of the menu's key sends one that keeps it, and nothing else; but only if every
item's name has something besides commas. If one has not, nothing is sent. -/
theorem configure_keptMenu (h : Listed items) {s : DeviceService}
    (hmore : s.messages.more ≠ "" ∧ ',' ∉ s.messages.more.toList) (t : DeviceService)
    (host later : HostView) :
    ∃ event, Service.onCommand s host (message menuGetSubtype (.displayItems items)) =
        (s, .ofEvent event, .ok ()) ∧
      ∃ kept, Keeps items kept ∧
        Service.onConfiguration t
            { later with preferences := host.preferences.apply event } menuKey =
          (t, if ∀ i ∈ items, Text.withoutCommas i.name ≠ "" then
              .ofCommand "set display items" (message menuSetSubtype (.displayItems kept))
            else {}, true) := by
  obtain ⟨event, hevent, hview⟩ := handleMenu_kept h s
  have hsays : s.handle (message menuGetSubtype (.displayItems items)) =
      (s, s.handleMenu items, .ok ()) := rfl
  have hkey (host : HostView) : t.configure host menuKey = (setMenu host, true) := rfl
  refine ⟨event, hevent ▸ hsays, rebuilt items, h.keeps_rebuilt, ?_⟩
  change (t, t.configure _ menuKey) = _
  rw [hkey, setMenu_kept h hmore (hview host.preferences)]

/-- A menu with both parts, the settings in the second, and a name with a comma. -/
def mixedMenu : List DisplayItem :=
  [⟨"stress", "Stress", false, true, false⟩, ⟨"clock", "Clock, world", false, false, false⟩,
   ⟨"music", "Music", true, true, false⟩, ⟨"settings", "Settings", false, true, true⟩]

/-- A host that still keeps what another watch has said. -/
def staleHost : HostView where
  preferences := ⟨[(menuCodesKey, "a,b"), (menuLabelsKey, "A"), (menuSettingsKey, "b")]⟩
  now := ⟨2024, 1, 1, 0, 0, 0, 0, 0, 0, "UTC"⟩

theorem configure_keptMenu_mixed :
    ∃ event, Service.onCommand (ofConfig {} {}) staleHost
          (message menuGetSubtype (.displayItems mixedMenu)) =
        (ofConfig {} {}, .ofEvent event, .ok ()) ∧
      ∃ kept, Keeps mixedMenu kept ∧
        Service.onConfiguration (ofConfig {} {})
            { staleHost with preferences := staleHost.preferences.apply event } menuKey =
          (ofConfig {} {}, .ofCommand "set display items"
            (message menuSetSubtype (.displayItems kept)), true) := by
  have hlisted : Listed mixedMenu :=
    { distinct := by decide, proper := by decide, settings := by decide, named := by decide
      reachable := by decide }
  have hnames : ∀ i ∈ mixedMenu, Text.withoutCommas i.name ≠ "" := by decide
  obtain ⟨event, hsays, kept, hkeeps, hsent⟩ := configure_keptMenu hlisted
    (s := ofConfig {} {}) (by decide) (ofConfig {} {}) staleHost staleHost
  rw [if_pos hnames] at hsent
  exact ⟨event, hsays, kept, hkeeps, hsent⟩

/-- An item whose name is a comma keeps the whole menu from being sent. -/
theorem configure_commaMenu :
    Listed [⟨"clock", ",", false, false, false⟩] ∧
      ∃ event, Service.onCommand (ofConfig {} {}) staleHost
          (message menuGetSubtype (.displayItems [⟨"clock", ",", false, false, false⟩])) =
            (ofConfig {} {}, .ofEvent event, .ok ()) ∧
        Service.onConfiguration (ofConfig {} {})
            { staleHost with preferences := staleHost.preferences.apply event } menuKey =
          (ofConfig {} {}, {}, true) := by
  have hlisted : Listed [⟨"clock", ",", false, false, false⟩] :=
    { distinct := by decide, proper := by decide, settings := by decide, named := by decide
      reachable := by decide }
  refine ⟨hlisted, _, rfl, ?_⟩
  decide +kernel

end DeviceService

end WatchLink
