import Mathlib.Data.List.Nodup
import WatchLink.Device.Menu

/-!
# A menu and the view of it

The view of a menu holds as much of it as a host can edit. Rebuilding the menu from an untouched
view gives what is shown in its order, first the one part and then the other, the settings if they
were not shown, and then the rest; all under labels, that is under names without commas. For that
the codes have to tell the items apart, and none may be the code that stands between the parts.
-/

namespace WatchLink

/-- The item under its label. -/
def DisplayItem.labelled (i : DisplayItem) : DisplayItem :=
  { i with name := Text.withoutCommas i.name }

/-- The item under its label and in no part, as one stands that is not shown. -/
def DisplayItem.setAside (i : DisplayItem) : DisplayItem :=
  { i.labelled with inMoreSection := false }

namespace MenuView

/-- A menu whose items can be told apart by their codes, at most one of them the settings. -/
structure Regular (items : List DisplayItem) : Prop where
  distinct : (items.map DisplayItem.code).Nodup
  proper : ∀ i ∈ items, i.code ≠ moreCode
  settings : items.countP DisplayItem.isSettings ≤ 1

/-- What is shown in one part of the menu. -/
def part (items : List DisplayItem) (inMore : Bool) : List DisplayItem :=
  items.filter fun i => !i.disabled && i.inMoreSection == inMore

/-- The settings, where they are not shown. -/
def hiddenSettings (items : List DisplayItem) : List DisplayItem :=
  items.filter fun i => i.isSettings && i.disabled

/-- What is not shown, apart from the settings. -/
def hidden (items : List DisplayItem) : List DisplayItem :=
  items.filter fun i => i.disabled && !i.isSettings

theorem shown_eq (items : List DisplayItem) (inMore : Bool) :
    shown items inMore = (part items inMore).map DisplayItem.code := rfl

theorem mem_part {items : List DisplayItem} {inMore : Bool} {i : DisplayItem} :
    i ∈ part items inMore ↔ i ∈ items ∧ i.disabled = false ∧ i.inMoreSection = inMore := by
  simp [part]

variable {items : List DisplayItem}

theorem Regular.eq_of_code_eq (h : Regular items) {i j : DisplayItem} (hi : i ∈ items)
    (hj : j ∈ items) (hcode : i.code = j.code) : i = j :=
  List.inj_on_of_nodup_map h.distinct hi hj hcode

/-- The code of the settings is that of the one item that is the settings. -/
theorem Regular.settingsOf_eq_some_iff (h : Regular items) {i : DisplayItem} (hi : i ∈ items) :
    settingsOf items = some i.code ↔ i.isSettings = true := by
  have hcount := h.settings
  rw [List.countP_eq_length_filter] at hcount
  constructor
  · intro hsettings
    obtain ⟨j, hlast, hcode⟩ := Option.map_eq_some_iff.1 hsettings
    obtain ⟨hj, hset⟩ := List.mem_filter.1 (List.mem_of_getLast? hlast)
    rwa [h.eq_of_code_eq hi hj hcode.symm]
  · intro hset
    have hmem : i ∈ items.filter DisplayItem.isSettings := List.mem_filter.2 ⟨hi, hset⟩
    obtain ⟨j, hone⟩ := List.length_eq_one_iff.1
      (Nat.le_antisymm hcount (List.length_pos_of_mem hmem))
    rw [hone, List.mem_singleton] at hmem
    rw [settingsOf, hone, hmem]
    rfl

/-! ## Codes and labels -/

theorem zip_ofItems (items : List DisplayItem) (more : String) :
    (ofItems items more).codes.zip (ofItems items more).labels =
      items.map (fun i => (i.code, Text.withoutCommas i.name)) ++
        [(moreCode, Text.withoutCommas more)] := by
  have hlength : (items.map DisplayItem.code).length =
      (items.map fun i => Text.withoutCommas i.name).length := by simp
  simp only [ofItems]
  rw [List.zip_append hlength, List.zip_map']
  rfl

/-- Every item's label is found under its code. -/
theorem Regular.label?_ofItems (h : Regular items) (more : String) {i : DisplayItem}
    (hi : i ∈ items) :
    (ofItems items more).label? i.code = some (Text.withoutCommas i.name) := by
  obtain ⟨before, after, rfl⟩ := List.append_of_mem hi
  have hlater : ∀ j ∈ after, i.code ≠ j.code := by
    have hdistinct := h.distinct
    rw [List.map_append, List.map_cons, List.nodup_append, List.nodup_cons] at hdistinct
    intro j hj hcode
    exact hdistinct.2.1.1 (hcode ▸ List.mem_map_of_mem hj)
  have hmore : i.code ≠ moreCode := h.proper i hi
  rw [label?, zip_ofItems, List.lookup_eq_some_iff]
  refine ⟨(moreCode, Text.withoutCommas more) ::
      (after.map fun j => (j.code, Text.withoutCommas j.name)).reverse,
    (before.map fun j => (j.code, Text.withoutCommas j.name)).reverse, ?_, ?_⟩
  · simp
  · intro entry hmem
    rw [bne_iff_ne]
    rcases List.mem_cons.1 hmem with rfl | hentry
    · exact hmore
    · obtain ⟨j, hj, rfl⟩ := List.mem_map.1 (List.mem_reverse.1 hentry)
      exact hlater j hj

/-! ## What is shown -/

/-- An item as a host has it shown. -/
def shownAs (v : MenuView) (inMore : Bool) (i : DisplayItem) : DisplayItem where
  code := i.code
  name := Text.withoutCommas i.name
  disabled := false
  inMoreSection := inMore
  isSettings := v.settingsCode = some i.code

/-- Items that are found by their codes are rebuilt one by one. -/
theorem enabledItems_append (v : MenuView) (inMore : Bool) (shown : List DisplayItem)
    (rest : List String)
    (h : ∀ i ∈ shown, i.code ≠ moreCode ∧ v.label? i.code = some (Text.withoutCommas i.name)) :
    v.enabledItems inMore (shown.map DisplayItem.code ++ rest) =
      shown.map (v.shownAs inMore) ++ v.enabledItems inMore rest := by
  induction shown with
  | nil => rfl
  | cons i shown ih =>
      obtain ⟨⟨hmore, hlabel⟩, hrest⟩ := List.forall_mem_cons.1 h
      rw [List.map_cons, List.cons_append, enabledItems, if_neg hmore, hlabel, ih hrest]
      rfl

theorem Regular.shownAs_part (h : Regular items) (more : String) (inMore : Bool) :
    (part items inMore).map ((ofItems items more).shownAs inMore) =
      (part items inMore).map DisplayItem.labelled := by
  refine List.map_congr_left fun i hmem => ?_
  obtain ⟨hi, hshown, hpart⟩ := mem_part.1 hmem
  have hsettings : decide ((ofItems items more).settingsCode = some i.code) = i.isSettings := by
    rw [Bool.eq_iff_iff, decide_eq_true_iff]
    exact h.settingsOf_eq_some_iff hi
  rw [shownAs, DisplayItem.labelled, hsettings, hshown, hpart]

/-- An item's code is shown just when the item is. -/
theorem Regular.mem_enabled_iff (h : Regular items) (more : String) {i : DisplayItem}
    (hi : i ∈ items) : i.code ∈ (ofItems items more).enabled ↔ i.disabled = false := by
  have hshown (inMore : Bool) :
      i.code ∈ shown items inMore ↔ i.disabled = false ∧ i.inMoreSection = inMore := by
    rw [shown_eq, List.mem_map]
    constructor
    · rintro ⟨j, hj, hcode⟩
      obtain ⟨hmem, hpart⟩ := mem_part.1 hj
      rwa [← h.eq_of_code_eq hmem hi hcode]
    · exact fun hpart => ⟨i, mem_part.2 ⟨hi, hpart⟩, rfl⟩
  have henabled : i.code ∈ (ofItems items more).enabled ↔
      i.code ∈ shown items false ∨ i.code ∈ shown items true := by
    simp only [ofItems, List.mem_append]
    refine or_congr_right ?_
    split
    · rename_i hnone
      rw [hnone]
    · exact List.mem_cons.trans (or_iff_right (h.proper i hi))
  rw [henabled, hshown, hshown]
  cases i.inMoreSection <;> simp

/-- The settings are put at the end if they are not shown. -/
theorem Regular.completed_ofItems (h : Regular items) (more : String) :
    (ofItems items more).completed =
      (ofItems items more).enabled ++ (hiddenSettings items).map DisplayItem.code := by
  have hhidden : hiddenSettings items =
      (items.filter DisplayItem.isSettings).filter DisplayItem.disabled := by
    rw [List.filter_filter, hiddenSettings]
    exact List.filter_congr fun i _ => Bool.and_comm _ _
  have hcount := h.settings
  rw [List.countP_eq_length_filter] at hcount
  rw [completed, hhidden]
  cases hone : items.filter DisplayItem.isSettings with
  | nil =>
      have hcode : (ofItems items more).settingsCode = none := by
        change settingsOf items = none
        rw [settingsOf, hone]
        rfl
      rw [hcode]
      exact (List.append_nil _).symm
  | cons j others =>
      obtain ⟨hj, hset⟩ := List.mem_filter.1 (hone ▸ List.mem_cons_self)
      have hcode : (ofItems items more).settingsCode = some j.code :=
        (h.settingsOf_eq_some_iff hj).2 hset
      rw [hone, List.length_cons] at hcount
      obtain rfl : others = [] := List.length_eq_zero_iff.1 (by omega)
      rw [hcode]
      simp only [h.mem_enabled_iff more hj]
      cases hshown : j.disabled with
      | false => simp [hshown]
      | true => simp [hshown]

/-- What is rebuilt as shown: the two parts, and behind them the settings if they were not. -/
theorem Regular.enabledItems_ofItems (h : Regular items) (more : String) :
    (ofItems items more).enabledItems false (ofItems items more).completed =
      (part items false).map DisplayItem.labelled ++ (part items true).map DisplayItem.labelled ++
        (hiddenSettings items).map ((ofItems items more).shownAs (part items true ≠ [])) := by
  have hfound (xs : List DisplayItem) (hxs : ∀ i ∈ xs, i ∈ items) : ∀ i ∈ xs, i.code ≠ moreCode ∧
      (ofItems items more).label? i.code = some (Text.withoutCommas i.name) :=
    fun i hi => ⟨h.proper i (hxs i hi), h.label?_ofItems more (hxs i hi)⟩
  have hpart (inMore : Bool) := hfound (part items inMore) fun i hi => (mem_part.1 hi).1
  have hsettings := hfound (hiddenSettings items) fun i hi => (List.mem_filter.1 hi).1
  have hend (inMore : Bool) : (ofItems items more).enabledItems inMore
      ((hiddenSettings items).map DisplayItem.code) =
        (hiddenSettings items).map ((ofItems items more).shownAs inMore) := by
    have hall := enabledItems_append (ofItems items more) inMore (hiddenSettings items) [] hsettings
    rwa [List.append_nil, enabledItems, List.append_nil] at hall
  rw [h.completed_ofItems, ← h.shownAs_part more false, ← h.shownAs_part more true]
  change (ofItems items more).enabledItems false
    ((shown items false ++ if shown items true = [] then [] else moreCode :: shown items true) ++
      (hiddenSettings items).map DisplayItem.code) = _
  rw [List.append_assoc, shown_eq, enabledItems_append _ _ _ _ (hpart false), shown_eq]
  by_cases hmore : part items true = []
  · rw [hmore, if_pos (List.map_nil), List.nil_append, hend]
    simp
  · rw [if_neg (mt List.map_eq_nil_iff.1 hmore), List.cons_append, enabledItems, if_pos rfl,
      enabledItems_append _ _ _ _ (hpart true), hend]
    simp [hmore]

/-! ## What is not shown -/

theorem Regular.disabledItems_ofItems (h : Regular items) (more : String) :
    (ofItems items more).disabledItems =
      (hidden items).map DisplayItem.setAside := by
  have hcode : ∀ i ∈ items, decide (i.code ≠ moreCode ∧ i.code ∉ (ofItems items more).completed) =
      (i.disabled && !i.isSettings) := by
    intro i hi
    have hsettings : i.code ∈ (hiddenSettings items).map DisplayItem.code ↔
        i.isSettings = true ∧ i.disabled = true := by
      rw [List.mem_map]
      constructor
      · rintro ⟨j, hj, hcode⟩
        obtain ⟨hmem, hboth⟩ := List.mem_filter.1 hj
        rw [← h.eq_of_code_eq hmem hi hcode]
        exact Bool.and_eq_true_iff.1 hboth
      · exact fun hboth => ⟨i, List.mem_filter.2 ⟨hi, Bool.and_eq_true_iff.2 hboth⟩, rfl⟩
    rw [Bool.eq_iff_iff, decide_eq_true_iff, and_iff_right (h.proper i hi), h.completed_ofItems,
      List.mem_append, h.mem_enabled_iff more hi, hsettings]
    cases i.disabled <;> simp
  have hend : decide (moreCode ≠ moreCode ∧ moreCode ∉ (ofItems items more).completed) = false :=
    decide_eq_false fun hboth => hboth.1 rfl
  rw [disabledItems, zip_ofItems, List.filter_append, List.filter_map, hidden]
  simp only [List.filter_cons, hend, List.filter_nil, Bool.false_eq_true, if_false, List.append_nil,
    List.map_map, Function.comp_def]
  rw [List.filter_congr hcode]
  refine List.map_congr_left fun i hmem => ?_
  obtain ⟨hdisabled, hset⟩ := Bool.and_eq_true_iff.1 (List.mem_filter.1 hmem).2
  have hplain : i.isSettings = false := by simpa using hset
  rw [DisplayItem.setAside, DisplayItem.labelled, hdisabled, hplain]

/-- A menu that is rebuilt from the view of it. -/
theorem Regular.items_ofItems (h : Regular items) (more : String) :
    (ofItems items more).items = .ok
      ((part items false).map DisplayItem.labelled ++ (part items true).map DisplayItem.labelled ++
        (hiddenSettings items).map ((ofItems items more).shownAs (part items true ≠ [])) ++
        (hidden items).map DisplayItem.setAside) := by
  have hcodes : (ofItems items more).codes ≠ [] := by simp [ofItems]
  have hlengths : (ofItems items more).codes.length = (ofItems items more).labels.length := by
    simp [ofItems]
  rw [MenuView.items, if_neg hcodes, if_neg (not_not_intro hlengths), h.enabledItems_ofItems,
    h.disabledItems_ofItems]

end MenuView

end WatchLink
