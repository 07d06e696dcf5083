import WatchLink.Proofs.Device.Menu

/-!
# What an edited menu is rebuilt as

A host may do to the list of what is shown whatever it likes: name a code twice or one that does not
exist, put `more` in several places or leave it out. Whatever it did, rebuilding loses no code and
makes none up. The codes of the completed list come first, in its order and as often as it has them,
behind "more" just where a `more` stands before them in it; all other codes of the menu follow, not
shown. Only a view without codes, or with another number of labels, is refused.
-/

namespace WatchLink.MenuView

/-- The codes of a list, each with whether it stands behind `more`: on the way to the list one was
met, or the list has one before it. -/
def sections (inMore : Bool) (codes : List String) : List (String × Bool) :=
  codes.mapIdx fun place code => (code, inMore || decide (moreCode ∈ codes.take place))

/-- How often a code stands in a menu, among what is shown or among what is not. -/
def occurrences (items : List DisplayItem) (code : String) (disabled : Bool) : Nat :=
  items.countP fun i => i.code = code ∧ i.disabled = disabled

/-- What is shown and what is not, in a menu that was rebuilt from a view. -/
structure Rebuilt (v : MenuView) (shown hidden : List DisplayItem) : Prop where
  enabled : ∀ i ∈ shown, i.disabled = false
  disabled : ∀ i ∈ hidden, i.disabled = true
  /-- What is shown is the completed list without `more` and without codes the menu has not. -/
  order : shown.map (fun i => (i.code, i.inMoreSection)) =
    (sections false v.completed).filter fun place => place.1 ∈ v.codes ∧ place.1 ≠ moreCode
  rest : hidden.map DisplayItem.code =
    v.codes.filter fun code => code ≠ moreCode ∧ code ∉ v.completed
  restPart : ∀ i ∈ hidden, i.inMoreSection = false
  settings : ∀ i ∈ shown ++ hidden,
    i.isSettings = true ↔ i.disabled = false ∧ v.settingsCode = some i.code
  labelled : ∀ i ∈ shown ++ hidden, (i.code, i.name) ∈ v.codes.zip v.labels
  proper : ∀ i ∈ shown ++ hidden, i.code ∈ v.codes ∧ i.code ≠ moreCode
  kept : ∀ code ∈ v.codes, code ≠ moreCode → code ∈ v.completed →
    occurrences (shown ++ hidden) code false = v.completed.count code ∧
      occurrences (shown ++ hidden) code true = 0
  setAside : ∀ code ∈ v.codes, code ≠ moreCode → code ∉ v.completed →
    occurrences (shown ++ hidden) code false = 0 ∧
      occurrences (shown ++ hidden) code true = v.codes.count code

/-! ## Labels -/

section

variable (v : MenuView)

/-- Where there are as many labels as codes, every code has one. -/
theorem isSome_label?_iff (h : v.codes.length = v.labels.length) (code : String) :
    (v.label? code).isSome = true ↔ code ∈ v.codes := by
  rw [label?, List.lookup_isSome_iff]
  constructor
  · rintro ⟨⟨found, label⟩, hmem, heq⟩
    obtain rfl := eq_of_beq heq
    exact (List.of_mem_zip (List.mem_reverse.1 hmem)).1
  · intro hcode
    rw [← List.map_fst_zip (Nat.le_of_eq h)] at hcode
    obtain ⟨entry, hentry, rfl⟩ := List.mem_map.1 hcode
    exact ⟨entry, List.mem_reverse.2 hentry, beq_self_eq_true _⟩

theorem mem_zip_of_label? {code label : String} (h : v.label? code = some label) :
    (code, label) ∈ v.codes.zip v.labels := by
  obtain ⟨before, after, hsplit, -⟩ := List.lookup_eq_some_iff.1 h
  rw [← List.mem_reverse, hsplit]
  exact List.mem_append_right _ List.mem_cons_self

/-! ## What is shown -/

theorem sections_cons (inMore : Bool) (code : String) (codes : List String) :
    sections inMore (code :: codes) =
      (code, inMore) :: sections (inMore || decide (code = moreCode)) codes := by
  rw [sections, sections, List.mapIdx_cons]
  have hlater (place : Nat) :
      (inMore || decide (moreCode ∈ (code :: codes).take (place + 1))) =
        (inMore || decide (code = moreCode) || decide (moreCode ∈ codes.take place)) := by
    rw [List.take_succ_cons, Bool.or_assoc, ← Bool.decide_or]
    simp only [List.mem_cons, eq_comm]
  simp only [hlater]
  simp

theorem map_fst_sections (inMore : Bool) (codes : List String) :
    (sections inMore codes).map Prod.fst = codes := by
  induction codes generalizing inMore with
  | nil => rfl
  | cons code codes ih => rw [sections_cons, List.map_cons, ih]

/-- Where a shown item stands is where its code does. -/
theorem sections_enabledItems (h : v.codes.length = v.labels.length) (inMore : Bool)
    (codes : List String) :
    (v.enabledItems inMore codes).map (fun i => (i.code, i.inMoreSection)) =
      (sections inMore codes).filter fun place => place.1 ∈ v.codes ∧ place.1 ≠ moreCode := by
  induction codes generalizing inMore with
  | nil => rfl
  | cons code codes ih =>
      rw [sections_cons, enabledItems]
      by_cases hmore : code = moreCode
      · simp [hmore, ih]
      · have hknown := v.isSome_label?_iff h code
        cases hlabel : v.label? code with
        | none =>
            have hcode : code ∉ v.codes := by
              rw [← hknown, hlabel]
              exact Bool.false_ne_true
            simp [hmore, hcode, ih]
        | some label =>
            have hcode : code ∈ v.codes := hknown.1 (by rw [hlabel]; rfl)
            simp [hmore, hcode, ih]

/-- What a shown item is, apart from where it stands. -/
theorem of_mem_enabledItems {inMore : Bool} {codes : List String} {i : DisplayItem}
    (h : i ∈ v.enabledItems inMore codes) :
    i.disabled = false ∧ i.isSettings = decide (v.settingsCode = some i.code) ∧
      i.code ≠ moreCode ∧ v.label? i.code = some i.name := by
  induction codes generalizing inMore with
  | nil => cases h
  | cons code codes ih =>
      rw [enabledItems] at h
      split at h
      · exact ih h
      · rename_i hmore
        split at h
        · rename_i label hlabel
          rcases List.mem_cons.1 h with rfl | hrest
          · exact ⟨rfl, rfl, hmore, hlabel⟩
          · exact ih hrest
        · exact ih h

theorem count_enabledItems (h : v.codes.length = v.labels.length) {code : String}
    (hcode : code ∈ v.codes) (hmore : code ≠ moreCode) (inMore : Bool) (codes : List String) :
    ((v.enabledItems inMore codes).map DisplayItem.code).count code = codes.count code := by
  have hplaces := congrArg (List.map Prod.fst) (v.sections_enabledItems h inMore codes)
  have hfilter := List.filter_map (f := Prod.fst (β := Bool))
    (p := fun code => decide (code ∈ v.codes ∧ code ≠ moreCode)) (l := sections inMore codes)
  rw [List.map_map] at hplaces
  rw [map_fst_sections] at hfilter
  have hcodes : (v.enabledItems inMore codes).map DisplayItem.code =
      codes.filter fun code => code ∈ v.codes ∧ code ≠ moreCode := hplaces.trans hfilter.symm
  rw [hcodes]
  exact List.count_filter (decide_eq_true ⟨hcode, hmore⟩)

/-! ## What is not shown -/

theorem of_mem_disabledItems {i : DisplayItem} (h : i ∈ v.disabledItems) :
    (i.disabled = true ∧ i.inMoreSection = false ∧ i.isSettings = false) ∧
      i.code ≠ moreCode ∧ (i.code, i.name) ∈ v.codes.zip v.labels := by
  obtain ⟨entry, hentry, rfl⟩ := List.mem_map.1 h
  obtain ⟨hmem, hrest⟩ := List.mem_filter.1 hentry
  exact ⟨⟨rfl, rfl, rfl⟩, (of_decide_eq_true hrest).1, hmem⟩

theorem codes_disabledItems (h : v.codes.length = v.labels.length) :
    v.disabledItems.map DisplayItem.code =
      v.codes.filter fun code => code ≠ moreCode ∧ code ∉ v.completed := by
  have hfilter := List.filter_map (f := Prod.fst (β := String))
    (p := fun code => decide (code ≠ moreCode ∧ code ∉ v.completed)) (l := v.codes.zip v.labels)
  rw [List.map_fst_zip (Nat.le_of_eq h)] at hfilter
  rw [hfilter, disabledItems, List.map_map]
  rfl

end

/-! ## How often a code stands there -/

/-- Among items that are shown all alike, or not shown all alike, codes are counted. -/
theorem occurrences_eq_count {items : List DisplayItem} {disabled : Bool}
    (h : ∀ i ∈ items, i.disabled = disabled) (code : String) :
    occurrences items code disabled = (items.map DisplayItem.code).count code := by
  rw [occurrences, List.count_eq_countP, List.countP_map]
  refine List.countP_congr fun i hi => ?_
  simp [h i hi]

theorem occurrences_eq_zero {items : List DisplayItem} {disabled : Bool}
    (h : ∀ i ∈ items, i.disabled = !disabled) (code : String) :
    occurrences items code disabled = 0 := by
  refine List.countP_eq_zero.2 fun i hi => ?_
  rw [h i hi]
  cases disabled <;> simp

/-- Of a menu with what is shown first, either part has its own occurrences. -/
theorem occurrences_split {shown hidden : List DisplayItem}
    (enabled : ∀ i ∈ shown, i.disabled = false) (disabled : ∀ i ∈ hidden, i.disabled = true)
    (code : String) :
    occurrences (shown ++ hidden) code false = (shown.map DisplayItem.code).count code ∧
      occurrences (shown ++ hidden) code true = (hidden.map DisplayItem.code).count code := by
  have hsum (disabled : Bool) : occurrences (shown ++ hidden) code disabled =
      occurrences shown code disabled + occurrences hidden code disabled := List.countP_append
  rw [hsum, hsum, occurrences_eq_count enabled, occurrences_eq_zero disabled,
    occurrences_eq_zero enabled, occurrences_eq_count disabled]
  exact ⟨Nat.add_zero _, Nat.zero_add _⟩

/-! ## The menu -/

theorem rebuilt_of_lengths (v : MenuView) (h : v.codes.length = v.labels.length) :
    v.Rebuilt (v.enabledItems false v.completed) v.disabledItems := by
  have henabled : ∀ i ∈ v.enabledItems false v.completed, i.disabled = false :=
    fun i hi => (v.of_mem_enabledItems hi).1
  have hdisabled : ∀ i ∈ v.disabledItems, i.disabled = true :=
    fun i hi => (v.of_mem_disabledItems hi).1.1
  have hproper : ∀ i ∈ v.enabledItems false v.completed ++ v.disabledItems,
      i.code ≠ moreCode ∧ (i.code, i.name) ∈ v.codes.zip v.labels := by
    intro i hi
    rcases List.mem_append.1 hi with hshown | hhidden
    · obtain ⟨-, -, hmore, hlabel⟩ := v.of_mem_enabledItems hshown
      exact ⟨hmore, v.mem_zip_of_label? hlabel⟩
    · exact (v.of_mem_disabledItems hhidden).2
  exact
    { enabled := henabled
      disabled := hdisabled
      order := v.sections_enabledItems h false v.completed
      rest := v.codes_disabledItems h
      restPart := fun i hi => (v.of_mem_disabledItems hi).1.2.1
      settings := by
        intro i hi
        rcases List.mem_append.1 hi with hshown | hhidden
        · obtain ⟨hshow, hset, -⟩ := v.of_mem_enabledItems hshown
          simp [hshow, hset]
        · obtain ⟨⟨hhide, -, hset⟩, -⟩ := v.of_mem_disabledItems hhidden
          simp [hhide, hset]
      labelled := fun i hi => (hproper i hi).2
      proper := fun i hi => ⟨(List.of_mem_zip (hproper i hi).2).1, (hproper i hi).1⟩
      kept := by
        intro code hcode hmore hkept
        obtain ⟨hshown, hhidden⟩ := occurrences_split henabled hdisabled code
        have hnone : code ∉ v.disabledItems.map DisplayItem.code := by
          rw [v.codes_disabledItems h, List.mem_filter]
          exact fun hmem => (of_decide_eq_true hmem.2).2 hkept
        rw [hshown, hhidden, v.count_enabledItems h hcode hmore]
        exact ⟨rfl, List.count_eq_zero.2 hnone⟩
      setAside := by
        intro code hcode hmore hleft
        obtain ⟨hshown, hhidden⟩ := occurrences_split henabled hdisabled code
        rw [hshown, hhidden, v.count_enabledItems h hcode hmore, v.codes_disabledItems h]
        exact ⟨List.count_eq_zero.2 hleft, List.count_filter (decide_eq_true ⟨hmore, hleft⟩)⟩ }

/-- A view is refused just when it has no codes or another number of labels; from every other one a
menu is rebuilt in which no code is lost and none made up. -/
theorem items_rebuilt (v : MenuView) :
    ((∃ e, v.items = .error e) ↔ v.codes = [] ∨ v.codes.length ≠ v.labels.length) ∧
    ((∃ e, v.items = .error e) ∨
      ∃ shown hidden, v.items = .ok (shown ++ hidden) ∧ v.Rebuilt shown hidden) := by
  rw [items]
  split
  · rename_i hnone
    exact ⟨iff_of_true ⟨_, rfl⟩ (.inl hnone), .inl ⟨_, rfl⟩⟩
  · rename_i hsome
    split
    · rename_i hlengths
      exact ⟨iff_of_true ⟨_, rfl⟩ (.inr hlengths), .inl ⟨_, rfl⟩⟩
    · rename_i hlengths
      refine ⟨iff_of_false (by rintro ⟨e, ⟨⟩⟩) (not_or.2 ⟨hsome, hlengths⟩),
        .inr ⟨_, _, rfl, v.rebuilt_of_lengths (Classical.not_not.1 hlengths)⟩⟩

/-- A view after careless editing: a code twice, one that the menu has not, two `more`, and the
settings left out. -/
example :
    items ⟨["clock", "music", "settings", "stress", "more"],
      ["Clock", "Music", "Settings", "Stress", "More"],
      ["music", "more", "ghost", "clock", "more", "music"], some "settings"⟩ =
      .ok [⟨"music", "Music", false, false, false⟩, ⟨"clock", "Clock", false, true, false⟩,
        ⟨"music", "Music", false, true, false⟩, ⟨"settings", "Settings", false, true, true⟩,
        ⟨"stress", "Stress", true, false, false⟩] := by
  decide

end WatchLink.MenuView
