import WatchLink.Text.Commas

/-!
# Names that come back from a list

Names without commas that are joined into one text are read back from it in their order, but for the
empty ones, which are dropped. So a list of names comes back as it was just when none of them is
empty; a label that is made of commas only loses them all and goes with them.
-/

namespace WatchLink.Text

/-- Characters that are no comma belong to the first stretch of what they stand before. -/
theorem stretches_append {cs : List Char} (h : ',' ∉ cs) (rest : List Char) {first : List Char}
    {others : List (List Char)} (hrest : stretches rest = first :: others) :
    stretches (cs ++ rest) = (cs ++ first) :: others := by
  induction cs with
  | nil => exact hrest
  | cons c cs ih =>
      obtain ⟨hc, hcs⟩ := not_or.1 (mt List.mem_cons.2 h)
      rw [List.cons_append, stretches, if_neg (Ne.symm hc), ih hcs]
      rfl

theorem stretches_of_not_mem {cs : List Char} (h : ',' ∉ cs) : stretches cs = [cs] := by
  have hall := stretches_append h [] rfl
  rwa [List.append_nil] at hall

theorem stretches_comma (cs rest : List Char) (h : ',' ∉ cs) :
    stretches (cs ++ ',' :: rest) = cs :: stretches rest := by
  have hcomma : stretches (',' :: rest) = [] :: stretches rest := by rw [stretches, if_pos rfl]
  rw [stretches_append h _ hcomma, List.append_nil]

/-- The stretches of texts that were put together with commas are the texts. -/
theorem stretches_intercalate (texts : List (List Char)) (hne : texts ≠ [])
    (h : ∀ text ∈ texts, ',' ∉ text) : stretches ([','].intercalate texts) = texts := by
  induction texts with
  | nil => exact absurd rfl hne
  | cons text texts ih =>
      obtain ⟨htext, htexts⟩ := List.forall_mem_cons.1 h
      cases texts with
      | nil =>
          rw [List.intercalate_singleton]
          exact stretches_of_not_mem htext
      | cons next texts =>
          rw [List.intercalate_cons_cons, List.append_assoc, List.singleton_append,
            stretches_comma text _ htext, ih (List.cons_ne_nil _ _) htexts]

/-- A list of names without commas is read back, but for the empty ones. -/
theorem names_joined (texts : List String) (h : ∀ text ∈ texts, ',' ∉ text.toList) :
    names (joined texts) = texts.filter (· ≠ "") := by
  cases texts with
  | nil => rfl
  | cons text rest =>
      have hchars : ∀ cs ∈ (text :: rest).map String.toList, ',' ∉ cs := by
        intro cs hmem
        obtain ⟨name, hname, rfl⟩ := List.mem_map.1 hmem
        exact h name hname
      have hempty : ∀ name : String, name.toList ≠ [] ↔ name ≠ "" := by
        intro name
        rw [ne_eq, ne_eq, String.toList_eq_nil_iff]
      have hcomma : ",".toList = [','] := rfl
      rw [names, joined, String.toList_intercalate, hcomma,
        stretches_intercalate _ (by simp) hchars, List.filter_map, List.map_map]
      have hback : String.ofList ∘ String.toList = id := by
        funext name
        exact String.ofList_toList
      rw [hback, List.map_id]
      refine List.filter_congr fun name _ => ?_
      simp only [Function.comp_apply]
      exact decide_eq_decide.2 (hempty name)

theorem names_joined_of_ne {texts : List String} (h : ∀ text ∈ texts, ',' ∉ text.toList)
    (hne : ∀ text ∈ texts, text ≠ "") : names (joined texts) = texts := by
  rw [names_joined texts h, List.filter_eq_self]
  exact fun text hmem => decide_eq_true (hne text hmem)

theorem not_mem_withoutCommas (label : String) : ',' ∉ (withoutCommas label).toList := by
  rw [withoutCommas, String.toList_ofList, List.mem_filter]
  simp

theorem withoutCommas_of_not_mem {label : String} (h : ',' ∉ label.toList) :
    withoutCommas label = label := by
  have hall : label.toList.filter (· ≠ ',') = label.toList := by
    rw [List.filter_eq_self]
    exact fun c hmem => decide_eq_true (ne_of_mem_of_not_mem hmem h)
  rw [withoutCommas, hall, String.ofList_toList]

end WatchLink.Text
