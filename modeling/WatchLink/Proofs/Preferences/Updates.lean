import Mathlib.Data.List.Induction
import WatchLink.Event

/-!
# What an update leaves under a key

An update puts something under its own key and leaves every other as it is. Of several updates the
last one under a key counts, so what is read afterwards does not depend on what was kept before,
unless no update was for the key.
-/

namespace WatchLink

namespace Preferences

/-- The text that a value leaves under its key. -/
def left? : PreferenceValue → Option String
  | .text text => some text
  | .flag flag => some (flagText flag)
  | .list names => some (Text.joined names)
  | .unset => none

variable (p : Preferences)

theorem get?_remove_self (key : String) : (p.remove key).get? key = none := by
  rw [get?, remove, List.lookup_eq_none_iff]
  intro entry hmem
  have hne : entry.1 ≠ key := of_decide_eq_true (List.mem_filter.1 hmem).2
  exact bne_iff_ne.2 hne.symm

theorem get?_remove_of_ne {key other : String} (h : key ≠ other) :
    (p.remove other).get? key = p.get? key := by
  obtain ⟨entries⟩ := p
  simp only [get?, remove]
  induction entries with
  | nil => rfl
  | cons entry entries ih =>
      by_cases hother : entry.1 = other
      · have hkey : (key == entry.1) = false := beq_false_of_ne (hother ▸ h)
        rw [List.filter_cons_of_neg (by simpa using hother), List.lookup_cons, hkey]
        exact ih
      · rw [List.filter_cons_of_pos (by simpa using hother), List.lookup_cons, List.lookup_cons, ih]

theorem get?_put_self (key : String) (value : PreferenceValue) :
    (p.put key value).get? key = left? value := by
  have hset (text : String) : (p.set key text).get? key = some text := List.lookup_cons_self
  cases value with
  | text text => exact hset text
  | flag flag => exact hset _
  | list names => exact hset _
  | unset => exact p.get?_remove_self key

theorem get?_put_of_ne {key other : String} (h : key ≠ other) (value : PreferenceValue) :
    (p.put other value).get? key = p.get? key := by
  have hset (text : String) : (p.set other text).get? key = p.get? key := by
    have hkey : (key == other) = false := beq_false_of_ne h
    rw [get?, set, List.lookup_cons, hkey]
    exact p.get?_remove_of_ne h
  cases value with
  | text text => exact hset text
  | flag flag => exact hset _
  | list names => exact hset _
  | unset => exact p.get?_remove_of_ne h

theorem update_concat (updates : List (String × PreferenceValue)) (key : String)
    (value : PreferenceValue) :
    p.update (updates ++ [(key, value)]) = (p.update updates).put key value := by
  rw [update, List.foldl_append]
  rfl

/-- The last update for a key counts, and what no update is for stays. -/
theorem get?_update (updates : List (String × PreferenceValue)) (key : String) :
    (p.update updates).get? key =
      (updates.filter fun update => update.1 = key).getLast?.elim (p.get? key)
        fun update => left? update.2 := by
  induction updates using List.reverseRecOn with
  | nil => rfl
  | append_singleton updates update ih =>
      obtain ⟨other, value⟩ := update
      rw [update_concat, List.filter_append]
      by_cases hkey : other = key
      · subst hkey
        rw [get?_put_self, List.filter_cons_of_pos (by simp), List.filter_nil,
          List.getLast?_concat]
        rfl
      · rw [get?_put_of_ne _ (Ne.symm hkey), ih, List.filter_cons_of_neg (by simpa using hkey),
          List.filter_nil, List.append_nil]

theorem filter_eq_nil_of_not_mem {key : String} {updates : List (String × PreferenceValue)}
    (h : key ∉ updates.map Prod.fst) : updates.filter (fun update => update.1 = key) = [] := by
  refine List.filter_eq_nil_iff.2 fun update hmem hkey => h ?_
  exact of_decide_eq_true hkey ▸ List.mem_map_of_mem hmem

theorem get?_update_append_cons {key : String} {value : PreferenceValue}
    (before : List (String × PreferenceValue)) {after : List (String × PreferenceValue)}
    (h : key ∉ after.map Prod.fst) :
    (p.update (before ++ (key, value) :: after)).get? key = left? value := by
  rw [get?_update, List.filter_append, List.filter_cons_of_pos (by simp),
    filter_eq_nil_of_not_mem h, List.getLast?_concat]
  rfl

/-- The names of the text that was put under a key last. -/
theorem list_update_append_cons {key text : String} (before : List (String × PreferenceValue))
    {after : List (String × PreferenceValue)} (h : key ∉ after.map Prod.fst) :
    (p.update (before ++ (key, .text text) :: after)).list key = Text.names text := by
  rw [list, get?_update_append_cons p before h]
  rfl

end Preferences

end WatchLink
