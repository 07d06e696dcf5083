import Mathlib.Data.List.TakeWhile
import WatchLink.Config
import WatchLink.Proofs.Hex.Spelling

/-!
# The pairing secret of a key

A key is written as thirty-two digits, with white space around them and one mark before them or
none. These keys have a secret, the octets that the digits spell, and no others have one: a second
mark, white space between digits, a digit too few or too many or a character that is no digit make
it an error. What is counted before the digits are read is octets, so wide characters can have the
right size; they are refused as digits then.
-/

namespace WatchLink

namespace Text

theorem dropWhile_blank_of_forall {cs : List Char} (h : ∀ c ∈ cs, blank.has c = false) :
    cs.dropWhile blank.has = cs := by
  cases cs with
  | nil => rfl
  | cons c cs => rw [List.dropWhile_cons_of_neg (by simp [h c List.mem_cons_self])]

/-- White space at the ends is taken off characters that are none. -/
theorem trimmed_append {before core after : List Char} (hbefore : ∀ c ∈ before, blank.has c = true)
    (hcore : ∀ c ∈ core, blank.has c = false) (hafter : ∀ c ∈ after, blank.has c = true) :
    trimmed (before ++ core ++ after) = core := by
  have hafter' : ∀ c ∈ after.reverse, blank.has c = true :=
    fun c hc => hafter c (List.mem_reverse.1 hc)
  have hcore' : ∀ c ∈ core.reverse, blank.has c = false :=
    fun c hc => hcore c (List.mem_reverse.1 hc)
  have hend : ((core ++ after).reverse.dropWhile blank.has).reverse = core := by
    rw [List.reverse_append, List.dropWhile_append_of_pos hafter', dropWhile_blank_of_forall hcore',
      List.reverse_reverse]
  rw [trimmed, List.append_assoc, List.dropWhile_append_of_pos hbefore]
  cases core with
  | nil =>
      have hnone : after.dropWhile blank.has = [] := List.dropWhile_eq_nil_iff.2 hafter
      rw [List.nil_append, hnone]
      rfl
  | cons c core =>
      rw [List.cons_append, List.dropWhile_cons_of_neg (by simp [hcore c List.mem_cons_self])]
      exact hend

/-- What trimming takes away is white space at the ends. -/
theorem exists_eq_append_trimmed (cs : List Char) :
    ∃ before after, cs = before ++ trimmed cs ++ after ∧
      (∀ c ∈ before, blank.has c = true) ∧ ∀ c ∈ after, blank.has c = true := by
  refine ⟨cs.takeWhile blank.has,
    ((cs.dropWhile blank.has).reverse.takeWhile blank.has).reverse, ?_, ?_, ?_⟩
  · rw [trimmed, List.append_assoc, ← List.reverse_append, List.takeWhile_append_dropWhile,
      List.reverse_reverse, List.takeWhile_append_dropWhile]
  · exact fun c hc => List.mem_takeWhile_imp hc
  · exact fun c hc => List.mem_takeWhile_imp (List.mem_reverse.1 hc)

end Text

namespace LinkConfig

/-- What may stand before the digits of a key. -/
def marks : List (List Char) := [[], ['0', 'x'], ['0', 'X']]

/-- A key writes a secret with these digits. -/
structure Writes (key digits : List Char) (secret : Octets 16) : Prop where
  framed : ∃ before mark after, key = before ++ (mark ++ digits) ++ after ∧ mark ∈ marks ∧
    (∀ c ∈ before, Text.blank.has c = true) ∧ ∀ c ∈ after, Text.blank.has c = true
  length_eq : digits.length = 32
  spells : Hex.Spells digits secret.toList

theorem exists_eq_append_withoutMark (cs : List Char) :
    ∃ mark ∈ marks, cs = mark ++ withoutMark cs := by
  unfold withoutMark
  split
  · exact ⟨['0', 'x'], by decide, rfl⟩
  · exact ⟨['0', 'X'], by decide, rfl⟩
  · exact ⟨[], by decide, rfl⟩

/-- The mark before digits is taken off, for no second digit could be part of one. -/
theorem withoutMark_append {mark digits : List Char} (hmark : mark ∈ marks) {bytes : Bytes}
    (h : Hex.Spells digits bytes) : withoutMark (mark ++ digits) = digits := by
  simp only [marks, List.mem_cons, List.not_mem_nil, or_false] at hmark
  rcases hmark with rfl | rfl | rfl
  · cases h with
    | nil => rfl
    | @cons high low _ _ _ _ hlow _ =>
        have hne : low ≠ 'x' ∧ low ≠ 'X' :=
          hlow.rec_on (P := fun c _ => c ≠ 'x' ∧ c ≠ 'X') (by decide)
        rw [List.nil_append]
        unfold withoutMark
        split
        · rename_i heq
          exact absurd (List.cons.inj (List.cons.inj heq).2).1 hne.1
        · rename_i heq
          exact absurd (List.cons.inj (List.cons.inj heq).2).1 hne.2
        · rfl
  · rfl
  · rfl

/-- Marks and digits hold no white space. -/
theorem blank_eq_false {mark digits : List Char} (hmark : mark ∈ marks) {bytes : Bytes}
    (h : Hex.Spells digits bytes) : ∀ c ∈ mark ++ digits, Text.blank.has c = false := by
  refine List.forall_mem_append.2 ⟨fun c hc => ?_, fun c hc => ?_⟩
  · have hall : (marks.flatten.all fun c => !Text.blank.has c) = true := by decide
    simpa using List.all_eq_true.1 hall c (List.mem_flatten_of_mem hmark hc)
  · obtain ⟨v, hdigit⟩ := h.forall_isDigitOf c hc
    exact hdigit.rec_on (P := fun c _ => Text.blank.has c = false) (by decide)

/-- What is left of a key for its digits. -/
def digitsOf (key : List Char) : List Char := withoutMark (Text.trimmed key)

theorem Writes.digitsOf_eq {key digits : List Char} {secret : Octets 16}
    (h : Writes key digits secret) : digitsOf key = digits := by
  obtain ⟨⟨before, mark, after, rfl, hmark, hbefore, hafter⟩, -, hspells⟩ := h
  rw [digitsOf, Text.trimmed_append hbefore (blank_eq_false hmark hspells) hafter,
    withoutMark_append hmark hspells]

theorem exists_framed (key : List Char) :
    ∃ before mark after, key = before ++ (mark ++ digitsOf key) ++ after ∧ mark ∈ marks ∧
      (∀ c ∈ before, Text.blank.has c = true) ∧ ∀ c ∈ after, Text.blank.has c = true := by
  obtain ⟨before, after, hkey, hbefore, hafter⟩ := Text.exists_eq_append_trimmed key
  obtain ⟨mark, hmark, hcore⟩ := exists_eq_append_withoutMark (Text.trimmed key)
  refine ⟨before, mark, after, ?_, hmark, hbefore, hafter⟩
  rwa [digitsOf, ← hcore]

theorem secretOf_eq_ok_iff (key : List Char) (secret : Octets 16) :
    secretOf key = .ok secret ↔ ∃ digits, Writes key digits secret := by
  constructor
  · intro h
    simp only [secretOf] at h
    split at h
    · cases h
    · split at h
      · rename_i found hfound
        cases h
        obtain ⟨bytes, hdecode, hbytes⟩ := Option.bind_eq_some_iff.1 hfound
        have hspells := (Hex.decode?_eq_some_iff _ _).1 hdecode
        rw [← Octets.toList_of_ofList?_eq_some hbytes] at hspells
        have hlength := hspells.length_eq
        rw [Vector.length_toList] at hlength
        exact ⟨digitsOf key, exists_framed key, hlength, hspells⟩
      · cases h
  · rintro ⟨digits, h⟩
    have hdigits : withoutMark (Text.trimmed key) = digits := h.digitsOf_eq
    have hcount : Text.octetCount digits = 32 := by
      rw [h.spells.octetCount_eq, Vector.length_toList]
    have hdecode : (Hex.decode? digits).bind (Octets.ofList? 16) = some secret := by
      rw [(Hex.decode?_eq_some_iff _ _).2 h.spells]
      exact Octets.ofList?_toList secret
    simp only [secretOf, hdigits, hcount, hdecode]
    rfl

/-- A key without a secret is an error, by the size of what is left for digits. -/
theorem secretOf_of_forall_not {key : List Char}
    (h : ∀ digits secret, ¬ Writes key digits secret) :
    secretOf key = .error
      (if Text.octetCount (digitsOf key) = 32 then .authKeyDigits else .authKeyLength) := by
  cases hsecret : secretOf key with
  | ok secret =>
      obtain ⟨digits, hwrites⟩ := (secretOf_eq_ok_iff key secret).1 hsecret
      exact absurd hwrites (h digits secret)
  | error e =>
      simp only [secretOf] at hsecret
      split at hsecret
      · rename_i hcount
        rw [digitsOf, if_neg hcount]
        exact hsecret.symm
      · rename_i hcount
        split at hsecret
        · cases hsecret
        · rw [digitsOf, if_pos (not_not.1 hcount)]
          exact hsecret.symm

/-- A key has a secret just when it writes one: white space at the ends, one mark at most, and
thirty-two digits of either case that spell the secret in pairs. What is written for a secret is one
of its keys; two keys have the same secret just when their digits agree up to case, and every text
that is no key is an error. -/
theorem secret_grammar (c : LinkConfig) :
    (∀ secret, c.secret = .ok secret ↔ ∃ digits, Writes c.authKey.toList digits secret) ∧
    (∀ secret : Octets 16, Writes (Hex.encode secret.toList).toList
      (Hex.encode secret.toList).toList secret) ∧
    (∀ (other : LinkConfig) digits others secret otherSecret,
      Writes c.authKey.toList digits secret → Writes other.authKey.toList others otherSecret →
        (c.secret = other.secret ↔ digits.map Char.toLower = others.map Char.toLower)) ∧
    ((∀ digits secret, ¬ Writes c.authKey.toList digits secret) →
      c.secret = .error (if Text.octetCount (digitsOf c.authKey.toList) = 32 then .authKeyDigits
        else .authKeyLength)) := by
  refine ⟨secretOf_eq_ok_iff c.authKey.toList, fun secret => ?_, ?_, secretOf_of_forall_not⟩
  · have hspells := Hex.spells_flatMap_digits secret.toList
    have hlength := hspells.length_eq
    rw [Vector.length_toList] at hlength
    rw [Hex.encode, String.toList_ofList]
    exact ⟨⟨[], [], [], (List.append_nil _).symm, List.mem_cons_self, List.forall_mem_nil _,
      List.forall_mem_nil _⟩, hlength, hspells⟩
  · intro other digits others secret otherSecret h hother
    have hsecret : c.secret = .ok secret := (secretOf_eq_ok_iff _ _).2 ⟨digits, h⟩
    have hother' : other.secret = .ok otherSecret := (secretOf_eq_ok_iff _ _).2 ⟨others, hother⟩
    rw [hsecret, hother', ← h.spells.eq_iff hother.spells, Except.ok.injEq, Vector.toList_inj]

/-- The settings with a key. -/
def keyed (key : String) : LinkConfig := { authKey := key }

def plainKey : LinkConfig := keyed "00112233445566778899aabbccddeeff"

/-- White space around the key, a mark before it, and capitals in it. -/
def dressedKey : LinkConfig := keyed "\t0X00112233445566778899AaBbCcDdEeFf\u00A0"

def countedSecret : Octets 16 :=
  #v[0x00, 0x11, 0x22, 0x33, 0x44, 0x55, 0x66, 0x77, 0x88, 0x99, 0xAA, 0xBB, 0xCC, 0xDD, 0xEE, 0xFF]

/-- A key has the secret of the plain one, however it is dressed; a second mark is too much. -/
theorem secret_grammar_dressedKey :
    plainKey.secret = .ok countedSecret ∧ plainKey.secret = dressedKey.secret ∧
      (keyed "0x0X00112233445566778899aabbccddeeff").secret = .error .authKeyLength := by
  obtain ⟨hok, -, hcase, -⟩ := secret_grammar plainKey
  have hplain : Writes plainKey.authKey.toList "00112233445566778899aabbccddeeff".toList
      countedSecret :=
    ⟨⟨[], [], [], rfl, by decide, nofun, nofun⟩, by decide,
      (Hex.decode?_eq_some_iff _ _).1 (by decide)⟩
  have hdressed : Writes dressedKey.authKey.toList "00112233445566778899AaBbCcDdEeFf".toList
      countedSecret :=
    ⟨⟨['\t'], ['0', 'X'], ['\u00A0'], rfl, by decide, List.forall_mem_singleton.2 rfl,
      List.forall_mem_singleton.2 rfl⟩, by decide,
      (Hex.decode?_eq_some_iff _ _).1 (by decide)⟩
  exact ⟨(hok _).2 ⟨_, hplain⟩, (hcase _ _ _ _ _ hplain hdressed).2 (by decide), rfl⟩

end LinkConfig

end WatchLink
