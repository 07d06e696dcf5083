import WatchLink.Proofs.Cipher.Opening
import WatchLink.Proofs.Octets.Places

/-!
# What is opened was sealed

A tag that is right is the tag of the text it stands behind, so a sealed text that is opened is the
one that sealing makes of its plain text. A packet is therefore opened exactly when it is a counter
and what the other end seals under that counter, and any other payload is refused: as truncated when
counter and tag do not fit in it, as not decrypted otherwise.
-/

namespace WatchLink

namespace Cipher.Ccm

variable (block : Block → Block) (nonce : Octets 12)

/-- What is opened is what sealing makes of the plain text. -/
theorem seal?_of_unseal?_eq_some {sealed plain : Bytes}
    (h : unseal? block nonce sealed = some plain) : seal? block nonce plain = some sealed := by
  simp only [unseal?] at h
  split at h
  · rename_i hright
    obtain ⟨-, hlimit, htag⟩ := hright
    cases h
    -- The key stream goes by the length of the text, and encryption keeps the length.
    refine (seal?_eq_some_iff block nonce _ sealed).2 ⟨?_, ?_⟩
    · rw [length_transform, List.length_take]
      exact Nat.lt_of_le_of_lt (Nat.min_le_left _ _) hlimit
    · rw [transform_transform, ← htag, List.take_append_drop]
  · cases h

end Cipher.Ccm

namespace SessionKeys

open Cipher

/-- A payload with room for counter and tag, taken apart. -/
theorem exists_cons_cons {payload : Bytes} (h : counterSize + Ccm.tagSize ≤ payload.length) :
    ∃ low high text, payload = low :: high :: text ∧ Ccm.tagSize ≤ text.length := by
  match payload, h with
  | low :: high :: text, h =>
    simp only [List.length_cons, counterSize] at h
    exact ⟨low, high, text, rfl, by omega⟩

section

variable [CipherSuite] (keys : SessionKeys)

/-- Exactly the texts whose length three octets hold are sealed. -/
theorem sealed_iff (counter : UInt16) (plain : Bytes) :
    (∃ text, keys.cipher.sealed counter plain = .ok text) ↔ plain.length < Ccm.lengthLimit := by
  constructor
  · rintro ⟨text, h⟩
    exact ((Ccm.seal?_eq_some_iff _ _ _ _).1 ((sealed_eq_ok_iff keys counter plain text).1 h)).1
  · exact keys.exists_sealed counter

/-! ## Opening a payload -/

theorem opened_of_length_lt {payload : Bytes} (h : payload.length < counterSize + Ccm.tagSize) :
    keys.cipher.opened payload = .error .truncated := if_pos h

theorem opened_cons_cons (low high : UInt8) {text : Bytes} (h : Ccm.tagSize ≤ text.length) :
    keys.cipher.opened (low :: high :: text) =
      match Ccm.unseal? (CipherSuite.block keys.decKey)
          (packetNonce keys.decNonce (Bytes.word16 low high)) text with
      | some plain => .ok plain
      | none => .error .decryptFailed := by
  have hroom : ¬ (low :: high :: text).length < counterSize + Ccm.tagSize := by
    simp only [List.length_cons, counterSize]
    omega
  exact if_neg hroom

/-- A packet is opened exactly when it is a counter and what the other end seals under it. -/
theorem opened_eq_ok_iff (payload plain : Bytes) :
    keys.reversed.cipher.opened payload = .ok plain ↔
      ∃ counter text, payload = Bytes.le16 counter ++ text ∧
        keys.cipher.sealed counter plain = .ok text := by
  constructor
  · intro h
    rcases Nat.lt_or_ge payload.length (counterSize + Ccm.tagSize) with hshort | hlong
    · rw [opened_of_length_lt _ hshort] at h
      cases h
    · obtain ⟨low, high, text, rfl, htext⟩ := exists_cons_cons hlong
      rw [opened_cons_cons _ low high htext] at h
      split at h
      · rename_i hunseal
        cases h
        refine ⟨Bytes.word16 low high, text, ?_, ?_⟩
        · rw [Bytes.le16_word16]
          rfl
        · exact (sealed_eq_ok_iff keys _ _ _).2 (Ccm.seal?_of_unseal?_eq_some _ _ hunseal)
      · cases h
  · rintro ⟨counter, text, rfl, hsealed⟩
    exact keys.opened_le16_append hsealed

/-! ## Opening by places -/

/-- Opening with every octet asked for by its place; `none` when one of them is not there. -/
def openedAt? (payload : Bytes) : Option (Except CipherError Bytes) :=
  if payload.length < counterSize + Ccm.tagSize then some (.error .truncated)
  else do
    let low ← payload[0]?
    let high ← payload[1]?
    let text ← Bytes.slice? payload counterSize payload.length
    match Ccm.unseal? (CipherSuite.block keys.decKey)
        (packetNonce keys.decNonce (Bytes.word16 low high)) text with
    | some plain => some (.ok plain)
    | none => some (.error .decryptFailed)

/-- Every octet that opening asks for is there. -/
theorem openedAt?_eq_some (payload : Bytes) :
    keys.openedAt? payload = some (keys.cipher.opened payload) := by
  rcases Nat.lt_or_ge payload.length (counterSize + Ccm.tagSize) with hshort | hlong
  · rw [opened_of_length_lt _ hshort]
    exact if_pos hshort
  · obtain ⟨low, high, text, rfl, htext⟩ := exists_cons_cons hlong
    have hslice : Bytes.slice? (low :: high :: text) counterSize (low :: high :: text).length =
        some text := Bytes.slice?_length (by simp [counterSize])
    rw [openedAt?, if_neg (Nat.not_lt.2 hlong), opened_cons_cons _ low high htext, hslice]
    simp only [List.getElem?_cons_zero, List.getElem?_cons_succ, Option.bind_eq_bind,
      Option.bind_some]
    split <;> rfl

/-! ## Sealing and opening -/

/-- What one end seals is four octets longer and is opened by the other end behind its counter, and
nothing else is: whatever that end opens is a counter and what is sealed under it. Texts of less
than 2²⁴ octets are sealed and no others, payloads without room for counter and tag are truncated
and no others, and no octet is asked for that is not there. -/
theorem opened_inverts_sealed :
    (∀ counter plain text, keys.cipher.sealed counter plain = .ok text →
      text.length = plain.length + 4 ∧
        keys.reversed.cipher.opened (Bytes.le16 counter ++ text) = .ok plain) ∧
    (∀ payload plain, keys.reversed.cipher.opened payload = .ok plain →
      ∃ counter text, payload = Bytes.le16 counter ++ text ∧
        keys.cipher.sealed counter plain = .ok text) ∧
    (∀ counter plain,
      (∃ text, keys.cipher.sealed counter plain = .ok text) ↔ plain.length < Ccm.lengthLimit) ∧
    (∀ payload, keys.cipher.opened payload = .error .truncated ↔ payload.length < 6) ∧
    ∀ payload, keys.openedAt? payload = some (keys.cipher.opened payload) := by
  refine ⟨?_, ?_, keys.sealed_iff, ?_, keys.openedAt?_eq_some⟩
  · intro counter plain text hsealed
    exact ⟨keys.length_of_sealed_eq_ok hsealed, keys.opened_le16_append hsealed⟩
  · intro payload plain hopened
    exact (keys.opened_eq_ok_iff payload plain).1 hopened
  · intro payload
    refine ⟨fun htruncated => ?_, keys.opened_of_length_lt⟩
    rcases Nat.lt_or_ge payload.length (counterSize + Ccm.tagSize) with hshort | hlong
    · exact hshort
    · obtain ⟨low, high, text, rfl, htext⟩ := exists_cons_cons hlong
      rw [opened_cons_cons _ low high htext] at htruncated
      split at htruncated <;> cases htruncated

end

/-- A text that does not fill its last block, under the last counter before they start over. -/
theorem opened_inverts_sealed_lastCounter :
    ∃ text,
      (cipher ⟨.replicate 16 1, .replicate 16 2, .replicate 4 3, .replicate 4 4⟩).sealed 65535
        (List.replicate 17 7) = .ok text ∧
      text.length = 21 ∧
      (cipher ⟨.replicate 16 2, .replicate 16 1, .replicate 4 4, .replicate 4 3⟩).opened
        (0xFF :: 0xFF :: text) = .ok (List.replicate 17 7) ∧
      ∃ counter rest, 0xFF :: 0xFF :: text = Bytes.le16 counter ++ rest ∧
        (cipher ⟨.replicate 16 1, .replicate 16 2, .replicate 4 3, .replicate 4 4⟩).sealed counter
          (List.replicate 17 7) = .ok rest := by
  obtain ⟨hopens, hsealed, hseals, -, -⟩ := opened_inverts_sealed
    ⟨.replicate 16 1, .replicate 16 2, .replicate 4 3, .replicate 4 4⟩
  obtain ⟨text, htext⟩ := (hseals 65535 (List.replicate 17 7)).2 (by decide)
  obtain ⟨hlen, hopened⟩ := hopens _ _ _ htext
  exact ⟨text, htext, hlen, hopened, hsealed _ _ hopened⟩

end SessionKeys

end WatchLink
