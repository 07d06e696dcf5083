import WatchLink.Cipher.Packet

/-!
# What one end seals the other opens

The key stream is as long as the text and depends on the text only by its length, so xoring it on
twice gives the text back; that is all that opening a sealed text needs, and nothing is asked of
the block function. A packet that one end seals is opened by the end that holds the reversed keys.

A packet nonce is made of the direction and the counter alone and keeps both apart, so two packets
of one direction share a nonce exactly when they share a counter.
-/

namespace WatchLink

namespace Cipher.Ccm

variable (block : Block → Block) (nonce : Octets 12)

theorem length_flatMap_blocks (f : Nat → Block) (n : Nat) :
    ((List.range n).flatMap fun i => (f i).toList).length = 16 * n := by
  induction n with
  | zero => rfl
  | succ n ih =>
      rw [List.range_succ, List.flatMap_append, List.length_append, ih, List.flatMap_singleton,
        Vector.length_toList, Nat.mul_succ]

theorem le_length_keyStream (n : Nat) : n ≤ (keyStream block nonce n).length := by
  rw [keyStream, length_flatMap_blocks]
  omega

@[simp] theorem length_transform (text : Bytes) :
    (transform block nonce text).length = text.length := by
  rw [transform, List.length_zipWith]
  exact Nat.min_eq_left (le_length_keyStream block nonce text.length)

theorem zipWith_xor_zipWith_xor :
    ∀ (text stream : Bytes), text.length ≤ stream.length →
      List.zipWith (· ^^^ ·) (List.zipWith (· ^^^ ·) text stream) stream = text
  | [], _, _ => rfl
  | b :: text, [], h => by simp at h
  | b :: text, k :: stream, h => by
      have ih := zipWith_xor_zipWith_xor text stream (Nat.le_of_succ_le_succ h)
      have hb : b ^^^ k ^^^ k = b := by rw [UInt8.xor_assoc, UInt8.xor_self, UInt8.xor_zero]
      rw [List.zipWith_cons_cons, List.zipWith_cons_cons, ih, hb]

/-- Decryption is encryption again. -/
theorem transform_transform (text : Bytes) :
    transform block nonce (transform block nonce text) = text := by
  have hlen := length_transform block nonce text
  rw [transform, hlen, transform]
  exact zipWith_xor_zipWith_xor text _ (le_length_keyStream block nonce text.length)

@[simp] theorem length_tag (plain : Bytes) : (tag block nonce plain).length = tagSize := by
  rw [tag, List.length_take, Vector.length_toList]
  rfl

/-- A text is sealed exactly when three octets hold its length. -/
theorem seal?_eq_some_iff (plain sealed : Bytes) :
    seal? block nonce plain = some sealed ↔
      plain.length < lengthLimit ∧
        sealed = transform block nonce plain ++ tag block nonce plain := by
  rw [seal?]
  split
  · rename_i h
    simp only [Option.some.injEq, h, true_and]
    exact eq_comm
  · rename_i h
    simp [h]

theorem length_of_seal?_eq_some {plain sealed : Bytes}
    (h : seal? block nonce plain = some sealed) : sealed.length = plain.length + tagSize := by
  obtain ⟨_, rfl⟩ := (seal?_eq_some_iff block nonce plain sealed).1 h
  rw [List.length_append, length_transform, length_tag]

theorem unseal?_of_seal?_eq_some {plain sealed : Bytes}
    (h : seal? block nonce plain = some sealed) : unseal? block nonce sealed = some plain := by
  have hlen := length_of_seal?_eq_some block nonce h
  obtain ⟨hlimit, rfl⟩ := (seal?_eq_some_iff block nonce plain sealed).1 h
  have hsize : (transform block nonce plain ++ tag block nonce plain).length - tagSize =
      (transform block nonce plain).length := by
    rw [hlen, length_transform, Nat.add_sub_cancel]
  have hplain : transform block nonce ((transform block nonce plain ++
      tag block nonce plain).take (transform block nonce plain).length) = plain := by
    rw [List.take_left, transform_transform]
  simp only [unseal?]
  rw [hsize, hplain, List.drop_left, length_transform, if_pos ⟨by omega, hlimit, rfl⟩]

end Cipher.Ccm

namespace SessionKeys

open Cipher

theorem toList_packetNonce (direction : Octets 4) (counter : UInt16) :
    (packetNonce direction counter).toList =
      direction.toList ++ ([0, 0, 0, 0] ++ (Bytes.le16 counter ++ [0, 0])) := by
  have hlen : (direction.toList ++ [0, 0, 0, 0] ++ Bytes.le16 counter).length = 10 := by
    simp
  simp only [packetNonce, Octets.pad, Vector.toList_mk]
  rw [List.take_of_length_le (by omega), hlen, List.append_assoc, List.append_assoc]
  rfl

/-- Two packets of one direction share a nonce exactly when they share a counter. -/
theorem packetNonce_eq_iff (direction : Octets 4) (a b : UInt16) :
    packetNonce direction a = packetNonce direction b ↔ a = b := by
  constructor
  · intro h
    have hlist := congrArg Vector.toList h
    rw [toList_packetNonce, toList_packetNonce, List.append_cancel_left_eq,
      List.append_cancel_left_eq, List.append_cancel_right_eq] at hlist
    have hlow := (List.cons.inj hlist).1
    have hhigh := (List.cons.inj (List.cons.inj hlist).2).1
    rw [← Bytes.word16_le16 a, ← Bytes.word16_le16 b, hlow, hhigh]
  · rintro rfl
    rfl

section

variable [CipherSuite] (keys : SessionKeys)

/-- Sealing fails for texts that are too long and for no others. -/
theorem sealed_eq_ok_iff (counter : UInt16) (plain text : Bytes) :
    keys.cipher.sealed counter plain = .ok text ↔
      Ccm.seal? (CipherSuite.block keys.encKey) (packetNonce keys.encNonce counter) plain =
        some text := by
  simp only [cipher]
  cases Ccm.seal? (CipherSuite.block keys.encKey) (packetNonce keys.encNonce counter) plain with
  | none => simp
  | some sealed => simp

theorem exists_sealed (counter : UInt16) {plain : Bytes} (h : plain.length < Ccm.lengthLimit) :
    ∃ text, keys.cipher.sealed counter plain = .ok text := by
  have hseal := (Ccm.seal?_eq_some_iff (CipherSuite.block keys.encKey)
    (packetNonce keys.encNonce counter) plain _).2 ⟨h, rfl⟩
  exact ⟨_, (sealed_eq_ok_iff keys counter plain _).2 hseal⟩

theorem length_of_sealed_eq_ok {counter : UInt16} {plain text : Bytes}
    (h : keys.cipher.sealed counter plain = .ok text) :
    text.length = plain.length + Ccm.tagSize :=
  Ccm.length_of_seal?_eq_some _ _ ((sealed_eq_ok_iff keys counter plain text).1 h)

/-- A packet sealed under a counter, written after that counter, is opened by the other end. -/
theorem opened_le16_append {counter : UInt16} {plain text : Bytes}
    (h : keys.cipher.sealed counter plain = .ok text) :
    keys.reversed.cipher.opened (Bytes.le16 counter ++ text) = .ok plain := by
  have hlen := length_of_sealed_eq_ok keys h
  have hsize : ¬ (Bytes.le16 counter ++ text).length < counterSize + Ccm.tagSize := by
    rw [List.length_append, Bytes.length_le16, counterSize]
    omega
  have hunseal := Ccm.unseal?_of_seal?_eq_some _ _ ((sealed_eq_ok_iff keys counter plain text).1 h)
  simp only [cipher, reversed, if_neg hsize]
  simp only [Bytes.le16, List.cons_append, List.nil_append, Bytes.word16_le16, hunseal]

end

end SessionKeys

end WatchLink
