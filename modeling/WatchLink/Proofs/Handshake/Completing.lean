import WatchLink.Proofs.Cipher.Accepting
import WatchLink.Proofs.Handshake.Authenticity

/-!
# An honest handshake completes

The watch's end of the encrypted handshake, as it follows from what both ends agree on: the secret
is stretched to rows of octets, and key after key and nonce after nonce is taken off them, first
what the watch seals with. None of it refers to how the phone comes by its keys. A watch that shares
the secret ends up with the phone's keys reversed, so its proof is the one that the phone asks for,
the phone's is the one that it asks for, and from the acceptance on each end hears the other. Any
other proof ends the handshake, with no keys left.
-/

namespace WatchLink

namespace PacketCipher

/-- One end hears the other: whatever may be sealed is sealed, under every counter, and what is
opened is exactly that, behind its counter. -/
structure Hears (receiver sender : PacketCipher) : Prop where
  sealed : ∀ counter plain,
    (∃ text, sender.sealed counter plain = .ok text) ↔ plain.length < Cipher.Ccm.lengthLimit
  opened : ∀ payload plain, receiver.opened payload = .ok plain ↔
    ∃ counter text, payload = Bytes.le16 counter ++ text ∧ sender.sealed counter plain = .ok text

theorem hears_reversed [CipherSuite] (keys : SessionKeys) :
    Hears keys.reversed.cipher keys.cipher where
  sealed := keys.sealed_iff
  opened := keys.opened_eq_ok_iff

theorem reversed_hears [CipherSuite] (keys : SessionKeys) :
    Hears keys.cipher keys.reversed.cipher := hears_reversed keys.reversed

end PacketCipher

/-- The watch's end of the encrypted handshake. -/
structure Watch where
  secret : Octets 16
  nonce : Octets 16

namespace Watch

variable [CipherSuite] (watch : Watch) (phoneNonce : Octets 16)

/-- What both nonces make of the secret. -/
def root : Octets 32 :=
  CipherSuite.mac (phoneNonce.toList ++ watch.nonce.toList) watch.secret.toList

/-- Each row is the digest of the row before it, the purpose and its own number; none is before
the first. -/
def row (root : Octets 32) : Nat → Bytes
  | 0 => []
  | i + 1 =>
    (CipherSuite.mac root.toList
      (row root i ++ SessionKeys.purpose ++ [UInt8.ofNat (i + 1)])).toList

/-- Two rows are enough for all keys and nonces. -/
def material : Bytes := row (watch.root phoneNonce) 1 ++ row (watch.root phoneNonce) 2

def keys : SessionKeys where
  encKey := .pad 16 (watch.material phoneNonce)
  decKey := .pad 16 ((watch.material phoneNonce).drop 16)
  encNonce := .pad 4 ((watch.material phoneNonce).drop 32)
  decNonce := .pad 4 ((watch.material phoneNonce).drop 36)

/-- The watch's proof, with its own nonce first. -/
def proof : Octets 32 :=
  CipherSuite.mac (watch.keys phoneNonce).encKey.toList (watch.nonce.toList ++ phoneNonce.toList)

/-- The proof that the watch asks for, with the phone's nonce first. -/
def expected : Octets 32 :=
  CipherSuite.mac (watch.keys phoneNonce).decKey.toList (phoneNonce.toList ++ watch.nonce.toList)

/-- The answer to the phone's nonce, with some proof. -/
def answerWith (proof : Octets 32) : Command :=
  ⟨Command.authKind, Handshake.nonceSubtype, .auth (.watchNonce watch.nonce proof)⟩

/-- With the secret in common the watch's keys are the phone's, reversed. -/
theorem keys_eq :
    watch.keys phoneNonce =
      (SessionKeys.derive watch.secret phoneNonce watch.nonce).reversed := by
  have hmaterial : watch.material phoneNonce =
      (SessionKeys.stretch watch.secret phoneNonce watch.nonce).1.toList ++
        (SessionKeys.stretch watch.secret phoneNonce watch.nonce).2.toList := rfl
  rw [keys, SessionKeys.derive]
  generalize SessionKeys.stretch watch.secret phoneNonce watch.nonce = rows at hmaterial
  obtain ⟨first, second⟩ := rows
  simp only at hmaterial
  have hlen : first.toList.length = 32 := first.length_toList
  have hdrop : (watch.material phoneNonce).drop 32 = second.toList := by
    rw [hmaterial, List.drop_left' hlen]
  -- A key or a nonce that ends within the first row does not reach into the second.
  have hkey (start : Nat) (h : start + 16 ≤ 32) :
      Octets.pad 16 ((watch.material phoneNonce).drop start) = first.window start 16 := by
    have hfits : 16 ≤ (first.toList.drop start).length := by
      rw [List.length_drop]
      omega
    rw [hmaterial, List.drop_append_of_le_length (by omega), Octets.pad_append hfits,
      Octets.window]
  have hnonce (start : Nat) :
      Octets.pad 4 ((watch.material phoneNonce).drop (32 + start)) = second.window start 4 := by
    rw [← List.drop_drop, hdrop, Octets.window]
  simp only [SessionKeys.reversed, SessionKeys.mk.injEq]
  exact ⟨hkey 16 (by decide), hkey 0 (by decide), hnonce 4, hnonce 0⟩

theorem proof_eq :
    watch.proof phoneNonce = (SessionKeys.derive watch.secret phoneNonce watch.nonce).watchProof
      phoneNonce watch.nonce := by
  rw [proof, keys_eq]
  rfl

theorem expected_eq :
    watch.expected phoneNonce = (SessionKeys.derive watch.secret phoneNonce watch.nonce).phoneProof
      phoneNonce watch.nonce := by
  rw [expected, keys_eq]
  rfl

end Watch

namespace Handshake

section

variable [CipherSuite]

/-- A proof other than the watch's fails the handshake. -/
theorem answerNonce_of_ne {h : Handshake} {phoneNonce watchNonce : Octets 16} {proof : Octets 32}
    (hne : proof ≠
      (SessionKeys.derive h.secret phoneNonce watchNonce).watchProof phoneNonce watchNonce) :
    h.answerNonce phoneNonce watchNonce proof = h.fail := by
  have hrefuted : ¬ (SessionKeys.derive h.secret phoneNonce watchNonce).verifies phoneNonce
      watchNonce proof = true := fun hverifies => hne (of_decide_eq_true hverifies).symm
  simp only [answerNonce, if_neg hrefuted]

/-- Whatever replies come once the watch has accepted, nothing changes. -/
theorem run_handle_of_authenticated {h : Handshake} (hstate : h.state = .authenticated)
    (commands : List Command) : h.run (commands.map .handle) = h := by
  induction commands with
  | nil => rfl
  | cons command commands ih =>
      have hcommand : h.perform (.handle command) = h :=
        handle_of_not_awaits (by rw [hstate]; rfl)
      rw [List.map_cons, run, List.foldl_cons, hcommand]
      exact ih

/-- With a watch that shares the secret the handshake completes. The phone's proof is the one that
the watch asks for, and behind the counter zero the watch opens the phone's description. With the
watch's acceptance the phone is authenticated, and stays so whatever it is sent, and each end hears
the other. With any proof other than the watch's the handshake fails: nothing is sent and no keys
remain. -/
theorem honest_completes (h : Handshake) (watch : Watch) (phoneNonce : Octets 16)
    (hsecret : watch.secret = h.secret)
    (hinfo : (PhoneInfo.packing.write h.phoneInfo).length < Cipher.Ccm.lengthLimit) :
    (∃ waiting accepted info,
      (h.startEncrypted phoneNonce).2 =
        ⟨Command.authKind, nonceSubtype, .auth (.phoneNonce phoneNonce)⟩ ∧
      (h.startEncrypted phoneNonce).1.handle (watch.answerWith (watch.proof phoneNonce)) =
        (waiting, .ok (some (.send ⟨Command.authKind, authSubtype,
          .auth (.phoneProof (watch.expected phoneNonce) info)⟩))) ∧
      (watch.keys phoneNonce).cipher.opened (Bytes.le16 0 ++ info) =
        .ok (PhoneInfo.packing.write h.phoneInfo) ∧
      waiting.handle acceptance = (accepted, .ok (some .authenticated)) ∧
      ∀ later : List Command, ∃ cipher,
        (accepted.run (later.map .handle)).isAuthenticated = true ∧
        (accepted.run (later.map .handle)).cipher? = some cipher ∧
        (watch.keys phoneNonce).cipher.Hears cipher ∧
        cipher.Hears (watch.keys phoneNonce).cipher) ∧
    ∀ proof, proof ≠ watch.proof phoneNonce →
      ∃ failed, (h.startEncrypted phoneNonce).1.handle (watch.answerWith proof) =
          (failed, .error .authenticationFailed) ∧
        failed.state = .failed ∧ failed.pending? = none ∧ failed.cipher? = none := by
  have hstate : (h.startEncrypted phoneNonce).1.state = .awaitingWatchNonce phoneNonce := rfl
  have hsame : (h.startEncrypted phoneNonce).1.secret = watch.secret := hsecret.symm
  rw [watch.proof_eq, watch.expected_eq, watch.keys_eq, ← hsame]
  constructor
  · obtain ⟨info, hsealed, hanswer⟩ :=
      (h.startEncrypted phoneNonce).1.answerNonce_watchProof phoneNonce watch.nonce hinfo
    refine ⟨_, _, info, rfl, (handle_watchNonce hstate rfl rfl).trans hanswer,
      SessionKeys.opened_le16_append _ hsealed, handle_acceptance rfl rfl, fun later => ?_⟩
    rw [run_handle_of_authenticated rfl later]
    exact ⟨_, rfl, rfl, PacketCipher.hears_reversed _, PacketCipher.reversed_hears _⟩
  · intro proof hne
    exact ⟨_, (handle_watchNonce hstate rfl rfl).trans (answerNonce_of_ne hne), rfl, rfl, rfl⟩

end

/-- A phone and a watch that share a secret; and the watch's proof with a bit of its first octet
turned. -/
theorem honest_completes_turnedBit :
    (∃ waiting accepted info,
      (startEncrypted { secret := .zero 16, userId := "1", phoneInfo := ⟨34, "host", "en"⟩ }
        (.replicate 16 1)).1.handle
          (Watch.answerWith ⟨.zero 16, .replicate 16 2⟩
            (Watch.proof ⟨.zero 16, .replicate 16 2⟩ (.replicate 16 1))) =
        (waiting, .ok (some (.send ⟨Command.authKind, authSubtype, .auth (.phoneProof
          (Watch.expected ⟨.zero 16, .replicate 16 2⟩ (.replicate 16 1)) info)⟩))) ∧
      waiting.handle acceptance = (accepted, .ok (some .authenticated)) ∧
      accepted.isAuthenticated = true) ∧
    ∃ failed,
      (startEncrypted { secret := .zero 16, userId := "1", phoneInfo := ⟨34, "host", "en"⟩ }
        (.replicate 16 1)).1.handle
          (Watch.answerWith ⟨.zero 16, .replicate 16 2⟩
            (Octets.xor (Watch.proof ⟨.zero 16, .replicate 16 2⟩ (.replicate 16 1))
              (.pad 32 [1]))) =
        (failed, .error .authenticationFailed) ∧
      failed.cipher? = none := by
  have hturned (proof : Octets 32) : proof.xor (.pad 32 [1]) ≠ proof := by
    intro h
    have hfirst : proof[0] ^^^ (1 : UInt8) = proof[0] := by
      have hall := congrArg (·[0]) h
      rw [Octets.xor, Vector.getElem_zipWith] at hall
      exact hall
    have hnothing := congrArg (proof[0] ^^^ ·) hfirst
    simp only [← UInt8.xor_assoc, UInt8.xor_self, UInt8.zero_xor] at hnothing
    cases hnothing
  obtain ⟨⟨waiting, accepted, info, -, hanswer, -, haccept, hlater⟩, hfails⟩ :=
    honest_completes { secret := .zero 16, userId := "1", phoneInfo := ⟨34, "host", "en"⟩ }
      ⟨.zero 16, .replicate 16 2⟩ (.replicate 16 1) rfl (by decide +kernel)
  obtain ⟨cipher, hauth, -⟩ := hlater []
  obtain ⟨failed, hfailed, -, -, hcipher⟩ := hfails _ (hturned _)
  exact ⟨⟨waiting, accepted, info, hanswer, haccept, hauth⟩, failed, hfailed, hcipher⟩

end Handshake

end WatchLink
