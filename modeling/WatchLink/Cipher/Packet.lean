import WatchLink.Cipher.Ccm
import WatchLink.Cipher.SessionKeys
import WatchLink.Error

/-!
# Sealing packets

A `PacketCipher` seals the payload of one packet under a counter and opens a payload that starts
with its counter. The session's own is `SessionKeys.cipher`; `PacketCipher.refusing` stands for
a connection without keys. Links take any `PacketCipher`, so what is said of them covers a cipher
that fails at will.

A sender numbers its packets: `sealNext` seals under the next counter, writes that counter before
the sealed payload, and uses the number up only when sealing succeeded.
-/

namespace WatchLink

/-- How packets are sealed and opened. -/
structure PacketCipher where
  sealed : UInt16 → Bytes → Except CipherError Bytes
  /-- The payload of a counter and the sealed form after it. -/
  opened : Bytes → Except CipherError Bytes

namespace PacketCipher

/-- The cipher of a connection that has no keys. -/
def refusing : PacketCipher where
  sealed _ _ := .error .noSessionKeys
  opened _ := .error .noSessionKeys

/-- The counter to go on from, and a payload sealed under the counter after `counter`, written
after that counter. -/
def sealNext (cipher : PacketCipher) (counter : UInt16) (plain : Bytes) :
    UInt16 × Except CipherError Bytes :=
  match cipher.sealed (counter + 1) plain with
  | .ok text => (counter + 1, .ok (Bytes.le16 (counter + 1) ++ text))
  | .error e => (counter, .error e)

end PacketCipher

namespace SessionKeys

/-- The nonce of a packet: the direction's own, four zeros, the counter, two zeros. -/
def packetNonce (direction : Octets 4) (counter : UInt16) : Octets 12 :=
  Octets.pad 12 (direction.toList ++ [0, 0, 0, 0] ++ Bytes.le16 counter)

/-- Octets before a sealed text. -/
def counterSize : Nat := 2

def cipher [CipherSuite] (keys : SessionKeys) : PacketCipher where
  sealed counter plain :=
    match Cipher.Ccm.seal? (CipherSuite.block keys.encKey) (packetNonce keys.encNonce counter)
        plain with
    | some text => .ok text
    | none => .error .encryptFailed
  opened payload :=
    if payload.length < counterSize + Cipher.Ccm.tagSize then .error .truncated
    else
      match payload with
      | low :: high :: text =>
        match Cipher.Ccm.unseal? (CipherSuite.block keys.decKey)
            (packetNonce keys.decNonce (Bytes.word16 low high)) text with
        | some plain => .ok plain
        | none => .error .decryptFailed
      | _ => .error .truncated

end SessionKeys

end WatchLink
