import WatchLink.Cipher.Aes
import WatchLink.Digest.Sha256

/-!
# The primitives of a connection

Key derivation, proofs and packet sealing rest on two functions, a block cipher in the forward
direction and a keyed digest. What the library says about connections holds for any two functions
of these types, so they are a class; `standard` is the choice the watches make.
-/

namespace WatchLink

/-- A block cipher with 16-octet keys and a keyed digest of 32 octets. -/
class CipherSuite where
  block : Octets 16 → Octets 16 → Octets 16
  /-- The digest of a message under a key. -/
  mac : Bytes → Bytes → Octets 32

namespace CipherSuite

/-- AES-128 and HMAC-SHA256. -/
instance standard : CipherSuite where
  block := Cipher.Aes.encrypt
  mac := Digest.Sha256.hmac

end CipherSuite

end WatchLink
