import WatchLink.Cipher.Suite

/-!
# Session keys

Both ends stretch the pairing secret, under the two nonces of the handshake, into a key and a
nonce for each direction. Each end keeps them as what it decrypts and what it encrypts with, so
the other end has the same keys `reversed`. The two proofs of the handshake are keyed digests of
the nonces, the watch's under the key it encrypts with, the phone's under its own.
-/

namespace WatchLink

/-- What one end of an encrypted connection decrypts and encrypts with. -/
structure SessionKeys where
  decKey : Octets 16
  encKey : Octets 16
  decNonce : Octets 4
  encNonce : Octets 4
  deriving DecidableEq

namespace SessionKeys

/-- The text that sets this derivation apart from others under the same secret. -/
def purpose : Bytes := "miwear-auth".toUTF8.toList

section

variable [CipherSuite]

/-- The two rows of stretched key material, each the digest of the row before it, the purpose
and the row's number. -/
def stretch (secret phoneNonce watchNonce : Octets 16) : Octets 32 × Octets 32 :=
  let root := CipherSuite.mac (phoneNonce.toList ++ watchNonce.toList) secret.toList
  let first := CipherSuite.mac root.toList (purpose ++ [1])
  let second := CipherSuite.mac root.toList (first.toList ++ purpose ++ [2])
  (first, second)

/-- The keys of the phone for a secret and the two nonces. -/
def derive (secret phoneNonce watchNonce : Octets 16) : SessionKeys :=
  let (first, second) := stretch secret phoneNonce watchNonce
  { decKey := first.window 0 16
    encKey := first.window 16 16
    decNonce := second.window 0 4
    encNonce := second.window 4 4 }

def watchProof (keys : SessionKeys) (phoneNonce watchNonce : Octets 16) : Octets 32 :=
  CipherSuite.mac keys.decKey.toList (watchNonce.toList ++ phoneNonce.toList)

def phoneProof (keys : SessionKeys) (phoneNonce watchNonce : Octets 16) : Octets 32 :=
  CipherSuite.mac keys.encKey.toList (phoneNonce.toList ++ watchNonce.toList)

def verifies (keys : SessionKeys) (phoneNonce watchNonce : Octets 16) (proof : Octets 32) : Bool :=
  keys.watchProof phoneNonce watchNonce = proof

end

/-- The same keys seen from the other end. -/
def reversed (keys : SessionKeys) : SessionKeys where
  decKey := keys.encKey
  encKey := keys.decKey
  decNonce := keys.encNonce
  encNonce := keys.decNonce

@[simp] theorem reversed_reversed (keys : SessionKeys) : keys.reversed.reversed = keys := rfl

/-- How keys are shown: without their contents. -/
def redacted : String := "SessionKeys(..)"

end SessionKeys

end WatchLink
