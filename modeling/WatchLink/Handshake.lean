import WatchLink.Cipher.Packet
import WatchLink.Command.Packed
import WatchLink.Transport

/-!
# The handshake

In the encrypted handshake the phone sends a nonce, the watch answers with its own and a proof that
it knows the pairing secret, the phone sends its proof and a sealed description of itself, and the
watch accepts. In the clear-text handshake the phone names its user and the watch accepts.

The keys of the two nonces are put by until the watch accepts, and are those of the connection from
then on. A reply that a state does not await is ignored; an awaited reply that is wrong fails the
handshake and drops whatever keys there are.
-/

namespace WatchLink

/-- Where a handshake stands. -/
inductive HandshakeState where
  | idle
  | awaitingUserIdAck
  | awaitingWatchNonce (phoneNonce : Octets 16)
  | awaitingAuthResult
  | authenticated
  | failed
  deriving DecidableEq

/-- What a reply moves the connection to do. -/
inductive HandshakeStep where
  | send (command : Command)
  | authenticated
  deriving DecidableEq

/-- The phone's end of the handshake. -/
structure Handshake where
  secret : Octets 16
  userId : String
  phoneInfo : PhoneInfo
  state : HandshakeState := .idle
  /-- The keys that await acceptance. -/
  pending? : Option SessionKeys := none
  /-- The keys of an encrypted connection, once accepted. -/
  keys? : Option SessionKeys := none
  deriving DecidableEq

namespace Handshake

def userIdSubtype : UInt8 := 5

def nonceSubtype : UInt8 := 26

def authSubtype : UInt8 := 27

/-- Whether the watch has accepted. -/
def isAuthenticated (h : Handshake) : Bool := h.state = .authenticated

/-- Forget everything but who the phone is. -/
def reset (h : Handshake) : Handshake := { h with state := .idle, pending? := none, keys? := none }

/-- Start the encrypted handshake with a nonce; the command to send. -/
def startEncrypted (h : Handshake) (phoneNonce : Octets 16) : Handshake × Command :=
  ({ h.reset with state := .awaitingWatchNonce phoneNonce },
   ⟨Command.authKind, nonceSubtype, .auth (.phoneNonce phoneNonce)⟩)

def startClearText (h : Handshake) : Handshake × Command :=
  ({ h.reset with state := .awaitingUserIdAck },
   ⟨Command.authKind, userIdSubtype, .auth (.userId h.userId)⟩)

def start (h : Handshake) (mode : HandshakeMode) (phoneNonce : Octets 16) : Handshake × Command :=
  match mode with
  | .encrypted => h.startEncrypted phoneNonce
  | .clearText => h.startClearText

/-- The handshake has failed, and no keys remain. -/
def fail (h : Handshake) : Handshake × Except LinkError (Option HandshakeStep) :=
  ({ h with state := .failed, pending? := none, keys? := none }, .error .authenticationFailed)

section

variable [CipherSuite]

/-- The cipher of the connection, once accepted. -/
def cipher? (h : Handshake) : Option PacketCipher := h.keys?.map SessionKeys.cipher

theorem cipher?_of_keys? {h : Handshake} {keys : SessionKeys} (hkeys : h.keys? = some keys) :
    h.cipher? = some keys.cipher := by
  rw [cipher?, hkeys]
  rfl

/-- The answer to the watch's nonce, if its proof holds. The phone's description is sealed under
counter zero. -/
def answerNonce (h : Handshake) (phoneNonce watchNonce : Octets 16) (proof : Octets 32) :
    Handshake × Except LinkError (Option HandshakeStep) :=
  let keys := SessionKeys.derive h.secret phoneNonce watchNonce
  if keys.verifies phoneNonce watchNonce proof then
    match keys.cipher.sealed 0 (PhoneInfo.packing.write h.phoneInfo) with
    | .ok info =>
      ({ h with state := .awaitingAuthResult, pending? := some keys },
       .ok (some (.send ⟨Command.authKind, authSubtype,
         .auth (.phoneProof (keys.phoneProof phoneNonce watchNonce) info)⟩)))
    | .error _ => h.fail
  else h.fail

/-- The handshake after an authentication command, and what to do about it. -/
def handle (h : Handshake) (command : Command) :
    Handshake × Except LinkError (Option HandshakeStep) :=
  if command.subtype = nonceSubtype then
    match h.state, command.body with
    | .awaitingWatchNonce phoneNonce, .auth (.watchNonce nonce proof) =>
      h.answerNonce phoneNonce nonce proof
    | .awaitingWatchNonce _, _ => h.fail
    | _, _ => (h, .ok none)
  else if command.subtype = authSubtype then
    match h.state with
    | .awaitingAuthResult =>
      if command.body = .status 0 then
        match h.pending? with
        | some keys =>
          ({ h with state := .authenticated, pending? := none, keys? := some keys },
            .ok (some .authenticated))
        | none => h.fail
      else h.fail
    | _ => (h, .ok none)
  else if command.subtype = userIdSubtype then
    match h.state with
    | .awaitingUserIdAck =>
      if command.body = .status 0 then
        ({ h with state := .authenticated }, .ok (some .authenticated))
      else h.fail
    | _ => (h, .ok none)
  else (h, .error (.unknownCommand command.kind command.subtype))

end

end Handshake

end WatchLink
