import WatchLink.Link.Stream
import WatchLink.Proofs.Link.Writing
import WatchLink.Session.Operations

/-!
# Connecting over a stream

A stream has nothing to settle on, and the hello of the encrypted handshake is authentication data,
which travels unsealed. So all that can go wrong is that the radio refuses the first transaction.
-/

namespace WatchLink.Session

variable {S R : Type} [Service S] [Radio R]

/-- The phone's nonce as a command. -/
def hello (nonce : Octets 16) : Command :=
  ⟨Command.authKind, Handshake.nonceSubtype, .auth (.phoneNonce nonce)⟩

def greeting (nonce : Octets 16) : Transaction :=
  ⟨"initialize", [.setState .initializing,
    .write .stream (Frame.command 0 .auth (hello nonce).toBytes).octets]⟩

/-- The session before its first transaction is submitted. -/
def greeted (s : Session StreamLink S R) (nonce : Octets 16) : Session StreamLink S R :=
  let s := (if s.state = .notConnected then s else s.resetConnection).setState .connecting
  { s with
    device := s.device.resetStatus
    link := s.link.resetCounters.afterUnsealed
    handshake := (s.handshake.startEncrypted nonce).1 }

/-- Connecting is submitting the first transaction. -/
theorem connect_stream (s : Session StreamLink S R) (discovery : Discovery) (nonce : Octets 16) :
    s.connect discovery nonce =
      match (s.greeted nonce).submit (greeting nonce) with
      | (t, .ok ()) => (t.setState .initializing, .ok ())
      | (t, .error e) => (t.resetConnection.setState .notConnected, .error e) := by
  have hwrite (link : StreamLink) :
      (Link.writeCommand link.resetCounters (hello nonce) none).Puts
        link.resetCounters.afterUnsealed
        (.write .stream (Frame.command 0 .auth (hello nonce).toBytes).octets) :=
    StreamLink.writeFrame_of_unsealed link.resetCounters
      (.command 0 .auth (hello nonce).toBytes) none nofun
  unfold hello at hwrite
  simp only [connect, Link.bind, Link.resetCounters, Link.startup, Handshake.start,
    Handshake.startEncrypted, hwrite _ _]
  generalize hsubmit : submit (_ : Session StreamLink S R) _ = submitted
  have hgreeted : (s.greeted nonce).submit (greeting nonce) = submitted := by
    rw [← hsubmit]
    congr 1
  rw [hgreeted]
  obtain ⟨t, answer⟩ := submitted
  cases answer <;> rfl

end WatchLink.Session
