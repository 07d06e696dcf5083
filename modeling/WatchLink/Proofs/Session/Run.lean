import WatchLink.Proofs.Session.Deeds

/-!
# Runs of a session

What a host can do with a session is a `HostCall`, and a run is a list of them, in any order.
Between calls the radio and the inbox may be anything: the radio because it is the host's, the
inbox because the radio's callback fills it. Every call starts with nothing recorded, so the
effects afterwards are those of the call.
-/

namespace WatchLink

/-- What a host can do with a session. -/
inductive HostCall (S R : Type) where
  | connect (discovery : Discovery) (nonce : Octets 16)
  | disconnect
  | mtuChanged (mtu : Nat)
  | register (service : S)
  | deliver (endpoint : Endpoint) (data : Bytes)
  | processPending (host : HostView)
  | receive (host : HostView) (endpoint : Endpoint) (data : Bytes)
  /-- Write a command into a transaction of the host's. -/
  | sendIn (command : Command)
  | send (task : String) (command : Command)
  | installFirmware (image : FirmwareImage)
  | sendConfiguration (host : HostView) (key : String)
  | setCurrentTime (host : HostView)
  | findPhoneStop
  | findWatch (start : Bool)
  | setVibration (type : String) (preset : UInt32)
  | radio (radio : R)
  | inbox (inbox : Inbox)

/-- What an effect asked of the radio. -/
def Effect.ops : Effect → List RadioOp
  | .told _ => []
  | .submitted transaction => transaction.ops
  | .refused transaction => transaction.ops

namespace Session

variable {L S R : Type}

/-- What the radio was asked to do, whether it took it or not, in order. -/
def asked (s : Session L S R) : List RadioOp := s.effects.reverse.flatMap Effect.ops

@[simp] theorem asked_tell (s : Session L S R) (event : Event) :
    (s.tell event).asked = s.asked := by
  simp [asked, tell, Effect.ops]

/-- What was told stays on record. -/
theorem ne_tell (s : Session L S R) (event : Event) : s ≠ s.tell event := by
  intro heq
  have heffects : s.effects = .told event :: s.effects := congrArg effects heq
  exact List.cons_ne_self _ _ heffects.symm

@[simp] theorem asked_submit [Radio R] (s : Session L S R) (transaction : Transaction) :
    (s.submit transaction).1.asked = s.asked ++ transaction.ops := by
  simp only [asked, submit, List.reverse_cons, List.flatMap_append, List.flatMap_singleton]
  split <;> rfl

/-- A new session is idle and has done nothing yet. -/
theorem eq_of_ofConfig {link : L} {radio : R} {config : LinkConfig} {capabilities : Capabilities}
    {s : Session L S R} (hs : ofConfig link radio config capabilities = .ok s) :
    ∃ secret, s =
      { link := link
        radio := radio
        handshake := { secret := secret, userId := config.userId, phoneInfo := config.phoneInfo }
        device := .ofConfig capabilities config } := by
  rw [ofConfig] at hs
  split at hs
  · cases hs
    exact ⟨_, rfl⟩
  · cases hs
  · cases hs

variable [CipherSuite] [Link L] [Service S] [Radio R]

/-- The session after a call, and the operations that were handed out to the host. -/
def perform (s : Session L S R) : HostCall S R → Session L S R × List RadioOp
  | .connect discovery nonce => ((s.connect discovery nonce).1, [])
  | .disconnect => (s.disconnect, [])
  | .mtuChanged mtu => (s.onMtuChanged mtu, [])
  | .register service => ((s.register service).1, [])
  | .deliver endpoint data => ((s.deliver endpoint data).1, [])
  | .processPending host => (s.processPending host, [])
  | .receive host endpoint data => (s.onReceive host endpoint data, [])
  | .sendIn command =>
    let (s, transaction, _) := s.sendIn command { name := "caller" }
    (s, transaction.ops)
  | .send task command => ((s.send task command).1, [])
  | .installFirmware image => ((s.installFirmware image).1, [])
  | .sendConfiguration host key => ((s.sendConfiguration host key).1, [])
  | .setCurrentTime host => ((s.setCurrentTime host).1, [])
  | .findPhoneStop => (s.findPhoneStop.1, [])
  | .findWatch start => ((s.findWatch start).1, [])
  | .setVibration type preset => ((s.setVibration type preset).1, [])
  | .radio radio => ({ s with radio := radio }, [])
  | .inbox inbox => ({ s with inbox := inbox }, [])

def run (s : Session L S R) (calls : List (HostCall S R)) : Session L S R :=
  calls.foldl (fun s call => (s.clearEffects.perform call).1) s

theorem run_nil (s : Session L S R) : s.run [] = s := rfl

theorem run_cons (s : Session L S R) (call : HostCall S R) (calls : List (HostCall S R)) :
    s.run (call :: calls) = (s.clearEffects.perform call).1.run calls := rfl

theorem run_append (s : Session L S R) (calls more : List (HostCall S R)) :
    s.run (calls ++ more) = (s.run calls).run more := List.foldl_append

/-- What every call of a run keeps holds after it. -/
theorem run_keep {P : Session L S R → Prop} {s : Session L S R} (calls : List (HostCall S R))
    (h : P s) (hcall : ∀ t, P t → ∀ call ∈ calls, P (t.clearEffects.perform call).1) :
    P (s.run calls) :=
  List.foldlRecOn calls _ h hcall

/-- A session that a host can come to. -/
inductive Reachable : Session L S R → Prop
  | ofConfig {link : L} {radio : R} {config : LinkConfig} {capabilities : Capabilities}
      {s : Session L S R} (hs : Session.ofConfig link radio config capabilities = .ok s) :
      Reachable s
  | perform {s : Session L S R} (h : Reachable s) (call : HostCall S R) :
      Reachable (s.clearEffects.perform call).1

theorem Reachable.run {s : Session L S R} (h : s.Reachable) (calls : List (HostCall S R)) :
    (s.run calls).Reachable :=
  run_keep calls h fun _ hreachable call _ => hreachable.perform call

/-- How a call comes about. Connecting, disconnecting and the adding of a service are told apart
from what goes on in between, which is a path of moves; a command for the host's own transaction
moves the link only. -/
inductive Performed (s : Session L S R) : HostCall S R → Session L S R × List RadioOp → Prop
  | connect (discovery : Discovery) (nonce : Octets 16) :
      Performed s (.connect discovery nonce) ((s.connect discovery nonce).1, [])
  | disconnect : Performed s .disconnect (s.disconnect, [])
  | mtuChanged (mtu : Nat) : Performed s (.mtuChanged mtu) (s.onMtuChanged mtu, [])
  | radio (radio : R) : Performed s (.radio radio) ({ s with radio := radio }, [])
  | register (service : S) :
      Performed s (.register service)
        ({ s with registry := (s.registry.register service).1 }, [])
  | sendIn {command : Command} {link : L} {op : RadioOp}
      (written : (Link.writeCommand s.link command s.handshake.cipher?).Puts link op) :
      Performed s (.sendIn command) ({ s with link := link }, [op])
  | moved {call : HostCall S R} {t : Session L S R} (moves : Moves s t) : Performed s call (t, [])

theorem perform_sendIn {s : Session L S R} {command : Command} {link : L} {op : RadioOp}
    (written : (Link.writeCommand s.link command s.handshake.cipher?).Puts link op) :
    s.perform (.sendIn command) = ({ s with link := link }, [op]) := by
  rw [perform, sendIn, written]
  rfl

theorem performed (s : Session L S R) (call : HostCall S R) :
    Performed s call (s.perform call) := by
  cases call with
  | connect discovery nonce => exact .connect discovery nonce
  | disconnect => exact .disconnect
  | mtuChanged mtu => exact .mtuChanged mtu
  | register service => exact .register service
  | deliver endpoint data => exact .moved (.single (.inbox s _))
  | processPending host => exact .moved (acts_processAtMost host _ s).moves
  | receive host endpoint data => exact .moved (acts_onReceive s host endpoint data).moves
  | sendIn command =>
      cases Link.writeCommand_allOrNothing s.link command s.handshake.cipher? with
      | puts link endpoint data made =>
          rw [perform_sendIn made]
          exact .sendIn made
      | fails e failed =>
          rw [perform, sendIn, failed]
          exact .moved .refl
  | send task command => exact .moved (.single (.react (.send s task command)))
  | installFirmware image => exact .moved (reactions_installFirmware s image).moves
  | sendConfiguration host key => exact .moved (deeds_sendConfiguration s host key).reactions.moves
  | setCurrentTime host => exact .moved (deeds_setCurrentTime s host).reactions.moves
  | findPhoneStop => exact .moved (deeds_findPhoneStop s).reactions.moves
  | findWatch start => exact .moved (deeds_findWatch s start).reactions.moves
  | setVibration type preset => exact .moved (deeds_setVibration s type preset).reactions.moves
  | radio radio => exact .radio radio
  | inbox inbox => exact .moved (.single (.inbox s inbox))

/-! ## Keys -/

omit [CipherSuite] in
theorem coherent_connect {s : Session L S R} (h : s.handshake.Coherent) (discovery : Discovery)
    (nonce : Octets 16) : (s.connect discovery nonce).1.handshake.Coherent := by
  have hready :
      (if s.state = .notConnected then s else s.resetConnection).handshake.Coherent := by
    split
    · exact h
    · exact Handshake.coherent_reset _
  simp only [connect]
  split
  · exact hready
  · exact hready
  · rename_i mode _
    split
    · exact Handshake.coherent_reset _
    · split
      · rename_i t hsubmit
        have hhandshake := congrArg (fun result => result.1.handshake) hsubmit
        change t.handshake.Coherent
        rw [← hhandshake]
        exact Handshake.coherent_start _ mode nonce
      · exact Handshake.coherent_reset _

theorem coherent_perform {s : Session L S R} (h : s.handshake.Coherent) (call : HostCall S R) :
    (s.perform call).1.handshake.Coherent := by
  have hperformed := s.performed call
  generalize s.perform call = result at hperformed ⊢
  cases hperformed with
  | connect discovery nonce => exact coherent_connect h discovery nonce
  | disconnect => exact Handshake.coherent_reset _
  | mtuChanged => exact h
  | radio => exact h
  | register => exact h
  | sendIn => exact h
  | moved moves => exact moves.keep coherent_move h

theorem Reachable.coherent {s : Session L S R} (h : s.Reachable) : s.handshake.Coherent := by
  induction h with
  | ofConfig hs =>
      obtain ⟨secret, rfl⟩ := eq_of_ofConfig hs
      exact ⟨iff_of_false nofun nofun, nofun⟩
  | @perform s _ call ih =>
      have hclear : s.clearEffects.handshake.Coherent := ih
      exact coherent_perform hclear call

/-! ## Services -/

omit [CipherSuite] in
theorem alike_connect (s : Session L S R) (discovery : Discovery) (nonce : Octets 16) :
    s.registry.Alike (s.connect discovery nonce).1.registry := by
  have hready : s.registry.Alike
      (if s.state = .notConnected then s else s.resetConnection).registry := by
    split
    · exact .refl _
    · exact s.registry.alike_onDisconnect
  simp only [connect]
  split
  · exact hready
  · exact hready
  · rename_i mode _
    split
    · exact hready.trans (Registry.alike_onDisconnect _)
    · split
      · rename_i t hsubmit
        have hregistry := congrArg (fun result => result.1.registry) hsubmit
        change s.registry.Alike t.registry
        rw [← hregistry]
        exact hready
      · rename_i t e hsubmit
        have hregistry := congrArg (fun result => result.1.registry) hsubmit
        change s.registry.Alike t.registry.onDisconnect
        rw [← hregistry]
        exact hready.trans (Registry.alike_onDisconnect _)

/-- Whatever is called, kinds stay routed as they should be. -/
theorem routed_perform {s : Session L S R} (h : s.registry.Routed) (call : HostCall S R) :
    (s.perform call).1.registry.Routed := by
  have hperformed := s.performed call
  generalize s.perform call = result at hperformed ⊢
  cases hperformed with
  | connect discovery nonce => exact (alike_connect s discovery nonce).routed h
  | disconnect => exact s.registry.alike_onDisconnect.routed h
  | mtuChanged => exact h
  | radio => exact h
  | register service => exact (h.added service).routed h
  | sendIn => exact h
  | moved moves => exact moves.alike.routed h

theorem routed_run {s : Session L S R} (h : s.registry.Routed) (calls : List (HostCall S R)) :
    (s.run calls).registry.Routed :=
  run_keep (P := fun t => t.registry.Routed) calls h fun t hrouted call _ =>
    routed_perform (show t.clearEffects.registry.Routed from hrouted) call

omit [CipherSuite] [Link L] [Service S] [Radio R] in
theorem routed_ofConfig {link : L} {radio : R} {config : LinkConfig}
    {capabilities : Capabilities} {s : Session L S R}
    (hs : ofConfig link radio config capabilities = .ok s) : s.registry.Routed := by
  obtain ⟨secret, rfl⟩ := eq_of_ofConfig hs
  exact Registry.routed_empty

theorem Reachable.routed {s : Session L S R} (h : s.Reachable) : s.registry.Routed := by
  induction h with
  | ofConfig hs => exact routed_ofConfig hs
  | @perform s _ call ih =>
      have hclear : s.clearEffects.registry.Routed := ih
      exact routed_perform hclear call

end Session

end WatchLink
