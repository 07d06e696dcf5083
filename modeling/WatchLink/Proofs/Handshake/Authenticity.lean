import WatchLink.Handshake
import WatchLink.Proofs.Cipher.Opening

/-!
# What an authenticated handshake says about the watch

`Handled h command` lists what a reply can do: nothing, fail the handshake, or take one of its
three steps, each with what was awaited and what the reply carried. `Coherent` says which keys there
may be in a state; every call keeps that.

A run is a list of calls, and `Explained` says of a state and its keys which calls must have led to
them: since the last start only replies were handled, and among them, in order, those that the state
stands for. Every call keeps its handshake explained, so whoever is authenticated in the encrypted
handshake has seen the watch's proof under the keys of the connection and, after it, the watch's
acceptance.
-/

namespace WatchLink

def HandshakeState.awaits : HandshakeState → Bool
  | .awaitingUserIdAck | .awaitingWatchNonce _ | .awaitingAuthResult => true
  | .idle | .authenticated | .failed => false

namespace Handshake

/-! ## States -/

theorem isAuthenticated_iff (h : Handshake) :
    h.isAuthenticated = true ↔ h.state = .authenticated := decide_eq_true_iff

/-- How the keys go with the state: keys are put by exactly while acceptance is awaited, and keys
of a connection there are only once it is accepted. -/
structure Coherent (h : Handshake) : Prop where
  pending : h.pending?.isSome = true ↔ h.state = .awaitingAuthResult
  accepted : h.keys?.isSome = true → h.state = .authenticated

theorem Coherent.keys?_of_awaits {h : Handshake} (hcoherent : h.Coherent)
    (hawaits : h.state.awaits = true) : h.keys? = none := by
  cases hkeys : h.keys? with
  | none => rfl
  | some keys =>
      have hstate := hcoherent.accepted (by rw [hkeys]; rfl)
      rw [hstate] at hawaits
      cases hawaits

theorem coherent_reset (h : Handshake) : h.reset.Coherent := ⟨iff_of_false nofun nofun, nofun⟩

theorem coherent_accepted (h : Handshake) (keys : SessionKeys) :
    Coherent { h with state := .authenticated, pending? := none, keys? := some keys } :=
  ⟨iff_of_false nofun nofun, fun _ => rfl⟩

theorem coherent_start (h : Handshake) (mode : HandshakeMode) (phoneNonce : Octets 16) :
    (h.start mode phoneNonce).1.Coherent := by
  cases mode <;> exact ⟨iff_of_false nofun nofun, nofun⟩

/-! ## Calls -/

/-- What can be asked of a handshake. -/
inductive Call where
  | startEncrypted (phoneNonce : Octets 16)
  | startClearText
  | reset
  | handle (command : Command)

def Call.starts : Call → Bool
  | .startEncrypted _ | .startClearText => true
  | .reset | .handle _ => false

/-- Since a start of the calls nothing happened but that these commands were handled. -/
def Since (start : Call) (calls : List Call) (commands : List Command) : Prop :=
  ∃ before, calls = before ++ start :: commands.map .handle

theorem Since.start (before : List Call) (start : Call) : Since start (before ++ [start]) [] :=
  ⟨before, rfl⟩

theorem Since.handle {start : Call} {calls : List Call} {commands : List Command}
    (h : Since start calls commands) (command : Command) :
    Since start (calls ++ [.handle command]) (commands ++ [command]) := by
  obtain ⟨before, rfl⟩ := h
  refine ⟨before, ?_⟩
  rw [List.append_assoc, List.cons_append, List.map_append]
  rfl

/-- There is one last start. -/
theorem Since.unique {start last : Call} {before after : List Call} {commands : List Command}
    (h : Since start (before ++ last :: after) commands) (hlast : last.starts = true)
    (hstart : start.starts = true) (hafter : ∀ call ∈ after, call.starts = false) :
    start = last ∧ after = commands.map .handle := by
  obtain ⟨before', heq⟩ := h
  have hhandle : ∀ call ∈ commands.map Call.handle, call.starts = false := by
    intro call hmem
    obtain ⟨command, -, rfl⟩ := List.mem_map.1 hmem
    rfl
  -- Whichever stands first, the other is among what came after it, where there are no starts.
  rcases List.append_eq_append_iff.1 heq with ⟨middle, rfl, hrest⟩ | ⟨middle, rfl, hrest⟩
  · cases middle with
    | nil =>
        obtain ⟨rfl, rfl⟩ := List.cons.inj hrest
        exact ⟨rfl, rfl⟩
    | cons call middle =>
        obtain ⟨rfl, rfl⟩ := List.cons.inj hrest
        have hfalse := hafter start (List.mem_append_right _ List.mem_cons_self)
        rw [hstart] at hfalse
        cases hfalse
  · cases middle with
    | nil =>
        obtain ⟨rfl, rfl⟩ := List.cons.inj hrest
        exact ⟨rfl, rfl⟩
    | cons call middle =>
        obtain ⟨rfl, hcommands⟩ := List.cons.inj hrest
        rw [hcommands] at hhandle
        have hfalse := hhandle last (List.mem_append_right _ List.mem_cons_self)
        rw [hlast] at hfalse
        cases hfalse

/-! ## Replies -/

section

variable [CipherSuite]

/-- What a reply can do to a handshake. -/
inductive Handled (h : Handshake) (command : Command) :
    Handshake × Except LinkError (Option HandshakeStep) → Prop
  | ignored : Handled h command (h, .ok none)
  | unknown : Handled h command (h, .error (.unknownCommand command.kind command.subtype))
  | refused (awaits : h.state.awaits = true) : Handled h command h.fail
  | answered {phoneNonce watchNonce : Octets 16} {proof : Octets 32} {answer : Command}
      (awaited : h.state = .awaitingWatchNonce phoneNonce)
      (subtype : command.subtype = nonceSubtype)
      (body : command.body = .auth (.watchNonce watchNonce proof))
      (proved : (SessionKeys.derive h.secret phoneNonce watchNonce).watchProof phoneNonce
        watchNonce = proof) :
      Handled h command
        ({ h with
            state := .awaitingAuthResult
            pending? := some (.derive h.secret phoneNonce watchNonce) },
          .ok (some (.send answer)))
  | accepted {keys : SessionKeys} (awaited : h.state = .awaitingAuthResult)
      (pending : h.pending? = some keys) (subtype : command.subtype = authSubtype)
      (body : command.body = .status 0) :
      Handled h command
        ({ h with state := .authenticated, pending? := none, keys? := some keys },
          .ok (some .authenticated))
  | acknowledged (awaited : h.state = .awaitingUserIdAck)
      (subtype : command.subtype = userIdSubtype) (body : command.body = .status 0) :
      Handled h command ({ h with state := .authenticated }, .ok (some .authenticated))

theorem handled_answerNonce {h : Handshake} {command : Command}
    {phoneNonce watchNonce : Octets 16} {proof : Octets 32}
    (awaited : h.state = .awaitingWatchNonce phoneNonce) (subtype : command.subtype = nonceSubtype)
    (body : command.body = .auth (.watchNonce watchNonce proof)) :
    Handled h command (h.answerNonce phoneNonce watchNonce proof) := by
  have hrefused : Handled h command h.fail := .refused (by rw [awaited]; rfl)
  rw [answerNonce]
  split
  · rename_i hverifies
    split
    · exact .answered awaited subtype body (of_decide_eq_true hverifies)
    · exact hrefused
  · exact hrefused

/-- The list is complete. -/
theorem handled (h : Handshake) (command : Command) : Handled h command (h.handle command) := by
  rw [handle]
  split
  · rename_i hsubtype
    split
    · rename_i hstate hbody
      exact handled_answerNonce hstate hsubtype hbody
    · rename_i hstate _
      exact .refused (by rw [hstate]; rfl)
    · exact .ignored
  · split
    · rename_i hsubtype
      split
      · rename_i hstate
        have hrefused : Handled h command h.fail := .refused (by rw [hstate]; rfl)
        split
        · rename_i hbody
          split
          · rename_i hpending
            exact .accepted hstate hpending hsubtype hbody
          · exact hrefused
        · exact hrefused
      · exact .ignored
    · split
      · rename_i hsubtype
        split
        · rename_i hstate
          split
          · rename_i hbody
            exact .acknowledged hstate hsubtype hbody
          · exact .refused (by rw [hstate]; rfl)
        · exact .ignored
      · exact .unknown

/-- A state that awaits nothing is not left by a reply. -/
theorem handle_of_not_awaits {h : Handshake} {command : Command}
    (hawaits : h.state.awaits = false) : (h.handle command).1 = h := by
  cases hh : h.handle command with
  | mk next result =>
      have hhandled := handled h command
      rw [hh] at hhandled
      cases hhandled with
      | ignored => rfl
      | unknown => rfl
      | refused awaits => rw [hawaits] at awaits; cases awaits
      | answered awaited => rw [awaited] at hawaits; cases hawaits
      | accepted awaited => rw [awaited] at hawaits; cases hawaits
      | acknowledged awaited => rw [awaited] at hawaits; cases hawaits

theorem awaits_of_send {h next : Handshake} {command answer : Command}
    (hh : h.handle command = (next, .ok (some (.send answer)))) :
    h.state.awaits = true ∧ next.state.awaits = true := by
  have hhandled := handled h command
  rw [hh] at hhandled
  cases hhandled with
  | answered awaited => exact ⟨by rw [awaited]; rfl, rfl⟩

theorem awaits_of_authenticated {h next : Handshake} {command : Command}
    (hh : h.handle command = (next, .ok (some .authenticated))) : h.state.awaits = true := by
  have hhandled := handled h command
  rw [hh] at hhandled
  cases hhandled with
  | accepted awaited => rw [awaited]; rfl
  | acknowledged awaited => rw [awaited]; rfl

theorem state_of_send {h next : Handshake} {command answer : Command}
    (hh : h.handle command = (next, .ok (some (.send answer)))) :
    next.state = .awaitingAuthResult := by
  have hhandled := handled h command
  rw [hh] at hhandled
  cases hhandled with
  | answered => rfl

theorem state_of_authenticated {h next : Handshake} {command : Command}
    (hh : h.handle command = (next, .ok (some .authenticated))) : next.state = .authenticated := by
  have hhandled := handled h command
  rw [hh] at hhandled
  cases hhandled with
  | accepted => rfl
  | acknowledged => rfl

/-- The phone's proof answers the watch's nonce. -/
theorem awaited_of_send {h next : Handshake} {command answer : Command}
    (hh : h.handle command = (next, .ok (some (.send answer)))) :
    (∃ nonce, h.state = .awaitingWatchNonce nonce) ∧ next.keys? = h.keys? := by
  have hhandled := handled h command
  rw [hh] at hhandled
  cases hhandled with
  | @answered phoneNonce _ _ _ awaited => exact ⟨⟨phoneNonce, awaited⟩, rfl⟩

/-- Keys come with the watch's verdict on the phone's proof and in no other way. -/
theorem awaited_of_authenticated {h next : Handshake} {command : Command}
    (hh : h.handle command = (next, .ok (some .authenticated))) :
    (h.state = .awaitingAuthResult ∧ next.keys?.isSome = true) ∨
    (h.state = .awaitingUserIdAck ∧ next.keys? = h.keys?) := by
  have hhandled := handled h command
  rw [hh] at hhandled
  cases hhandled with
  | accepted awaited => exact .inl ⟨awaited, rfl⟩
  | acknowledged awaited => exact .inr ⟨awaited, rfl⟩

theorem awaits_of_failed {h next : Handshake} {command : Command}
    (hh : h.handle command = (next, .error .authenticationFailed)) :
    h.state.awaits = true := by
  have hhandled := handled h command
  rw [hh] at hhandled
  cases hhandled with
  | refused awaits => exact awaits

theorem Coherent.handle {h : Handshake} (hcoherent : h.Coherent) (command : Command) :
    (h.handle command).1.Coherent := by
  have hhandled := handled h command
  generalize h.handle command = result at hhandled
  cases hhandled with
  | ignored => exact hcoherent
  | unknown => exact hcoherent
  | refused => exact ⟨iff_of_false nofun nofun, nofun⟩
  | answered awaited =>
      have hkeys := hcoherent.keys?_of_awaits (by rw [awaited]; rfl)
      exact ⟨iff_of_true rfl rfl, fun h => by simp [hkeys] at h⟩
  | accepted => exact coherent_accepted h _
  | acknowledged awaited =>
      have hpending : ¬ h.pending?.isSome = true := by
        rw [hcoherent.pending, awaited]
        nofun
      exact ⟨iff_of_false hpending nofun, fun _ => rfl⟩

/-! ## Runs -/

def perform (h : Handshake) : Call → Handshake
  | .startEncrypted phoneNonce => (h.startEncrypted phoneNonce).1
  | .startClearText => h.startClearText.1
  | .reset => h.reset
  | .handle command => (h.handle command).1

def run (h : Handshake) (calls : List Call) : Handshake := calls.foldl perform h

/-- The commands hold a nonce of the watch with the proof that it knows the secret, and these are
the keys of the two nonces. -/
def Proved (secret phoneNonce : Octets 16) (keys : SessionKeys) (commands : List Command) : Prop :=
  ∃ earlier command later watchNonce proof,
    commands = earlier ++ command :: later ∧
    command.subtype = nonceSubtype ∧ command.body = .auth (.watchNonce watchNonce proof) ∧
    keys = .derive secret phoneNonce watchNonce ∧
    proof = CipherSuite.mac keys.decKey.toList (watchNonce.toList ++ phoneNonce.toList)

/-- The commands hold a proof and, after it, the watch's acceptance. -/
def Accepted (secret phoneNonce : Octets 16) (keys : SessionKeys) (commands : List Command) :
    Prop :=
  ∃ earlier command later,
    commands = earlier ++ command :: later ∧ Proved secret phoneNonce keys earlier ∧
    command.subtype = authSubtype ∧ command.body = .status 0

/-- The calls that must have led to a state, to the keys put by and to those of the connection. -/
inductive Explained (secret : Octets 16) (calls : List Call) :
    HandshakeState → Option SessionKeys → Option SessionKeys → Prop
  | idle : Explained secret calls .idle none none
  | failed : Explained secret calls .failed none none
  | awaitingUserIdAck {commands : List Command} (since : Since .startClearText calls commands) :
      Explained secret calls .awaitingUserIdAck none none
  | awaitingWatchNonce {phoneNonce : Octets 16} {commands : List Command}
      (since : Since (.startEncrypted phoneNonce) calls commands) :
      Explained secret calls (.awaitingWatchNonce phoneNonce) none none
  | awaitingAuthResult {phoneNonce : Octets 16} {commands : List Command} {keys : SessionKeys}
      (since : Since (.startEncrypted phoneNonce) calls commands)
      (proved : Proved secret phoneNonce keys commands) :
      Explained secret calls .awaitingAuthResult (some keys) none
  | acknowledged {commands : List Command} (since : Since .startClearText calls commands) :
      Explained secret calls .authenticated none none
  | accepted {phoneNonce : Octets 16} {commands : List Command} {keys : SessionKeys}
      (since : Since (.startEncrypted phoneNonce) calls commands)
      (accepted : Accepted secret phoneNonce keys commands) :
      Explained secret calls .authenticated none (some keys)

def ExplainedBy (h : Handshake) (calls : List Call) : Prop :=
  Explained h.secret calls h.state h.pending? h.keys?

theorem Proved.append {secret phoneNonce : Octets 16} {keys : SessionKeys}
    {commands : List Command} (h : Proved secret phoneNonce keys commands) (more : List Command) :
    Proved secret phoneNonce keys (commands ++ more) := by
  obtain ⟨earlier, command, later, watchNonce, proof, rfl, h⟩ := h
  refine ⟨earlier, command, later ++ more, watchNonce, proof, ?_, h⟩
  rw [List.append_assoc, List.cons_append]

theorem Accepted.append {secret phoneNonce : Octets 16} {keys : SessionKeys}
    {commands : List Command} (h : Accepted secret phoneNonce keys commands)
    (more : List Command) : Accepted secret phoneNonce keys (commands ++ more) := by
  obtain ⟨earlier, command, later, rfl, h⟩ := h
  refine ⟨earlier, command, later ++ more, ?_, h⟩
  rw [List.append_assoc, List.cons_append]

theorem ExplainedBy.coherent {h : Handshake} {calls : List Call}
    (hexplained : h.ExplainedBy calls) : h.Coherent := by
  obtain ⟨secret, userId, phoneInfo, state, pending, keys⟩ := h
  rw [ExplainedBy] at hexplained
  cases hexplained with
  | awaitingAuthResult => exact ⟨iff_of_true rfl rfl, nofun⟩
  | accepted => exact ⟨iff_of_false nofun nofun, fun _ => rfl⟩
  | _ => exact ⟨iff_of_false nofun nofun, nofun⟩

theorem Explained.ignored {secret : Octets 16} {calls : List Call} {state : HandshakeState}
    {pending keys : Option SessionKeys} (h : Explained secret calls state pending keys)
    (command : Command) : Explained secret (calls ++ [.handle command]) state pending keys := by
  cases h with
  | idle => exact .idle
  | failed => exact .failed
  | awaitingUserIdAck since => exact .awaitingUserIdAck (since.handle command)
  | awaitingWatchNonce since => exact .awaitingWatchNonce (since.handle command)
  | awaitingAuthResult since proved =>
      exact .awaitingAuthResult (since.handle command) (proved.append [command])
  | acknowledged since => exact .acknowledged (since.handle command)
  | accepted since accepted => exact .accepted (since.handle command) (accepted.append [command])

theorem ExplainedBy.handle {h : Handshake} {calls : List Call} (hexplained : h.ExplainedBy calls)
    (command : Command) : (h.handle command).1.ExplainedBy (calls ++ [.handle command]) := by
  have hhandled := handled h command
  generalize h.handle command = result at hhandled
  obtain ⟨secret, userId, phoneInfo, state, pending, keys⟩ := h
  rw [ExplainedBy] at hexplained
  cases hhandled with
  | ignored => exact hexplained.ignored command
  | unknown => exact hexplained.ignored command
  | refused => exact .failed
  | answered awaited subtype body proved =>
      obtain rfl : state = _ := awaited
      cases hexplained with
      | @awaitingWatchNonce _ commands since =>
          exact .awaitingAuthResult (since.handle command)
            ⟨commands, command, [], _, _, rfl, subtype, body, rfl, proved.symm⟩
  | accepted awaited pending subtype body =>
      obtain rfl : state = _ := awaited
      cases hexplained with
      | @awaitingAuthResult _ commands _ since proved =>
          cases pending
          exact .accepted (since.handle command)
            ⟨commands, command, [], rfl, proved, subtype, body⟩
  | acknowledged awaited =>
      obtain rfl : state = _ := awaited
      cases hexplained with
      | awaitingUserIdAck since => exact .acknowledged (since.handle command)

theorem ExplainedBy.perform {h : Handshake} {calls : List Call}
    (hexplained : h.ExplainedBy calls) (call : Call) :
    (h.perform call).ExplainedBy (calls ++ [call]) := by
  cases call with
  | startEncrypted phoneNonce =>
      exact .awaitingWatchNonce (.start calls (.startEncrypted phoneNonce))
  | startClearText => exact .awaitingUserIdAck (.start calls .startClearText)
  | reset => exact .idle
  | handle command => exact hexplained.handle command

theorem ExplainedBy.run {h : Handshake} {calls : List Call} (hexplained : h.ExplainedBy calls)
    (more : List Call) : (h.run more).ExplainedBy (calls ++ more) := by
  induction more generalizing h calls with
  | nil =>
      rw [List.append_nil]
      exact hexplained
  | cons call more ih =>
      have hrest := ih (hexplained.perform call)
      rw [List.append_assoc] at hrest
      exact hrest

theorem secret_perform (h : Handshake) (call : Call) : (h.perform call).secret = h.secret := by
  cases call with
  | startEncrypted => rfl
  | startClearText => rfl
  | reset => rfl
  | handle command =>
      have hhandled := handled h command
      rw [Handshake.perform]
      generalize h.handle command = result at hhandled ⊢
      cases hhandled <;> rfl

theorem secret_run (h : Handshake) (calls : List Call) : (h.run calls).secret = h.secret := by
  induction calls generalizing h with
  | nil => rfl
  | cons call calls ih => exact (ih (h.perform call)).trans (secret_perform h call)

/-- A new handshake and all that led to it since. -/
theorem explained_run (secret : Octets 16) (userId : String) (phoneInfo : PhoneInfo)
    (calls : List Call) : (run { secret, userId, phoneInfo } calls).ExplainedBy calls := by
  have hidle : ExplainedBy { secret, userId, phoneInfo } [] := .idle
  exact hidle.run calls

/-- What a watch that knows the secret answers to the phone's nonce. -/
def honestNonce (secret phoneNonce watchNonce : Octets 16) : Command :=
  ⟨Command.authKind, nonceSubtype, .auth (.watchNonce watchNonce
    ((SessionKeys.derive secret phoneNonce watchNonce).watchProof phoneNonce watchNonce))⟩

theorem toBytes_honestNonce (secret phoneNonce watchNonce : Octets 16) :
    (honestNonce secret phoneNonce watchNonce).toBytes =
      [Command.authKind, nonceSubtype, 2, 1] ++ watchNonce.toList ++
        ((SessionKeys.derive secret phoneNonce watchNonce).watchProof phoneNonce
          watchNonce).toList := rfl

/-- A nonce that is awaited is answered. -/
theorem handle_watchNonce {h : Handshake} {phoneNonce watchNonce : Octets 16} {proof : Octets 32}
    {command : Command} (hstate : h.state = .awaitingWatchNonce phoneNonce)
    (hsubtype : command.subtype = nonceSubtype)
    (hbody : command.body = .auth (.watchNonce watchNonce proof)) :
    h.handle command = h.answerNonce phoneNonce watchNonce proof := by
  rw [handle, if_pos hsubtype, hstate, hbody]

/-- The watch's proof is answered with the phone's and with its sealed description. -/
theorem answerNonce_watchProof (h : Handshake) (phoneNonce watchNonce : Octets 16)
    (hinfo : (PhoneInfo.packing.write h.phoneInfo).length < Cipher.Ccm.lengthLimit) :
    ∃ info,
      (SessionKeys.derive h.secret phoneNonce watchNonce).cipher.sealed 0
        (PhoneInfo.packing.write h.phoneInfo) = .ok info ∧
      h.answerNonce phoneNonce watchNonce
          ((SessionKeys.derive h.secret phoneNonce watchNonce).watchProof phoneNonce watchNonce) =
        ({ h with
            state := .awaitingAuthResult
            pending? := some (.derive h.secret phoneNonce watchNonce) },
          .ok (some (.send ⟨Command.authKind, authSubtype, .auth (.phoneProof
            ((SessionKeys.derive h.secret phoneNonce watchNonce).phoneProof phoneNonce watchNonce)
            info)⟩))) := by
  have hproved : (SessionKeys.derive h.secret phoneNonce watchNonce).verifies phoneNonce watchNonce
      ((SessionKeys.derive h.secret phoneNonce watchNonce).watchProof phoneNonce watchNonce) =
        true := decide_eq_true rfl
  obtain ⟨info, hsealed⟩ :=
    (SessionKeys.derive h.secret phoneNonce watchNonce).exists_sealed 0 hinfo
  refine ⟨info, hsealed, ?_⟩
  simp only [answerNonce, hproved, if_true, hsealed]

theorem handle_honestNonce {h : Handshake} {phoneNonce : Octets 16}
    (hstate : h.state = .awaitingWatchNonce phoneNonce)
    (hinfo : (PhoneInfo.packing.write h.phoneInfo).length < Cipher.Ccm.lengthLimit)
    (watchNonce : Octets 16) :
    ∃ answer, h.handle (honestNonce h.secret phoneNonce watchNonce) =
      ({ h with
          state := .awaitingAuthResult
          pending? := some (.derive h.secret phoneNonce watchNonce) },
        .ok (some (.send answer))) := by
  obtain ⟨info, -, hanswer⟩ := h.answerNonce_watchProof phoneNonce watchNonce hinfo
  exact ⟨_, (handle_watchNonce hstate rfl rfl).trans hanswer⟩

/-- How the watch accepts the phone. -/
def acceptance : Command := ⟨Command.authKind, authSubtype, .status 0⟩

theorem handle_acceptance {h : Handshake} {keys : SessionKeys}
    (hstate : h.state = .awaitingAuthResult) (hpending : h.pending? = some keys) :
    h.handle acceptance =
      ({ h with state := .authenticated, pending? := none, keys? := some keys },
        .ok (some .authenticated)) := by
  have hsubtype : acceptance.subtype = authSubtype := rfl
  have hbody : acceptance.body = .status 0 := rfl
  rw [handle, if_neg (by decide), if_pos hsubtype, hstate]
  simp only [hbody, if_true, hpending]

/-- With a watch that knows the secret the encrypted handshake comes to its end. -/
theorem run_honest (h : Handshake) (phoneNonce watchNonce : Octets 16)
    (hinfo : (PhoneInfo.packing.write h.phoneInfo).length < Cipher.Ccm.lengthLimit) :
    h.run [.startEncrypted phoneNonce, .handle (honestNonce h.secret phoneNonce watchNonce),
      .handle acceptance] =
        { h with
          state := .authenticated
          pending? := none
          keys? := some (.derive h.secret phoneNonce watchNonce) } := by
  have hstarted : (h.startEncrypted phoneNonce).1.state = .awaitingWatchNonce phoneNonce := rfl
  obtain ⟨answer, hnonce⟩ := handle_honestNonce hstarted hinfo watchNonce
  have hsecret : (h.startEncrypted phoneNonce).1.secret = h.secret := rfl
  rw [hsecret] at hnonce
  simp only [run, List.foldl_cons, List.foldl_nil, perform]
  rw [hnonce, handle_acceptance rfl rfl]
  rfl

/-- Whoever is authenticated after an encrypted start has since then handled, in this order, a
nonce of the watch with its proof under the keys of the connection and the watch's acceptance, and
replies only. Keys of a connection there are after no other start. Keys await acceptance while the
state does, and a failed handshake is left by a start or a reset only. -/
theorem authenticity (secret : Octets 16) (userId : String) (phoneInfo : PhoneInfo)
    (calls : List Call) :
    (∀ before phoneNonce after, calls = before ++ .startEncrypted phoneNonce :: after →
      (∀ call ∈ after, call.starts = false) →
      (run { secret, userId, phoneInfo } calls).isAuthenticated = true →
      ∃ keys commands, after = commands.map .handle ∧
        Accepted secret phoneNonce keys commands ∧
        (run { secret, userId, phoneInfo } calls).keys? = some keys ∧
        (run { secret, userId, phoneInfo } calls).cipher? = some keys.cipher) ∧
    ((run { secret, userId, phoneInfo } calls).cipher?.isSome = true →
      (run { secret, userId, phoneInfo } calls).isAuthenticated = true ∧
      ∃ phoneNonce commands keys, Since (.startEncrypted phoneNonce) calls commands ∧
        Accepted secret phoneNonce keys commands ∧
        (run { secret, userId, phoneInfo } calls).keys? = some keys) ∧
    ((run { secret, userId, phoneInfo } calls).pending?.isSome = true ↔
      (run { secret, userId, phoneInfo } calls).state = .awaitingAuthResult) ∧
    ∀ call, (run { secret, userId, phoneInfo } calls).state = .failed →
      (run { secret, userId, phoneInfo } (calls ++ [call])).state = .failed ∨
        call.starts = true ∨ call = .reset := by
  have hexplained := explained_run secret userId phoneInfo calls
  have hcoherent := hexplained.coherent
  have hsecret := secret_run { secret, userId, phoneInfo } calls
  rw [ExplainedBy, hsecret] at hexplained
  have hlast (call : Call) : run { secret, userId, phoneInfo } (calls ++ [call]) =
      (run { secret, userId, phoneInfo } calls).perform call := List.foldl_append
  simp only [hlast]
  generalize run { secret, userId, phoneInfo } calls = h at hexplained hcoherent ⊢
  refine ⟨?_, ?_, hcoherent.pending, ?_⟩
  · rintro before phoneNonce after rfl hafter hauth
    rw [h.isAuthenticated_iff.1 hauth] at hexplained
    generalize h.pending? = pending at hexplained
    cases hkeys : h.keys? with
    | none =>
        rw [hkeys] at hexplained
        cases hexplained with
        | acknowledged since => cases (since.unique rfl rfl hafter).1
    | some keys =>
        rw [hkeys] at hexplained
        cases hexplained with
        | accepted since accepted =>
            obtain ⟨heq, hcommands⟩ := since.unique rfl rfl hafter
            cases heq
            exact ⟨keys, _, hcommands, accepted, rfl, cipher?_of_keys? hkeys⟩
  · intro hcipher
    rw [cipher?, Option.isSome_map] at hcipher
    have hstate := hcoherent.accepted hcipher
    obtain ⟨keys, hkeys⟩ := Option.isSome_iff_exists.1 hcipher
    rw [hstate, hkeys] at hexplained
    generalize h.pending? = pending at hexplained
    cases hexplained with
    | accepted since accepted =>
        exact ⟨h.isAuthenticated_iff.2 hstate, _, _, keys, since, accepted, hkeys⟩
  · intro call hfailed
    cases call with
    | startEncrypted => exact .inr (.inl rfl)
    | startClearText => exact .inr (.inl rfl)
    | reset => exact .inr (.inr rfl)
    | handle command =>
        left
        rw [perform, handle_of_not_awaits (by rw [hfailed]; rfl), hfailed]

end

/-- A connection that comes about: with a watch that knows the secret. -/
theorem authenticity_honest :
    (run { secret := .zero 16, userId := "", phoneInfo := ⟨0, "", ""⟩ }
      [.startEncrypted (.zero 16), .handle (honestNonce (.zero 16) (.zero 16) (.replicate 16 1)),
        .handle acceptance]).isAuthenticated = true ∧
    ∃ keys commands,
      [Call.handle (honestNonce (.zero 16) (.zero 16) (.replicate 16 1)),
        .handle acceptance] = commands.map .handle ∧
      Accepted (.zero 16) (.zero 16) keys commands := by
  have hstate := run_honest
    { secret := .zero 16, userId := "", phoneInfo := ⟨0, "", ""⟩ } (.zero 16)
    (.replicate 16 1) (by decide +kernel)
  have hauth := (isAuthenticated_iff _).2 (congrArg state hstate)
  obtain ⟨keys, commands, hcommands, haccepted, -⟩ :=
    (authenticity (.zero 16) "" ⟨0, "", ""⟩ _).1 [] (.zero 16) _ rfl (by decide) hauth
  exact ⟨hauth, keys, commands, hcommands, haccepted⟩

end Handshake

end WatchLink
