import WatchLink.Proofs.Device.Asking
import WatchLink.Proofs.Session.Agreeing
import WatchLink.Proofs.Session.Sealing

/-!
# What is written before there are keys

While an encrypted connection has no keys nothing is installed, nothing is uploaded and the host is
refused, so two kinds of commands are written: those of the handshake, and the request for the
battery's level, with which the device service answers what a watch says about its state at any
time. `Sheltered` puts that together with what is written once there are keys. From one session to
another all is asked before there are keys, or all with them, or first the one and then the other,
with the announcement of the open connection in between.
-/

namespace WatchLink

/-! ## What there is without keys -/

/-- What answers the watch during the handshake is of the handshake. -/
theorem Handshake.kind_of_send [CipherSuite] {h next : Handshake} {command answer : Command}
    (hh : h.handle command = (next, .ok (some (.send answer)))) :
    answer.kind = Command.authKind := by
  rw [handle] at hh
  split at hh
  · split at hh
    · rw [answerNonce] at hh
      split at hh
      · split at hh
        · cases hh
          rfl
        · cases hh
      · cases hh
    · cases hh
    · cases hh
  · repeat' split at hh
    all_goals cases hh

theorem Handshake.kind_start (h : Handshake) (mode : HandshakeMode) (nonce : Octets 16) :
    (h.start mode nonce).2.kind = Command.authKind := by
  cases mode <;> rfl

theorem Handshake.cipher?_eq_none [CipherSuite] {h : Handshake} (unkeyed : h.keys? = none) :
    h.cipher? = none := by
  rw [cipher?, unkeyed]
  rfl

/-- An open connection without keys is in clear text. -/
theorem Stage.of_opened {unsettled mode : Option HandshakeMode} {handshake : HandshakeState}
    (h : Stage unsettled .initialized handshake false mode) : mode = some .clearText := by
  cases h
  rfl

namespace Session

open Relation BulkReading Settling Sealing

/-! ## What comes in -/

section

variable {L S R : Type} [CipherSuite] [Link L] [Service S] [Radio R] {s : Session L S R}
  {P : Session L S R → Prop}

/-- What taking input in keeps, read by read. -/
structure Reads (P : Session L S R → Prop) : Prop where
  inbox (s : Session L S R) (inbox : Inbox) : P s → P { s with inbox := inbox }
  resync (s : Session L S R) : P s → P { s with link := Link.resync s.link }
  read (s : Session L S R) (host : HostView) (endpoint : Endpoint) (data : Bytes) : P s →
    P (s.receiveNow host endpoint data)

theorem Reads.processAtMost (h : Reads P) (host : HostView) (n : Nat) (hs : P s) :
    P (processAtMost host n s) := by
  induction n generalizing s with
  | zero => exact hs
  | succ n ih =>
      rw [Session.processAtMost]
      split
      · rename_i chunk inbox _
        have hnext := h.inbox s inbox hs
        refine ih ?_
        rw [processChunk]
        split
        · exact h.read _ host _ _ (h.resync _ hnext)
        · exact h.read _ host _ _ hnext
      · exact hs

theorem Reads.onReceive (h : Reads P) (host : HostView) (endpoint : Endpoint) (data : Bytes)
    (hs : P s) : P (s.onReceive host endpoint data) := by
  have hcaught := h.inbox _ (s.processPending host).inbox.takeLost.1
    (h.processAtMost host s.inbox.chunks.length hs)
  simp only [Session.onReceive]
  split
  · exact h.read _ host _ _ (h.resync _ hcaught)
  · exact h.read _ host _ _ hcaught

/-- What taking input in keeps, and every payload. -/
structure Heard (P : Session L S R → Prop) : Prop where
  inbox (s : Session L S R) (inbox : Inbox) : P s → P { s with inbox := inbox }
  taken (s : Session L S R) (endpoint : Endpoint) (data : Bytes) : P s →
    P { s with link := (Link.receive s.link endpoint data s.handshake.cipher?).1 }
  resync (s : Session L S R) : P s → P { s with link := Link.resync s.link }
  payload (s : Session L S R) (host : HostView) (inbound : Inbound) : P s →
    P (s.handleInbound host inbound)

theorem Heard.reads (h : Heard P) : Reads P where
  inbox := h.inbox
  resync := h.resync
  read s host endpoint data hs :=
    List.foldlRecOn _ _ (h.taken s endpoint data hs) fun t ht payload _ =>
      h.payload t host payload ht

end

section

variable {L S R : Type} [CipherSuite] [Link L] [Settling L] [BulkReading L] [Sealing L]
  [Service S] [Radio R] {s t u : Session L S R} {keys : SessionKeys}

/-! ## Without keys -/

/-- A session with built-in services only that goes on as sessions do. -/
structure Sound (s : Session L S R) : Prop where
  coherent : s.handshake.Coherent
  staged : s.Staged
  even : Even (layout s.link)
  routed : s.registry.Routed
  builtIn : s.registry.services = []
  occupied : s.Occupied

/-- A sound session whose connection, if there is one, is not in clear text. -/
structure Shrouded (s : Session L S R) : Prop extends Sound s where
  hidden : mode? s.link ≠ some .clearText

omit [CipherSuite] [Link L] [Settling L] [BulkReading L] [Sealing L] [Radio R] in
theorem hosts_of_builtIn {P : Outbox → Prop} (h : s.registry.services = []) : s.Hosts P :=
  fun hadded => absurd h hadded

theorem Sound.act (h : s.Sound) (act : Act s t) : t.Sound := by
  have hmoves : Moves s t := Acts.moves (.single act)
  exact
    { coherent := hmoves.keep coherent_move h.coherent
      staged := hmoves.keep staged_move h.staged
      even := hmoves.keep even_move h.even
      routed := hmoves.alike.routed h.routed
      builtIn := hmoves.alike.services_eq_nil_iff.2 h.builtIn
      occupied := (occupied_act s t act ⟨hosts_of_builtIn h.builtIn, h.occupied⟩).2 }

theorem Shrouded.acts (h : s.Shrouded) (acts : Acts s t) : t.Shrouded := by
  refine acts.keep (fun s t act h => ?_) h
  exact ⟨h.toSound.act act, Moves.keep hidden_move (Acts.moves (.single act)) h.hidden⟩

omit [Service S] [Radio R] in
theorem Sound.keyed (h : s.Sound) (keys? : s.handshake.keys? = some keys) : s.Keyed keys :=
  ⟨h.coherent, h.staged, h.even, keys?⟩

omit [Service S] [Radio R] in
/-- An open connection that is not in clear text has keys. -/
theorem Shrouded.closed (h : s.Shrouded) (unkeyed : s.handshake.keys? = none) :
    s.state ≠ .initialized := by
  intro hopened
  have hstaged := h.staged
  rw [Staged, unkeyed, hopened] at hstaged
  exact h.hidden (Stage.of_opened hstaged)

/-- What a session that goes on writes while there are no keys. -/
abbrev Early (L : Type) [Link L] [Settling L] [BulkReading L] [Sealing L] (op : RadioOp) : Prop :=
  Introduces L op ∨ InClear L (DeviceService.request DeviceService.batterySubtype) op

/-- What is asked of the radio goes with the keys that the connection had at the time. -/
inductive Sheltered (early : RadioOp → Prop) (s t : Session L S R) : Prop
  | unkeyed (found : s.handshake.keys? = none) (left : t.handshake.keys? = none)
      (asks : Asks early s t)
  | keyed {keys : SessionKeys} (found : s.handshake.keys? = some keys)
      (left : t.handshake.keys? = some keys) (asks : Asks (Guarded L keys) s t)
  | accepted {keys : SessionKeys} (before since : List RadioOp)
      (found : s.handshake.keys? = none) (left : t.handshake.keys? = some keys)
      (asked : t.asked = s.asked ++ before ++ .setState .initialized :: since)
      (unkeyed : ∀ op ∈ before, early op) (keyed : ∀ op ∈ since, Guarded L keys op)

variable {early late : RadioOp → Prop}

omit [Service S] [Radio R] in
theorem sheltered_of_eq (handshake : t.handshake = s.handshake) (effects : t.effects = s.effects) :
    Sheltered early s t := by
  cases hkeys : s.handshake.keys? with
  | none => exact .unkeyed hkeys (handshake ▸ hkeys) (asks_of_effects effects)
  | some keys => exact .keyed hkeys (handshake ▸ hkeys) (asks_of_effects effects)

omit [Service S] [Radio R] in
theorem Sheltered.trans (h : Sheltered early s t) (hmore : Sheltered early t u) :
    Sheltered early s u := by
  cases h with
  | unkeyed found left asks =>
      cases hmore with
      | unkeyed _ last more => exact .unkeyed found last (asks.trans more)
      | keyed kept => cases left.symm.trans kept
      | accepted before since _ last asked unkeyed keyed =>
          obtain ⟨first, hfirst, hall⟩ := asks
          refine .accepted (first ++ before) since found last ?_ ?_ keyed
          · rw [asked, hfirst, List.append_assoc s.asked]
          · exact fun op hmem => (List.mem_append.1 hmem).elim (hall op) (unkeyed op)
  | keyed found left asks =>
      cases hmore with
      | unkeyed lost => cases left.symm.trans lost
      | keyed kept last more =>
          cases left.symm.trans kept
          exact .keyed found last (asks.trans more)
      | accepted _ _ lost => cases left.symm.trans lost
  | accepted before since found left asked unkeyed keyed =>
      cases hmore with
      | unkeyed lost => cases left.symm.trans lost
      | keyed kept last more =>
          cases left.symm.trans kept
          obtain ⟨rest, hrest, hall⟩ := more
          refine .accepted before (since ++ rest) found last ?_ unkeyed ?_
          · rw [hrest, asked, List.append_assoc, List.cons_append]
          · exact fun op hmem => (List.mem_append.1 hmem).elim (keyed op) (hall op)
      | accepted _ _ lost => cases left.symm.trans lost

omit [Service S] [Radio R] in
theorem Sheltered.mono (h : Sheltered early s t) (hsub : ∀ op, early op → late op) :
    Sheltered late s t := by
  cases h with
  | unkeyed found left asks => exact .unkeyed found left (asks.mono hsub)
  | keyed found left asks => exact .keyed found left asks
  | accepted before since found left asked unkeyed keyed =>
      exact .accepted before since found left asked (fun op hmem => hsub op (unkeyed op hmem)) keyed

omit [Service S] in
/-- Of an outbox that only asks for the battery's level nothing else is sent. -/
theorem asks_post (s : Session L S R) (unkeyed : s.handshake.keys? = none) {out : Outbox}
    (only : DeviceService.OnlyBattery out) :
    (s.post out).handshake = s.handshake ∧ Asks (Early L) s (s.post out) := by
  have htold : (out.events.foldl tell s).handshake = s.handshake :=
    List.foldlRecOn (motive := fun t : Session L S R => t.handshake = s.handshake) out.events _ rfl
      fun _ h _ _ => h
  refine List.foldlRecOn
    (motive := fun t : Session L S R => t.handshake = s.handshake ∧ Asks (Early L) s t)
    out.commands _ ⟨htold, asks_tells s out.events⟩ ?_
  rintro t ⟨hhandshake, hasks⟩ task hmem
  refine ⟨(handshake_send t task.1 task.2).trans hhandshake, hasks.trans ?_⟩
  refine asks_send t task.1 task.2 fun link op hwritten => .inr ?_
  rw [hhandshake, Handshake.cipher?_eq_none unkeyed, only task hmem] at hwritten
  exact inClear_of_unkeyed hwritten

omit [Service S] in
/-- Neither keys nor anything that goes on: what the device service answers is sent at once. -/
theorem sheltered_system (h : s.Shrouded) (unkeyed : s.handshake.keys? = none)
    (command : Command) :
    Sheltered (Early L) s (flush { s with device := (s.device.handle command).1 }
      (s.device.handle command).2.1) := by
  have hidle := (h.occupied.of_closed (h.closed unkeyed)).1
  have honly := s.device.onlyBattery_handle command
  have hreacted := s.device.reacted command
  generalize (s.device.handle command).1 = device at hreacted ⊢
  generalize (s.device.handle command).2.1 = out at hreacted honly ⊢
  cases hreacted with
  | plain _ plain =>
      rw [flush, plain.upload]
      obtain ⟨hhandshake, hasks⟩ := asks_post { s with device := device } unkeyed honly
      exact .unkeyed unkeyed (by rw [hhandshake]; exact unkeyed) hasks
  | agreed requested => cases hidle.symm.trans requested
  | declined requested => cases hidle.symm.trans requested

omit [Service S] in
/-- An answer to an upload that is not there is passed over. -/
theorem sheltered_uploaded {ack : Option Bytes} (nothing : s.upload = {})
    (uploaded : Uploaded s ack t) : Sheltered (Early L) s t := by
  have hnever {job : UploadJob} (running : s.upload.job = some job) : Sheltered (Early L) s t := by
    rw [nothing] at running
    cases running
  cases uploaded with
  | ignored => exact sheltered_of_eq rfl rfl
  | stopped _ running => exact hnever running
  | first running => exact hnever running
  | next running => exact hnever running
  | completed running => exact hnever running

omit [Radio R] in
theorem sheltered_refused (s : Session L S R) (unkeyed : s.handshake.keys? = none)
    (handshake : Handshake) : Sheltered (Early L) s (s.refused handshake) :=
  .unkeyed unkeyed rfl
    ((asks_tell { s with handshake := handshake } .authenticationFailed).trans
      (asks_setState (resetConnection _) _))

omit [Service S] in
theorem sheltered_answer (unkeyed : s.handshake.keys? = none) {command reply : Command}
    {handshake : Handshake}
    (handled : s.handshake.handle command = (handshake, .ok (some (.send reply)))) :
    Sheltered (Early L) s (send { s with handshake := handshake } "auth step" reply).1 := by
  have hkeys : handshake.keys? = none := (Handshake.awaited_of_send handled).2.trans unkeyed
  refine .unkeyed unkeyed ?_ ?_
  · rw [handshake_send]
    exact hkeys
  · refine asks_send { s with handshake := handshake } _ _ fun link op hwritten => .inl ?_
    rw [Handshake.cipher?_eq_none hkeys] at hwritten
    exact ⟨reply, Handshake.kind_of_send handled, inClear_of_unkeyed hwritten⟩

/-- When the watch has accepted there are keys, and everything from then on is guarded. -/
theorem sheltered_accept (h : s.Shrouded) (unkeyed : s.handshake.keys? = none) {command : Command}
    {handshake : Handshake}
    (handled : s.handshake.handle command = (handshake, .ok (some .authenticated)))
    (keyed : handshake.keys? = some keys) (moves : Moves (s.opened handshake) t) :
    Sheltered (Early L) s t := by
  have hopened : (s.opened handshake).asked = s.asked ++ [.setState .initialized] := by
    rw [opened, setState, asked_tell]
    exact asked_submit { s with handshake := handshake, link := Link.resetCounters s.link } _
  have hkeyed : (s.opened handshake).Keyed keys :=
    (h.acts (.single (.deed (.accept s handled)))).toSound.keyed keyed
  obtain ⟨hlast, more, hmore, hguarded⟩ := hkeyed.moves moves
  refine .accepted [] more unkeyed hlast.keys ?_ (List.forall_mem_nil _) hguarded
  rw [hmore, hopened, List.append_nil, List.append_assoc]
  rfl

theorem sheltered_handleAuth (h : s.Shrouded) (unkeyed : s.handshake.keys? = none)
    (host : HostView) (command : Command) :
    Sheltered (Early L) s (s.handleAuth host command) := by
  have hsame : Sheltered (Early L) s s := sheltered_of_eq rfl rfl
  have hreplied := s.replied host command
  generalize s.handleAuth host command = t at hreplied ⊢
  cases hreplied with
  | ignored => exact hsame
  | refused => exact sheltered_refused s unkeyed _
  | answered handled => exact sheltered_answer unkeyed handled
  | accepted handled keyed =>
      rcases keyed with ⟨keys, hkeys⟩ | awaited
      · exact sheltered_accept h unkeyed handled hkeys
          (deeds_onAuthenticated_opened s host _).reactions.moves
      · -- A link that is encrypted never comes to the handshake that brings no keys.
        have hstaged := h.staged
        rw [Staged, awaited] at hstaged
        exact absurd hstaged.of_awaitingUserIdAck.2 h.hidden

theorem sheltered_dispatch (h : s.Shrouded) (unkeyed : s.handshake.keys? = none) (host : HostView)
    (command : Command) : Sheltered (Early L) s (s.dispatch host command) := by
  have hsame : Sheltered (Early L) s s := sheltered_of_eq rfl rfl
  have hnothing := (h.occupied.of_closed (h.closed unkeyed)).2.1
  rw [dispatch]
  split
  · exact sheltered_handleAuth h unkeyed host command
  · exact sheltered_system h unkeyed command
  · split
    · rename_i handled
      exact sheltered_uploaded hnothing (uploaded_command h.occupied.heeded handled)
    · exact hsame
  · rename_i index hroute
    exact absurd hroute (h.routed.route_ne_registered h.builtIn _ index)
  · exact hsame

theorem sheltered_handleInbound (h : s.Shrouded) (host : HostView) (inbound : Inbound) :
    Sheltered (Early L) s (s.handleInbound host inbound) := by
  cases hkeys : s.handshake.keys? with
  | some keys =>
      obtain ⟨hlast, hasks⟩ :=
        (h.toSound.keyed hkeys).moves (reactions_handleInbound s host inbound).moves
      exact .keyed hkeys hlast.keys hasks
  | none =>
      have hnothing := (h.occupied.of_closed (h.closed hkeys)).2.1
      cases inbound with
      | command bytes =>
          rw [handleInbound]
          split
          · exact sheltered_dispatch h hkeys host _
          · exact sheltered_of_eq rfl rfl
      | activity bytes => exact .unkeyed hkeys hkeys (asks_tell s _)
      | uploadAck ack => exact sheltered_uploaded hnothing (uploaded_ack h.occupied.heeded ack)

/-- What was sheltered so far stays so, whatever comes in. -/
theorem heard_sheltered (s : Session L S R) :
    Heard fun t => t.Shrouded ∧ Sheltered (Early L) s t where
  inbox t inbox := fun ⟨shrouded, sheltered⟩ =>
    ⟨shrouded.acts (.single (.inbox t inbox)), sheltered.trans (sheltered_of_eq rfl rfl)⟩
  taken t endpoint data := fun ⟨shrouded, sheltered⟩ =>
    ⟨shrouded.acts (.single (.receive t endpoint data)), sheltered.trans (sheltered_of_eq rfl rfl)⟩
  resync t := fun ⟨shrouded, sheltered⟩ =>
    ⟨shrouded.acts (.single (.resync t)), sheltered.trans (sheltered_of_eq rfl rfl)⟩
  payload t host inbound := fun ⟨shrouded, sheltered⟩ =>
    ⟨shrouded.acts (acts_handleInbound t host inbound),
      sheltered.trans (sheltered_handleInbound shrouded host inbound)⟩

end

end Session

end WatchLink
