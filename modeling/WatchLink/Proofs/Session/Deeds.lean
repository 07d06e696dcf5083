import WatchLink.Proofs.Service.Reacting
import WatchLink.Proofs.Session.Moves

/-!
# The deeds of a session

Reactions are too small for what a session waits for: an upload is moved on first and its part is
written then, and an installation is noted before it is asked for. A deed is what a session does as
a whole about one thing that came in or that the host asks for, so what it waits for and what the
radio was asked go together after it. Deeds and the acknowledgements of upload parts, which are told
apart because what was written is counted by them, make up everything between connecting and
disconnecting; with the taking in of input they are the `Act`s. Every act is a path of moves.
-/

namespace WatchLink.Session

open Relation

variable {L S R : Type} [CipherSuite] [Link L] [Service S] [Radio R]

/-- The watch was asked to take an image. -/
def requested (s : Session L S R) (image : FirmwareImage) : Session L S R :=
  (send { s with device := { s.device with install := .requested image } }
    s!"install firmware {image.version}"
    (DeviceService.message DeviceService.installSubtype
      (.installRequest image.version image.md5Hex))).1

/-- The watch has agreed to take an image. -/
def updating (s : Session L S R) (image : FirmwareImage) : Session L S R :=
  tell { s with device := { s.device with install := .uploading image } }
    (.busy (some s.device.messages.updatingFirmware))

/-- The upload of an image that the watch has agreed to take is requested. -/
def agreed (s : Session L S R) (image : FirmwareImage) : Session L S R :=
  (s.updating image).startUpload ⟨Upload.firmwareKind, image.bytes, .deviceService⟩

def declined (s : Session L S R) : Session L S R :=
  { s with device := { s.device with install := .idle } }

/-- The watch has acknowledged a part. -/
def acknowledged (s : Session L S R) (ack : Bytes) : Session L S R :=
  applyUpload { s with upload := (s.upload.handleAck ack).1 } (s.upload.handleAck ack).2

/-- What a session does as a whole about one thing. -/
inductive Deed : Session L S R → Session L S R → Prop
  | tell (s : Session L S R) (event : Event)
      (own : event.isReserved = true → s.registry.MayTell event) : Deed s (s.tell event)
  | device (s : Session L S R) (device : DeviceService)
      (install : device.install = s.device.install) : Deed s { s with device := device }
  | registry (s : Session L S R) (registry : Registry S)
      (alike : s.registry.Alike registry) : Deed s { s with registry := registry }
  | send (s : Session L S R) (task : String) (command : Command) :
      Deed s (s.send task command).1
  | startUpload (s : Session L S R) (request : UploadRequest) (own : s.registry.MayAsk request) :
      Deed s (s.startUpload request)
  | agree (s : Session L S R) {image : FirmwareImage}
      (requested : s.device.install = .requested image) : Deed s (s.agreed image)
  | decline (s : Session L S R) {image : FirmwareImage}
      (requested : s.device.install = .requested image) : Deed s s.declined
  | command (s : Session L S R) {command : Command} {upload : Upload} {out : Upload.Output}
      (handled : s.upload.handleCommand command (Link.maxBulk s.link) = .ok (upload, out)) :
      Deed s (applyUpload { s with upload := upload } out)
  | answer (s : Session L S R) {command reply : Command} {handshake : Handshake}
      (handled : s.handshake.handle command = (handshake, .ok (some (.send reply)))) :
      Deed s (Session.send { s with handshake := handshake } "auth step" reply).1
  | accept (s : Session L S R) {command : Command} {handshake : Handshake}
      (handled : s.handshake.handle command = (handshake, .ok (some .authenticated))) :
      Deed s (s.opened handshake)
  | refuse (s : Session L S R) {command : Command} {handshake : Handshake}
      (handled : s.handshake.handle command = (handshake, .error .authenticationFailed)) :
      Deed s (s.refused handshake)

/-- A deed, an acknowledgement, or the taking in of input. -/
inductive Act : Session L S R → Session L S R → Prop
  | deed {s t : Session L S R} (deed : Deed s t) : Act s t
  | acknowledge (s : Session L S R) (ack : Bytes) : Act s (s.acknowledged ack)
  | inbox (s : Session L S R) (inbox : Inbox) : Act s { s with inbox := inbox }
  | receive (s : Session L S R) (endpoint : Endpoint) (data : Bytes) :
      Act s { s with link := (Link.receive s.link endpoint data s.handshake.cipher?).1 }
  | resync (s : Session L S R) : Act s { s with link := Link.resync s.link }

abbrev Deeds : Session L S R → Session L S R → Prop := ReflTransGen Deed

abbrev Acts : Session L S R → Session L S R → Prop := ReflTransGen Act

theorem Acts.keep {P : Session L S R → Prop} (keep : ∀ s t, Act s t → P s → P t)
    {s t : Session L S R} (h : Acts s t) (hs : P s) : P t := by
  induction h with
  | refl => exact hs
  | tail _ act ih => exact keep _ _ act ih

theorem Deeds.acts {s t : Session L S R} (h : Deeds s t) : Acts s t :=
  ReflTransGen.mono (fun _ _ => Act.deed) _ _ h

theorem reactions_updating (s : Session L S R) (image : FirmwareImage) :
    Reactions s (s.updating image) := .head (.device s _) (.single (.tell _ _))

theorem Deed.reactions {s t : Session L S R} (deed : Deed s t) : Reactions s t := by
  cases deed with
  | tell event => exact .single (.tell s event)
  | device device => exact .single (.device s device)
  | registry registry alike => exact .single (.registry s registry alike)
  | send task command => exact .single (.send s task command)
  | startUpload request => exact reactions_startUpload s request
  | @agree image => exact (reactions_updating s image).trans (reactions_startUpload _ _)
  | decline => exact .single (.device s _)
  | command => exact .head (.upload s _) (reactions_applyUpload _ _)
  | answer handled => exact .single (.answer s handled)
  | accept handled => exact .single (.accept s handled)
  | refuse handled => exact .single (.refuse s handled)

theorem reactions_acknowledged (s : Session L S R) (ack : Bytes) :
    Reactions s (s.acknowledged ack) := .head (.upload s _) (reactions_applyUpload _ _)

theorem Deeds.reactions {s t : Session L S R} (h : Deeds s t) : Reactions s t := by
  induction h with
  | refl => exact .refl
  | tail _ deed ih => exact ih.trans deed.reactions

theorem Acts.moves {s t : Session L S R} (h : Acts s t) : Moves s t := by
  induction h with
  | refl => exact .refl
  | tail _ act ih =>
      refine ih.trans ?_
      cases act with
      | deed deed => exact deed.reactions.moves
      | acknowledge ack => exact (reactions_acknowledged _ ack).moves
      | inbox inbox => exact .single (.inbox _ inbox)
      | receive endpoint data => exact .single (.receive _ endpoint data)
      | resync => exact .single (.resync _)

/-! ## What goes out -/

theorem deeds_tell (s : Session L S R) (events : List Event)
    (h : ∀ event ∈ events, event.isReserved = true → s.registry.MayTell event) :
    Deeds s (events.foldl Session.tell s) := by
  induction events generalizing s with
  | nil => exact .refl
  | cons event events ih =>
      obtain ⟨hevent, hrest⟩ := List.forall_mem_cons.1 h
      exact .head (.tell s event hevent) (ih (s.tell event) hrest)

theorem deeds_post (s : Session L S R) (out : Outbox)
    (h : ∀ event ∈ out.events, event.isReserved = true → s.registry.MayTell event) :
    Deeds s (s.post out) :=
  List.foldlRecOn (motive := Deeds s) out.commands _ (deeds_tell s out.events h)
    fun t ht task _ => ht.tail (.send t task.1 task.2)

omit [Service S] in
/-- What telling and sending keep holds when an outbox was posted. -/
theorem post_keep {P : Session L S R → Prop} {s : Session L S R} (out : Outbox) (h : P s)
    (htell : ∀ t event, P t → P (t.tell event))
    (hsend : ∀ t task command, P t → P (t.send task command).1) : P (s.post out) :=
  List.foldlRecOn out.commands _
    (List.foldlRecOn out.events _ h fun t ht event _ => htell t event ht)
    fun t ht task _ => hsend t task.1 task.2 ht

omit [Service S] in
theorem registry_post (s : Session L S R) (out : Outbox) :
    (s.post out).registry = s.registry :=
  post_keep (P := fun t => t.registry = s.registry) out rfl (fun _ _ h => h)
    fun t task command h => (registry_send t task command).trans h

/-- An outbox that is plain, but for what services were added for, is seen to by deeds. -/
theorem deeds_flush (s : Session L S R) (out : Outbox) (h : s.registry.AnswersFor out) :
    Deeds s (s.flush out) := by
  rw [flush]
  have hpost := deeds_post s out h.events
  split
  · rename_i request hrequest
    refine hpost.trans (.single (.startUpload _ request ?_))
    rw [registry_post]
    exact h.upload request hrequest
  · exact hpost

theorem deeds_flush_plain (s : Session L S R) {out : Outbox} (h : out.Plain) :
    Deeds s (s.flush out) := deeds_flush s out (Registry.answersFor_of_plain h)

theorem deeds_request (s : Session L S R) {out : Except LinkError Outbox}
    (h : ∀ box, out = .ok box → box.Plain) : Deeds s (s.request out).1 := by
  unfold request
  split
  · split
    · exact deeds_flush_plain s (h _ rfl)
    · exact .refl
  · exact .refl

theorem deeds_setCurrentTime (s : Session L S R) (host : HostView) :
    Deeds s (s.setCurrentTime host).1 := by
  refine deeds_request s ?_
  rintro _ ⟨⟩
  exact DeviceService.plain_setCurrentTime host

theorem deeds_findPhoneStop (s : Session L S R) : Deeds s s.findPhoneStop.1 := by
  refine deeds_request s ?_
  rintro _ ⟨⟩
  exact Outbox.plain_ofCommand _ _

theorem deeds_findWatch (s : Session L S R) (start : Bool) : Deeds s (s.findWatch start).1 :=
  deeds_request s fun _ h => s.device.plain_findWatch h

theorem deeds_setVibration (s : Session L S R) (type : String) (preset : UInt32) :
    Deeds s (s.setVibration type preset).1 :=
  deeds_request s fun _ h => DeviceService.plain_setVibration h

theorem deeds_sendConfiguration (s : Session L S R) (host : HostView) (key : String) :
    Deeds s (s.sendConfiguration host key).1 := by
  have hplain := s.device.plain_configure host key
  rw [sendConfiguration]
  split
  · simp only
    split
    · exact .head (.device s _ rfl) (deeds_flush_plain _ hplain)
    · have halike := s.registry.alike_onConfiguration host key
      refine .head (.device s _ rfl) (.head (.registry _ _ halike) (deeds_flush _ _ ?_))
      exact .append (Registry.answersFor_of_plain hplain)
        ((s.registry.answersFor_onConfiguration host key).of_alike halike)
  · exact .refl

omit [Service S] in
/-- Asking for an installation is a deed of its own; it is refused while another is under way. -/
theorem installFirmware_cases (s : Session L S R) (image : FirmwareImage) :
    (∃ error, s.installFirmware image = (s, .error error)) ∨
    (s.state = .initialized ∧ s.device.install = .idle ∧
      s.installFirmware image = (s.requested image, .ok ())) := by
  rw [installFirmware, DeviceService.requestInstall]
  split
  · rename_i hinitialized
    split
    · rename_i device out hasked
      split at hasked
      · split at hasked
        · rename_i hidle
          cases hasked
          exact .inr ⟨of_decide_eq_true hinitialized, hidle, rfl⟩
        · cases hasked
      · cases hasked
    · exact .inl ⟨_, rfl⟩
  · exact .inl ⟨_, rfl⟩

theorem reactions_installFirmware (s : Session L S R) (image : FirmwareImage) :
    Reactions s (s.installFirmware image).1 := by
  rcases installFirmware_cases s image with ⟨error, h⟩ | ⟨-, -, h⟩
  · rw [h]
  · rw [h]
    exact .head (.device s _) (.single (.send _ _ _))

/-! ## What comes in -/

/-- What follows once the session is open. -/
theorem deeds_onAuthenticated_opened (s : Session L S R) (host : HostView)
    (handshake : Handshake) :
    Deeds (s.opened handshake) (onAuthenticated { s with handshake := handshake } host) := by
  have halike := s.registry.alike_onAuthenticated host
  refine .head (.device _ _ rfl) (.head (.registry _ _ halike) (deeds_flush _ _ ?_))
  exact .append (Registry.answersFor_of_plain DeviceService.plain_greeting)
    ((s.registry.answersFor_onAuthenticated host).of_alike halike)

/-- What a reply of the watch to the handshake comes to. With an acceptance there are keys, unless
it is the one of the handshake that brings none. -/
inductive Replied (s : Session L S R) (host : HostView) (command : Command) :
    Session L S R → Prop
  | ignored : Replied s host command s
  | refused {handshake : Handshake}
      (handled : s.handshake.handle command = (handshake, .error .authenticationFailed)) :
      Replied s host command (s.refused handshake)
  | answered {handshake : Handshake} {reply : Command}
      (handled : s.handshake.handle command = (handshake, .ok (some (.send reply)))) :
      Replied s host command (send { s with handshake := handshake } "auth step" reply).1
  | accepted {handshake : Handshake}
      (handled : s.handshake.handle command = (handshake, .ok (some .authenticated)))
      (keyed : (∃ keys, handshake.keys? = some keys) ∨ s.handshake.state = .awaitingUserIdAck) :
      Replied s host command (onAuthenticated { s with handshake := handshake } host)

theorem replied (s : Session L S R) (host : HostView) (command : Command) :
    Replied s host command (s.handleAuth host command) := by
  cases hh : s.handshake.handle command with
  | mk handshake step =>
      have hhandled := s.handshake.handled command
      rw [hh] at hhandled
      rw [handleAuth, hh]
      cases hhandled with
      | ignored => exact .ignored
      | unknown => exact .ignored
      | refused => exact .refused hh
      | answered => exact .answered hh
      | accepted => exact .accepted hh (.inl ⟨_, rfl⟩)
      | acknowledged awaited => exact .accepted hh (.inr awaited)

theorem deeds_handleAuth (s : Session L S R) (host : HostView) (command : Command) :
    Deeds s (s.handleAuth host command) := by
  have hreplied := s.replied host command
  generalize s.handleAuth host command = t at hreplied ⊢
  cases hreplied with
  | ignored => exact .refl
  | refused handled => exact .single (.refuse s handled)
  | answered handled => exact .single (.answer s handled)
  | accepted handled =>
      exact .head (.accept s handled) (deeds_onAuthenticated_opened s host _)

/-- The device service's answer is plain, or it ends the waiting for the watch's agreement. -/
theorem deeds_system (s : Session L S R) (command : Command) :
    Deeds s (flush { s with device := (s.device.handle command).1 }
      (s.device.handle command).2.1) := by
  have hreacted := s.device.reacted command
  generalize (s.device.handle command).1 = device at hreacted ⊢
  generalize (s.device.handle command).2.1 = out at hreacted ⊢
  cases hreacted with
  | plain install plain => exact .head (.device s _ install) (deeds_flush_plain _ plain)
  | agreed requested => exact .single (.agree s requested)
  | declined requested => exact .single (.decline s requested)

theorem deeds_dispatch (s : Session L S R) (host : HostView) (command : Command) :
    Deeds s (s.dispatch host command) := by
  rw [dispatch]
  split
  · exact deeds_handleAuth s host command
  · exact deeds_system s command
  · split
    · rename_i handled
      exact .single (.command s handled)
    · exact .refl
  · rename_i index _
    have halike := s.registry.alike_onCommand host index command
    exact .head (.registry s _ halike) (deeds_flush _ _
      ((s.registry.answersFor_onCommand host index command).of_alike halike))
  · exact .refl

/-- A payload is the acknowledgement of a part, or it is seen to by deeds. -/
theorem handleInbound_cases (s : Session L S R) (host : HostView) (inbound : Inbound) :
    (∃ ack, inbound = .uploadAck ack ∧ s.handleInbound host inbound = s.acknowledged ack) ∨
    Deeds s (s.handleInbound host inbound) := by
  cases inbound with
  | command bytes =>
      right
      rw [handleInbound]
      split
      · exact deeds_dispatch s host _
      · exact .refl
  | activity bytes =>
      have hown (hreserved : (Event.activityData bytes).isReserved = true) :
          s.registry.MayTell (.activityData bytes) := by cases hreserved
      exact .inr (.single (.tell s _ hown))
  | uploadAck ack => exact .inl ⟨ack, rfl, rfl⟩

theorem reactions_handleInbound (s : Session L S R) (host : HostView) (inbound : Inbound) :
    Reactions s (s.handleInbound host inbound) := by
  rcases handleInbound_cases s host inbound with ⟨ack, -, h⟩ | h
  · rw [h]
    exact reactions_acknowledged s ack
  · exact h.reactions

theorem acts_handleInbound (s : Session L S R) (host : HostView) (inbound : Inbound) :
    Acts s (s.handleInbound host inbound) := by
  rcases handleInbound_cases s host inbound with ⟨ack, -, h⟩ | h
  · rw [h]
    exact .single (.acknowledge s ack)
  · exact h.acts

theorem acts_receiveNow (s : Session L S R) (host : HostView) (endpoint : Endpoint)
    (data : Bytes) : Acts s (s.receiveNow host endpoint data) := by
  refine .head (.receive s endpoint data) ?_
  simp only [receiveNow]
  exact List.foldlRecOn (motive := Acts _) _ _ .refl fun t h inbound _ =>
    h.trans (acts_handleInbound t host inbound)

theorem acts_processChunk (s : Session L S R) (host : HostView) (chunk : Chunk) :
    Acts s (s.processChunk host chunk) := by
  rw [processChunk]
  split
  · exact .head (.resync s) (acts_receiveNow _ _ _ _)
  · exact acts_receiveNow _ _ _ _

theorem acts_processAtMost (host : HostView) (n : Nat) (s : Session L S R) :
    Acts s (s.processAtMost host n) := by
  induction n generalizing s with
  | zero => exact .refl
  | succ n ih =>
      rw [processAtMost]
      split
      · exact .head (.inbox s _) ((acts_processChunk _ _ _).trans (ih _))
      · exact .refl

theorem acts_onReceive (s : Session L S R) (host : HostView) (endpoint : Endpoint)
    (data : Bytes) : Acts s (s.onReceive host endpoint data) := by
  have hpending : Acts s (s.processPending host) := acts_processAtMost host _ s
  refine hpending.trans (.head (.inbox _ (s.processPending host).inbox.takeLost.1) ?_)
  simp only [onReceive]
  split
  · exact .head (.resync _) (acts_receiveNow _ _ _ _)
  · exact acts_receiveNow _ _ _ _

end WatchLink.Session
