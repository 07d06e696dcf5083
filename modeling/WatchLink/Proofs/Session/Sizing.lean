import WatchLink.Proofs.Link.Bounding
import WatchLink.Proofs.Session.Covering

/-!
# How large the parts of an upload are

The size of an upload's parts is settled when the watch asks for the first one, by what the link
then has room for, and stays while the upload runs. So as long as the room stays, every part that is
written fits. Whatever else a session writes are commands.
-/

namespace WatchLink.Session

open Relation BulkReading Bounding Settling Upload

section

variable {L S R : Type} [CipherSuite] [Link L] [Service S] [Radio R] {s t u w : Session L S R}

/-- The parts of the upload that is out have data in them, and the link has room for them. -/
def Sized (s : Session L S R) : Prop :=
  ∀ job size total sent, s.upload.job = some job → job.phase = .sending size total sent →
    size ≠ 0 ∧ size + partHeader ≤ Link.maxBulk s.link

/-- No part of an upload is out. -/
def Unsent (s : Session L S R) : Prop :=
  ∀ job, s.upload.job = some job → job.phase = .awaitingAck

/-- What the radio is asked on the way from one session to another: to write nothing, to write a
command, or to write the part that the upload then has out, over a link with room for it. -/
inductive Outgoing (s t : Session L S R) : RadioOp → Prop
  | writeless {op : RadioOp} (writeless : op.Writeless) : Outgoing s t op
  | command {u : Session L S R} {next : L} {command : Command} {cipher : Option PacketCipher}
      {op : RadioOp} (before : Moves s u)
      (written : (Link.writeCommand u.link command cipher).Puts next op) : Outgoing s t op
  | part {u v : Session L S R} {job : UploadJob} {size : Nat} {total index : UInt16} {next : L}
      {op : RadioOp} (before : Moves s u) (between : Moves u v) (after : Moves v t)
      (room : size ≠ 0) (fits : size + partHeader ≤ Link.maxBulk u.link)
      (written : (Link.writeBulk u.link (part job.blob size total index)
        u.handshake.cipher?).Puts next op)
      (out : v.upload.job = some { job with phase := .sending size total index }) :
      Outgoing s t op

theorem Outgoing.of_moves {op : RadioOp} (h : Outgoing u t op) (before : Moves s u)
    (after : Moves t w) : Outgoing s w op := by
  cases h with
  | writeless writeless => exact .writeless writeless
  | command way written => exact .command (before.trans way) written
  | part way between rest room fits written out =>
      exact .part (before.trans way) between (rest.trans after) room fits written out

/-! ## What is asked -/

omit [Service S] in
theorem asks_finishUpload {P : RadioOp → Prop} (s : Session L S R) (success : Bool) :
    Asks P s (s.finishUpload .deviceService success) := by
  have hnoted : Asks P s { s with device := (s.device.finishInstall success).1 } :=
    asks_of_effects rfl
  exact (hnoted.trans (asks_tell _ _)).trans (asks_tell _ _)

omit [Service S] in
theorem asks_stopped {P : RadioOp → Prop} (s : Session L S R) (success : Bool) :
    Asks P s (s.stopped success) := asks_finishUpload { s with upload := {} } success

theorem outgoing_send (s : Session L S R) (task : String) (command : Command) :
    Asks (Outgoing s t) s (s.send task command).1 :=
  asks_send s task command fun _ _ written => .command .refl written

theorem outgoing_startUpload (s : Session L S R) (request : UploadRequest) :
    Asks (Outgoing s t) s (s.startUpload request) := by
  obtain ⟨kind, file, ⟨⟩⟩ := request
  have hsent : Asks (Outgoing s t) s ((s.awaiting ⟨kind, file, .deviceService⟩).send
      "upload request" (uploadRequest kind file)).1 :=
    asks_send _ _ _ fun _ _ written => .command (u := s) .refl written
  have hstarted := uploadStarted s ⟨kind, file, .deviceService⟩
  generalize s.startUpload ⟨kind, file, .deviceService⟩ = t' at hstarted ⊢
  cases hstarted with
  | busy => exact asks_finishUpload s false
  | unsent => exact hsent.trans (asks_stopped _ false)
  | sent => exact hsent

omit [CipherSuite] in
theorem writeless_progress (device : DeviceService) (percent : UInt8) :
    (device.progress percent).Writeless := fun _ _ => by nofun

/-- A part goes out only when the upload has come to it. -/
theorem Uploaded.outgoing {ack : Option Bytes} (h : Uploaded s ack t) (sized : s.Sized)
    (moves : Moves s t) : Asks (Outgoing s t) s t := by
  cases h with
  | ignored => exact .refl s
  | stopped => exact asks_stopped s false
  | first _ _ room fits _ written =>
      exact asks_submit { s with upload := _, link := _ }
        (List.forall_mem_singleton.2 (.part .refl moves .refl room fits written rfl))
  | @next job size total sent _ _ _ running out _ _ written =>
      obtain ⟨room, fits⟩ := sized _ _ _ _ running out
      refine asks_submit { s with upload := _, link := _ } (List.forall_mem_cons.2 ⟨?_, ?_⟩)
      · exact .part .refl moves .refl room fits written rfl
      · exact List.forall_mem_singleton.2 (.writeless (writeless_progress _ _))
  | completed =>
      refine (asks_submit s (List.forall_mem_singleton.2 ?_)).trans (asks_stopped _ true)
      exact .writeless (writeless_progress _ _)

theorem outgoing_act (act : Act s t) (heeded : s.Heeded) (sized : s.Sized) :
    Asks (Outgoing s t) s t := by
  have hmoves := Acts.moves (.single act)
  cases act with
  | acknowledge ack => exact (uploaded_ack heeded ack).outgoing sized hmoves
  | inbox => exact asks_of_effects rfl
  | receive => exact asks_of_effects rfl
  | resync => exact asks_of_effects rfl
  | deed deed =>
      cases deed with
      | tell event => exact asks_tell s event
      | device => exact asks_of_effects rfl
      | registry => exact asks_of_effects rfl
      | send task command => exact outgoing_send s task command
      | startUpload request => exact outgoing_startUpload s request
      | @agree image =>
          have hupdating := (reactions_updating s image).moves
          have hnoted : Asks (Outgoing s (s.agreed image)) s (s.updating image) :=
            asks_tell { s with device := _ } _
          have hstarted : Asks (Outgoing (s.updating image) (s.agreed image))
              (s.updating image) (s.agreed image) := outgoing_startUpload _ _
          exact hnoted.trans (hstarted.mono fun op hop => hop.of_moves hupdating .refl)
      | decline => exact asks_of_effects rfl
      | command handled => exact (uploaded_command heeded handled).outgoing sized hmoves
      | @answer _ reply handshake =>
          exact asks_send { s with handshake := handshake } _ _
            fun _ _ written => .command (u := s) .refl written
      | accept =>
          refine (asks_submit { s with handshake := _, link := _ } ?_).trans (asks_setState _ _)
          exact List.forall_mem_singleton.2 (.writeless fun _ _ => by nofun)
      | @refuse _ handshake =>
          have htold : Asks (Outgoing s (s.refused handshake)) s
              (tell { s with handshake := handshake } .authenticationFailed) :=
            asks_tell { s with handshake := handshake } _
          exact htold.trans (asks_setState (resetConnection _) _)

/-! ## What stays -/

section

variable [Bounding L]

omit [Service S] [Bounding L] [CipherSuite] [Radio R] in
theorem Sized.of_eq (h : s.Sized) (upload : t.upload = s.upload)
    (room : Link.maxBulk t.link = Link.maxBulk s.link) : t.Sized := by
  intro job size total sent running out
  rw [upload] at running
  rw [room]
  exact h job size total sent running out

omit [Service S] [Bounding L] [CipherSuite] [Radio R] in
theorem Unsent.sized (h : t.Unsent) : t.Sized := by
  intro job size total sent running out
  cases (h job running).symm.trans out

omit [Service S] [Bounding L] [CipherSuite] [Radio R] [Link L] in
theorem unsent_of_idle (h : t.upload = {}) : t.Unsent := by
  rw [Unsent, h]
  nofun

omit [Service S] in
theorem maxBulk_send (s : Session L S R) (task : String) (command : Command) :
    Link.maxBulk (s.send task command).1.link = Link.maxBulk s.link := by
  rcases send_cases s task command with h | ⟨link, op, written, h⟩
  · rw [h]
  · rw [h]
    exact maxBulk_writeCommand written

omit [Service S] in
theorem Sized.send (h : s.Sized) (task : String) (command : Command) :
    (s.send task command).1.Sized :=
  h.of_eq (upload_send s task command) (maxBulk_send s task command)

omit [Service S] in
theorem Uploaded.sized {ack : Option Bytes} (h : Uploaded s ack t) (sized : s.Sized) : t.Sized := by
  cases h with
  | ignored => exact sized
  | stopped => exact (unsent_of_idle rfl).sized
  | first _ _ room fits _ written =>
      rintro _ _ _ _ ⟨⟩ ⟨⟩
      exact ⟨room, by rw [← maxBulk_writeBulk written] at fits; exact fits⟩
  | next running out _ _ written =>
      rintro _ _ _ _ ⟨⟩ ⟨⟩
      obtain ⟨room, fits⟩ := sized _ _ _ _ running out
      exact ⟨room, by rw [← maxBulk_writeBulk written] at fits; exact fits⟩
  | completed => exact (unsent_of_idle rfl).sized

omit [Service S] [Bounding L] in
theorem Sized.startUpload (h : s.Sized) (request : UploadRequest) :
    (s.startUpload request).Sized := by
  obtain ⟨kind, file, ⟨⟩⟩ := request
  have hstarted := uploadStarted s ⟨kind, file, .deviceService⟩
  generalize s.startUpload ⟨kind, file, .deviceService⟩ = t' at hstarted ⊢
  cases hstarted with
  | busy => exact h.of_eq rfl rfl
  | unsent => exact (unsent_of_idle rfl).sized
  | sent =>
      refine Unsent.sized fun job running => ?_
      rw [upload_send] at running
      cases running
      rfl

theorem sized_act (s t : Session L S R) (act : Act s t) (h : s.Heeded ∧ s.Sized) :
    t.Heeded ∧ t.Sized := by
  obtain ⟨heeded, sized⟩ := h
  refine ⟨heeded.act s t act, ?_⟩
  cases act with
  | acknowledge ack => exact (uploaded_ack heeded ack).sized sized
  | inbox => exact sized.of_eq rfl rfl
  | receive => exact sized.of_eq rfl (maxBulk_receive _ _ _ _)
  | resync => exact sized.of_eq rfl (maxBulk_resync _)
  | deed deed =>
      cases deed with
      | tell => exact sized.of_eq rfl rfl
      | device => exact sized.of_eq rfl rfl
      | registry => exact sized.of_eq rfl rfl
      | send task command => exact sized.send task command
      | startUpload request => exact sized.startUpload request
      | @agree image =>
          have hnoted : (s.updating image).Sized := sized.of_eq rfl rfl
          exact hnoted.startUpload _
      | decline => exact sized.of_eq rfl rfl
      | command handled => exact (uploaded_command heeded handled).sized sized
      | @answer _ reply handshake =>
          have hnoted : Sized { s with handshake := handshake } := sized.of_eq rfl rfl
          exact hnoted.send _ _
      | accept => exact sized.of_eq rfl (maxBulk_resetCounters _)
      | refuse => exact (unsent_of_idle rfl).sized

/-- Whatever acts do, parts go out that fit. -/
theorem outgoing_acts (acts : Acts s t) (heeded : s.Heeded) (sized : s.Sized) :
    Asks (Outgoing s t) s t := by
  have hkept : (t.Heeded ∧ t.Sized) ∧ Asks (Outgoing s t) s t := by
    induction acts with
    | refl => exact ⟨⟨heeded, sized⟩, .refl s⟩
    | @tail b c way act ih =>
        obtain ⟨hb, hasks⟩ := ih
        have hstep := Acts.moves (.single act)
        refine ⟨sized_act b c act hb, ?_⟩
        exact (hasks.mono fun op hop => hop.of_moves .refl hstep).trans
          ((outgoing_act act hb.1 hb.2).mono fun op hop => hop.of_moves (Acts.moves way) .refl)
  exact hkept.2

/-! ## Calls -/

/-- Between connecting and disconnecting a call has nothing written but commands and parts that fit,
and what it hands out is a command. -/
theorem outgoing_perform (heeded : s.Heeded) (sized : s.Sized) {call : HostCall S R}
    (ongoing : call.isOngoing = true) :
    Asks (Outgoing s (s.perform call).1) s (s.perform call).1 ∧
      ∀ op ∈ (s.perform call).2, Outgoing s (s.perform call).1 op := by
  constructor
  · have hhappened := s.happened call
    generalize (s.perform call).1 = t at hhappened ⊢
    generalize s.moments call = moments at hhappened
    cases hhappened with
    | connect => cases ongoing
    | disconnect => cases ongoing
    | mtuChanged => exact asks_of_effects rfl
    | radio => exact asks_of_effects rfl
    | sendIn => exact asks_of_effects rfl
    | register => exact asks_of_effects rfl
    | @install image =>
        exact asks_send { s with device := _ } _ _
          fun _ _ written => .command (u := s) .refl written
    | inbox => exact asks_of_effects rfl
    | deeds deeds => exact outgoing_acts deeds.acts heeded sized
    | processPending host => exact outgoing_acts (acts_processAtMost host _ s) heeded sized
    | receive host endpoint data =>
        exact outgoing_acts (acts_onReceive s host endpoint data) heeded sized
  · have hperformed := s.performed call
    generalize s.perform call = result at hperformed ⊢
    cases hperformed with
    | connect => cases ongoing
    | disconnect => cases ongoing
    | mtuChanged => exact List.forall_mem_nil _
    | radio => exact List.forall_mem_nil _
    | register => exact List.forall_mem_nil _
    | sendIn written => exact List.forall_mem_singleton.2 (.command .refl written)
    | moved => exact List.forall_mem_nil _

end

/-- The link that a call writes over: connecting settles on it first. -/
def linkFor (s : Session L S R) : HostCall S R → L
  | .connect discovery _ => Link.resetCounters (Link.bind s.ready.link discovery).1
  | _ => s.link

omit [CipherSuite] [Radio R] in
theorem linkFor_of_ongoing (s : Session L S R) {call : HostCall S R}
    (ongoing : call.isOngoing = true) : s.linkFor call = s.link := by
  cases call with
  | connect => cases ongoing
  | _ => rfl

/-- The operation writes a command over the link. -/
def WritesCommand (link : L) (op : RadioOp) : Prop :=
  ∃ next command, (Link.writeCommand link command none).Puts next op

/-- Connecting has nothing written but a hello. -/
theorem greets_connect [Settling L] [BulkReading L] [Sealing L] (s : Session L S R)
    (discovery : Discovery) (nonce : Octets 16) :
    Asks (fun op => op.Writeless ∨ WritesCommand (s.linkFor (.connect discovery nonce)) op) s
      (s.connect discovery nonce).1 := by
  have hhello {link next : L} {mode : HandshakeMode} {op : RadioOp}
      (bound : Link.bind s.ready.link discovery = (link, .ok mode))
      (written : (Link.writeCommand (Link.resetCounters link)
        (s.ready.handshake.start mode nonce).2 none).Puts next op) :
      Asks (fun op => op.Writeless ∨ WritesCommand (s.linkFor (.connect discovery nonce)) op) s
        (s.saidHello (Link.resetCounters link) next mode nonce op).1 := by
    refine s.asks_ready.trans (asks_submit (s.introduced next mode nonce) fun asked hmem => ?_)
    rcases List.mem_append.1 hmem with hstartup | hsaid
    · exact .inl (Sealing.writeless_startup _ asked hstartup)
    · obtain rfl := List.mem_singleton.1 hsaid
      rw [linkFor, bound]
      exact .inr ⟨_, _, written⟩
  have hconnected := s.connected discovery nonce
  generalize (s.connect discovery nonce).1 = t at hconnected ⊢
  cases hconnected with
  | @unbound link _ state =>
      exact s.asks_ready.trans (asks_setState { s.ready with link := link } state)
  | @unwritten link mode => exact s.asks_ready.trans (asks_setState (resetConnection _) _)
  | refused bound written =>
      exact (hhello bound written).trans (asks_setState (resetConnection _) _)
  | greeted bound written => exact (hhello bound written).trans (asks_setState _ _)

/-- What starts or ends a connection has nothing written but a hello, and hands nothing out. -/
theorem greets_perform [Settling L] [BulkReading L] [Sealing L] (s : Session L S R)
    {call : HostCall S R} (ended : call.isOngoing = false) :
    Asks (fun op => op.Writeless ∨ WritesCommand (s.linkFor call) op) s (s.perform call).1 ∧
      (s.perform call).2 = [] := by
  cases call with
  | connect discovery nonce => exact ⟨greets_connect s discovery nonce, rfl⟩
  | disconnect => exact ⟨asks_setState (resetConnection _) _, rfl⟩
  | _ => cases ended

/-- All that a call has written. -/
theorem written_perform [Settling L] [BulkReading L] [Sealing L] [Bounding L] (heeded : s.Heeded)
    (sized : s.Sized) (call : HostCall S R) (asked : s.asked = []) {op : RadioOp}
    (mem : op ∈ (s.perform call).1.asked ++ (s.perform call).2) :
    (call.isOngoing = true ∧ Outgoing s (s.perform call).1 op) ∨ op.Writeless ∨
      WritesCommand (s.linkFor call) op := by
  cases hongoing : call.isOngoing with
  | true =>
      obtain ⟨⟨more, hmore, hall⟩, hhanded⟩ := outgoing_perform heeded sized hongoing
      rw [hmore, asked, List.nil_append] at mem
      exact .inl ⟨rfl, (List.mem_append.1 mem).elim (hall op) (hhanded op)⟩
  | false =>
      obtain ⟨⟨more, hmore, hall⟩, hhanded⟩ := greets_perform s hongoing
      rw [hmore, asked, List.nil_append, hhanded, List.append_nil] at mem
      exact .inr (hall op mem)

/-! ## Runs -/

section

variable [Settling L] [Bounding L]

omit [CipherSuite] [Settling L] [Bounding L] in
theorem Tied.upload_connect (h : s.Tied) (discovery : Discovery) (nonce : Octets 16) :
    (s.connect discovery nonce).1.upload = {} := by
  have hconnected := s.connected discovery nonce
  generalize (s.connect discovery nonce).1 = t at hconnected ⊢
  cases hconnected with
  | unbound => exact h.ready.2
  | unwritten => rfl
  | refused => rfl
  | greeted => exact h.ready.2

omit [Settling L] in
/-- A call that leaves the room as it is keeps the parts that are out fitting. -/
theorem Sized.perform (h : s.Sized) (heeded : s.Heeded) (tied : s.Tied) (call : HostCall S R)
    (steady : ∀ mtu, call = .mtuChanged mtu →
      Link.maxBulk (Link.setMtu s.link mtu) = Link.maxBulk s.link) :
    (s.perform call).1.Sized := by
  have hhappened := s.happened call
  generalize (s.perform call).1 = t at hhappened ⊢
  generalize s.moments call = moments at hhappened
  cases hhappened with
  | connect => exact (unsent_of_idle (tied.upload_connect _ _)).sized
  | disconnect => exact (unsent_of_idle rfl).sized
  | mtuChanged mtu => exact h.of_eq rfl (steady mtu rfl)
  | radio => exact h.of_eq rfl rfl
  | sendIn written => exact h.of_eq rfl (Bounding.maxBulk_writeCommand written)
  | register => exact h.of_eq rfl rfl
  | @install image =>
      have hnoted : Sized { s with device := { s.device with install := .requested image } } :=
        h.of_eq rfl rfl
      exact hnoted.send _ _
  | inbox => exact h.of_eq rfl rfl
  | deeds deeds => exact (deeds.acts.keep sized_act ⟨heeded, h⟩).2
  | processPending host => exact ((acts_processAtMost host _ s).keep sized_act ⟨heeded, h⟩).2
  | receive host endpoint data =>
      exact ((acts_onReceive s host endpoint data).keep sized_act ⟨heeded, h⟩).2

/-- Since a time when no part was out, and while no call changed the room, parts fit. -/
theorem sized_run {link : L} {radio : R} {config : LinkConfig} {capabilities : Capabilities}
    {start : Session L S R} (hstart : ofConfig link radio config capabilities = .ok start)
    (hlink : mode? link = unsettled (L := L)) (calls : List (HostCall S R))
    (unsent : (start.run calls).Unsent) (more : List (HostCall S R))
    (steady : ∀ before mtu, before ++ [.mtuChanged mtu] <+: more →
      Link.maxBulk (Link.setMtu (start.run (calls ++ before)).link mtu) =
        Link.maxBulk (start.run (calls ++ before)).link) :
    (start.run (calls ++ more)).Sized := by
  have hreachable : start.Reachable := .ofConfig hstart
  have hstaged := staged_ofConfig hstart hlink
  induction more using List.reverseRecOn with
  | nil =>
      rw [List.append_nil]
      exact unsent.sized
  | append_singleton more call ih =>
      have hbefore : (start.run (calls ++ more)).clearEffects.Sized :=
        ih fun before mtu h => steady before mtu (h.trans (List.prefix_append _ _))
      have htied := (tied_ofConfig hstart).run hreachable hstaged (calls ++ more)
      have hclear : (start.run (calls ++ more)).clearEffects.Tied := ⟨htied.install, htied.upload⟩
      rw [← List.append_assoc, run_snoc]
      refine hbefore.perform (hreachable.run _).heeded hclear call ?_
      rintro mtu rfl
      exact steady more mtu (List.prefix_refl _)

end

end

end WatchLink.Session
