import WatchLink.Proofs.Session.Receiving

/-!
# What an authenticated session does not look at

Once the watch has accepted the phone, nothing that is done about a payload touches the handshake,
and nothing looks at what is half-read or at what waits in the inbox, or changes it. So a payload is
handled the same whatever else has come in: `withInput` puts another input beside a session, and it
can be put there before the payload is handled or after it.
-/

namespace WatchLink

namespace StreamLink

/-- The link with something else half-read. -/
def withReassembler (link : StreamLink) (reassembler : Reassembler) : StreamLink :=
  { link with reassembler := reassembler }

/-- A frame is written the same, and what is half-read stays beside it. -/
theorem writeFrame_withReassembler (link : StreamLink) (reassembler : Reassembler) (frame : Frame)
    (cipher : Option PacketCipher) (transaction : Transaction) :
    (link.withReassembler reassembler).writeFrame frame cipher transaction =
      ((link.writeFrame frame cipher transaction).1.withReassembler reassembler,
        (link.writeFrame frame cipher transaction).2) := by
  have hserial : (link.withReassembler reassembler).serial = link.serial := rfl
  have hcounter : (link.withReassembler reassembler).counter = link.counter := rfl
  rw [writeFrame, writeFrame, encodeNext, encodeNext, hserial, hcounter]
  cases Frame.encode { frame with serial := link.serial } (cipher.getD .refusing) link.counter with
  | mk counter octets => cases octets <;> rfl

end StreamLink

namespace Session

variable {S R : Type}

/-- The session with something else half-read, and something else waiting. -/
def withInput (s : Session StreamLink S R) (reassembler : Reassembler) (inbox : Inbox) :
    Session StreamLink S R :=
  { s with link := s.link.withReassembler reassembler, inbox := inbox }

variable (s : Session StreamLink S R) (reassembler : Reassembler) (inbox : Inbox)

theorem withInput_self : s.withInput s.link.reassembler s.inbox = s := rfl

variable [Radio R]

/-- Operations are submitted beside any input, if there are operations at all. -/
theorem submitSome_withInput (transaction : Transaction) :
    (if transaction.ops = [] then s.withInput reassembler inbox
      else ((s.withInput reassembler inbox).submit transaction).1) =
      (if transaction.ops = [] then s
        else (s.submit transaction).1).withInput reassembler inbox := by
  split <;> rfl

variable [CipherSuite]

omit [Radio R] in
theorem sendIn_withInput (command : Command) (transaction : Transaction) :
    (s.withInput reassembler inbox).sendIn command transaction =
      ((s.sendIn command transaction).1.withInput reassembler inbox,
        (s.sendIn command transaction).2) := by
  have hwrite : Link.writeCommand (s.withInput reassembler inbox).link command
      (s.withInput reassembler inbox).handshake.cipher? transaction =
        ((Link.writeCommand s.link command s.handshake.cipher? transaction).1.withReassembler
          reassembler, (Link.writeCommand s.link command s.handshake.cipher? transaction).2) :=
    StreamLink.writeFrame_withReassembler ..
  rw [sendIn, sendIn, hwrite]
  rfl

theorem send_withInput (task : String) (command : Command) :
    (s.withInput reassembler inbox).send task command =
      ((s.send task command).1.withInput reassembler inbox, (s.send task command).2) := by
  rw [send, send, sendIn_withInput]
  generalize s.sendIn command { name := task } = sent
  obtain ⟨t, transaction, written⟩ := sent
  cases written <;> rfl

theorem post_withInput (out : Outbox) :
    (s.withInput reassembler inbox).post out =
      (s.post out).withInput reassembler inbox := by
  have htell (events : List Event) (t : Session StreamLink S R) :
      events.foldl tell (t.withInput reassembler inbox) =
        (events.foldl tell t).withInput reassembler inbox :=
    List.foldl_hom (fun t : Session StreamLink S R => t.withInput reassembler inbox) fun _ _ => rfl
  rw [post, post, htell]
  exact List.foldl_hom (fun t : Session StreamLink S R => t.withInput reassembler inbox)
    fun t command => congrArg Prod.fst (t.send_withInput reassembler inbox command.1 command.2)

theorem finishUpload_withInput (listener : UploadListener) (success : Bool) :
    (s.withInput reassembler inbox).finishUpload listener success =
      (s.finishUpload listener success).withInput reassembler inbox := by
  cases listener with
  | deviceService =>
      exact post_withInput { s with device := (s.device.finishInstall success).1 } reassembler inbox
        (s.device.finishInstall success).2

theorem startUpload_withInput (request : UploadRequest) :
    (s.withInput reassembler inbox).startUpload request =
      (s.startUpload request).withInput reassembler inbox := by
  have hupload : (s.withInput reassembler inbox).upload = s.upload := rfl
  rw [startUpload, startUpload, hupload]
  cases s.upload.request request.kind request.bytes with
  | error e => exact s.finishUpload_withInput reassembler inbox request.listener false
  | ok requested =>
      obtain ⟨upload, command⟩ := requested
      have hupload : { s.withInput reassembler inbox with
          upload := { upload with listener := some request.listener } } =
            withInput { s with upload := { upload with listener := some request.listener } }
              reassembler inbox := rfl
      simp only
      rw [hupload, send_withInput]
      generalize send { s with upload := { upload with listener := some request.listener } }
        "upload request" command = sent
      obtain ⟨t, result⟩ := sent
      cases result with
      | ok => rfl
      | error e =>
          exact finishUpload_withInput { t with upload := {} } reassembler inbox request.listener
            false

theorem flush_withInput (out : Outbox) :
    (s.withInput reassembler inbox).flush out = (s.flush out).withInput reassembler inbox := by
  rw [flush, flush, post_withInput]
  cases out.upload with
  | none => rfl
  | some request => exact startUpload_withInput _ reassembler inbox request

omit [Radio R] [CipherSuite] in
theorem writeParts_withReassembler (link : StreamLink) (cipher : Option PacketCipher)
    (parts : List Bytes) (transaction : Transaction) :
    writeParts cipher parts (link.withReassembler reassembler) transaction =
      ((writeParts cipher parts link transaction).1.withReassembler reassembler,
        (writeParts cipher parts link transaction).2) := by
  unfold writeParts
  induction parts generalizing link transaction with
  | nil => rfl
  | cons part parts ih =>
      have hwrite : Link.writeBulk (link.withReassembler reassembler) part cipher transaction =
          ((Link.writeBulk link part cipher transaction).1.withReassembler reassembler,
            (Link.writeBulk link part cipher transaction).2) :=
        link.writeFrame_withReassembler reassembler (StreamLink.bulkFrame part) cipher transaction
      rw [Writing.each, Writing.each, hwrite]
      generalize Link.writeBulk link part cipher transaction = written
      obtain ⟨next, transaction, result⟩ := written
      cases result with
      | error e => rfl
      | ok => exact ih next transaction

theorem applyUpload_withInput (out : Upload.Output) :
    (s.withInput reassembler inbox).applyUpload out =
      (s.applyUpload out).withInput reassembler inbox := by
  have hwrite : writeParts (s.withInput reassembler inbox).handshake.cipher? out.parts
      (s.withInput reassembler inbox).link { name := "upload part" } =
        ((writeParts s.handshake.cipher? out.parts s.link
            { name := "upload part" }).1.withReassembler reassembler,
          (writeParts s.handshake.cipher? out.parts s.link { name := "upload part" }).2) :=
    writeParts_withReassembler reassembler s.link s.handshake.cipher? out.parts _
  simp only [applyUpload, hwrite]
  generalize writeParts s.handshake.cipher? out.parts s.link { name := "upload part" } = written
  obtain ⟨link, transaction, result⟩ := written
  cases result with
  | error e =>
      have hlistener : (s.withInput reassembler inbox).upload = s.upload := rfl
      simp only [hlistener]
      cases s.upload.listener with
      | none => rfl
      | some listener =>
          exact finishUpload_withInput { s with link := link, upload := {} } reassembler inbox
            listener false
  | ok =>
      have hdevice : (s.withInput reassembler inbox).device = s.device := rfl
      have hlistener : (s.withInput reassembler inbox).upload = s.upload := rfl
      simp only [hdevice, hlistener]
      generalize out.notices.foldl (News.read s.device) { listener := s.upload.listener } = news
      have hwritten := submitSome_withInput { s with
        link := link, upload := { s.upload with listener := news.listener } } reassembler inbox
          (transaction.add news.ops)
      cases news.finished with
      | none => exact hwritten
      | some finished =>
          obtain ⟨listener, success⟩ := finished
          exact (congrArg (fun t => finishUpload t listener success) hwritten).trans
            (finishUpload_withInput _ reassembler inbox listener success)

variable [Service S]

/-! ## Payloads on an authenticated connection -/

omit [Radio R] [Service S] in
/-- An authenticated handshake takes nothing more: what comes in is passed over. -/
theorem handle_of_authenticated {h : Handshake} (hstate : h.state = .authenticated)
    (command : Command) : (h.handle command).1 = h ∧
      ((h.handle command).2 = .ok none ∨
        ∃ kind subtype, (h.handle command).2 = .error (.unknownCommand kind subtype)) := by
  simp only [Handshake.handle, hstate]
  split
  · exact ⟨rfl, .inl rfl⟩
  · split
    · exact ⟨rfl, .inl rfl⟩
    · split
      · exact ⟨rfl, .inl rfl⟩
      · exact ⟨rfl, .inr ⟨_, _, rfl⟩⟩

theorem handleAuth_of_authenticated (h : s.handshake.state = .authenticated) (host : HostView)
    (command : Command) : s.handleAuth host command = s := by
  obtain ⟨hsame, hstep⟩ := handle_of_authenticated h command
  rw [handleAuth]
  generalize s.handshake.handle command = handled at hsame hstep
  obtain ⟨handshake, step⟩ := handled
  subst hsame
  rcases hstep with rfl | ⟨kind, subtype, rfl⟩ <;> rfl

theorem dispatch_withInput (h : s.handshake.state = .authenticated) (host : HostView)
    (command : Command) :
    (s.withInput reassembler inbox).dispatch host command =
      (s.dispatch host command).withInput reassembler inbox := by
  have hroute : (s.withInput reassembler inbox).registry = s.registry := rfl
  rw [dispatch, dispatch, hroute]
  cases s.registry.route command.kind with
  | none => rfl
  | some route =>
      cases route with
      | auth =>
          simp only
          rw [handleAuth_of_authenticated s h,
            handleAuth_of_authenticated (s.withInput reassembler inbox) h]
      | system =>
          exact flush_withInput
            { s with device := (Service.onCommand s.device host command).1 } reassembler inbox
            (Service.onCommand s.device host command).2.1
      | upload =>
          have hupload : (s.withInput reassembler inbox).upload = s.upload := rfl
          have hsize :
              Link.maxBulk (s.withInput reassembler inbox).link = Link.maxBulk s.link := rfl
          simp only [hupload, hsize]
          cases s.upload.handleCommand command (Link.maxBulk s.link) with
          | error e => rfl
          | ok answer =>
              exact applyUpload_withInput { s with upload := answer.1 } reassembler inbox answer.2
      | registered index =>
          exact flush_withInput
            { s with registry := (s.registry.onCommand index host command).1 } reassembler inbox
            (s.registry.onCommand index host command).2.1

theorem handleInbound_withInput (h : s.handshake.state = .authenticated) (host : HostView)
    (inbound : Inbound) :
    (s.withInput reassembler inbox).handleInbound host inbound =
      (s.handleInbound host inbound).withInput reassembler inbox := by
  cases inbound with
  | command bytes =>
      rw [handleInbound, handleInbound]
      cases Command.ofBytes bytes with
      | error e => rfl
      | ok command => exact s.dispatch_withInput reassembler inbox h host command
  | activity bytes => rfl
  | uploadAck bytes =>
      exact applyUpload_withInput { s with upload := (s.upload.handleAck bytes).1 } reassembler
        inbox (s.upload.handleAck bytes).2

end Session

end WatchLink
