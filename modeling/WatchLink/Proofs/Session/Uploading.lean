import WatchLink.Link.Gatt
import WatchLink.Proofs.Session.Pairing
import WatchLink.Proofs.Session.Record
import WatchLink.Proofs.Upload.Answers

/-!
# What becomes of an upload

Starting an upload and taking an answer to it have few outcomes: `UploadStarted` and `Uploaded` list
them with what was written and what the radio was asked. An upload that cannot be requested, and one
whose part cannot be written, is given up at once. A refusal by the radio does the same to the
request only: a job whose part was refused goes on waiting for its acknowledgement. So what can be
said of a job that waits for one is that the radio was asked for the part when the job came to wait.
-/

namespace WatchLink.Session

section

variable {L S R : Type} [CipherSuite] [Link L] [Radio R]

/-! ## What an answer comes to -/

/-- Who asked for the running upload is listening for its end. -/
def Heeded (s : Session L S R) : Prop :=
  s.upload.job ≠ none → s.upload.listener = some .deviceService

/-- The upload is over, and the device service has told of it. -/
def stopped (s : Session L S R) (success : Bool) : Session L S R :=
  finishUpload { s with upload := {} } .deviceService success

theorem effects_stopped (s : Session L S R) (success : Bool) :
    s.effects <:+ (s.stopped success).effects :=
  (List.suffix_cons _ _).trans (List.suffix_cons _ _)

def uploadRequest (kind : UInt8) (file : Bytes) : Command :=
  ⟨Command.uploadKind, Upload.startSubtype,
    .upload (.request kind (Digest.Md5.digest file) (UInt32.ofNat file.length))⟩

/-- The upload is about to be requested. -/
def awaiting (s : Session L S R) (request : UploadRequest) : Session L S R :=
  { s with
    upload := ⟨some ⟨request.kind, Upload.blob request.kind request.bytes, .awaitingAck⟩,
      some request.listener⟩ }

/-- What starting an upload can come to. -/
inductive UploadStarted (s : Session L S R) (request : UploadRequest) : Session L S R → Prop
  | busy {job : UploadJob} (running : s.upload.job = some job) :
      UploadStarted s request (s.finishUpload request.listener false)
  | unsent {e : LinkError} (idle : s.upload.job = none)
      (outcome : ((s.awaiting request).send "upload request"
        (uploadRequest request.kind request.bytes)).2 = .error e) :
      UploadStarted s request (((s.awaiting request).send "upload request"
        (uploadRequest request.kind request.bytes)).1.stopped false)
  | sent (idle : s.upload.job = none)
      (outcome : ((s.awaiting request).send "upload request"
        (uploadRequest request.kind request.bytes)).2 = .ok ()) :
      UploadStarted s request ((s.awaiting request).send "upload request"
        (uploadRequest request.kind request.bytes)).1

/-- The list is complete. -/
theorem uploadStarted (s : Session L S R) (request : UploadRequest) :
    UploadStarted s request (s.startUpload request) := by
  obtain ⟨kind, file, ⟨⟩⟩ := request
  cases hjob : s.upload.job with
  | some job =>
      have hbusy : s.startUpload ⟨kind, file, .deviceService⟩ =
          s.finishUpload .deviceService false := by
        rw [startUpload, Upload.request, hjob]
      rw [hbusy]
      exact .busy hjob
  | none =>
      have hrequest : s.upload.request kind file =
          .ok ({ s.upload with job := some ⟨kind, Upload.blob kind file, .awaitingAck⟩ },
            uploadRequest kind file) := by
        rw [Upload.request, hjob]
        rfl
      simp only [startUpload, hrequest]
      split
      · rename_i t houtcome
        have hsend : (s.awaiting ⟨kind, file, .deviceService⟩).send "upload request"
            (uploadRequest kind file) = (t, .ok ()) := houtcome
        have hsent : UploadStarted s ⟨kind, file, .deviceService⟩ _ :=
          .sent hjob (congrArg Prod.snd hsend)
        rwa [hsend] at hsent
      · rename_i t e houtcome
        have hsend : (s.awaiting ⟨kind, file, .deviceService⟩).send "upload request"
            (uploadRequest kind file) = (t, .error e) := houtcome
        have hunsent : UploadStarted s ⟨kind, file, .deviceService⟩ _ :=
          .unsent hjob (congrArg Prod.snd hsend)
        rwa [hsend] at hunsent

/-- A part is out, and the progress so far is shown. -/
def wrote (s : Session L S R) (upload : Upload) (link : L) (op : RadioOp)
    (progress : List RadioOp) : Session L S R :=
  (submit { s with upload := upload, link := link } ⟨"upload part", op :: progress⟩).1

/-- What an answer of the watch to an upload that is listened for can come to; the acknowledgement
is named if it is one. -/
inductive Uploaded (s : Session L S R) : Option Bytes → Session L S R → Prop
  | ignored (ack : Option Bytes) : Uploaded s ack s
  | stopped (ack : Option Bytes) {job : UploadJob} (running : s.upload.job = some job) :
      Uploaded s ack (s.stopped false)
  | first {job : UploadJob} {size : Nat} {link : L} {op : RadioOp}
      (running : s.upload.job = some job) (waiting : job.phase = .awaitingAck) (room : size ≠ 0)
      (sized : size + Upload.partHeader ≤ Link.maxBulk s.link)
      (count : Upload.partCount job.blob.length size ≤ 65535)
      (written : (Link.writeBulk s.link
        (Upload.part job.blob size (.ofNat (Upload.partCount job.blob.length size)) 1)
        s.handshake.cipher?).Puts link op) :
      Uploaded s none
        (s.wrote (s.upload.sending job size (.ofNat (Upload.partCount job.blob.length size)) 1)
          link op [])
  | next {job : UploadJob} {size : Nat} {total sent : UInt16} {ack : Bytes} {link : L}
      {op : RadioOp} (running : s.upload.job = some job)
      (out : job.phase = .sending size total sent) (accepts : Upload.Accepts ack sent)
      (more : sent ≠ total)
      (written : (Link.writeBulk s.link (Upload.part job.blob size total (sent + 1))
        s.handshake.cipher?).Puts link op) :
      Uploaded s (some ack) (s.wrote (s.upload.sending job size total (sent + 1)) link op
        [s.device.progress (Upload.percent sent total)])
  | completed {job : UploadJob} {size : Nat} {total : UInt16} {ack : Bytes}
      (running : s.upload.job = some job) (out : job.phase = .sending size total total)
      (accepts : Upload.Accepts ack total) :
      Uploaded s (some ack)
        ((s.submit ⟨"upload part",
          [s.device.progress (Upload.percent total total)]⟩).1.stopped true)

theorem applyUpload_failed (s : Session L S R)
    (hlistener : s.upload.listener = some .deviceService) :
    applyUpload { s with upload := s.upload.failed.1 } s.upload.failed.2 = s.stopped false := by
  simp only [Upload.failed, applyUpload, hlistener]
  rfl

theorem applyUpload_part (s : Session L S R) (part : Bytes) (notices : List UploadNotice)
    (progress : List RadioOp) (hlistener : s.upload.listener = some .deviceService)
    (hnews : notices.foldl (News.read s.device) { listener := some .deviceService } =
      { ops := progress, listener := some .deviceService }) :
    s.applyUpload ⟨[part], notices⟩ = s.stopped false ∨
    ∃ link op, (Link.writeBulk s.link part s.handshake.cipher?).Puts link op ∧
      s.applyUpload ⟨[part], notices⟩ = s.wrote s.upload link op progress := by
  cases Link.writeBulk_allOrNothing s.link part s.handshake.cipher? with
  | fails e failed =>
      left
      simp only [applyUpload, writeParts, Writing.each, failed _, hlistener]
      rfl
  | puts link endpoint data made =>
      refine .inr ⟨link, _, made, ?_⟩
      have hupload : ({ s.upload with listener := some .deviceService } : Upload) = s.upload := by
        rw [← hlistener]
      simp only [applyUpload, writeParts, Writing.each, made _, hlistener, hnews, hupload]
      rfl

theorem uploaded_command {s : Session L S R} (heeded : s.Heeded) {command : Command}
    {upload : Upload} {out : Upload.Output}
    (handled : s.upload.handleCommand command (Link.maxBulk s.link) = .ok (upload, out)) :
    Uploaded s none (applyUpload { s with upload := upload } out) := by
  cases Upload.started handled with
  | ignored => exact .ignored none
  | refused running =>
      have hstopped : Uploaded s none (s.stopped false) := .stopped none running
      rwa [← applyUpload_failed s (heeded (by rw [running]; nofun))] at hstopped
  | @started job chunk size running waiting _ _ sized room count =>
      have hlistener := heeded (by rw [running]; nofun)
      rcases applyUpload_part { s with upload := s.upload.sending job size _ 1 } _ [] [] hlistener
        rfl with h | ⟨link, op, hwritten, h⟩
      · rw [h]
        exact .stopped none running
      · rw [h]
        refine .first running waiting room ?_ count hwritten
        rw [Upload.partSize] at sized
        omega

theorem uploaded_ack {s : Session L S R} (heeded : s.Heeded) (ack : Bytes) :
    Uploaded s (some ack) (s.acknowledged ack) := by
  have hacknowledged := s.upload.acknowledged ack
  rw [acknowledged]
  generalize s.upload.handleAck ack = answer at hacknowledged ⊢
  cases hacknowledged with
  | ignored => exact .ignored _
  | rejected running =>
      have hstopped : Uploaded s (some ack) (s.stopped false) := .stopped _ running
      rwa [← applyUpload_failed s (heeded (by rw [running]; nofun))] at hstopped
  | completed running out accepts =>
      have hlistener := heeded (by rw [running]; nofun)
      have hcompleted := Uploaded.completed running out accepts
      simp only [applyUpload, hlistener]
      exact hcompleted
  | @advanced job size total sent running out accepts more =>
      have hlistener := heeded (by rw [running]; nofun)
      rcases applyUpload_part { s with upload := s.upload.sending job size total (sent + 1) } _
        [.progress (Upload.percent sent total)] [s.device.progress (Upload.percent sent total)]
        hlistener rfl with h | ⟨link, op, hwritten, h⟩
      · rw [h]
        exact .stopped _ running
      · rw [h]
        exact .next running out accepts more hwritten

/-! ## Giving up -/

/-- The upload is over and its failure told of. -/
structure GivenUp (s : Session L S R) : Prop where
  upload : s.upload = {}
  install : s.device.install = .idle
  busy : s.busy = none
  told : .told (.installStatus s.device.messages.writeFailed false) ∈ s.effects

theorem givenUp_stopped (s : Session L S R) : (s.stopped false).GivenUp :=
  ⟨rfl, rfl, rfl, List.mem_cons_of_mem _ List.mem_cons_self⟩

theorem givenUp_applyUpload {s : Session L S R} {out : Upload.Output} {transaction : Transaction}
    {e : LinkError} (hlistener : s.upload.listener = some .deviceService)
    (hwritten : (writeParts s.handshake.cipher? out.parts s.link transaction).2.2 = .error e) :
    (s.applyUpload out).GivenUp := by
  obtain ⟨parts, link, writes, -, -, ⟨-, hall⟩ | ⟨e', hstopped⟩⟩ :=
    writeParts_cases s.handshake.cipher? out.parts s.link
  · rw [hall] at hwritten
    cases hwritten
  · simp only [applyUpload, hstopped, hlistener]
    exact givenUp_stopped { s with link := link }

/-- Whether a command can be sent does not depend on the upload. -/
theorem send_awaiting (s : Session L S R) (request : UploadRequest) (task : String)
    (command : Command) : ((s.awaiting request).send task command).2 = (s.send task command).2 := by
  simp only [send, sendIn, awaiting]
  generalize Link.writeCommand s.link command s.handshake.cipher? { name := task } = written
  obtain ⟨link, transaction, result⟩ := written
  cases result <;> rfl

theorem givenUp_startUpload {s : Session L S R} {request : UploadRequest} {e : LinkError}
    (hidle : s.upload.job = none)
    (houtcome : (s.send "upload request" (uploadRequest request.kind request.bytes)).2 =
      .error e) :
    (s.startUpload request).GivenUp := by
  have hstarted := uploadStarted s request
  generalize s.startUpload request = t at hstarted ⊢
  cases hstarted with
  | busy running =>
      rw [hidle] at running
      cases running
  | unsent => exact givenUp_stopped _
  | sent _ outcome =>
      rw [send_awaiting, houtcome] at outcome
      cases outcome

/-! ## What the radio was asked -/

/-- The radio was asked to take a transaction, whatever it said. -/
def AskedFor (s : Session L S R) (transaction : Transaction) : Prop :=
  .submitted transaction ∈ s.effects ∨ .refused transaction ∈ s.effects

omit [CipherSuite] [Link L] in
theorem askedFor_submit (s : Session L S R) (transaction : Transaction) :
    (s.submit transaction).1.AskedFor transaction := by
  cases h : (Radio.submit s.radio transaction).2 with
  | ok => exact .inl (by simp [submit, h])
  | error e => exact .inr (by simp [submit, h])

/-- The radio was asked for a part, as one session writes it. -/
def AskedPart (part : Bytes) (s t : Session L S R) : Prop :=
  ∃ link op progress, (Link.writeBulk s.link part s.handshake.cipher?).Puts link op ∧
    t.AskedFor ⟨"upload part", op :: progress⟩

theorem askedPart_wrote (s : Session L S R) (upload : Upload) {part : Bytes} {link : L}
    {op : RadioOp} (progress : List RadioOp)
    (written : (Link.writeBulk s.link part s.handshake.cipher?).Puts link op) :
    AskedPart part s (s.wrote upload link op progress) :=
  ⟨link, op, progress, written, askedFor_submit _ _⟩

/-- The radio took a command, as one session writes it. -/
def Took (task : String) (command : Command) (s t : Session L S R) : Prop :=
  ∃ link op, (Link.writeCommand s.link command s.handshake.cipher?).Puts link op ∧
    .submitted ⟨task, [op]⟩ ∈ t.effects

/-- A command was sent if the radio took it. -/
theorem took_of_send {s : Session L S R} {task : String} {command : Command}
    (h : (s.send task command).2 = .ok ()) : Took task command s (s.send task command).1 := by
  cases Link.writeCommand_allOrNothing s.link command s.handshake.cipher? with
  | fails e failed =>
      rw [send_of_fails failed] at h
      cases h
  | puts link endpoint data made =>
      rw [send_of_puts made] at h ⊢
      have htaken : (Radio.submit s.radio ⟨task, [.write endpoint data]⟩).2 = .ok () := h
      exact ⟨link, _, made, by simp [submit, htaken]⟩

end

section

variable {L S R : Type} [CipherSuite] [Link L] [Service S] [Radio R]

theorem AskedFor.moves {s t : Session L S R} {transaction : Transaction}
    (h : s.AskedFor transaction) (moves : Moves s t) : t.AskedFor transaction :=
  h.imp (moves.effects.mem ·) (moves.effects.mem ·)

theorem AskedPart.moves {part : Bytes} (u s t : Session L S R) (h : AskedPart part u s)
    (moves : Moves s t) : AskedPart part u t := by
  obtain ⟨link, op, progress, hwritten, hasked⟩ := h
  exact ⟨link, op, progress, hwritten, hasked.moves moves⟩

theorem Took.moves {task : String} {command : Command} (u s t : Session L S R)
    (h : Took task command u s) (moves : Moves s t) : Took task command u t := by
  obtain ⟨link, op, hwritten, htook⟩ := h
  exact ⟨link, op, hwritten, moves.effects.mem htook⟩

/-! ## What an act does to the upload -/

/-- What an act can do to the upload. -/
inductive UploadMoved (s t : Session L S R) : Prop
  | same (upload : t.upload = s.upload)
  | ended (upload : t.upload = {})
  | requested (kind : UInt8) (file : Bytes)
      (upload : t.upload = ⟨some ⟨kind, Upload.blob kind file, .awaitingAck⟩, some .deviceService⟩)
      (took : OnTheWay (Took "upload request" (uploadRequest kind file)) s t)
  | wrote {job : UploadJob} {size : Nat} {total index : UInt16} (running : s.upload.job = some job)
      (upload : t.upload = s.upload.sending job size total index)
      (asked : OnTheWay (AskedPart (Upload.part job.blob size total index)) s t)

theorem UploadMoved.of_moves {s u t : Session L S R} (h : UploadMoved u t) (moves : Moves s u)
    (hupload : u.upload = s.upload) : UploadMoved s t := by
  cases h with
  | same upload => exact .same (upload.trans hupload)
  | ended upload => exact .ended upload
  | requested kind file upload took =>
      obtain ⟨v, hmoves, htook⟩ := took
      exact .requested kind file upload ⟨v, moves.trans hmoves, htook⟩
  | wrote running upload asked =>
      obtain ⟨v, hmoves, hasked⟩ := asked
      rw [hupload] at running upload
      exact .wrote running upload ⟨v, moves.trans hmoves, hasked⟩

theorem uploadMoved_startUpload (s : Session L S R) (request : UploadRequest) :
    UploadMoved s (s.startUpload request) := by
  obtain ⟨kind, file, ⟨⟩⟩ := request
  have hstarted := uploadStarted s ⟨kind, file, .deviceService⟩
  generalize s.startUpload ⟨kind, file, .deviceService⟩ = t at hstarted ⊢
  cases hstarted with
  | busy => exact .same rfl
  | unsent => exact .ended rfl
  | sent _ outcome =>
      exact .requested kind file (upload_send _ _ _)
        ⟨s.awaiting ⟨kind, file, .deviceService⟩, .single (.react (.upload s _)),
          took_of_send outcome⟩

theorem Uploaded.moved {s t : Session L S R} {ack : Option Bytes} (uploaded : Uploaded s ack t) :
    UploadMoved s t := by
  cases uploaded with
  | ignored => exact .same rfl
  | stopped => exact .ended rfl
  | first running _ _ _ _ written =>
      exact .wrote running rfl ⟨s, .refl, askedPart_wrote s _ [] written⟩
  | next running _ _ _ written =>
      exact .wrote running rfl ⟨s, .refl, askedPart_wrote s _ _ written⟩
  | completed => exact .ended rfl

/-- The list is complete. -/
theorem uploadMoved {s t : Session L S R} (act : Act s t) (heeded : s.Heeded) :
    UploadMoved s t := by
  cases act with
  | acknowledge ack => exact (uploaded_ack heeded ack).moved
  | inbox => exact .same rfl
  | receive => exact .same rfl
  | resync => exact .same rfl
  | deed deed =>
      cases deed with
      | tell => exact .same rfl
      | device => exact .same rfl
      | registry => exact .same rfl
      | send task command => exact .same (upload_send s task command)
      | startUpload request => exact uploadMoved_startUpload s request
      | @agree image =>
          exact (uploadMoved_startUpload _ _).of_moves (reactions_updating s image).moves rfl
      | decline => exact .same rfl
      | command handled => exact (uploaded_command heeded handled).moved
      | @answer _ reply handshake =>
          exact .same (upload_send { s with handshake := handshake } "auth step" reply)
      | accept => exact .same rfl
      | refuse => exact .ended rfl

theorem Heeded.act (s t : Session L S R) (act : Act s t) (heeded : s.Heeded) : t.Heeded := by
  rw [Heeded]
  cases uploadMoved act heeded with
  | same upload =>
      rw [upload]
      exact heeded
  | ended upload =>
      rw [upload]
      exact fun hjob => absurd rfl hjob
  | requested _ _ upload =>
      rw [upload]
      exact fun _ => rfl
  | wrote running upload =>
      rw [upload]
      exact fun _ => heeded (by rw [running]; nofun)

omit [CipherSuite] [Radio R] in
/-- Connecting takes a running upload over only from a session that was not connected. -/
theorem upload_ready (s : Session L S R) : s.ready.upload = s.upload ∨ s.ready.upload = {} := by
  rcases s.ready_cases with ⟨-, hready⟩ | hready
  · exact .inl (by rw [hready]; rfl)
  · exact .inr (by rw [hready]; rfl)

omit [CipherSuite] in
theorem upload_connect (s : Session L S R) (discovery : Discovery) (nonce : Octets 16) :
    (s.connect discovery nonce).1.upload = s.upload ∨
      (s.connect discovery nonce).1.upload = {} := by
  have hconnected := s.connected discovery nonce
  generalize (s.connect discovery nonce).1 = t at hconnected ⊢
  cases hconnected with
  | unbound => exact s.upload_ready
  | unwritten => exact .inr rfl
  | refused => exact .inr rfl
  | greeted => exact s.upload_ready

/-- A call is acts as far as the upload is concerned, or the upload is as before or over. -/
theorem acts_or_upload (s : Session L S R) (call : HostCall S R) :
    Acts s (s.perform call).1 ∨ (s.perform call).1.upload = s.upload ∨
      (s.perform call).1.upload = {} := by
  have hhappened := s.happened call
  generalize (s.perform call).1 = t at hhappened ⊢
  generalize s.moments call = moments at hhappened
  cases hhappened with
  | connect discovery nonce => exact .inr (s.upload_connect discovery nonce)
  | disconnect => exact .inr (.inr rfl)
  | mtuChanged => exact .inr (.inl rfl)
  | radio => exact .inr (.inl rfl)
  | sendIn => exact .inr (.inl rfl)
  | register => exact .inr (.inl rfl)
  | install => exact .inr (.inl (upload_send _ _ _))
  | inbox => exact .inr (.inl rfl)
  | deeds deeds => exact .inl deeds.acts
  | processPending host => exact .inl (acts_processAtMost host _ s)
  | receive host endpoint data => exact .inl (acts_onReceive s host endpoint data)

theorem Heeded.perform {s : Session L S R} (heeded : s.Heeded) (call : HostCall S R) :
    (s.perform call).1.Heeded := by
  rcases s.acts_or_upload call with h | h | h
  · exact Acts.keep Heeded.act h heeded
  · rw [Heeded, h]
    exact heeded
  · rw [Heeded, h]
    exact fun hjob => absurd rfl hjob

theorem Reachable.heeded {s : Session L S R} (h : s.Reachable) : s.Heeded := by
  induction h with
  | ofConfig hs =>
      obtain ⟨secret, rfl⟩ := eq_of_ofConfig hs
      exact fun hjob => absurd rfl hjob
  | @perform s _ call ih =>
      have hclear : s.clearEffects.Heeded := ih
      exact hclear.perform call

/-- A job that no new session has was come to by an act. What every act that comes to it does was
done in the call since which it lasts. -/
theorem since_job {start : Session L S R} {link : L} {radio : R} {config : LinkConfig}
    {capabilities : Capabilities} (hstart : ofConfig link radio config capabilities = .ok start)
    {job : UploadJob} {D : Session L S R → Session L S R → Prop}
    (step : ∀ s t, Act s t → s.Heeded → t.upload.job = some job →
      s.upload.job = some job ∨ OnTheWay D s t)
    (record : ∀ u s t, D u s → Moves s t → D u t)
    (calls : List (HostCall S R)) (h : (start.run calls).upload.job = some job) :
    start.Since (fun found _ t => t.upload.job = some job ∧ OnTheWay D found t)
      (fun _ t => t.upload.job = some job) calls := by
  refine since_of_run (P := fun t => t.upload.job = some job) (.ofConfig hstart) ?_ ?_ calls h
  · obtain ⟨secret, rfl⟩ := eq_of_ofConfig hstart
    nofun
  · intro s hs call hafter
    have hheeded : s.clearEffects.Heeded := hs.heeded
    -- Only acts can come to a job that was not there: every other call keeps the upload or ends it.
    rcases s.clearEffects.acts_or_upload call with hacts | hsame | hover
    · rcases hacts.cause (P := fun t => t.upload.job = some job) Heeded.act step record hheeded
        hafter with hfound | hdone
      · exact .inr ⟨hfound, hafter⟩
      · exact .inl ⟨hafter, hdone⟩
    · rw [hsame] at hafter
      exact .inr ⟨hafter, by rw [hsame]; exact hafter⟩
    · rw [hover] at hafter
      cases hafter

/-! ## Waiting for the acknowledgement of a part -/

/-- A job that waits for the acknowledgement of a part has done so since a call in which the radio
was asked for that part, and it is listened for. Where the part cannot be written, or the request of
the upload is not sent, the upload is given up instead. -/
theorem sending_since {link : L} {radio : R} {config : LinkConfig} {capabilities : Capabilities}
    {start : Session L S R} (hstart : ofConfig link radio config capabilities = .ok start) :
    (∀ calls job size total index, (start.run calls).upload.job = some job →
      job.phase = .sending size total index →
      (start.run calls).upload.listener = some .deviceService ∧
      start.Since
        (fun found _ t => t.upload.job = some job ∧
          OnTheWay (AskedPart (Upload.part job.blob size total index)) found t)
        (fun _ t => t.upload.job = some job) calls) ∧
    (∀ (s : Session L S R) out transaction e, s.upload.listener = some .deviceService →
      (writeParts s.handshake.cipher? out.parts s.link transaction).2.2 = .error e →
      (s.applyUpload out).GivenUp) ∧
    ∀ (s : Session L S R) request e, s.upload.job = none →
      (s.send "upload request" (uploadRequest request.kind request.bytes)).2 = .error e →
      (s.startUpload request).GivenUp := by
  refine ⟨?_, fun s out transaction e => givenUp_applyUpload,
    fun s request e => givenUp_startUpload⟩
  intro calls job size total index hjob hphase
  have hreachable : start.Reachable := .ofConfig hstart
  refine ⟨(hreachable.run calls).heeded (by rw [hjob]; nofun), ?_⟩
  refine since_job hstart ?_ AskedPart.moves calls hjob
  intro s t act heeded hafter
  cases uploadMoved act heeded with
  | same upload =>
      rw [upload] at hafter
      exact .inl hafter
  | ended upload =>
      rw [upload] at hafter
      cases hafter
  | requested _ _ upload =>
      rw [upload] at hafter
      cases hafter
      cases hphase
  | wrote _ upload asked =>
      rw [upload] at hafter
      cases hafter
      cases hphase
      exact .inr asked

end

/-! ## A session in clear text -/

/-- What is discovered of a watch of the clear-text layout. -/
def clearTextWatch : Discovery :=
  ⟨[⟨.ofShort 0xFDAB, [.ofShort 0x0001, .ofShort 0x0002, .ofShort 0x0003, .ofShort 0x0004]⟩]⟩

/-- A session that will find a watch of the clear-text layout. -/
def clearTextStart : Session GattLink DeviceService RadioQueue where
  link := {}
  radio := {}
  handshake :=
    { secret := .zero 16, userId := bareConfig.userId, phoneInfo := bareConfig.phoneInfo }
  device := .ofConfig {} bareConfig

theorem ofConfig_clearTextStart : ofConfig {} {} bareConfig {} = .ok clearTextStart := rfl

def commandFromWatch (kind subtype : UInt8) (body : Body) : HostCall DeviceService RadioQueue :=
  .receive bareHost (.resource (.ofShort 0x0001)) (Command.toBytes ⟨kind, subtype, body⟩)

def smallImage : FirmwareImage :=
  ⟨.firmware, "1.0", [0, 0, 0] ++ FileKind.firmwareMark⟩

/-- The calls up to the request of an installation. -/
def meeting : List (HostCall DeviceService RadioQueue) :=
  [.connect clearTextWatch (.zero 16),
    commandFromWatch Command.authKind Handshake.userIdSubtype (.status 0)]

/-- The watch agrees to the installation. -/
def agreement : HostCall DeviceService RadioQueue :=
  commandFromWatch Command.systemKind DeviceService.installSubtype (.system (.installResponse 0))

/-- The watch asks for the first part. -/
def go : HostCall DeviceService RadioQueue :=
  commandFromWatch Command.uploadKind Upload.startSubtype (.upload (.ack 0 0))

/-- The radio goes down when the watch has agreed to the installation. -/
def refusedPart : List (HostCall DeviceService RadioQueue) :=
  meeting ++ [.installFirmware smallImage, agreement, .radio { offline := true }, go]

theorem phase_refusedPart :
    (clearTextStart.run refusedPart).upload.job.map UploadJob.phase = some (.sending 16 3 1) := by
  decide +kernel

/-- The first part of three is waited for, though the radio has taken none. -/
theorem sending_refusedPart :
    (clearTextStart.run refusedPart).upload.job.map UploadJob.phase = some (.sending 16 3 1) ∧
    ∀ before ∈ refusedPart.inits, ∀ transaction ∈ (clearTextStart.run before).transactions,
      transaction.name ≠ "upload part" :=
  ⟨phase_refusedPart, by decide +kernel⟩

theorem sending_since_refusedPart :
    ∃ job, job.phase = .sending 16 3 1 ∧
      clearTextStart.Since
        (fun found _ t => t.upload.job = some job ∧
          OnTheWay (AskedPart (Upload.part job.blob 16 3 1)) found t)
        (fun _ t => t.upload.job = some job) refusedPart := by
  obtain ⟨job, hjob, hphase⟩ := Option.map_eq_some_iff.1 phase_refusedPart
  exact ⟨job, hphase,
    ((sending_since ofConfig_clearTextStart).1 refusedPart job 16 3 1 hjob hphase).2⟩

end WatchLink.Session
