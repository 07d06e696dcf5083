import WatchLink.Proofs.Link.BulkReading
import WatchLink.Proofs.Session.Delivering
import WatchLink.Proofs.Session.Waiting

/-!
# A reported installation was delivered

Without services of the host's own, only the device service asks for uploads, and it does so for the
image whose installation the watch has agreed to. `Installing` ties where the installation and its
upload stand to the record: whatever was written since the host asked for the installation is the
parts that the upload counts as sent. Every deed keeps it, and so does every acknowledgement, which
alone can complete the upload; when it does, the whole image has been delivered.
-/

namespace WatchLink.Session

open Relation BulkReading Moment

section

variable {L S R : Type} [CipherSuite] [Link L] [BulkReading L]

/-- What the other end reads of an operation. -/
def reading (s : Session L S R) : RadioOp → Option Bytes :=
  part? (layout s.link) s.handshake.keys?

/-- A moment in which no part is written, no installation asked for and none reported done. -/
def Unremarkable (s : Session L S R) : Moment → Prop
  | .installing _ => False
  | .heard _ => True
  | .did (.told event) => ∀ text, event ≠ .installStatus text true
  | .did (.submitted transaction) =>
    Hears (layout s.link) → transaction.ops.filterMap s.reading = []
  | .did (.refused _) => True

/-- So many parts of an upload are out, each written when the one before was acknowledged. -/
structure Halfway (s : Session L S R) (blob : Bytes) (size : Nat) (total : UInt16) (sent : Nat)
    (since : List Moment) : Prop where
  room : size ≠ 0
  readable : ∀ n ≤ size + Upload.partHeader, Readable (L := L) n
  count : total.toNat = Upload.partCount blob.length size
  within : sent ≤ total.toNat
  parts : Hears (layout s.link) → allParts s.reading since = Upload.firstParts blob size total sent
  orderly : Hears (layout s.link) → Orderly s.reading since

def installUpload (image : FirmwareImage) (phase : UploadPhase) : Upload :=
  ⟨some ⟨Upload.firmwareKind, Upload.blob Upload.firmwareKind image.bytes, phase⟩,
    some .deviceService⟩

/-- Where the installation and its upload stand, and what was written since it was asked for. -/
inductive Stands (moments : List Moment) (s : Session L S R) : Prop
  | idle (install : s.device.install = .idle) (upload : s.upload = {})
  | requested {image : FirmwareImage} {since : List Moment}
      (install : s.device.install = .requested image) (upload : s.upload = {})
      (opened : s.state = .initialized) (begun : Begun moments image since)
      (unsent : Hears (layout s.link) → allParts s.reading since = [])
  | agreed {image : FirmwareImage} {since : List Moment}
      (install : s.device.install = .uploading image)
      (upload : s.upload = installUpload image .awaitingAck) (opened : s.state = .initialized)
      (begun : Begun moments image since)
      (unsent : Hears (layout s.link) → allParts s.reading since = [])
  | sending {image : FirmwareImage} {since : List Moment} {size : Nat} {total sent : UInt16}
      (install : s.device.install = .uploading image)
      (upload : s.upload = installUpload image (.sending size total sent))
      (opened : s.state = .initialized) (begun : Begun moments image since)
      (halfway :
        s.Halfway (Upload.blob Upload.firmwareKind image.bytes) size total sent.toNat since)

/-- Only built-in services are there, parts can be read, and who is initialized is authenticated. -/
structure Settled (s : Session L S R) : Prop where
  builtIn : s.registry.services = []
  fits : Fits (layout s.link)
  authenticated : s.state = .initialized → s.handshake.state = .authenticated

structure Installing (moments : List Moment) (s : Session L S R) : Prop extends Settled s where
  stands : Stands moments s

/-- The connection is the same, and so is who is asked about it. -/
structure Alike (s t : Session L S R) : Prop where
  layout : layout t.link = layout s.link
  handshake : t.handshake = s.handshake
  registry : s.registry.Alike t.registry
  state : t.state = s.state

/-- Every installation reported done in these moments was delivered since it was asked for. -/
def Lawful (s : Session L S R) (moments more : List Moment) : Prop :=
  ∀ before text after, more = before ++ .did (.told (.installStatus text true)) :: after →
    s.handshake.state = .authenticated ∧ ∃ image since, Begun (moments ++ before) image since ∧
      Delivered s.reading (Upload.blob Upload.firmwareKind image.bytes) since

variable {s t : Session L S R} {moments more : List Moment}

theorem parts_of_unremarkable {s : Session L S R} {moment : Moment} (h : s.Unremarkable moment)
    (hears : Hears (layout s.link)) : parts s.reading moment = [] := by
  unfold Unremarkable at h
  split at h
  · exact h.elim
  · rfl
  · rfl
  · exact h hears
  · rfl

theorem untold_of_unremarkable (h : ∀ moment ∈ more, s.Unremarkable moment) : Untold more :=
  fun text hmem => h _ hmem text rfl

/-! ## What goes on -/

theorem Alike.refl (s : Session L S R) : Alike s s := ⟨rfl, rfl, .refl _, rfl⟩

theorem Alike.reading (h : Alike s t) : t.reading = s.reading := by
  rw [Session.reading, Session.reading, h.layout, h.handshake]

theorem Alike.quiet (alike : Alike s t) (hmore : ∀ moment ∈ more, s.Unremarkable moment)
    (hears : Hears (BulkReading.layout t.link)) : ∀ moment ∈ more, parts t.reading moment = [] := by
  rw [alike.layout] at hears
  rw [alike.reading]
  exact fun moment hmem => parts_of_unremarkable (hmore moment hmem) hears

theorem Alike.allParts_append (alike : Alike s t) (hmore : ∀ moment ∈ more, s.Unremarkable moment)
    {since : List Moment} {written : List Bytes}
    (hwritten : Hears (BulkReading.layout s.link) → allParts s.reading since = written)
    (hears : Hears (BulkReading.layout t.link)) : allParts t.reading (since ++ more) = written := by
  rw [Moment.allParts_append, allParts_eq_nil (alike.quiet hmore hears), List.append_nil,
    alike.reading]
  exact hwritten (alike.layout ▸ hears)

theorem Halfway.extend {blob : Bytes} {size sent : Nat} {total : UInt16} {since : List Moment}
    (h : s.Halfway blob size total sent since) (alike : Alike s t)
    (hmore : ∀ moment ∈ more, s.Unremarkable moment) :
    t.Halfway blob size total sent (since ++ more) :=
  { h with
    parts := alike.allParts_append hmore h.parts
    orderly := by
      intro hears
      refine Orderly.quiet ?_ (alike.quiet hmore hears)
      rw [alike.reading]
      exact h.orderly (alike.layout ▸ hears) }

/-- The last part is acknowledged. -/
theorem Halfway.delivered {blob ack : Bytes} {size : Nat} {total : UInt16} {since : List Moment}
    (h : s.Halfway blob size total total.toNat since) (accepts : Upload.Accepts ack total)
    (hears : Hears (layout s.link)) (hmore : ∀ moment ∈ more, s.Unremarkable moment) :
    Delivered s.reading blob (since ++ .heard (.uploadAck ack) :: more) := by
  have hquiet (moment : Moment) (hmem : moment ∈ more) : moment.parts s.reading = [] :=
    parts_of_unremarkable (hmore moment hmem) hears
  have hlater : ∀ moment ∈ .heard (.uploadAck ack) :: more, moment.parts s.reading = [] :=
    List.forall_mem_cons.2 ⟨rfl, hquiet⟩
  have hcount : (allParts s.reading since).length = total.toNat := by
    rw [h.parts hears, Upload.length_firstParts]
  obtain ⟨slices, hslices, -, -, -, hwhole⟩ :=
    Upload.partsOf_firstParts h.room h.count (Nat.le_refl _)
  have hlength : slices.length = total.toNat := by
    have hsame := congrArg List.length hslices
    rwa [Upload.length_firstParts, List.length_mapIdx, eq_comm] at hsame
  exact
    { parts := by
        refine ⟨total, slices, ?_, hlength, hwhole hlength⟩
        rw [allParts_append, allParts_eq_nil hlater, List.append_nil, h.parts hears]
        exact hslices
      orderly := (h.orderly hears).quiet hlater
      acked := acked_of_accepts accepts hcount hquiet }

theorem Settled.alike (h : s.Settled) (alike : Alike s t) : t.Settled where
  builtIn := alike.registry.services_eq_nil_iff.2 h.builtIn
  fits := by
    rw [alike.layout]
    exact h.fits
  authenticated := by
    rw [alike.state, alike.handshake]
    exact h.authenticated

theorem Stands.extend (h : Stands moments s) (alike : Alike s t) (upload : t.upload = s.upload)
    (install : t.device.install = s.device.install)
    (hmore : ∀ moment ∈ more, s.Unremarkable moment) : Stands (moments ++ more) t := by
  have hfresh (other : FirmwareImage) : .installing other ∉ more := fun hmem => hmore _ hmem
  cases h with
  | idle idle nothing => exact .idle (install.trans idle) (upload.trans nothing)
  | requested requested nothing opened begun unsent =>
      exact .requested (install.trans requested) (upload.trans nothing) (alike.state.trans opened)
        (begun.append hfresh) (alike.allParts_append hmore unsent)
  | agreed agreed awaiting opened begun unsent =>
      exact .agreed (install.trans agreed) (upload.trans awaiting) (alike.state.trans opened)
        (begun.append hfresh) (alike.allParts_append hmore unsent)
  | sending agreed sending opened begun halfway =>
      exact .sending (install.trans agreed) (upload.trans sending) (alike.state.trans opened)
        (begun.append hfresh) (halfway.extend alike hmore)

theorem Installing.extend (h : Installing moments s) (alike : Alike s t)
    (upload : t.upload = s.upload) (install : t.device.install = s.device.install)
    (hmore : ∀ moment ∈ more, s.Unremarkable moment) : Installing (moments ++ more) t :=
  ⟨h.toSettled.alike alike, h.stands.extend alike upload install hmore⟩

theorem Installing.alike (h : Installing moments s) (alike : Alike s t)
    (upload : t.upload = s.upload) (install : t.device.install = s.device.install) :
    Installing moments t := by
  have hsame : Installing (moments ++ []) t := h.extend alike upload install (by simp)
  rwa [List.append_nil] at hsame

theorem Installing.clearEffects (h : Installing moments s) : Installing moments s.clearEffects :=
  h.alike ⟨rfl, rfl, .refl _, rfl⟩ rfl rfl

/-! ## Where an installation stands -/

theorem Settled.idle (h : s.Settled) (install : s.device.install = .idle) (upload : s.upload = {}) :
    Installing moments s := ⟨h, .idle install upload⟩

theorem installing_ofConfig {link : L} {radio : R} {config : LinkConfig}
    {capabilities : Capabilities} (hstart : ofConfig link radio config capabilities = .ok s)
    (hfits : Fits (layout link)) : Installing [] s := by
  obtain ⟨secret, rfl⟩ := eq_of_ofConfig hstart
  exact Settled.idle ⟨rfl, hfits, nofun⟩ rfl rfl

theorem Stands.of_requested (h : Stands moments s) {image : FirmwareImage}
    (requested : s.device.install = .requested image) :
    s.upload = {} ∧ s.state = .initialized ∧ ∃ since, Begun moments image since ∧
      (Hears (layout s.link) → allParts s.reading since = []) := by
  cases h with
  | idle install => cases install.symm.trans requested
  | requested install upload opened begun unsent =>
      cases install.symm.trans requested
      exact ⟨upload, opened, _, begun, unsent⟩
  | agreed install => cases install.symm.trans requested
  | sending install => cases install.symm.trans requested

theorem Stands.of_awaiting (h : Stands moments s) {job : UploadJob}
    (running : s.upload.job = some job) (waiting : job.phase = .awaitingAck) :
    ∃ image since, s.device.install = .uploading image ∧
      s.upload = installUpload image .awaitingAck ∧ s.state = .initialized ∧
      Begun moments image since ∧ (Hears (layout s.link) → allParts s.reading since = []) := by
  cases h with
  | idle _ upload | requested _ upload =>
      rw [upload] at running
      cases running
  | agreed install upload opened begun unsent =>
      exact ⟨_, _, install, upload, opened, begun, unsent⟩
  | sending _ upload =>
      rw [upload] at running
      cases running
      cases waiting

theorem Stands.of_sending (h : Stands moments s) {job : UploadJob} {size : Nat}
    {total sent : UInt16} (running : s.upload.job = some job)
    (out : job.phase = .sending size total sent) :
    ∃ image since, s.device.install = .uploading image ∧
      s.upload = installUpload image (.sending size total sent) ∧ s.state = .initialized ∧
      Begun moments image since ∧
      s.Halfway (Upload.blob Upload.firmwareKind image.bytes) size total sent.toNat since := by
  cases h with
  | idle _ upload | requested _ upload =>
      rw [upload] at running
      cases running
  | agreed _ upload =>
      rw [upload] at running
      cases running
      cases out
  | sending install upload opened begun halfway =>
      rw [upload] at running
      cases running
      cases out
      exact ⟨_, _, install, upload, opened, begun, halfway⟩

theorem Installing.heeded (h : Installing moments s) : s.Heeded := by
  intro hjob
  cases h.stands with
  | idle _ upload | requested _ upload =>
      rw [upload] at hjob
      exact absurd rfl hjob
  | agreed _ upload | sending _ upload => rw [upload, installUpload]

/-- Nothing is installed over a connection that is not initialized. -/
theorem Stands.of_closed (h : Stands moments s) (closed : s.state ≠ .initialized) :
    s.device.install = .idle ∧ s.upload = {} := by
  cases h with
  | idle install upload => exact ⟨install, upload⟩
  | requested _ _ opened => exact absurd opened closed
  | agreed _ _ opened => exact absurd opened closed
  | sending _ _ opened => exact absurd opened closed

theorem Settled.not_initialized (h : s.Settled) (awaits : s.handshake.state.awaits = true) :
    s.state ≠ .initialized := by
  intro hopened
  rw [h.authenticated hopened] at awaits
  cases awaits

/-! ## What is reported -/

theorem lawful_of_untold (h : Untold more) : s.Lawful moments more := by
  rintro before text after rfl
  exact absurd (List.mem_append_right _ List.mem_cons_self) (h text)

theorem lawful_singleton {moment : Moment} {image : FirmwareImage} {since : List Moment}
    (authenticated : s.handshake.state = .authenticated) (begun : Begun moments image since)
    (delivered : Delivered s.reading (Upload.blob Upload.firmwareKind image.bytes) since) :
    s.Lawful moments [moment] := by
  intro before text after hsplit
  obtain rfl : before = [] := by
    have hlength := congrArg List.length hsplit
    rw [List.length_singleton, List.length_append, List.length_cons] at hlength
    exact List.length_eq_zero_iff.1 (by omega)
  rw [List.append_nil]
  exact ⟨authenticated, image, since, begun, delivered⟩

theorem Lawful.append {last : List Moment} (h : s.Lawful moments more)
    (hlast : s.Lawful (moments ++ more) last) : s.Lawful moments (more ++ last) := by
  intro before text after hsplit
  rcases List.append_eq_append_iff.1 hsplit with ⟨between, rfl, hlater⟩ | ⟨between, rfl, hend⟩
  · rw [← List.append_assoc]
    exact hlast between text after hlater
  · cases between with
    | nil =>
        rw [List.append_nil] at hlast
        have hfirst := hlast [] text after hend.symm
        rwa [List.append_nil] at hfirst
    | cons first between =>
        cases hend
        exact h before text between rfl

/-! ## What is done -/

variable [Radio R]

/-- Nothing is written in a transaction without writes. -/
theorem unremarkable_submit (s : Session L S R) {transaction : Transaction}
    (h : ∀ op ∈ transaction.ops, ∀ endpoint data, op ≠ .write endpoint data) :
    ∀ moment ∈ news s (s.submit transaction).1, s.Unremarkable moment := by
  intro moment hmem
  rcases news_submit s transaction with hnews | hnews
  · obtain rfl := List.mem_singleton.1 (hnews ▸ hmem)
    intro _
    exact List.filterMap_eq_nil_iff.2 fun op hop => part?_of_ne_write (h op hop)
  · obtain rfl := List.mem_singleton.1 (hnews ▸ hmem)
    trivial

theorem layout_send (s : Session L S R) (task : String) (command : Command) :
    layout (s.send task command).1.link = layout s.link := by
  rcases send_cases s task command with h | ⟨link, op, written, h⟩
  · rw [h]
  · rw [h]
    exact layout_writeCommand written

theorem alike_send (s : Session L S R) (task : String) (command : Command) :
    Alike s (s.send task command).1 where
  layout := layout_send s task command
  handshake := handshake_send s task command
  registry := by
    rw [registry_send]
    exact .refl _
  state := state_send s task command

theorem unremarkable_send (s : Session L S R) (task : String) (command : Command) :
    ∀ moment ∈ news s (s.send task command).1, s.Unremarkable moment := by
  intro moment hmem
  rcases send_cases s task command with h | ⟨link, op, written, h⟩
  · rw [h, news_of_effects rfl] at hmem
    cases hmem
  · rw [h] at hmem
    rcases news_submit { s with link := link } ⟨task, [op]⟩ with hnews | hnews
    · obtain rfl := List.mem_singleton.1 (hnews ▸ hmem)
      intro hears
      exact List.filterMap_cons_none (part?_writeCommand _ hears written)
    · obtain rfl := List.mem_singleton.1 (hnews ▸ hmem)
      trivial

omit [BulkReading L] in
theorem news_stopped (s : Session L S R) (success : Bool) :
    news s (s.stopped success) =
      [.did (.told (.installStatus
          (if success then s.device.messages.updateComplete else s.device.messages.writeFailed)
          success)),
        .did (.told (.busy none))] := by
  have htold : (s.stopped success).effects = [.told (.busy none), .told (.installStatus
      (if success then s.device.messages.updateComplete else s.device.messages.writeFailed)
      success)] ++ s.effects := rfl
  rw [news_of_eq htold]
  rfl

omit [BulkReading L] in
theorem untold_stopped (s : Session L S R) : Untold (news s (s.stopped false)) := by
  intro text hmem
  rw [news_stopped] at hmem
  simp at hmem

/-- The watch has agreed to take the image: its upload is requested, or all is over. -/
theorem installing_agreed (h : Installing moments s) {image : FirmwareImage}
    (requested : s.device.install = .requested image) :
    Installing (moments ++ news s (s.agreed image)) (s.agreed image) ∧
      Untold (news s (s.agreed image)) := by
  obtain ⟨hupload, hopened, since, hbegun, hunsent⟩ := h.stands.of_requested requested
  have hstarted : UploadStarted (s.updating image) _ (s.agreed image) := uploadStarted _ _
  generalize s.agreed image = t at hstarted ⊢
  -- Between the agreement and the request nothing is done but telling the host what goes on.
  let asking := (s.updating image).awaiting ⟨Upload.firmwareKind, image.bytes, .deviceService⟩
  let request := uploadRequest Upload.firmwareKind image.bytes
  have hbusy : asking.effects =
      [.told (.busy (some s.device.messages.updatingFirmware))] ++ s.effects := rfl
  have heffects : s.effects <:+ asking.effects := List.suffix_cons _ _
  have hasked := effects_send asking "upload request" request
  have hsent : Alike asking (asking.send "upload request" request).1 := alike_send _ _ _
  have halike : Alike s (asking.send "upload request" request).1 :=
    ⟨hsent.layout, hsent.handshake, hsent.registry, hsent.state⟩
  have hmore : ∀ moment ∈ news s (asking.send "upload request" request).1,
      s.Unremarkable moment := by
    intro moment hmem
    rw [news_trans heffects hasked, news_of_eq hbusy] at hmem
    rcases List.mem_append.1 hmem with htold | hsent
    · obtain rfl := List.mem_singleton.1 htold
      intro text
      nofun
    · exact unremarkable_send asking _ _ moment hsent
  cases hstarted with
  | busy running =>
      have hidle : s.upload.job = none := by rw [hupload]
      cases hidle.symm.trans running
  | unsent =>
      have hsettled := h.toSettled.alike halike
      refine ⟨Settled.idle ⟨hsettled.builtIn, hsettled.fits, hsettled.authenticated⟩ rfl rfl, ?_⟩
      have hstopped := effects_stopped (asking.send "upload request" request).1 false
      change Untold (news s ((asking.send "upload request" request).1.stopped false))
      rw [news_trans (heffects.trans hasked) hstopped]
      exact (untold_of_unremarkable hmore).append (untold_stopped _)
  | sent =>
      refine ⟨⟨h.toSettled.alike halike, .agreed ?_ ?_ ?_ (hbegun.append ?_) ?_⟩,
        untold_of_unremarkable hmore⟩
      · exact congrArg _ (device_send asking _ _)
      · exact upload_send asking _ _
      · exact halike.state.trans hopened
      · exact fun other hmem => hmore _ hmem
      · exact halike.allParts_append hmore hunsent

/-! ## What an answer does -/

omit [CipherSuite] [Link L] [BulkReading L] in
theorem news_wrote {upload : Upload} {link : L} {op : RadioOp} {progress : List RadioOp}
    (untroubled : Untroubled (news s (s.wrote upload link op progress))) :
    news s (s.wrote upload link op progress) =
      [.did (.submitted ⟨"upload part", op :: progress⟩)] := by
  rcases news_submit { s with upload := upload, link := link } ⟨"upload part", op :: progress⟩ with
    htaken | hrefused
  · exact htaken
  · have hrefusal := untroubled (.did (.refused ⟨"upload part", op :: progress⟩))
      (hrefused ▸ List.mem_singleton_self _)
    cases hrefusal

/-- The part goes out behind those before. -/
theorem installing_wrote (h : s.Settled) {image : FirmwareImage} {since : List Moment} {size : Nat}
    {total index : UInt16} {sent : Nat} {link : L} {op : RadioOp} {progress : List RadioOp}
    (install : s.device.install = .uploading image) (opened : s.state = .initialized)
    (begun : Begun moments image since)
    (halfway : s.Halfway (Upload.blob Upload.firmwareKind image.bytes) size total sent since)
    (hindex : index.toNat = sent + 1) (more : sent < total.toNat)
    (acked : Hears (layout s.link) → allParts s.reading since = [] ∨ Acked s.reading since)
    (written : (Link.writeBulk s.link
      (Upload.part (Upload.blob Upload.firmwareKind image.bytes) size total index)
      s.handshake.cipher?).Puts link op)
    (progressOnly : ∀ op ∈ progress, ∃ message percent, op = .progress message percent)
    (wrote : t = s.wrote (installUpload image (.sending size total index)) link op progress)
    (untroubled : Untroubled (news s t)) :
    Installing (moments ++ news s t) t ∧ Untold (news s t) := by
  subst wrote
  have halike :
      Alike s (s.wrote (installUpload image (.sending size total index)) link op progress) :=
    ⟨layout_writeBulk written, rfl, .refl _, rfl⟩
  rw [news_wrote untroubled]
  have hread : s.reading op =
      some (Upload.part (Upload.blob Upload.firmwareKind image.bytes) size total index) :=
    part?_writeBulk (halfway.readable _ (Upload.length_part_le _ _ _ _)) written
  have hprogress : progress.filterMap s.reading = [] := by
    refine List.filterMap_eq_nil_iff.2 fun next hmem => ?_
    obtain ⟨message, percent, rfl⟩ := progressOnly next hmem
    exact part?_of_ne_write nofun
  have hparts : parts s.reading (.did (.submitted ⟨"upload part", op :: progress⟩)) =
      [Upload.part (Upload.blob Upload.firmwareKind image.bytes) size total index] := by
    rw [parts, List.filterMap_cons_some hread, hprogress]
  have huntold : Untold [.did (.submitted ⟨"upload part", op :: progress⟩)] := by
    intro text hmem
    simp at hmem
  refine ⟨⟨h.alike halike, .sending install rfl opened (begun.append ?_) ?_⟩, huntold⟩
  · intro other hmem
    simp at hmem
  · refine { halfway with within := ?_, parts := ?_, orderly := ?_ }
    · rw [hindex]
      exact more
    · intro hears
      rw [halike.layout] at hears
      rw [halike.reading, allParts_append, halfway.parts hears, hindex, Upload.firstParts_succ,
        ← hindex, UInt16.ofNat_toNat]
      exact congrArg _ ((List.flatMap_singleton ..).trans hparts)
    · intro hears
      rw [halike.layout] at hears
      rw [halike.reading]
      exact (halfway.orderly hears).snoc (.inr ⟨⟨_, hparts⟩, acked hears⟩)

/-- Only the answer that starts the upload has anything written. -/
theorem installing_command (h : Installing moments s) {command : Command} {upload : Upload}
    {out : Upload.Output}
    (handled : s.upload.handleCommand command (Link.maxBulk s.link) = .ok (upload, out))
    (untroubled : Untroubled (news s (applyUpload { s with upload := upload } out))) :
    Installing (moments ++ news s (applyUpload { s with upload := upload } out))
      (applyUpload { s with upload := upload } out) ∧
    Untold (news s (applyUpload { s with upload := upload } out)) := by
  have huploaded := uploaded_command h.heeded handled
  generalize applyUpload { s with upload := upload } out = t at huploaded untroubled ⊢
  cases huploaded with
  | ignored =>
      rw [news_of_effects rfl, List.append_nil]
      exact ⟨h, fun _ => List.not_mem_nil⟩
  | stopped => exact ⟨Settled.idle ⟨h.builtIn, h.fits, h.authenticated⟩ rfl rfl, untold_stopped s⟩
  | @first job size link op running waiting room sized count written =>
      obtain ⟨image, since, hinstall, hupload, hopened, hbegun, hunsent⟩ :=
        h.stands.of_awaiting running waiting
      rw [hupload] at running
      cases running
      have hcount := Upload.toNat_ofNat_partCount count
      have hnone : s.Halfway (Upload.blob Upload.firmwareKind image.bytes) size
          (.ofNat (Upload.partCount (Upload.blob Upload.firmwareKind image.bytes).length size)) 0
          since :=
        { room := room
          readable := fun n hle => readable_of_le h.fits (Nat.le_trans hle sized)
          count := hcount
          within := Nat.zero_le _
          parts := hunsent
          orderly := fun hears => orderly_of_allParts (hunsent hears) }
      have hmore := hcount ▸ Upload.partCount_pos (List.cons_ne_nil _ _) room
      rw [hupload] at untroubled ⊢
      exact installing_wrote h.toSettled hinstall hopened hbegun hnone rfl hmore
        (fun hears => .inl (hunsent hears)) written (by simp) rfl untroubled

/-- All progress is shown, and the installation is told done: the last acknowledgement has made the
upload that the host asked for a delivered one. -/
theorem lawful_completed {image : FirmwareImage} {since : List Moment} {size : Nat}
    {total : UInt16} {ack : Bytes} {transaction : Transaction}
    (authenticated : s.handshake.state = .authenticated) (begun : Begun moments image since)
    (halfway : s.Halfway (Upload.blob Upload.firmwareKind image.bytes) size total total.toNat since)
    (accepts : Upload.Accepts ack total) (hears : Hears (layout s.link))
    (writeless : ∀ op ∈ transaction.ops, ∀ endpoint data, op ≠ .write endpoint data) :
    ((s.submit transaction).1.stopped true).Lawful (moments ++ [.heard (.uploadAck ack)])
      (news s ((s.submit transaction).1.stopped true)) := by
  have hshown := unremarkable_submit s writeless
  have hbegun : Begun (moments ++ .heard (.uploadAck ack) :: news s (s.submit transaction).1) image
      (since ++ .heard (.uploadAck ack) :: news s (s.submit transaction).1) := by
    refine begun.append fun other hmem => ?_
    rcases List.mem_cons.1 hmem with hheard | hlater
    · cases hheard
    · exact hshown _ hlater
  have hreport (text : String) :
      s.Lawful (moments ++ [.heard (.uploadAck ack)] ++ news s (s.submit transaction).1)
        [.did (.told (.installStatus text true))] := by
    rw [List.append_assoc]
    exact lawful_singleton authenticated hbegun (halfway.delivered accepts hears hshown)
  rw [news_trans (List.suffix_cons _ _) (effects_stopped _ true), news_stopped]
  change s.Lawful _ _
  refine Lawful.append (lawful_of_untold (untold_of_unremarkable hshown)) ?_
  refine (hreport _).append (lawful_of_untold fun text hmem => ?_)
  simp at hmem

theorem installing_acknowledged (h : Installing moments s) (ack : Bytes)
    (hears : s.device.install ≠ .idle → Hears (layout s.link))
    (untroubled : Untroubled (news s (s.acknowledged ack))) :
    Installing (moments ++ [.heard (.uploadAck ack)] ++ news s (s.acknowledged ack))
      (s.acknowledged ack) ∧
    (s.acknowledged ack).Lawful (moments ++ [.heard (.uploadAck ack)])
      (news s (s.acknowledged ack)) := by
  have hheard : ∀ moment ∈ [Moment.heard (.uploadAck ack)], s.Unremarkable moment :=
    List.forall_mem_singleton.2 trivial
  have hfresh (other : FirmwareImage) : .installing other ∉ [Moment.heard (.uploadAck ack)] :=
    fun hmem => hheard _ hmem
  have huploaded := uploaded_ack h.heeded ack
  generalize s.acknowledged ack = t at huploaded untroubled ⊢
  cases huploaded with
  | ignored =>
      rw [news_of_effects rfl, List.append_nil]
      exact ⟨h.extend (.refl s) rfl rfl hheard, lawful_of_untold fun _ => List.not_mem_nil⟩
  | stopped =>
      exact ⟨Settled.idle ⟨h.builtIn, h.fits, h.authenticated⟩ rfl rfl,
        lawful_of_untold (untold_stopped s)⟩
  | @next job size total sent _ link op running out accepts more written =>
      obtain ⟨image, since, hinstall, hupload, hopened, hbegun, hhalfway⟩ :=
        h.stands.of_sending running out
      rw [hupload] at running
      cases running
      have hmore : sent.toNat < total.toNat :=
        Nat.lt_of_le_of_ne hhalfway.within (mt UInt16.toNat_inj.1 more)
      have hacked (hears : Hears (layout s.link)) :
          Acked s.reading (since ++ [.heard (.uploadAck ack)]) := by
        refine acked_of_accepts accepts ?_ nofun
        rw [hhalfway.parts hears, Upload.length_firstParts]
      rw [hupload] at untroubled ⊢
      have hwrote := installing_wrote h.toSettled hinstall hopened (hbegun.append hfresh)
        (hhalfway.extend (.refl s) hheard) (Upload.toNat_add_one hmore) hmore
        (fun hears => .inr (hacked hears)) written
        (List.forall_mem_singleton.2 ⟨_, _, rfl⟩) rfl untroubled
      exact ⟨hwrote.1, lawful_of_untold hwrote.2⟩
  | @completed job size total _ running out accepts =>
      obtain ⟨image, since, hinstall, hupload, hopened, hbegun, hhalfway⟩ :=
        h.stands.of_sending running out
      rw [hupload] at running
      cases running
      refine ⟨Settled.idle ⟨h.builtIn, h.fits, h.authenticated⟩ rfl rfl, ?_⟩
      exact lawful_completed (h.authenticated hopened) hbegun hhalfway accepts
        (hears (by rw [hinstall]; nofun))
        (List.forall_mem_singleton.2 fun _ _ => by nofun)

/-! ## What a deed does -/

/-- No deed reports an installation done. -/
theorem installing_deed [Service S] (h : Installing moments s) (deed : Deed s t)
    (untroubled : Untroubled (news s t)) :
    Installing (moments ++ news s t) t ∧ Untold (news s t) := by
  have hextend (alike : Alike s t) (upload : t.upload = s.upload)
      (install : t.device.install = s.device.install)
      (hmore : ∀ moment ∈ news s t, s.Unremarkable moment) :
      Installing (moments ++ news s t) t ∧ Untold (news s t) :=
    ⟨h.extend alike upload install hmore, untold_of_unremarkable hmore⟩
  have hnone (heffects : t.effects = s.effects) : ∀ moment ∈ news s t, s.Unremarkable moment := by
    rw [news_of_effects heffects]
    exact fun _ => nofun
  cases deed with
  | tell event own =>
      refine hextend ⟨rfl, rfl, .refl _, rfl⟩ rfl rfl ?_
      have htold : (s.tell event).effects = [.told event] ++ s.effects := rfl
      rw [news_of_eq htold]
      refine List.forall_mem_singleton.2 fun text htext => ?_
      exact (own (by rw [htext]; rfl)).1 h.builtIn
  | device device install => exact hextend ⟨rfl, rfl, .refl _, rfl⟩ rfl install (hnone rfl)
  | registry registry alike => exact hextend ⟨rfl, rfl, alike, rfl⟩ rfl rfl (hnone rfl)
  | send task command =>
      exact hextend (alike_send s task command) (upload_send s task command)
        (congrArg _ (device_send s task command)) (unremarkable_send s task command)
  | startUpload request own => exact absurd h.builtIn own.1
  | agree requested => exact installing_agreed h requested
  | decline requested =>
      obtain ⟨hupload, -⟩ := h.stands.of_requested requested
      exact ⟨Settled.idle ⟨h.builtIn, h.fits, h.authenticated⟩ rfl hupload,
        untold_of_unremarkable (hnone rfl)⟩
  | command handled => exact installing_command h handled untroubled
  -- While the handshake goes on nothing is initialized, so no installation can be under way.
  | @answer command reply handshake handled =>
      have hclosed := h.toSettled.not_initialized (Handshake.awaits_of_send handled).1
      obtain ⟨hinstall, hupload⟩ := h.stands.of_closed hclosed
      have hsettled : Settled { s with handshake := handshake } :=
        ⟨h.builtIn, h.fits, fun hopened => absurd hopened hclosed⟩
      refine ⟨(hsettled.alike (alike_send _ "auth step" reply)).idle ?_ ?_,
        untold_of_unremarkable (unremarkable_send { s with handshake := handshake } _ _)⟩
      · rw [device_send]
        exact hinstall
      · rw [upload_send]
        exact hupload
  | @accept command handshake handled =>
      have hclosed := h.toSettled.not_initialized (Handshake.awaits_of_authenticated handled)
      obtain ⟨hinstall, hupload⟩ := h.stands.of_closed hclosed
      have hsettled : (s.opened handshake).Settled :=
        { builtIn := h.builtIn
          fits := (layout_resetCounters s.link).symm ▸ h.fits
          authenticated := fun _ => Handshake.state_of_authenticated handled }
      refine ⟨hsettled.idle hinstall hupload, ?_⟩
      refine untold_news [.told (.connectionState .initialized), _] rfl fun text => ?_
      split <;> simp
  | @refuse command handshake handled =>
      have hsettled : (s.refused handshake).Settled :=
        ⟨s.registry.alike_onDisconnect.services_eq_nil_iff.2 h.builtIn,
          fits_teardown _ h.fits, nofun⟩
      refine ⟨hsettled.idle rfl rfl, ?_⟩
      exact untold_news [.told (.connectionState .notConnected), .told .authenticationFailed] rfl
        (by simp)

end

end WatchLink.Session
