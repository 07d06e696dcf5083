import Mathlib.Logic.Relation
import WatchLink.Proofs.Handshake.Authenticity
import WatchLink.Proofs.Service.Routing
import WatchLink.Session.Operations

/-!
# The moves of a session

Whatever a session does about a payload that came in, and about what the host asks of it on a
connection, it does by a few reactions: tell the host, change a part that neither link nor handshake
looks at, send a command, write parts of an upload, and the three things that a reply can do to the
handshake. Taking input in adds three moves more, to the inbox and to what the link has half-read.
A property that each of them keeps is kept along every path of them; that is how the invariants of a
run are proved. Connecting and disconnecting are no moves: they start and end what the moves go on
with.
-/

namespace WatchLink.Session

open Relation

/-- News add nothing but progress to what the radio is asked. -/
theorem progress_of_news (device : DeviceService) (news : News) (notices : List UploadNotice)
    (h : ∀ op ∈ news.ops, ∃ message percent, op = .progress message percent) :
    ∀ op ∈ (notices.foldl (News.read device) news).ops,
      ∃ message percent, op = .progress message percent := by
  induction notices generalizing news with
  | nil => exact h
  | cons notice notices ih =>
      refine ih _ ?_
      unfold News.read
      split
      · intro op hmem
        rcases List.mem_append.1 hmem with hold | hnew
        · exact h op hold
        · obtain rfl := List.mem_singleton.1 hnew
          exact ⟨_, _, rfl⟩
      · exact h
      · exact h
      · exact h

/-! ## Sending -/

section

variable {L S R : Type} [CipherSuite] [Link L] [Radio R]

/-- A command that can be written moves the link on, and the radio is asked to take it. -/
theorem send_of_puts {s : Session L S R} {command : Command} {link : L} {op : RadioOp}
    (written : (Link.writeCommand s.link command s.handshake.cipher?).Puts link op)
    (task : String) : s.send task command = submit { s with link := link } ⟨task, [op]⟩ := by
  rw [send, sendIn, written]
  rfl

/-- A command that cannot be written changes nothing. -/
theorem send_of_fails {s : Session L S R} {command : Command} {e : LinkError}
    (failed : (Link.writeCommand s.link command s.handshake.cipher?).Fails s.link e)
    (task : String) : s.send task command = (s, .error e) := by
  rw [send, sendIn, failed]

/-- Sending changes nothing, or it moves the link on and asks the radio. -/
theorem send_cases (s : Session L S R) (task : String) (command : Command) :
    (s.send task command).1 = s ∨
    ∃ link op, (Link.writeCommand s.link command s.handshake.cipher?).Puts link op ∧
      (s.send task command).1 = (submit { s with link := link } ⟨task, [op]⟩).1 := by
  cases Link.writeCommand_allOrNothing s.link command s.handshake.cipher? with
  | puts link endpoint data made => exact .inr ⟨link, _, made, by rw [send_of_puts made]⟩
  | fails e failed => exact .inl (by rw [send_of_fails failed])

/-- Upload parts that were written one after the other, with what wrote them. -/
abbrev PartsPut (cipher : Option PacketCipher) : L → List Bytes → L → List RadioOp → Prop :=
  Writing.PutsEach fun link part => Link.writeBulk link part cipher

omit [CipherSuite] in
/-- Of upload parts, those up to the first that cannot be written are. -/
theorem writeParts_cases (cipher : Option PacketCipher) (parts : List Bytes) (link : L) :
    ∃ written last ops, PartsPut cipher link written last ops ∧ written <+: parts ∧
      ((written = parts ∧ ∀ transaction, writeParts cipher parts link transaction =
          (last, transaction.add ops, .ok ())) ∨
        ∃ e, ∀ transaction, writeParts cipher parts link transaction =
          (last, transaction.add ops, .error e)) :=
  Writing.each_cases (fun link part => Link.writeBulk_allOrNothing link part cipher) parts link

/-- All that sending changes is the link, the radio and what was done. -/
theorem send_eq (s : Session L S R) (task : String) (command : Command) :
    ∃ link radio effects, (s.send task command).1 =
      { s with link := link, radio := radio, effects := effects } := by
  rcases send_cases s task command with h | ⟨link, op, -, h⟩
  · exact ⟨s.link, s.radio, s.effects, h⟩
  · exact ⟨link, _, _, h⟩

theorem handshake_send (s : Session L S R) (task : String) (command : Command) :
    (s.send task command).1.handshake = s.handshake := by
  obtain ⟨_, _, _, h⟩ := send_eq s task command
  rw [h]

theorem registry_send (s : Session L S R) (task : String) (command : Command) :
    (s.send task command).1.registry = s.registry := by
  obtain ⟨_, _, _, h⟩ := send_eq s task command
  rw [h]

theorem device_send (s : Session L S R) (task : String) (command : Command) :
    (s.send task command).1.device = s.device := by
  obtain ⟨_, _, _, h⟩ := send_eq s task command
  rw [h]

theorem upload_send (s : Session L S R) (task : String) (command : Command) :
    (s.send task command).1.upload = s.upload := by
  obtain ⟨_, _, _, h⟩ := send_eq s task command
  rw [h]

theorem state_send (s : Session L S R) (task : String) (command : Command) :
    (s.send task command).1.state = s.state := by
  obtain ⟨_, _, _, h⟩ := send_eq s task command
  rw [h]

theorem busy_send (s : Session L S R) (task : String) (command : Command) :
    (s.send task command).1.busy = s.busy := by
  obtain ⟨_, _, _, h⟩ := send_eq s task command
  rw [h]

end

/-! ## Reactions and moves -/

variable {L S R : Type} [CipherSuite] [Link L] [Service S] [Radio R]

/-- The session once the watch has accepted the phone, before any service has been asked. -/
def opened (s : Session L S R) (handshake : Handshake) : Session L S R :=
  (submit { s with handshake := handshake, link := Link.resetCounters s.link }
    ⟨"initialized", [.setState .initialized]⟩).1.setState .initialized

def refused (s : Session L S R) (handshake : Handshake) : Session L S R :=
  ((tell { s with handshake := handshake } .authenticationFailed).resetConnection).setState
    .notConnected

/-- One thing that a session does about a payload or a request. -/
inductive Reaction : Session L S R → Session L S R → Prop
  | tell (s : Session L S R) (event : Event) : Reaction s (s.tell event)
  | device (s : Session L S R) (device : DeviceService) : Reaction s { s with device := device }
  | registry (s : Session L S R) (registry : Registry S) (alike : s.registry.Alike registry) :
      Reaction s { s with registry := registry }
  | upload (s : Session L S R) (upload : Upload) : Reaction s { s with upload := upload }
  | send (s : Session L S R) (task : String) (command : Command) :
      Reaction s (s.send task command).1
  | parts (s : Session L S R) {parts : List Bytes} {link : L} {writes : List RadioOp}
      (written : PartsPut s.handshake.cipher? s.link parts link writes) :
      Reaction s { s with link := link }
  | submitParts (s : Session L S R) {parts : List Bytes} {link : L} {writes : List RadioOp}
      (progress : List RadioOp)
      (written : PartsPut s.handshake.cipher? s.link parts link writes)
      (progressOnly : ∀ op ∈ progress, ∃ message percent, op = .progress message percent) :
      Reaction s (submit { s with link := link } ⟨"upload part", writes ++ progress⟩).1
  | answer (s : Session L S R) {command reply : Command} {handshake : Handshake}
      (handled : s.handshake.handle command = (handshake, .ok (some (.send reply)))) :
      Reaction s (send { s with handshake := handshake } "auth step" reply).1
  | accept (s : Session L S R) {command : Command} {handshake : Handshake}
      (handled : s.handshake.handle command = (handshake, .ok (some .authenticated))) :
      Reaction s (s.opened handshake)
  | refuse (s : Session L S R) {command : Command} {handshake : Handshake}
      (handled : s.handshake.handle command = (handshake, .error .authenticationFailed)) :
      Reaction s (s.refused handshake)

/-- One thing that a session does on a connection: react, or take input in. -/
inductive Move : Session L S R → Session L S R → Prop
  | react {s t : Session L S R} (reaction : Reaction s t) : Move s t
  | inbox (s : Session L S R) (inbox : Inbox) : Move s { s with inbox := inbox }
  | receive (s : Session L S R) (endpoint : Endpoint) (data : Bytes) :
      Move s { s with link := (Link.receive s.link endpoint data s.handshake.cipher?).1 }
  | resync (s : Session L S R) : Move s { s with link := Link.resync s.link }

abbrev Reactions : Session L S R → Session L S R → Prop := ReflTransGen Reaction

abbrev Moves : Session L S R → Session L S R → Prop := ReflTransGen Move

theorem Reactions.moves {s t : Session L S R} (h : Reactions s t) : Moves s t :=
  ReflTransGen.mono (fun _ _ => Move.react) _ _ h

theorem Reactions.keep {P : Session L S R → Prop} (keep : ∀ s t, Reaction s t → P s → P t)
    {s t : Session L S R} (h : Reactions s t) (hs : P s) : P t := by
  induction h with
  | refl => exact hs
  | tail _ reaction ih => exact keep _ _ reaction ih

theorem Moves.keep {P : Session L S R → Prop} (keep : ∀ s t, Move s t → P s → P t)
    {s t : Session L S R} (h : Moves s t) (hs : P s) : P t := by
  induction h with
  | refl => exact hs
  | tail _ move ih => exact keep _ _ move ih

/-! ## The link -/

/-- Nothing that a link is used for on a connection changes this about it. -/
structure KeptInUse (P : L → Prop) : Prop where
  writeCommand {link next : L} {command : Command} {cipher : Option PacketCipher} {op : RadioOp}
    (written : (Link.writeCommand link command cipher).Puts next op) (h : P link) : P next
  writeBulk {link next : L} {part : Bytes} {cipher : Option PacketCipher} {op : RadioOp}
    (written : (Link.writeBulk link part cipher).Puts next op) (h : P link) : P next
  receive {link : L} (endpoint : Endpoint) (data : Bytes) (cipher : Option PacketCipher)
    (h : P link) : P (Link.receive link endpoint data cipher).1
  resync {link : L} (h : P link) : P (Link.resync link)
  resetCounters {link : L} (h : P link) : P (Link.resetCounters link)

omit [Service S] in
theorem KeptInUse.send {P : L → Prop} (kept : KeptInUse P) (s : Session L S R) (task : String)
    (command : Command) (h : P s.link) : P (s.send task command).1.link := by
  rcases send_cases s task command with hsame | ⟨link, op, written, hsent⟩
  · rw [hsame]
    exact h
  · rw [hsent]
    exact kept.writeCommand written h

/-- It stays until the connection is torn down. -/
theorem KeptInUse.move {P : L → Prop} (kept : KeptInUse P) {s t : Session L S R} (move : Move s t)
    (h : P s.link) : P t.link ∨ t.link = Link.teardown s.link := by
  have hparts {parts : List Bytes} {link : L} {writes : List RadioOp}
      (written : PartsPut s.handshake.cipher? s.link parts link writes) : P link :=
    written.keep (fun _ _ _ _ made h => kept.writeBulk made h) h
  cases move with
  | inbox => exact .inl h
  | receive => exact .inl (kept.receive _ _ _ h)
  | resync => exact .inl (kept.resync h)
  | react reaction =>
      cases reaction with
      | tell => exact .inl h
      | device => exact .inl h
      | registry => exact .inl h
      | upload => exact .inl h
      | send task command => exact .inl (kept.send s task command h)
      | parts written => exact .inl (hparts written)
      | submitParts progress written => exact .inl (hparts written)
      | @answer _ reply handshake =>
          exact .inl (kept.send { s with handshake := handshake } _ _ h)
      | accept => exact .inl (kept.resetCounters h)
      | refuse => exact .inr rfl

/-! ## Uploads -/

theorem reactions_finishUpload (s : Session L S R) (listener : UploadListener) (success : Bool) :
    Reactions s (s.finishUpload listener success) := by
  cases listener with
  | deviceService =>
      refine .head (.device s (s.device.finishInstall success).1) ?_
      exact .head (.tell _ (.installStatus _ success)) (.single (.tell _ (.busy none)))

theorem reactions_startUpload (s : Session L S R) (request : UploadRequest) :
    Reactions s (s.startUpload request) := by
  rw [startUpload]
  split
  · exact reactions_finishUpload s _ _
  · rename_i upload command _
    have hsend := Reaction.send
      { s with upload := { upload with listener := some request.listener } } "upload request"
      command
    simp only
    generalize send { s with upload := { upload with listener := some request.listener } }
      "upload request" command = sent at hsend ⊢
    obtain ⟨t, result⟩ := sent
    cases result with
    | ok => exact .head (.upload s _) (.single hsend)
    | error e =>
        exact .head (.upload s _)
          (.head hsend (.head (.upload t {}) (reactions_finishUpload _ _ _)))

theorem reactions_applyUpload (s : Session L S R) (out : Upload.Output) :
    Reactions s (s.applyUpload out) := by
  obtain ⟨parts, link, writes, hwritten, -, ⟨-, hall⟩ | ⟨e, hstopped⟩⟩ :=
    writeParts_cases s.handshake.cipher? out.parts s.link
  · have hprogress := progress_of_news s.device { listener := s.upload.listener } out.notices
      (by simp)
    simp only [applyUpload, hall]
    generalize out.notices.foldl (News.read s.device) { listener := s.upload.listener } = news
      at hprogress ⊢
    have hadded : (Transaction.add { name := "upload part" } writes).add news.ops =
        ⟨"upload part", writes ++ news.ops⟩ := by
      simp [Transaction.add]
    rw [hadded]
    have hreacted : Reactions s
        (if writes ++ news.ops = [] then
          { s with link := link, upload := { s.upload with listener := news.listener } }
        else (submit
          { s with link := link, upload := { s.upload with listener := news.listener } }
          ⟨"upload part", writes ++ news.ops⟩).1) := by
      split
      · exact .head (.parts s hwritten) (.single (.upload _ _))
      · exact .head (.upload s _) (.single
          (.submitParts { s with upload := { s.upload with listener := news.listener } } news.ops
            hwritten hprogress))
    cases news.finished with
    | none => exact hreacted
    | some finished => exact hreacted.trans (reactions_finishUpload _ _ _)
  · simp only [applyUpload, hstopped]
    refine .head (.parts s hwritten) (.head (.upload _ {}) ?_)
    cases s.upload.listener with
    | none => exact .refl
    | some listener => exact reactions_finishUpload _ _ _

/-! ## Services -/

/-- Services are added by the host alone. -/
theorem alike_move (s t : Session L S R) (move : Move s t) : s.registry.Alike t.registry := by
  cases move with
  | inbox => exact .refl _
  | receive => exact .refl _
  | resync => exact .refl _
  | react reaction =>
      cases reaction with
      | tell => exact .refl _
      | device => exact .refl _
      | registry registry alike => exact alike
      | upload => exact .refl _
      | send task command =>
          rw [registry_send]
          exact .refl _
      | parts => exact .refl _
      | submitParts => exact .refl _
      | answer =>
          rw [registry_send]
          exact .refl _
      | accept => exact .refl _
      | refuse => exact s.registry.alike_onDisconnect

theorem Moves.alike {s t : Session L S R} (h : Moves s t) : s.registry.Alike t.registry :=
  h.keep (P := fun t => s.registry.Alike t.registry)
    (fun t u move halike => halike.trans (alike_move t u move)) (.refl _)

/-! ## Keys -/

theorem coherent_react (s t : Session L S R) (reaction : Reaction s t)
    (h : s.handshake.Coherent) : t.handshake.Coherent := by
  cases reaction with
  | tell => exact h
  | device => exact h
  | registry => exact h
  | upload => exact h
  | send task command => rwa [handshake_send]
  | parts => exact h
  | submitParts => exact h
  | @answer command _ _ handled =>
      have hnext := h.handle command
      rw [handled] at hnext
      rwa [handshake_send]
  | @accept command _ handled =>
      have hnext := h.handle command
      rw [handled] at hnext
      exact hnext
  | refuse => exact Handshake.coherent_reset _

theorem coherent_move (s t : Session L S R) (move : Move s t) (h : s.handshake.Coherent) :
    t.handshake.Coherent := by
  cases move with
  | react reaction => exact coherent_react s t reaction h
  | inbox => exact h
  | receive => exact h
  | resync => exact h

/-- A connection keeps its keys as long as it lasts. -/
theorem keys?_react {keys : SessionKeys} (s t : Session L S R) (reaction : Reaction s t)
    (h : s.handshake.Coherent ∧ s.handshake.keys? = some keys) :
    t.handshake.Coherent ∧ t.handshake.keys? = some keys := by
  obtain ⟨hcoherent, hkeys⟩ := h
  refine ⟨coherent_react s t reaction hcoherent, ?_⟩
  cases reaction with
  | tell => exact hkeys
  | device => exact hkeys
  | registry => exact hkeys
  | upload => exact hkeys
  | send task command => rwa [handshake_send]
  | parts => exact hkeys
  | submitParts => exact hkeys
  | answer handled =>
      rw [hcoherent.keys?_of_awaits (Handshake.awaits_of_send handled).1] at hkeys
      cases hkeys
  | accept handled =>
      rw [hcoherent.keys?_of_awaits (Handshake.awaits_of_authenticated handled)] at hkeys
      cases hkeys
  | refuse handled =>
      rw [hcoherent.keys?_of_awaits (Handshake.awaits_of_failed handled)] at hkeys
      cases hkeys

theorem Reactions.keys? {keys : SessionKeys} {s t : Session L S R} (h : Reactions s t)
    (hcoherent : s.handshake.Coherent) (hkeys : s.handshake.keys? = some keys) :
    t.handshake.keys? = some keys :=
  (h.keep keys?_react ⟨hcoherent, hkeys⟩).2

end WatchLink.Session
