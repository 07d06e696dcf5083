import WatchLink.Proofs.Inbox.Accounting
import WatchLink.Proofs.Session.Blindness
import WatchLink.Proofs.Session.Renewing

/-!
# Input that waits and input that does not

A host passes on what its stream carries in pieces, each of them either handed to the session or put
into the inbox and processed later. Until the watch has accepted the phone this can make a
difference; afterwards it makes none, for no payload is handled differently because of what is
half-read or still waits. A session that has been passed some pieces is then always one that has
heard what the first of them carried and holds the others in its inbox, so that in the end, when
nothing waits any more, only what the pieces carried together counts.
-/

namespace WatchLink

namespace Reassembler

theorem pushAll_append (r : Reassembler) (reads more : List Bytes) :
    r.pushAll (reads ++ more) =
      (((r.pushAll reads).1.pushAll more).1,
        (r.pushAll reads).2 ++ ((r.pushAll reads).1.pushAll more).2) := by
  induction reads generalizing r with
  | nil => rfl
  | cons data reads ih =>
      rw [List.cons_append, pushAll_cons, pushAll_cons, ih, List.append_assoc]

end Reassembler

/-- How a host passes on a piece of what its stream carries. -/
inductive Passing where
  | receive (data : Bytes)
  | deliver (data : Bytes)
  /-- What was put into the inbox is processed. -/
  | process
  deriving DecidableEq, Repr

namespace Passing

def data : Passing → Bytes
  | receive data => data
  | deliver data => data
  | process => []

/-- Nothing waits after it. -/
def drains : Passing → Bool
  | deliver _ => false
  | _ => true

/-- Every piece that is put into the inbox is processed in the end. -/
def Drained (steps : List Passing) : Prop :=
  ∀ before data after, steps = before ++ .deliver data :: after →
    ∃ step ∈ after, step.drains = true

/-- It is enough that the last step processes what waits. -/
theorem drained_iff (steps : List Passing) :
    Drained steps ↔ ∀ step ∈ steps.getLast?, step.drains = true := by
  constructor
  · intro h step hlast
    obtain ⟨before, rfl⟩ := List.getLast?_eq_some_iff.1 hlast
    cases step with
    | receive => rfl
    | process => rfl
    | deliver data =>
        obtain ⟨step, hmem, -⟩ := h before data [] rfl
        exact absurd hmem List.not_mem_nil
  · rintro h before data after rfl
    rw [List.getLast?_append, List.getLast?_cons, Option.some_or] at h
    cases hafter : after.getLast? with
    | none =>
        have hlast := h (.deliver data) (by rw [hafter]; rfl)
        exact Bool.noConfusion hlast
    | some step =>
        exact ⟨step, List.mem_of_getLast? hafter, h step (by rw [hafter]; rfl)⟩

end Passing

namespace Session

section

variable {S R : Type} [CipherSuite] [Service S] [Radio R]

def pass (s : Session StreamLink S R) (host : HostView) : Passing → Session StreamLink S R
  | .receive data => s.onReceive host .stream data
  | .deliver data => (s.deliver .stream data).1
  | .process => s.processPending host

def passAll (s : Session StreamLink S R) (host : HostView) (steps : List Passing) :
    Session StreamLink S R :=
  steps.foldl (fun s step => s.pass host step) s

/-- The inbox takes every piece that is put into it. -/
def Accepts (s : Session StreamLink S R) (host : HostView) (steps : List Passing) : Prop :=
  ∀ before data after, steps = before ++ .deliver data :: after →
    ((s.passAll host before).deliver .stream data).2 = true

theorem accepts_cons (s : Session StreamLink S R) (host : HostView) (step : Passing)
    (steps : List Passing) : s.Accepts host (step :: steps) ↔
      (∀ data, step = .deliver data → (s.deliver .stream data).2 = true) ∧
        (s.pass host step).Accepts host steps := by
  constructor
  · intro h
    refine ⟨fun data hstep => h [] data steps (by rw [hstep]; rfl), ?_⟩
    rintro before data after rfl
    exact h (step :: before) data after rfl
  · rintro ⟨hfirst, hrest⟩ before data after hsteps
    cases before with
    | nil =>
        cases hsteps
        exact hfirst data rfl
    | cons first before =>
        cases hsteps
        exact hrest before data after rfl

theorem accepts_of_drains (s : Session StreamLink S R) (host : HostView) {steps : List Passing}
    (h : ∀ step ∈ steps, step.drains = true) : s.Accepts host steps := by
  rintro before data after rfl
  have hdrains := h (.deliver data) (List.mem_append_right _ List.mem_cons_self)
  exact Bool.noConfusion hdrains

/-! ## Frames that are heard -/

/-- The payloads of frames are handled one after the other, those that can be opened. -/
def hearAll (s : Session StreamLink S R) (host : HostView) (frames : List Frame) :
    Session StreamLink S R :=
  (frames.filterMap (StreamLink.read? s.handshake.cipher?)).foldl
    (fun s payload => s.handleInbound host payload) s

variable {s : Session StreamLink S R}

/-- What is done about a payload leaves an authenticated handshake as it is. -/
theorem handshake_react (s t : Session StreamLink S R) (reaction : Reaction s t)
    (h : s.handshake.state = .authenticated) : t.handshake = s.handshake := by
  have hdone : s.handshake.state.awaits = false := by
    rw [h]
    rfl
  cases reaction with
  | tell => rfl
  | device => rfl
  | registry => rfl
  | upload => rfl
  | send task command => exact handshake_send s task command
  | parts => rfl
  | submitParts => rfl
  | answer handled =>
      exact absurd (Handshake.awaits_of_send handled).1 (by rw [hdone]; exact Bool.false_ne_true)
  | accept handled =>
      exact absurd (Handshake.awaits_of_authenticated handled)
        (by rw [hdone]; exact Bool.false_ne_true)
  | refuse handled =>
      exact absurd (Handshake.awaits_of_failed handled) (by rw [hdone]; exact Bool.false_ne_true)

theorem handshake_handleInbound (h : s.handshake.state = .authenticated) (host : HostView)
    (inbound : Inbound) : (s.handleInbound host inbound).handshake = s.handshake :=
  Reactions.keep (P := fun t => t.handshake = s.handshake)
    (fun t u reaction hsame => (handshake_react t u reaction (by rwa [hsame])).trans hsame)
    (reactions_handleInbound s host inbound) rfl

theorem handshake_foldl_handleInbound (h : s.handshake.state = .authenticated) (host : HostView)
    (payloads : List Inbound) :
    (payloads.foldl (fun s payload => s.handleInbound host payload) s).handshake = s.handshake := by
  induction payloads generalizing s with
  | nil => rfl
  | cons payload payloads ih =>
      have hfirst := handshake_handleInbound h host payload
      rw [List.foldl_cons, ih (by rw [hfirst]; exact h), hfirst]

theorem foldl_handleInbound_withInput (h : s.handshake.state = .authenticated) (host : HostView)
    (reassembler : Reassembler) (inbox : Inbox) (payloads : List Inbound) :
    payloads.foldl (fun s payload => s.handleInbound host payload)
        (s.withInput reassembler inbox) =
      (payloads.foldl (fun s payload => s.handleInbound host payload) s).withInput reassembler
        inbox := by
  induction payloads generalizing s with
  | nil => rfl
  | cons payload payloads ih =>
      rw [List.foldl_cons, List.foldl_cons, s.handleInbound_withInput reassembler inbox h host,
        ih (by rw [handshake_handleInbound h host payload]; exact h)]

theorem hearAll_append (h : s.handshake.state = .authenticated) (host : HostView)
    (frames more : List Frame) :
    s.hearAll host (frames ++ more) = (s.hearAll host frames).hearAll host more := by
  have hsame := handshake_foldl_handleInbound h host
    (frames.filterMap (StreamLink.read? s.handshake.cipher?))
  rw [hearAll, hearAll, hearAll, hsame, List.filterMap_append, List.foldl_append]

theorem handshake_hearAll (h : s.handshake.state = .authenticated) (host : HostView)
    (frames : List Frame) : (s.hearAll host frames).handshake = s.handshake :=
  handshake_foldl_handleInbound h host _

/-- A read is its frames heard, whatever else is half-read or waits. -/
theorem receiveNow_withInput (h : s.handshake.state = .authenticated) (host : HostView)
    (reassembler : Reassembler) (inbox : Inbox) (data : Bytes) :
    (s.withInput reassembler inbox).receiveNow host .stream data =
      (s.hearAll host (reassembler.push data).2).withInput (reassembler.push data).1 inbox :=
  foldl_handleInbound_withInput h host (reassembler.push data).1 inbox _

/-! ## Partway through a stream -/

/-- Pieces of a stream as they wait. -/
def waiting (pieces : List Bytes) : Inbox :=
  { chunks := pieces.map fun piece => ⟨.stream, piece, false⟩ }

/-- What the session becomes when it has heard what some pieces carried and others wait. -/
def partway (s : Session StreamLink S R) (host : HostView) (heard pieces : List Bytes) :
    Session StreamLink S R :=
  (s.hearAll host (s.link.reassembler.pushAll heard).2).withInput
    (s.link.reassembler.pushAll heard).1 (waiting pieces)

theorem partway_nil (hinbox : s.inbox = {}) (host : HostView) : s.partway host [] [] = s := by
  change s.withInput s.link.reassembler {} = s
  rw [← hinbox, withInput_self]

/-- Another read, with some pieces still waiting. -/
theorem receiveNow_partway (h : s.handshake.state = .authenticated) (host : HostView)
    (heard pieces : List Bytes) (data : Bytes) :
    (s.partway host heard pieces).receiveNow host .stream data =
      s.partway host (heard ++ [data]) pieces := by
  have hstate : (s.hearAll host (s.link.reassembler.pushAll heard).2).handshake.state =
      .authenticated := by rw [handshake_hearAll h, h]
  rw [partway, receiveNow_withInput hstate, ← hearAll_append h, partway,
    Reassembler.pushAll_append, Reassembler.pushAll_cons, Reassembler.pushAll, List.append_nil]

theorem processAtMost_partway (h : s.handshake.state = .authenticated) (host : HostView)
    (heard pieces : List Bytes) :
    processAtMost host pieces.length (s.partway host heard pieces) =
      s.partway host (heard ++ pieces) [] := by
  induction pieces generalizing heard with
  | nil =>
      rw [List.append_nil]
      rfl
  | cons piece pieces ih =>
      -- the oldest chunk is the piece, unmarked, and the others wait on
      have hfirst : processAtMost host (piece :: pieces).length
          (s.partway host heard (piece :: pieces)) =
            processAtMost host pieces.length
              ((s.partway host heard pieces).receiveNow host .stream piece) := rfl
      rw [hfirst, receiveNow_partway h, ih, List.append_assoc, List.singleton_append]

theorem processPending_partway (h : s.handshake.state = .authenticated) (host : HostView)
    (heard pieces : List Bytes) :
    (s.partway host heard pieces).processPending host = s.partway host (heard ++ pieces) [] := by
  have hlength : (s.partway host heard pieces).inbox.chunks.length = pieces.length :=
    List.length_map ..
  rw [processPending, hlength, processAtMost_partway h]

theorem onReceive_partway (h : s.handshake.state = .authenticated) (host : HostView)
    (heard pieces : List Bytes) (data : Bytes) :
    (s.partway host heard pieces).onReceive host .stream data =
      s.partway host (heard ++ pieces ++ [data]) [] := by
  have hcaught : (s.partway host heard pieces).caughtUp host =
      s.partway host (heard ++ pieces) [] := by
    rw [caughtUp, processPending_partway h]
    rfl
  rw [onReceive_eq_receiveNow, hcaught, receiveNow_partway h]

/-- A piece that the inbox takes waits behind the others, cut into smaller ones. -/
theorem deliver_partway (s : Session StreamLink S R) (host : HostView) (heard waits : List Bytes)
    {data : Bytes} (haccepts : ((s.partway host heard waits).deliver .stream data).2 = true) :
    ∃ more, more.flatten = data ∧
      ((s.partway host heard waits).deliver .stream data).1 =
        s.partway host heard (waits ++ more) := by
  have hread := (waiting waits).delivered .stream data
  have hinbox : (s.partway host heard waits).deliver .stream data =
      ({ s.partway host heard waits with inbox := ((waiting waits).deliver .stream data).1 },
        ((waiting waits).deliver .stream data).2) := rfl
  rw [hinbox] at haccepts ⊢
  generalize (waiting waits).deliver .stream data = answer at hread haccepts ⊢
  cases hread with
  | oversized hsize => exact absurd (.inl rfl) hsize
  | empty hdata =>
      refine ⟨[], hdata.symm, ?_⟩
      rw [List.append_nil]
      rfl
  | noRoom => exact Bool.noConfusion haccepts
  | taken =>
      refine ⟨pieces Inbox.chunkCapacity data, pieces_flatten (by decide) data, ?_⟩
      have hchunks : (waiting waits).chunks ++ Inbox.chunksOf .stream data false =
          (waiting (waits ++ pieces Inbox.chunkCapacity data)).chunks := by
        rw [waiting, waiting, List.map_append, Inbox.chunksOf]
        cases pieces Inbox.chunkCapacity data <;> rfl
      change { s.partway host heard waits with
        inbox := ⟨(waiting waits).chunks ++ Inbox.chunksOf .stream data false, false⟩ } = _
      rw [hchunks]
      rfl

theorem passAll_snoc (s : Session StreamLink S R) (host : HostView) (steps : List Passing)
    (step : Passing) : s.passAll host (steps ++ [step]) = (s.passAll host steps).pass host step :=
  List.foldl_append

/-- After some pieces were passed on the session is partway through what they carried, and nothing
waits if the last of them was not put into the inbox. -/
theorem exists_partway (h : s.handshake.state = .authenticated) (hinbox : s.inbox = {})
    (host : HostView) (steps : List Passing) (haccepts : s.Accepts host steps) :
    ∃ heard waits, s.passAll host steps = s.partway host heard waits ∧
      heard.flatten ++ waits.flatten = steps.flatMap Passing.data ∧
      ((∀ step ∈ steps.getLast?, step.drains = true) → waits = []) := by
  induction steps using List.reverseRecOn with
  | nil => exact ⟨[], [], (partway_nil hinbox host).symm, rfl, fun _ => rfl⟩
  | append_singleton steps step ih =>
      have hbefore : s.Accepts host steps := by
        rintro before data after rfl
        exact haccepts before data (after ++ [step]) (by simp)
      obtain ⟨heard, waits, hpartway, hcarried, -⟩ := ih hbefore
      rw [passAll_snoc, hpartway]
      cases step with
      | receive data =>
          refine ⟨heard ++ waits ++ [data], [], onReceive_partway h host heard waits data, ?_,
            fun _ => rfl⟩
          simp [← hcarried, Passing.data]
      | process =>
          refine ⟨heard ++ waits, [], processPending_partway h host heard waits, ?_, fun _ => rfl⟩
          simp [← hcarried, Passing.data]
      | deliver data =>
          have htaken := haccepts steps data [] rfl
          rw [hpartway] at htaken
          obtain ⟨more, hmore, hdeliver⟩ := deliver_partway s host heard waits htaken
          refine ⟨heard, waits ++ more, hdeliver, ?_, fun hlast => ?_⟩
          · simp [← hcarried, Passing.data, hmore]
          · simp [Passing.drains] at hlast

theorem Reachable.staged {s : Session StreamLink S R} (h : s.Reachable) : s.Staged := by
  induction h with
  | ofConfig hs => exact staged_ofConfig hs rfl
  | @perform t _ call ih =>
      have hclear : t.clearEffects.Staged := ih
      exact hclear.perform call

/-- A connection that a watch with the secret has accepted is authenticated and at rest. -/
theorem run_pairing (host : HostView) (phoneNonce watchNonce : Octets 16)
    (hs : s.Reachable) (hrest : s.AtRest)
    (htaken : (Radio.submit s.radio (greeting phoneNonce)).2 = .ok ())
    (hinfo : (PhoneInfo.packing.write s.handshake.phoneInfo).length < Cipher.Ccm.lengthLimit) :
    (s.run (pairing host s.handshake.secret phoneNonce watchNonce)).state = .initialized ∧
      (s.run (pairing host s.handshake.secret phoneNonce watchNonce)).AtRest := by
  constructor
  · have hstaged := (hs.run (pairing host s.handshake.secret phoneNonce watchNonce)).staged
    have hkeys := keys?_run_pairing host phoneNonce watchNonce hrest hs.routed htaken hinfo
    rw [Staged, hkeys] at hstaged
    exact hstaged.of_keyed.1
  · obtain ⟨hanswered, -⟩ := run_approach host phoneNonce watchNonce hrest hs.routed htaken hinfo
    simp only [pairing, run_append, run_cons, run_nil, perform]
    exact hanswered.clearEffects.onReceive host (by decide)

/-- Input that waits comes to the same as input that does not. On an authenticated connection with
nothing half-read and nothing waiting, frames may be cut anywhere and each piece handed to the
session or put into the inbox: once everything has been processed, the session is as if they had
come in one read, with all that it has told and submitted. -/
theorem passAll_eq_onReceive (hs : s.Reachable) (hstate : s.state = .initialized)
    (hrest : s.AtRest) (host : HostView) {frames : List Frame}
    (hsize : ∀ frame ∈ frames, frame.payload.length ≤ Frame.maxPayload) {steps : List Passing}
    (hcut : steps.flatMap Passing.data = frames.flatMap Frame.octets)
    (haccepts : s.Accepts host steps) (hdrained : Passing.Drained steps) :
    s.passAll host steps = s.onReceive host .stream (frames.flatMap Frame.octets) := by
  have hauth : s.handshake.state = .authenticated := hs.staged.initialized_iff.1 hstate
  have hall (heard : List Bytes) (hheard : heard.flatten = frames.flatMap Frame.octets) :
      s.partway host heard [] =
        (s.hearAll host (frames.map Frame.received)).withInput s.link.reassembler {} := by
    rw [partway, Reassembler.pushAll_of_flatten_eq _ frames heard hrest.buffer hsize hheard]
    rfl
  obtain ⟨heard, waits, hpartway, hcarried, hwaits⟩ :=
    exists_partway hauth hrest.inbox host steps haccepts
  rw [hwaits ((Passing.drained_iff steps).1 hdrained)] at hpartway hcarried
  have hone := onReceive_partway hauth host [] [] (frames.flatMap Frame.octets)
  rw [partway_nil hrest.inbox] at hone
  rw [hpartway, hone, hall, hall]
  · exact List.append_nil _
  · rw [← hcut, ← hcarried]
    exact (List.append_nil _).symm

end

/-- Two frames of activity data. -/
def twoActivities : Bytes := [plainActivity, plainActivity].flatMap Frame.octets

/-- Both frames are cut, and the cuts pass through the inbox. -/
def cutActivities : List Passing :=
  [.deliver (twoActivities.take 5), .deliver ((twoActivities.drop 5).take 12), .process,
    .receive (twoActivities.drop 17)]

/-- On a connection that a watch with the secret has accepted. -/
theorem passAll_eq_onReceive_cutActivities :
    ∃ start : Session StreamLink DeviceService RadioQueue,
      ofConfig {} {} bareConfig {} = .ok start ∧
      (start.run (pairing bareHost start.handshake.secret (.zero 16) (.replicate 16 1))).state =
        .initialized ∧
      (start.run (pairing bareHost start.handshake.secret (.zero 16) (.replicate 16 1))).passAll
          bareHost cutActivities =
        (start.run (pairing bareHost start.handshake.secret (.zero 16)
          (.replicate 16 1))).onReceive bareHost .stream
            ([plainActivity, plainActivity].flatMap Frame.octets) := by
  obtain ⟨start, hstart, hrest, -, htaken, hinfo⟩ := exists_bare
  have hreachable := Reachable.ofConfig hstart
  obtain ⟨hstate, hpaired⟩ :=
    run_pairing bareHost (.zero 16) (.replicate 16 1) hreachable hrest (htaken _) hinfo
  have hreached := hreachable.run
    (pairing bareHost start.handshake.secret (.zero 16) (.replicate 16 1))
  refine ⟨start, hstart, hstate, ?_⟩
  generalize start.run (pairing bareHost start.handshake.secret (.zero 16) (.replicate 16 1)) = s
    at hstate hpaired hreached
  have hsize : ∀ frame ∈ [plainActivity, plainActivity],
      frame.payload.length ≤ Frame.maxPayload := by decide
  have hcut : cutActivities.flatMap Passing.data =
      [plainActivity, plainActivity].flatMap Frame.octets := by decide +kernel
  have hfirst : (Inbox.deliver {} .stream (twoActivities.take 5)).2 = true ∧
      ((Inbox.deliver {} .stream (twoActivities.take 5)).1.deliver .stream
        ((twoActivities.drop 5).take 12)).2 = true := by decide +kernel
  rw [← hpaired.inbox] at hfirst
  have haccepts : s.Accepts bareHost cutActivities := by
    refine (s.accepts_cons bareHost _ _).2 ⟨?_, (accepts_cons _ bareHost _ _).2 ⟨?_,
      accepts_of_drains _ bareHost (by decide)⟩⟩
    · rintro data ⟨⟩
      exact hfirst.1
    · rintro data ⟨⟩
      exact hfirst.2
  have hdrained : Passing.Drained cutActivities := (Passing.drained_iff _).2 (by decide)
  exact passAll_eq_onReceive hreached hstate hpaired bareHost hsize hcut haccepts hdrained

end Session

end WatchLink
