import WatchLink.Proofs.Session.Pairing

/-!
# Frames in one read and in several

The payloads of one read are opened with the cipher there was when it came. While the connection
has keys that makes no difference, for it keeps them as long as it lasts. Before it has keys, a
sealed frame cannot be opened; when a frame before it in the same read installs them, it still
cannot, while in a read of its own it could. So one read hears the frames that several would, but
for the sealed ones that stand behind the frame that installs the keys.
-/

namespace WatchLink.Session

section

variable {S R : Type} [CipherSuite] [Service S] [Radio R]

/-- Receive frames, each in a read of its own. -/
def receiveEach (s : Session StreamLink S R) (host : HostView) (frames : List Frame) :
    Session StreamLink S R :=
  frames.foldl (fun s frame => s.onReceive host .stream frame.octets) s

/-- The frames of one read that can be heard: all of them with keys, the unsealed without. -/
def heard (s : Session StreamLink S R) (frames : List Frame) : List Frame :=
  if s.handshake.keys?.isSome then frames
  else frames.filter fun frame => frame.dataType.id ≠ DataType.encrypted.id

/-- No sealed frame comes once the frames before it have installed keys. -/
def NoneBehindKeys (s : Session StreamLink S R) (host : HostView) (frames : List Frame) : Prop :=
  ∀ before frame after, frames = before ++ frame :: after →
    frame.dataType.id = DataType.encrypted.id →
    (s.receiveEach host before).handshake.keys? = s.handshake.keys?

theorem receiveEach_nil (s : Session StreamLink S R) (host : HostView) :
    s.receiveEach host [] = s := rfl

theorem receiveEach_cons (s : Session StreamLink S R) (host : HostView) (frame : Frame)
    (frames : List Frame) :
    s.receiveEach host (frame :: frames) =
      (s.onReceive host .stream frame.octets).receiveEach host frames := rfl

/-- A frame that is not sealed is heard with any cipher. -/
theorem hear_unsealed (s : Session StreamLink S R) (host : HostView)
    (cipher cipher' : Option PacketCipher) {frame : Frame}
    (h : frame.dataType.id ≠ DataType.encrypted.id) :
    s.hear host cipher frame = s.hear host cipher' frame := by
  have htype : frame.received.dataType ≠ .encrypted :=
    mt (Frame.received_dataType_eq_encrypted_iff frame).1 h
  simp only [hear, StreamLink.read?, StreamLink.payload?, if_neg htype]

theorem hear_sealed_none (s : Session StreamLink S R) (host : HostView) {frame : Frame}
    (h : frame.dataType.id = DataType.encrypted.id) : s.hear host none frame = s := by
  have htype : frame.received.dataType = .encrypted :=
    (Frame.received_dataType_eq_encrypted_iff frame).2 h
  simp only [hear, StreamLink.read?, StreamLink.payload?, if_pos htype]
  rfl

/-- As long as the cipher makes no difference, reads of one frame each hear what one read hears. -/
theorem receiveEach_eq_foldl {s : Session StreamLink S R} (host : HostView)
    (cipher : Option PacketCipher) {frames : List Frame} (hrest : s.AtRest)
    (hcoherent : s.handshake.Coherent)
    (hsize : ∀ frame ∈ frames, frame.payload.length ≤ Frame.maxPayload)
    (hsame : ∀ frame ∈ frames, frame.dataType.id ≠ DataType.encrypted.id ∨
      ∃ keys, s.handshake.keys? = some keys ∧ cipher = some keys.cipher) :
    s.receiveEach host frames = frames.foldl (fun t frame => t.hear host cipher frame) s := by
  induction frames generalizing s with
  | nil => rfl
  | cons frame frames ih =>
      obtain ⟨hframe, hframes⟩ := List.forall_mem_cons.1 hsize
      have hhear : s.hear host s.handshake.cipher? frame = s.hear host cipher frame := by
        rcases hsame frame List.mem_cons_self with hunsealed | ⟨keys, hkeys, rfl⟩
        · exact hear_unsealed s host _ _ hunsealed
        · rw [Handshake.cipher?_of_keys? hkeys]
      rw [receiveEach_cons, onReceive_octets_eq s host frame hrest hframe, hhear, List.foldl_cons]
      have hreactions := reactions_hear s host cipher frame
      refine ih (hrest.hear host cipher frame) (hreactions.keep coherent_react hcoherent) hframes ?_
      intro next hnext
      refine (hsame next (List.mem_cons_of_mem _ hnext)).imp_right ?_
      rintro ⟨keys, hkeys, hcipher⟩
      exact ⟨keys, hreactions.keys? hcoherent hkeys, hcipher⟩

theorem foldl_hear_none (s : Session StreamLink S R) (host : HostView) (frames : List Frame) :
    frames.foldl (fun t frame => t.hear host none frame) s =
      (frames.filter fun frame => frame.dataType.id ≠ DataType.encrypted.id).foldl
        (fun t frame => t.hear host none frame) s := by
  induction frames generalizing s with
  | nil => rfl
  | cons frame frames ih =>
      by_cases hsealed : frame.dataType.id = DataType.encrypted.id
      · rw [List.foldl_cons, hear_sealed_none s host hsealed,
          List.filter_cons_of_neg (by simpa using hsealed)]
        exact ih s
      · rw [List.foldl_cons, List.filter_cons_of_pos (by simpa using hsealed), List.foldl_cons]
        exact ih _

/-- One read of frames is as many reads of those that it can hear. -/
theorem onReceive_eq_receiveEach_heard (s : Session StreamLink S R) (host : HostView)
    (frames : List Frame) (hcoherent : s.handshake.Coherent)
    (hbuffer : s.link.reassembler.buffer = []) (hchunks : s.inbox.chunks = [])
    (hsize : ∀ frame ∈ frames, frame.payload.length ≤ Frame.maxPayload) :
    s.onReceive host .stream (frames.flatMap Frame.octets) =
      receiveEach { s with inbox := {} } host (s.heard frames) := by
  have hrest : AtRest { s with inbox := {} } := ⟨hbuffer, rfl⟩
  rw [onReceive_flatMap_eq s host frames hbuffer hchunks hsize, heard, Handshake.cipher?]
  cases hkeys : s.handshake.keys? with
  | some keys =>
      rw [Option.isSome_some, if_pos rfl]
      exact (receiveEach_eq_foldl host _ hrest hcoherent hsize
        fun _ _ => .inr ⟨keys, hkeys, rfl⟩).symm
  | none =>
      rw [Option.isSome_none, if_neg Bool.false_ne_true, Option.map_none, foldl_hear_none]
      refine (receiveEach_eq_foldl host none hrest hcoherent ?_ ?_).symm
      · exact fun frame hmem => hsize frame (List.mem_filter.1 hmem).1
      · exact fun frame hmem => .inl (of_decide_eq_true (List.mem_filter.1 hmem).2)

/-- Sealed frames that come while there are no keys might as well not come. -/
theorem receiveEach_filter {s : Session StreamLink S R} (host : HostView) {frames : List Frame}
    (hrest : s.AtRest) (hsize : ∀ frame ∈ frames, frame.payload.length ≤ Frame.maxPayload)
    (hnone : ∀ before frame after, frames = before ++ frame :: after →
      frame.dataType.id = DataType.encrypted.id →
      (s.receiveEach host before).handshake.keys? = none) :
    s.receiveEach host (frames.filter fun frame => frame.dataType.id ≠ DataType.encrypted.id) =
      s.receiveEach host frames := by
  induction frames generalizing s with
  | nil => rfl
  | cons frame frames ih =>
      obtain ⟨hframe, hframes⟩ := List.forall_mem_cons.1 hsize
      have hread := onReceive_octets_eq s host frame hrest hframe
      have hnext : ∀ before next after, frames = before ++ next :: after →
          next.dataType.id = DataType.encrypted.id →
          ((s.onReceive host .stream frame.octets).receiveEach host before).handshake.keys? =
            none := by
        rintro before next after rfl hsealed
        exact hnone (frame :: before) next after rfl hsealed
      by_cases hsealed : frame.dataType.id = DataType.encrypted.id
      · -- The frame is not heard, so what reads the rest is the session as it was.
        have hkeys : s.handshake.keys? = none := hnone [] frame frames rfl hsealed
        have hsame : s.onReceive host .stream frame.octets = s := by
          rw [hread, Handshake.cipher?, hkeys, Option.map_none, hear_sealed_none s host hsealed]
        rw [hsame] at hnext
        rw [List.filter_cons_of_neg (by simpa using hsealed), receiveEach_cons, hsame]
        exact ih hrest hframes hnext
      · rw [List.filter_cons_of_pos (by simpa using hsealed), receiveEach_cons, receiveEach_cons]
        refine ih ?_ hframes hnext
        rw [hread]
        exact hrest.hear host _ frame

/-- What one read cannot hear is nothing to several, unless keys are there by then. -/
theorem receiveEach_heard {s : Session StreamLink S R} (host : HostView) {frames : List Frame}
    (hrest : s.AtRest) (hsize : ∀ frame ∈ frames, frame.payload.length ≤ Frame.maxPayload)
    (hbehind : s.NoneBehindKeys host frames) :
    s.receiveEach host (s.heard frames) = s.receiveEach host frames := by
  rw [heard]
  split
  · rfl
  · rename_i hkeys
    rw [Option.not_isSome_iff_eq_none] at hkeys
    refine receiveEach_filter host hrest hsize ?_
    intro before frame after hframes hsealed
    exact (hbehind before frame after hframes hsealed).trans hkeys

theorem noneBehindKeys_of_unsealed (s : Session StreamLink S R) (host : HostView)
    {frames : List Frame} (h : ∀ frame ∈ frames, frame.dataType.id ≠ DataType.encrypted.id) :
    s.NoneBehindKeys host frames := by
  rintro before frame after rfl hsealed
  exact absurd hsealed (h frame (List.mem_append_right _ List.mem_cons_self))

/-- The first read clears the mark of lost input. -/
theorem receiveEach_emptied (s : Session StreamLink S R) (host : HostView) {frames : List Frame}
    (hbuffer : s.link.reassembler.buffer = []) (hchunks : s.inbox.chunks = [])
    (hsize : ∀ frame ∈ frames, frame.payload.length ≤ Frame.maxPayload)
    (hread : frames ≠ [] ∨ s.inbox.lost = false) :
    receiveEach { s with inbox := {} } host frames = s.receiveEach host frames := by
  cases frames with
  | nil =>
      have hinbox : s.inbox = {} := by
        rw [← hchunks, ← hread.resolve_left (absurd rfl)]
      rw [← hinbox]
  | cons frame frames =>
      have hframe : ∀ next ∈ [frame], next.payload.length ≤ Frame.maxPayload := by
        rw [List.forall_mem_singleton]
        exact hsize frame List.mem_cons_self
      have hone := onReceive_flatMap_eq s host [frame] hbuffer hchunks hframe
      have hfirst := onReceive_flatMap_eq { s with inbox := {} } host [frame] hbuffer rfl hframe
      rw [List.flatMap_singleton] at hone hfirst
      rw [receiveEach_cons, receiveEach_cons, hone, hfirst]

/-- A frame in which the watch sends activity data, sealed. -/
def activityFrame (payload : Bytes) : Frame where
  channel := .fitness
  flag := true
  needsResponse := false
  opcode := Frame.opcodeSend
  serial := 0
  dataType := .encrypted
  payload := payload

/-- Activity data that the watch sends right behind its acceptance is told in a read of its own. In
one read with the acceptance nothing of it is heard. -/
theorem onReceive_behind_acceptance {s : Session StreamLink S R} (host : HostView)
    {keys : SessionKeys} (hrest : s.AtRest) (hrouted : s.registry.Routed)
    (hcoherent : s.handshake.Coherent)
    (hstate : s.handshake.state = .awaitingAuthResult) (hpending : s.handshake.pending? = some keys)
    {counter : UInt16} {plain text : Bytes}
    (hsealed : keys.reversed.cipher.sealed counter plain = .ok text)
    (hsize : text.length + 2 ≤ Frame.maxPayload) :
    s.onReceive host .stream
        ((authFrame Handshake.acceptance).octets ++
          (activityFrame (Bytes.le16 counter ++ text)).octets) =
      s.onReceive host .stream (authFrame Handshake.acceptance).octets ∧
    (s.onReceive host .stream (authFrame Handshake.acceptance).octets).onReceive host .stream
        (activityFrame (Bytes.le16 counter ++ text)).octets =
      (s.onReceive host .stream (authFrame Handshake.acceptance).octets).tell
        (.activityData plain) := by
  have haccept : (authFrame Handshake.acceptance).payload.length ≤ Frame.maxPayload := by decide
  have hactivity : (activityFrame (Bytes.le16 counter ++ text)).payload.length ≤
      Frame.maxPayload := by
    rw [activityFrame, List.length_append, Bytes.length_le16, Nat.add_comm]
    exact hsize
  constructor
  · have hbatch := onReceive_eq_receiveEach_heard s host [authFrame Handshake.acceptance,
      activityFrame (Bytes.le16 counter ++ text)] hcoherent hrest.buffer (by rw [hrest.inbox])
      (List.forall_mem_cons.2 ⟨haccept, List.forall_mem_singleton.2 hactivity⟩)
    have hawaits : s.handshake.state.awaits = true := by
      rw [hstate]
      rfl
    have hheard : s.heard [authFrame Handshake.acceptance,
        activityFrame (Bytes.le16 counter ++ text)] = [authFrame Handshake.acceptance] := by
      rw [heard, hcoherent.keys?_of_awaits hawaits]
      rfl
    rw [hheard, ← hrest.inbox] at hbatch
    rw [List.flatMap_cons, List.flatMap_singleton] at hbatch
    exact hbatch
  · have hkeys := onReceive_acceptance host hrest hrouted hstate hpending
    have hchannel : (activityFrame (Bytes.le16 counter ++ text)).received.channel = .fitness :=
      Frame.received_channel rfl rfl
    have hread := StreamLink.read?_of_sealed hchannel
      ((Frame.received_dataType_eq_encrypted_iff _).2 rfl)
      (keys.reversed.opened_le16_append hsealed)
    rw [onReceive_octets_eq _ host _ (hrest.onReceive host haccept) hactivity, Handshake.cipher?,
      hkeys, hear]
    simp only [Option.map_some]
    rw [SessionKeys.reversed_reversed] at hread
    rw [hread]
    rfl

/-- One read of frames leaves the session, with all it has told and submitted, as reads of one frame
each would, if no sealed frame among them comes behind one that installs the keys. Such a frame is
not heard in the one read. -/
theorem onReceive_batch {s : Session StreamLink S R} (hs : s.Reachable) (host : HostView)
    (frames : List Frame) (hbuffer : s.link.reassembler.buffer = []) (hchunks : s.inbox.chunks = [])
    (hsize : ∀ frame ∈ frames, frame.payload.length ≤ Frame.maxPayload) :
    s.onReceive host .stream (frames.flatMap Frame.octets) =
        receiveEach { s with inbox := {} } host (s.heard frames) ∧
      (frames ≠ [] ∨ s.inbox.lost = false → s.NoneBehindKeys host frames →
        s.onReceive host .stream (frames.flatMap Frame.octets) = s.receiveEach host frames) := by
  have hheard := onReceive_eq_receiveEach_heard s host frames hs.coherent hbuffer hchunks hsize
  refine ⟨hheard, ?_⟩
  intro hread hbehind
  -- The first read takes the mark of lost input, so what comes before a frame may start without it.
  have hbehind' : NoneBehindKeys { s with inbox := {} } host frames := by
    rintro before frame after rfl hsealed
    cases before with
    | nil => rfl
    | cons first before =>
        have hsize' : ∀ next ∈ first :: before, next.payload.length ≤ Frame.maxPayload :=
          fun next hmem => hsize next (List.mem_append_left _ hmem)
        rw [receiveEach_emptied s host hbuffer hchunks hsize' (.inl (List.cons_ne_nil _ _))]
        exact hbehind _ frame after rfl hsealed
  rw [hheard, ← receiveEach_emptied s host hbuffer hchunks hsize hread]
  exact receiveEach_heard host ⟨hbuffer, rfl⟩ hsize hbehind'

end

/-- The watch's two frames of the handshake may come in one read. -/
theorem onReceive_batch_handshake :
    ∃ start : Session StreamLink DeviceService RadioQueue,
      ofConfig {} {} bareConfig {} = .ok start ∧
      (start.run [.connect {} (.zero 16)]).onReceive bareHost .stream
          ([authFrame (Handshake.honestNonce (.zero 16) (.zero 16) (.replicate 16 1)),
            authFrame Handshake.acceptance].flatMap Frame.octets) =
        (start.run [.connect {} (.zero 16)]).receiveEach bareHost
          [authFrame (Handshake.honestNonce (.zero 16) (.zero 16) (.replicate 16 1)),
            authFrame Handshake.acceptance] := by
  obtain ⟨start, hstart, hrest, -⟩ := exists_bare
  have hconnected : (start.run [.connect {} (.zero 16)]).AtRest :=
    hrest.clearEffects.connect {} (.zero 16)
  refine ⟨start, hstart, ?_⟩
  refine (onReceive_batch ((Reachable.ofConfig hstart).run _) bareHost _ hconnected.buffer
    (by rw [hconnected.inbox]) ?_).2 (.inl (List.cons_ne_nil _ _))
    (noneBehindKeys_of_unsealed _ _ ?_)
  · refine List.forall_mem_cons.2 ⟨?_, List.forall_mem_singleton.2 (by decide)⟩
    rw [authFrame, Handshake.toBytes_honestNonce]
    simp [Frame.maxPayload]
  · have hauth : DataType.auth.id ≠ DataType.encrypted.id := by decide
    exact List.forall_mem_cons.2 ⟨hauth, List.forall_mem_singleton.2 hauth⟩

/-- So the number of reads can make a difference, on a session that a host comes to. -/
theorem onReceive_batch_differs :
    ∃ (s : Session StreamLink DeviceService RadioQueue) (frames : List Frame),
      s.Reachable ∧ s.AtRest ∧
      (∀ frame ∈ frames, frame.payload.length ≤ Frame.maxPayload) ∧
      s.onReceive bareHost .stream (frames.flatMap Frame.octets) ≠
        s.receiveEach bareHost frames := by
  obtain ⟨start, hstart, hrest, hsecret, htaken, hinfo⟩ := exists_bare
  obtain ⟨hanswered, hhandshake⟩ :=
    run_approach bareHost (.zero 16) (.replicate 16 1) hrest (routed_ofConfig hstart) (htaken _)
      hinfo
  have hreachable : (start.run (approach bareHost start.handshake.secret (.zero 16)
      (.replicate 16 1))).Reachable := (Reachable.ofConfig hstart).run _
  generalize start.run (approach bareHost start.handshake.secret (.zero 16)
    (.replicate 16 1)) = s at hanswered hhandshake hreachable
  have hshort : ([7] : Bytes).length < Cipher.Ccm.lengthLimit := by decide
  obtain ⟨text, hsealed⟩ := (SessionKeys.derive start.handshake.secret (.zero 16)
    (.replicate 16 1)).reversed.exists_sealed 1 hshort
  have hsize : text.length + 2 ≤ Frame.maxPayload := by
    rw [SessionKeys.length_of_sealed_eq_ok _ hsealed]
    decide
  obtain ⟨hone, htwo⟩ := onReceive_behind_acceptance bareHost hanswered hreachable.routed
    hreachable.coherent
    (by rw [hhandshake]) (by rw [hhandshake]) hsealed hsize
  refine ⟨s, [authFrame Handshake.acceptance, activityFrame (Bytes.le16 1 ++ text)],
    hreachable, hanswered, ?_, ?_⟩
  · refine List.forall_mem_cons.2 ⟨by decide, List.forall_mem_singleton.2 ?_⟩
    rw [activityFrame, List.length_append, Bytes.length_le16, Nat.add_comm]
    exact hsize
  · intro heq
    rw [List.flatMap_cons, List.flatMap_singleton, hone, receiveEach_cons, receiveEach_cons,
      receiveEach_nil, htwo] at heq
    exact ne_tell _ _ heq

end WatchLink.Session
