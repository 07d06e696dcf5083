import WatchLink.Proofs.Inbox.Waiting
import WatchLink.Proofs.Session.Renewing

/-!
# Nothing is put together across lost input

One callback fills the inbox of a session: it puts reads in, and notes where it lost some. What the
session was offered is then a tape, with a gap for every read of the stream that was refused, every
loss that was noted and every disconnection. Wherever the mark of a loss is on its way, on the inbox
or on a chunk of it, the session gives up what it holds half-read before it goes on behind the gap;
so whatever it cuts off the stream lies on the tape without a gap.
-/

namespace WatchLink

/-- What can happen to a session whose inbox is filled by one callback and by nothing else. -/
inductive Feed (S R : Type) where
  | call (call : HostCall S R) (own : ∀ inbox, call ≠ .inbox inbox)
  /-- The callback had a read that it could not hand on. -/
  | markLost

namespace StreamLink

/-- What a read cuts off the stream. -/
def cut (link : StreamLink) : Endpoint → Bytes → List Segment
  | .stream, data => (Segment.cutAll (link.reassembler.buffer ++ data)).1
  | .resource _, _ => []

/-- The payloads that a read completes are read from what it cuts off. -/
theorem payloads_receive (link : StreamLink) (endpoint : Endpoint) (data : Bytes)
    (cipher : Option PacketCipher) :
    (link.receive endpoint data cipher).2 =
      ((link.cut endpoint data).filterMap Segment.decoded?).filterMap (read? cipher) := by
  cases endpoint <;> rfl

theorem follows_receive {link : StreamLink} {tape ahead : Tape} {cuts : List Segment}
    {endpoint : Endpoint} {data : Bytes}
    (h : link.reassembler.Follows tape (Tape.heard endpoint data ++ ahead) cuts)
    (cipher : Option PacketCipher) :
    (link.receive endpoint data cipher).1.reassembler.Follows tape ahead
      (cuts ++ link.cut endpoint data) := by
  cases endpoint with
  | stream => exact h.push
  | resource =>
      rw [cut, List.append_nil]
      exact h

end StreamLink

namespace Session

section

variable {S R : Type}

/-- What a call adds to what the session was offered. -/
def offered (s : Session StreamLink S R) : HostCall S R → Tape
  | .deliver endpoint data => s.inbox.offered endpoint data
  | .receive _ endpoint data => .heard endpoint data
  | .disconnect => [none]
  | _ => []

/-- What was cut lies on the tape, and behind it come what is half-read and what waits. -/
def Traced (s : Session StreamLink S R) (tape : Tape) (cuts : List Segment) : Prop :=
  ∃ ahead, s.link.reassembler.Follows tape ahead cuts ∧
    Inbox.Waits s.inbox.lost s.inbox.chunks ahead

section

variable {s t : Session StreamLink S R} {tape ahead : Tape} {cuts : List Segment}

theorem Traced.givenUp (h : s.Traced tape cuts) (gap : Tape)
    (hreassembler : t.link.reassembler = s.link.reassembler.reset) (hinbox : t.inbox = {}) :
    t.Traced (tape ++ gap) cuts := by
  obtain ⟨ahead, hfollows, -⟩ := h
  have hall := hfollows.append gap
  rw [← List.append_nil (ahead ++ gap)] at hall
  refine ⟨[], ?_, ?_⟩
  · rw [hreassembler]
    exact hall.reset
  · rw [hinbox]
    exact .nothing [] fun _ => rfl

theorem Traced.kept (h : s.Traced tape cuts) (kept : Kept s t) : t.Traced tape cuts := by
  cases kept with
  | same hreassembler hinbox =>
      obtain ⟨ahead, hfollows, hwaits⟩ := h
      refine ⟨ahead, ?_, ?_⟩
      · rwa [hreassembler]
      · rwa [hinbox]
  | givenUp hreassembler hinbox =>
      rw [← List.append_nil tape]
      exact h.givenUp [] hreassembler hinbox

theorem Traced.markLost (h : s.Traced tape cuts) (gap : Tape) :
    Traced { s with inbox := s.inbox.markLost } (tape ++ gap) cuts := by
  obtain ⟨ahead, hfollows, hwaits⟩ := h
  exact ⟨ahead ++ gap, hfollows.append gap, hwaits.lose gap⟩

theorem Traced.deliver (h : s.Traced tape cuts) (endpoint : Endpoint) (data : Bytes) :
    (s.deliver endpoint data).1.Traced (tape ++ s.inbox.offered endpoint data) cuts := by
  obtain ⟨ahead, hfollows, hwaits⟩ := h
  exact ⟨_, hfollows.append _, hwaits.deliver endpoint data⟩

/-- Behind a gap the session goes on if it is told that input was lost. -/
theorem follows_resynced {gap : Tape} {lost : Bool} (marked : lost = false → gap = [])
    (h : s.link.reassembler.Follows tape (gap ++ ahead) cuts) :
    (s.resynced lost).link.reassembler.Follows tape ahead cuts := by
  cases lost with
  | false =>
      obtain rfl := marked rfl
      exact h
  | true => exact h.reset

theorem inbox_resynced (s : Session StreamLink S R) (lost : Bool) :
    (s.resynced lost).inbox = s.inbox := by
  cases lost <;> rfl

end

variable [CipherSuite] [Service S] [Radio R]

theorem kept_receiveNow (s : Session StreamLink S R) (host : HostView) (endpoint : Endpoint)
    (data : Bytes) :
    Kept { s with link := (Link.receive s.link endpoint data s.handshake.cipher?).1 }
      (s.receiveNow host endpoint data) :=
  List.foldlRecOn (motive := Kept _) _ _ (.refl _) fun t ht inbound _ =>
    ht.trans (reactions_handleInbound t host inbound).kept

/-- Once as many chunks were processed as there were, none is left. -/
theorem chunks_processAtMost (host : HostView) (n : Nat) (s : Session StreamLink S R)
    (h : s.inbox.chunks.length ≤ n) : (s.processAtMost host n).inbox.chunks = [] := by
  induction n generalizing s with
  | zero => exact List.length_eq_zero_iff.1 (Nat.le_zero.1 h)
  | succ n ih =>
      rw [processAtMost]
      cases hnext : s.inbox.next? with
      | none => exact Inbox.chunks_of_next? hnext
      | some next =>
          obtain ⟨chunk, inbox⟩ := next
          refine ih _ ?_
          rw [Inbox.eq_of_next? hnext, List.length_cons] at h
          rw [processChunk_eq_receiveNow]
          cases kept_receiveNow (resynced { s with inbox := inbox } chunk.resync) host
            chunk.endpoint chunk.data with
          | same _ hinbox =>
              rw [hinbox, inbox_resynced]
              exact Nat.le_of_succ_le_succ h
          | givenUp _ hinbox =>
              rw [hinbox]
              exact Nat.zero_le n

/-! ## What is cut -/

/-- What at most so many chunks cut off the stream. -/
def cutPending (host : HostView) : Nat → Session StreamLink S R → List Segment
  | 0, _ => []
  | n + 1, s =>
    match s.inbox.next? with
    | some (chunk, inbox) =>
      let s := { s with inbox := inbox }
      (s.resynced chunk.resync).link.cut chunk.endpoint chunk.data ++
        cutPending host n (s.processChunk host chunk)
    | none => []

/-- What a call cuts off the stream. -/
def cutBy (s : Session StreamLink S R) : HostCall S R → List Segment
  | .processPending host => cutPending host s.inbox.chunks.length s
  | .receive host endpoint data =>
    cutPending host s.inbox.chunks.length s ++ (s.caughtUp host).link.cut endpoint data
  | _ => []

def feed (s : Session StreamLink S R) : Feed S R → Session StreamLink S R
  | .call call _ => (s.clearEffects.perform call).1
  | .markLost => { s with inbox := s.inbox.markLost }

def feedAll (s : Session StreamLink S R) (feeds : List (Feed S R)) : Session StreamLink S R :=
  feeds.foldl feed s

/-- What the session was offered in a run. -/
def tape (s : Session StreamLink S R) : List (Feed S R) → Tape
  | [] => []
  | .call call own :: feeds => s.offered call ++ (s.feed (.call call own)).tape feeds
  | .markLost :: feeds => [none] ++ (s.feed .markLost).tape feeds

/-- What was cut off the stream in a run. -/
def cuts (s : Session StreamLink S R) : List (Feed S R) → List Segment
  | [] => []
  | .call call own :: feeds => s.clearEffects.cutBy call ++ (s.feed (.call call own)).cuts feeds
  | .markLost :: feeds => (s.feed .markLost).cuts feeds

theorem cuts_append (s : Session StreamLink S R) (feeds more : List (Feed S R)) :
    s.cuts (feeds ++ more) = s.cuts feeds ++ (s.feedAll feeds).cuts more := by
  induction feeds generalizing s with
  | nil => rfl
  | cons feed feeds ih =>
      cases feed with
      | call call own =>
          rw [List.cons_append, cuts, cuts, ih, List.append_assoc]
          rfl
      | markLost =>
          rw [List.cons_append, cuts, cuts, ih]
          rfl

/-! ## What is heard was cut -/

omit [CipherSuite] [Service S] [Radio R] in
theorem heard_not_mem_news (s t : Session StreamLink S R) (inbound : Inbound) :
    .heard inbound ∉ news s t := by
  intro hmem
  obtain ⟨effect, -, heq⟩ := List.mem_map.1 hmem
  cases heq

theorem mem_of_heard_hearing {host : HostView} {s : Session StreamLink S R}
    {payloads : List Inbound} {inbound : Inbound} (h : .heard inbound ∈ hearing host s payloads) :
    inbound ∈ payloads := by
  induction payloads generalizing s with
  | nil => cases h
  | cons first payloads ih =>
      rw [hearing, List.cons_append] at h
      rcases List.mem_cons.1 h with heq | hlater
      · cases heq
        exact List.mem_cons_self
      · rcases List.mem_append.1 hlater with hnews | hrest
        · exact absurd hnews (heard_not_mem_news _ _ _)
        · exact List.mem_cons_of_mem _ (ih hrest)

/-- A payload that was read from one of these segments. -/
def ReadFrom (segments : List Segment) (inbound : Inbound) : Prop :=
  ∃ frame ∈ segments.filterMap Segment.decoded?, ∃ cipher,
    StreamLink.read? cipher frame = some inbound

omit [CipherSuite] in
theorem readFrom_append {segments more : List Segment} {inbound : Inbound} :
    ReadFrom (segments ++ more) inbound ↔
      ReadFrom segments inbound ∨ ReadFrom more inbound := by
  simp only [ReadFrom, List.filterMap_append, List.mem_append, or_and_right, exists_or]

theorem readFrom_of_heard_receiving {s : Session StreamLink S R} {host : HostView}
    {endpoint : Endpoint} {data : Bytes} {inbound : Inbound}
    (h : .heard inbound ∈ s.receiving host endpoint data) :
    ReadFrom (s.link.cut endpoint data) inbound := by
  have hmem : inbound ∈ (s.link.receive endpoint data s.handshake.cipher?).2 :=
    mem_of_heard_hearing h
  rw [StreamLink.payloads_receive] at hmem
  obtain ⟨frame, hframe, hread⟩ := List.mem_filterMap.1 hmem
  exact ⟨frame, hframe, _, hread⟩

theorem readFrom_of_heard_processing {host : HostView} {n : Nat} {s : Session StreamLink S R}
    {inbound : Inbound} (h : .heard inbound ∈ processing host n s) :
    ReadFrom (cutPending host n s) inbound := by
  induction n generalizing s with
  | zero => cases h
  | succ n ih =>
      rw [processing] at h
      rw [cutPending]
      cases hnext : s.inbox.next? with
      | none =>
          rw [hnext] at h
          cases h
      | some next =>
          rw [hnext] at h
          exact readFrom_append.2
            ((List.mem_append.1 h).imp readFrom_of_heard_receiving ih)

/-- Whatever comes in during a call is read from what the call cuts off the stream. -/
theorem readFrom_of_heard {s : Session StreamLink S R} {call : HostCall S R} {inbound : Inbound}
    (h : .heard inbound ∈ s.moments call) : ReadFrom (s.cutBy call) inbound := by
  have hhappened := s.happened call
  generalize (s.perform call).1 = t at hhappened
  generalize s.moments call = moments at h hhappened
  have hnews {u v : Session StreamLink S R} (hmem : .heard inbound ∈ news u v) :
      ReadFrom (s.cutBy call) inbound := absurd hmem (heard_not_mem_news u v inbound)
  cases hhappened with
  | connect => exact hnews h
  | disconnect => exact hnews h
  | mtuChanged => cases h
  | radio => cases h
  | sendIn => cases h
  | register => cases h
  | install =>
      rcases List.mem_cons.1 h with heq | hmem
      · cases heq
      · exact hnews hmem
  | inbox => cases h
  | deeds => exact hnews h
  | processPending => exact readFrom_of_heard_processing h
  | receive =>
      exact readFrom_append.2 ((List.mem_append.1 h).imp readFrom_of_heard_processing
        readFrom_of_heard_receiving)

/-! ## What is cut lies on the tape -/

variable {s : Session StreamLink S R} {tape ahead : Tape} {cuts : List Segment}

theorem traced_receiveNow {endpoint : Endpoint} {data : Bytes}
    (h : s.link.reassembler.Follows tape (Tape.heard endpoint data ++ ahead) cuts)
    (hwaits : Inbox.Waits s.inbox.lost s.inbox.chunks ahead) (host : HostView) :
    (s.receiveNow host endpoint data).Traced tape (cuts ++ s.link.cut endpoint data) := by
  have hreceived :
      Traced { s with link := (Link.receive s.link endpoint data s.handshake.cipher?).1 } tape
        (cuts ++ s.link.cut endpoint data) :=
    ⟨ahead, StreamLink.follows_receive h _, hwaits⟩
  exact hreceived.kept (kept_receiveNow s host endpoint data)

theorem Traced.processChunk (h : s.Traced tape cuts) {chunk : Chunk} {inbox : Inbox}
    (hnext : s.inbox.next? = some (chunk, inbox)) (host : HostView) :
    (processChunk { s with inbox := inbox } host chunk).Traced tape
      (cuts ++ (resynced { s with inbox := inbox } chunk.resync).link.cut chunk.endpoint
        chunk.data) := by
  obtain ⟨ahead, hfollows, hwaits⟩ := h
  rw [Inbox.eq_of_next? hnext] at hwaits
  cases hwaits with
  | chunk gap marked hrest =>
      have hbehind : (resynced { s with inbox := inbox } chunk.resync).link.reassembler.Follows
          tape _ cuts := follows_resynced marked hfollows
      rw [processChunk_eq_receiveNow]
      refine traced_receiveNow hbehind ?_ host
      rwa [inbox_resynced]

theorem Traced.processAtMost (h : s.Traced tape cuts) (host : HostView) (n : Nat) :
    (processAtMost host n s).Traced tape (cuts ++ cutPending host n s) := by
  induction n generalizing s cuts with
  | zero =>
      rw [cutPending, List.append_nil]
      exact h
  | succ n ih =>
      rw [Session.processAtMost, cutPending]
      cases hnext : s.inbox.next? with
      | none =>
          simp only [List.append_nil]
          exact h
      | some next =>
          simp only [← List.append_assoc]
          exact ih (h.processChunk hnext host)

/-- A read that is received directly comes behind everything that waits. -/
theorem Traced.onReceive (h : s.Traced tape cuts) (host : HostView) (endpoint : Endpoint)
    (data : Bytes) :
    (s.onReceive host endpoint data).Traced (tape ++ Tape.heard endpoint data)
      (cuts ++ s.cutBy (.receive host endpoint data)) := by
  have hchunks : (s.processPending host).inbox.chunks = [] :=
    chunks_processAtMost host _ s (Nat.le_refl _)
  obtain ⟨ahead, hfollows, hwaits⟩ :
      (s.processPending host).Traced tape (cuts ++ cutPending host s.inbox.chunks.length s) :=
    h.processAtMost host _
  rw [hchunks] at hwaits
  cases hwaits with
  | nothing _ marked =>
      have hread : (s.processPending host).link.reassembler.Follows
          (tape ++ Tape.heard endpoint data) (ahead ++ (Tape.heard endpoint data ++ []))
          (cuts ++ cutPending host s.inbox.chunks.length s) := by
        rw [List.append_nil]
        exact hfollows.append _
      have hbehind : (s.caughtUp host).link.reassembler.Follows
          (tape ++ Tape.heard endpoint data) (Tape.heard endpoint data ++ [])
          (cuts ++ cutPending host s.inbox.chunks.length s) := follows_resynced marked hread
      have hinbox : (s.caughtUp host).inbox = (s.processPending host).inbox.takeLost.1 :=
        inbox_resynced _ _
      rw [onReceive_eq_receiveNow, cutBy, ← List.append_assoc]
      refine traced_receiveNow hbehind ?_ host
      rw [hinbox, Inbox.takeLost, hchunks]
      exact .nothing [] fun _ => rfl

theorem Traced.perform (h : s.Traced tape cuts) {call : HostCall S R}
    (own : ∀ inbox, call ≠ .inbox inbox) :
    (s.perform call).1.Traced (tape ++ s.offered call) (cuts ++ s.cutBy call) := by
  have hkept {t : Session StreamLink S R} (kept : Kept s t) :
      t.Traced (tape ++ []) (cuts ++ []) := by
    simp only [List.append_nil]
    exact h.kept kept
  have hwhole {t : Session StreamLink S R} {more : Tape} (ht : t.Traced (tape ++ more) cuts) :
      t.Traced (tape ++ more) (cuts ++ []) := by
    rwa [List.append_nil]
  cases call with
  | connect discovery nonce => exact hkept (kept_connect s discovery nonce)
  | disconnect => exact hwhole (h.givenUp [none] rfl rfl)
  | mtuChanged => exact hkept (.same rfl rfl)
  | register => exact hkept (.same rfl rfl)
  | deliver endpoint data => exact hwhole (h.deliver endpoint data)
  | processPending host =>
      have hprocessed := h.processAtMost host s.inbox.chunks.length
      rw [← List.append_nil tape] at hprocessed
      exact hprocessed
  | receive host endpoint data => exact h.onReceive host endpoint data
  | sendIn command =>
      rw [Session.perform, sendIn]
      cases Link.writeCommand_allOrNothing s.link command s.handshake.cipher? with
      | puts next endpoint data made =>
          rw [made]
          exact hkept (.same (StreamLink.reassembler_writeFrame s.link _ _ made) rfl)
      | fails e failed =>
          rw [failed]
          exact hkept (.refl s)
  | send task command => exact hkept (kept_send s task command)
  | installFirmware image => exact hkept (reactions_installFirmware s image).kept
  | sendConfiguration host key => exact hkept (deeds_sendConfiguration s host key).reactions.kept
  | setCurrentTime host => exact hkept (deeds_setCurrentTime s host).reactions.kept
  | findPhoneStop => exact hkept (deeds_findPhoneStop s).reactions.kept
  | findWatch start => exact hkept (deeds_findWatch s start).reactions.kept
  | setVibration type preset => exact hkept (deeds_setVibration s type preset).reactions.kept
  | radio => exact hkept (.same rfl rfl)
  | inbox inbox => exact absurd rfl (own inbox)

theorem Traced.feedAll (h : s.Traced tape cuts) (feeds : List (Feed S R)) :
    (s.feedAll feeds).Traced (tape ++ s.tape feeds) (cuts ++ s.cuts feeds) := by
  induction feeds generalizing s tape cuts with
  | nil =>
      rw [Session.tape, Session.cuts, List.append_nil, List.append_nil]
      exact h
  | cons feed feeds ih =>
      cases feed with
      | call call own =>
          have hclear : s.clearEffects.Traced tape cuts := h
          rw [Session.tape, Session.cuts, ← List.append_assoc, ← List.append_assoc]
          exact ih (hclear.perform own)
      | markLost =>
          rw [Session.tape, Session.cuts, ← List.append_assoc]
          exact ih (h.markLost [none])

omit [CipherSuite] [Service S] [Radio R] in
theorem traced_ofConfig {chunkSize : Nat} {radio : R} {config : LinkConfig}
    {capabilities : Capabilities}
    (hs : ofConfig { chunkSize := chunkSize } radio config capabilities = .ok s) :
    s.Traced [] [] := by
  obtain ⟨secret, rfl⟩ := eq_of_ofConfig hs
  exact ⟨[], Reassembler.follows_new, .nothing [] fun _ => rfl⟩

/-- Whatever happens to a session, in whatever order: all that it cuts off the stream lies, in
order, on the tape of what it was offered. So no frame, read or broken, is put together across a
read that was refused, a loss that was noted or a disconnection. Every payload that comes in is read
from these very cuts, and the totals of the reassembler count them. -/
theorem cuts_unbroken {chunkSize : Nat} {radio : R} {config : LinkConfig}
    {capabilities : Capabilities} {start : Session StreamLink S R}
    (hstart : ofConfig { chunkSize := chunkSize } radio config capabilities = .ok start)
    (feeds : List (Feed S R)) :
    Tape.Lies (start.cuts feeds) (start.tape feeds) ∧
    (∀ bytes, .frame bytes ∈ start.cuts feeds → Tape.ofBytes bytes <:+: start.tape feeds) ∧
    (∀ before call own after, feeds = before ++ .call call own :: after →
      ∀ inbound, .heard inbound ∈ (start.feedAll before).clearEffects.moments call →
        ReadFrom (start.cuts feeds) inbound) ∧
    (start.feedAll feeds).link.reassembler.dropped =
      (start.cuts feeds).countP Segment.isBroken ∧
    (start.feedAll feeds).link.reassembler.discarded = Segment.noiseIn (start.cuts feeds) := by
  obtain ⟨ahead, hfollows, -⟩ := (traced_ofConfig hstart).feedAll feeds
  refine ⟨hfollows.lies, fun _ hmem => hfollows.lies.isInfix hmem, ?_, hfollows.dropped,
    hfollows.discarded⟩
  rintro before call own after rfl inbound hheard
  rw [cuts_append, Session.cuts]
  exact readFrom_append.2 (.inr (readFrom_append.2 (.inl (readFrom_of_heard hheard))))

end

/-! ## Losses everywhere -/

/-- The inbox takes the first half of a frame and refuses the second, and the next frame is taken;
then a loss is noted behind half a frame that waits, and behind half a frame that was received. -/
def lossy : List (Feed DeviceService RadioQueue) :=
  let deliver (endpoint : Endpoint) (data : Bytes) : Feed DeviceService RadioQueue :=
    .call (.deliver endpoint data) (by simp)
  let receive (data : Bytes) : Feed DeviceService RadioQueue :=
    .call (.receive bareHost .stream data) (by simp)
  let process : Feed DeviceService RadioQueue := .call (.processPending bareHost) (by simp)
  let half := plainActivity.octets.take 6
  let rest := plainActivity.octets.drop 6
  [deliver .stream half] ++ List.replicate 31 (deliver (.resource 0) [0]) ++
    [deliver .stream rest, process, deliver .stream plainActivity.octets, process] ++
    [deliver .stream half, .markLost, deliver .stream plainActivity.octets, process] ++
    [receive half, .markLost, receive plainActivity.octets]

/-- The three frames behind the gaps are read, and they alone: neither half that waited was put
together with what came behind it. -/
theorem cuts_unbroken_lossy :
    ofConfig {} {} bareConfig {} = .ok streamStart ∧
    streamStart.tape lossy =
      Tape.ofBytes (plainActivity.octets.take 6) ++ List.replicate 8 none ++
        Tape.ofBytes plainActivity.octets ++
      Tape.ofBytes (plainActivity.octets.take 6) ++ [none] ++ Tape.ofBytes plainActivity.octets ++
      Tape.ofBytes (plainActivity.octets.take 6) ++ [none] ++ Tape.ofBytes plainActivity.octets ∧
    streamStart.cuts lossy = List.replicate 3 (.frame plainActivity.octets) ∧
    Tape.Lies (streamStart.cuts lossy) (streamStart.tape lossy) ∧
    Tape.ofBytes plainActivity.octets <:+: streamStart.tape lossy ∧
    ReadFrom (streamStart.cuts lossy) (.activity [1, 2, 3]) ∧
    (streamStart.feedAll lossy).link.reassembler.dropped =
      (streamStart.cuts lossy).countP Segment.isBroken ∧
    (streamStart.feedAll lossy).link.reassembler.discarded =
      Segment.noiseIn (streamStart.cuts lossy) := by
  have hstart : ofConfig {} {} bareConfig {} = .ok streamStart := rfl
  have hcuts : streamStart.cuts lossy = List.replicate 3 (.frame plainActivity.octets) := by
    decide +kernel
  obtain ⟨hlies, hframes, hheard, hdropped, hdiscarded⟩ := cuts_unbroken hstart lossy
  refine ⟨hstart, ?_, hcuts, hlies, hframes _ ?_, ?_, hdropped, hdiscarded⟩
  · decide +kernel
  · rw [hcuts]
    exact List.mem_cons_self
  · refine hheard (lossy.take 42) (.receive bareHost .stream plainActivity.octets) (by simp) [] rfl
      _ ?_
    decide +kernel

end Session

end WatchLink
