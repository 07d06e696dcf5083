import WatchLink.Proofs.Link.Writing
import WatchLink.Proofs.Session.Pairing

/-!
# Packet nonces over a run

A packet nonce is the direction's own octets and a counter, so under one set of keys nonces repeat
as counters do. `Tracked` keeps, beside a session, the sealed frames that were written under the
keys it has now; a call after which there are other keys, or none, begins the list anew. The
invariant is that the list has been numbered from one on without gap or repetition and that the
link's counter is its length, `Numbered`. Only sealing a frame and changing the keys touch it: a
frame that cannot be sealed, one that is not sealed and a transaction that the radio refuses leave
the counter with the list.
-/

namespace WatchLink

/-- Where a frame names its data type. -/
def Frame.dataTypeOffset : Nat := 9

/-- The octets of a sealed frame that is written. -/
def RadioOp.sealed? : RadioOp → Option Bytes
  | .write _ octets =>
    if octets.getD Frame.dataTypeOffset 0 = DataType.encrypted.id then some octets else none
  | _ => none

def sealedFrames (ops : List RadioOp) : List Bytes := ops.filterMap RadioOp.sealed?

theorem sealedFrames_append (a b : List RadioOp) :
    sealedFrames (a ++ b) = sealedFrames a ++ sealedFrames b := List.filterMap_append

theorem sealedFrames_of_sealed (frame : Frame) (endpoint : Endpoint)
    (h : frame.dataType = .encrypted) :
    sealedFrames [.write endpoint frame.octets] = [frame.octets] := by
  have htype : frame.octets.getD Frame.dataTypeOffset 0 = DataType.encrypted.id := by
    rw [← h]
    rfl
  exact List.filterMap_cons_some (if_pos htype)

theorem sealedFrames_of_unsealed (frame : Frame) (endpoint : Endpoint)
    (h : frame.dataType.id ≠ DataType.encrypted.id) :
    sealedFrames [.write endpoint frame.octets] = [] :=
  List.filterMap_cons_none (if_neg h)

theorem sealedFrames_progress {ops : List RadioOp}
    (h : ∀ op ∈ ops, ∃ message percent, op = .progress message percent) :
    sealedFrames ops = [] := by
  rw [sealedFrames, List.filterMap_eq_nil_iff]
  intro op hmem
  obtain ⟨message, percent, rfl⟩ := h op hmem
  rfl

/-- The counter that a sealed frame carries. -/
def carried (octets : Bytes) : UInt16 := Bytes.word16 (octets.getD 10 0) (octets.getD 11 0)

section

variable [CipherSuite]

/-- A frame whose payload was sealed with the keys under a counter, which stands before it. -/
def SealedUnder (keys : SessionKeys) (counter : UInt16) (octets : Bytes) : Prop :=
  ∃ (frame : Frame) (plain text : Bytes), frame.dataType = .encrypted ∧
    keys.cipher.sealed counter plain = .ok text ∧
    octets = frame.layout (Bytes.le16 counter ++ text)

theorem SealedUnder.carried_eq {keys : SessionKeys} {counter : UInt16} {octets : Bytes}
    (h : SealedUnder keys counter octets) : carried octets = counter := by
  obtain ⟨frame, plain, text, -, -, rfl⟩ := h
  exact Bytes.word16_le16 counter

/-- The frames are numbered from one on, and the counter is that of the last. Without keys there
are none. -/
inductive Numbered : Option SessionKeys → UInt16 → List Bytes → Prop
  | unkeyed (counter : UInt16) : Numbered none counter []
  | keyed {keys : SessionKeys} {counter : UInt16} {epoch : List Bytes}
      (count : counter = .ofNat epoch.length)
      (numbered : ∀ i octets, epoch[i]? = some octets → SealedUnder keys (.ofNat (i + 1)) octets) :
      Numbered (some keys) counter epoch

theorem Numbered.fresh (keys? : Option SessionKeys) : Numbered keys? 0 [] := by
  cases keys? with
  | none => exact .unkeyed 0
  | some keys => exact .keyed rfl (by simp)

theorem Numbered.epoch_eq_nil {counter : UInt16} {epoch : List Bytes}
    (h : Numbered none counter epoch) : epoch = [] := by
  cases h
  rfl

/-- One more frame is sealed under the next counter. -/
theorem Numbered.snoc {keys : SessionKeys} {counter : UInt16} {epoch : List Bytes}
    {octets : Bytes} (h : Numbered (some keys) counter epoch)
    (hsealed : SealedUnder keys (counter + 1) octets) :
    Numbered (some keys) (counter + 1) (epoch ++ [octets]) := by
  cases h with
  | keyed count numbered =>
      have hnext : counter + 1 = .ofNat (epoch.length + 1) := by
        rw [count, UInt16.ofNat_add]
        rfl
      refine .keyed ?_ ?_
      · rw [List.length_append, List.length_singleton, hnext]
      · intro i octets' hi
        rw [List.getElem?_append] at hi
        split at hi
        · exact numbered i octets' hi
        · rename_i hlast
          rw [List.getElem?_singleton] at hi
          split at hi
          · rename_i hzero
            obtain rfl : i = epoch.length := by omega
            obtain rfl : octets = octets' := Option.some.inj hi
            rwa [← hnext]
          · cases hi

end

namespace Session

variable {S R : Type}

/-! ## What a call does to the numbering -/

/-- The sealed frames that the radio was asked to write. -/
def sealedAsked (s : Session StreamLink S R) : List Bytes := sealedFrames s.asked

theorem sealedAsked_tell (s : Session StreamLink S R) (event : Event) :
    (s.tell event).sealedAsked = s.sealedAsked := by
  rw [sealedAsked, asked_tell]
  rfl

theorem sealedAsked_submit [Radio R] (s : Session StreamLink S R) (transaction : Transaction) :
    (s.submit transaction).1.sealedAsked = s.sealedAsked ++ sealedFrames transaction.ops := by
  rw [sealedAsked, asked_submit, sealedFrames_append]
  rfl

theorem counter_receive (link : StreamLink) (endpoint : Endpoint) (data : Bytes)
    (cipher : Option PacketCipher) :
    (Link.receive link endpoint data cipher).1.counter = link.counter := by
  change (link.receive endpoint data cipher).1.counter = link.counter
  rw [StreamLink.receive]
  split <;> rfl

/-- Upload parts travel in clear and leave the counter alone. -/
theorem PartsPut.unsealed {link next : StreamLink} {cipher : Option PacketCipher}
    {parts : List Bytes} {writes : List RadioOp}
    (written : PartsPut cipher link parts next writes) :
    next.counter = link.counter ∧ sealedFrames writes = [] := by
  induction written with
  | nil => exact ⟨rfl, rfl⟩
  | @cons link _ _ part _ _ rest made _ ih =>
      obtain ⟨rfl, rfl⟩ := made.inj
        (StreamLink.writeFrame_of_unsealed link (StreamLink.bulkFrame part) cipher nofun)
      have hplain : DataType.plain.id ≠ DataType.encrypted.id := by decide
      have happend := sealedFrames_append [.write .stream
        { StreamLink.bulkFrame part with serial := link.serial }.octets] rest
      rw [ih.2, sealedFrames_of_unsealed _ .stream hplain] at happend
      exact ⟨ih.1, happend⟩

/-- Connecting drops the keys and seals nothing. -/
theorem connect_unkeyed [Service S] [Radio R] (s : Session StreamLink S R) (discovery : Discovery)
    (nonce : Octets 16) :
    (s.connect discovery nonce).1.handshake.keys? = none ∧
      (s.connect discovery nonce).1.sealedAsked = s.sealedAsked := by
  have hready : (s.greeted nonce).sealedAsked = s.sealedAsked := by
    change (setState _ _).sealedAsked = _
    rw [setState, sealedAsked_tell]
    split <;> rfl
  have hgreeting : sealedFrames (greeting nonce).ops = [] := by
    have hauth : DataType.auth.id ≠ DataType.encrypted.id := by decide
    exact sealedFrames_of_unsealed (Frame.command 0 .auth (hello nonce).toBytes) .stream hauth
  have hsubmitted := sealedAsked_submit (s.greeted nonce) (greeting nonce)
  rw [hready, hgreeting, List.append_nil] at hsubmitted
  have hkeys : ((s.greeted nonce).submit (greeting nonce)).1.handshake.keys? = none := rfl
  rw [connect_stream]
  generalize (s.greeted nonce).submit (greeting nonce) = submitted at hsubmitted hkeys
  obtain ⟨t, answer⟩ := submitted
  cases answer with
  | ok => exact ⟨hkeys, (sealedAsked_tell _ _).trans hsubmitted⟩
  | error e => exact ⟨rfl, (sealedAsked_tell _ _).trans hsubmitted⟩

section

variable [CipherSuite]

/-- During a call that does not drop the keys it starts with: with the frames from before the call
everything is numbered. -/
structure Within (start : Option SessionKeys) (past : List Bytes) (s : Session StreamLink S R) :
    Prop where
  coherent : s.handshake.Coherent
  kept : ∀ keys, start = some keys → s.handshake.keys? = some keys
  numbered : Numbered s.handshake.keys? s.link.counter (past ++ s.sealedAsked)

/-- Without keys nothing has been sealed, neither before the call nor in it. -/
theorem Within.nothing {start : Option SessionKeys} {past : List Bytes}
    {s : Session StreamLink S R} (h : Within start past s) (hkeys : s.handshake.keys? = none) :
    past = [] ∧ s.sealedAsked = [] := by
  have hnumbered := h.numbered
  rw [hkeys] at hnumbered
  exact List.append_eq_nil_iff.1 hnumbered.epoch_eq_nil

/-- Where handshake, counter and sealed frames are as before, so is the numbering. -/
theorem Within.of_eq {start : Option SessionKeys} {past : List Bytes}
    {s t : Session StreamLink S R} (h : Within start past s)
    (hhandshake : t.handshake = s.handshake) (hcounter : t.link.counter = s.link.counter)
    (hsealed : t.sealedAsked = s.sealedAsked) : Within start past t where
  coherent := by
    rw [hhandshake]
    exact h.coherent
  kept := by
    rw [hhandshake]
    exact h.kept
  numbered := by
    rw [hhandshake, hcounter, hsealed]
    exact h.numbered

/-- While there are no keys the handshake may change. Nothing was sealed so far, so keys that are
there afterwards start from a reset counter. -/
theorem Within.renew {start : Option SessionKeys} {past : List Bytes}
    {s t : Session StreamLink S R} (h : Within start past s) (hkeys : s.handshake.keys? = none)
    (hcoherent : t.handshake.Coherent) (hsealed : t.sealedAsked = s.sealedAsked)
    (hfresh : t.handshake.keys? = none ∨ t.link.counter = 0) : Within start past t := by
  obtain ⟨hpast, hnothing⟩ := h.nothing hkeys
  refine ⟨hcoherent, ?_, ?_⟩
  · intro keys hstart
    rw [h.kept keys hstart] at hkeys
    cases hkeys
  · rw [hpast, hsealed, hnothing]
    rcases hfresh with hnone | hzero
    · rw [hnone]
      exact .unkeyed _
    · rw [hzero]
      exact .fresh _

/-- What writing a command does to the counter and to the sealed frames. -/
theorem numbered_writeCommand {handshake : Handshake} {link next : StreamLink} {command : Command}
    {op : RadioOp} {epoch : List Bytes}
    (written : (link.writeCommand command handshake.cipher?).Puts next op)
    (h : Numbered handshake.keys? link.counter epoch) :
    Numbered handshake.keys? next.counter (epoch ++ sealedFrames [op]) := by
  rcases StreamLink.writeFrame_cases _ _ _ written with
    ⟨htype, rfl, rfl⟩ | ⟨htype, rfl, text, hsealed, rfl⟩
  · have hauth := StreamLink.dataTypeOf_eq_auth htype
    rw [sealedFrames_of_unsealed, List.append_nil]
    · exact h
    · change (StreamLink.dataTypeOf command).id ≠ DataType.encrypted.id
      rw [hauth]
      decide
  · have hframes := sealedFrames_of_sealed (link.sealedFrame
      (.command 0 (StreamLink.dataTypeOf command) command.toBytes) text) .stream htype
    rw [hframes]
    cases hkeys : handshake.keys? with
    | none =>
        rw [Handshake.cipher?, hkeys] at hsealed
        cases hsealed
    | some keys =>
        rw [Handshake.cipher?, hkeys] at hsealed
        rw [hkeys] at h
        exact h.snoc ⟨link.sealedFrame (.command 0 (StreamLink.dataTypeOf command) command.toBytes)
          text, _, text, htype, hsealed, rfl⟩

variable [Radio R]

theorem Within.submit {start : Option SessionKeys} {past : List Bytes}
    {s : Session StreamLink S R} (h : Within start past s) (transaction : Transaction)
    (hops : sealedFrames transaction.ops = []) : Within start past (s.submit transaction).1 := by
  refine h.of_eq rfl rfl ?_
  rw [sealedAsked_submit, hops, List.append_nil]

theorem Within.send {start : Option SessionKeys} {past : List Bytes}
    {s : Session StreamLink S R} (h : Within start past s) (task : String) (command : Command) :
    Within start past (s.send task command).1 := by
  rcases send_cases s task command with hsend | ⟨link, op, written, hsend⟩
  · rwa [hsend]
  · rw [hsend]
    refine ⟨h.coherent, h.kept, ?_⟩
    have hnumbered := numbered_writeCommand written h.numbered
    rw [List.append_assoc] at hnumbered
    rw [sealedAsked_submit]
    exact hnumbered

variable [Service S]

theorem Within.react {start : Option SessionKeys} {past : List Bytes}
    (s t : Session StreamLink S R) (reaction : Reaction s t) (h : Within start past s) :
    Within start past t := by
  cases reaction with
  | tell event => exact h.of_eq rfl rfl (sealedAsked_tell s event)
  | device => exact h.of_eq rfl rfl rfl
  | registry => exact h.of_eq rfl rfl rfl
  | upload => exact h.of_eq rfl rfl rfl
  | send task command => exact h.send task command
  | parts written => exact h.of_eq rfl written.unsealed.1 rfl
  | @submitParts _ next _ progress written progressOnly =>
      have hparts : Within start past { s with link := next } :=
        h.of_eq rfl written.unsealed.1 rfl
      refine hparts.submit _ ?_
      rw [sealedFrames_append, written.unsealed.2, sealedFrames_progress progressOnly,
        List.append_nil]
  | @answer command _ handshake handled =>
      obtain ⟨hbefore, hafter⟩ := Handshake.awaits_of_send handled
      have hcoherent := h.coherent.handle command
      rw [handled] at hcoherent
      have hrenewed : Within start past { s with handshake := handshake } :=
        h.renew (h.coherent.keys?_of_awaits hbefore) hcoherent rfl
          (.inl (hcoherent.keys?_of_awaits hafter))
      exact hrenewed.send _ _
  | @accept _ handshake handled =>
      have hkeys := h.coherent.keys?_of_awaits (Handshake.awaits_of_authenticated handled)
      have hsealed : (s.opened handshake).sealedAsked = s.sealedAsked := by
        rw [opened, setState, sealedAsked_tell]
        exact (sealedAsked_submit _ _).trans (List.append_nil _)
      exact h.renew hkeys (coherent_react s _ (.accept s handled) h.coherent) hsealed (.inr rfl)
  | @refuse _ handshake handled =>
      have hkeys := h.coherent.keys?_of_awaits (Handshake.awaits_of_failed handled)
      have hsealed : (s.refused handshake).sealedAsked = s.sealedAsked := by
        rw [refused, setState, sealedAsked_tell]
        exact sealedAsked_tell _ _
      exact h.renew hkeys (Handshake.coherent_reset _) hsealed (.inl rfl)

theorem Within.move {start : Option SessionKeys} {past : List Bytes} (s t : Session StreamLink S R)
    (move : Move s t) (h : Within start past s) : Within start past t := by
  cases move with
  | react reaction => exact Within.react s t reaction h
  | inbox => exact h.of_eq rfl rfl rfl
  | receive endpoint data => exact h.of_eq rfl (counter_receive _ _ _ _) rfl
  | resync => exact h.of_eq rfl rfl rfl

end

/-! ## Runs -/

/-- A session with the sealed frames that were written under the keys it has. -/
structure Tracked (S R : Type) where
  session : Session StreamLink S R
  epoch : List Bytes := []

namespace Tracked

/-- What stays of the frames from before a call: all of them while the keys are the same. -/
def past (t : Tracked S R) (s : Session StreamLink S R) : List Bytes :=
  if s.handshake.keys? = t.session.handshake.keys? then t.epoch else []

section

variable [CipherSuite]

/-- The invariant of a run. -/
structure Valid (t : Tracked S R) : Prop where
  coherent : t.session.handshake.Coherent
  numbered : Numbered t.session.handshake.keys? t.session.link.counter t.epoch

theorem Valid.ofConfig {link : StreamLink} {radio : R} {config : LinkConfig}
    {capabilities : Capabilities} {s : Session StreamLink S R}
    (hs : Session.ofConfig link radio config capabilities = .ok s) :
    Valid { session := s } := by
  obtain ⟨secret, rfl⟩ := eq_of_ofConfig hs
  exact ⟨⟨iff_of_false nofun nofun, nofun⟩, .unkeyed _⟩

theorem Valid.within {t : Tracked S R} (h : t.Valid) :
    Within t.session.handshake.keys? t.epoch t.session.clearEffects where
  coherent := h.coherent
  kept := fun _ hkeys => hkeys
  numbered := by
    change Numbered _ _ (t.epoch ++ [])
    rw [List.append_nil]
    exact h.numbered

/-- A call that does not drop the keys goes on with the frames from before. -/
theorem Valid.past_eq {t : Tracked S R} (h : t.Valid) {s : Session StreamLink S R}
    (hs : Within t.session.handshake.keys? t.epoch s) : t.past s = t.epoch := by
  rw [past]
  split
  · rfl
  · -- Keys that were there are kept, so there were none, and no frames either.
    rename_i hkeys
    cases hstart : t.session.handshake.keys? with
    | none =>
        have hnumbered := h.numbered
        rw [hstart] at hnumbered
        exact hnumbered.epoch_eq_nil.symm
    | some keys =>
        rw [hstart] at hkeys
        exact absurd (hs.kept keys hstart) hkeys

theorem Valid.past_eq_nil {t : Tracked S R} (h : t.Valid) {s : Session StreamLink S R}
    (hkeys : s.handshake.keys? = none) : t.past s = [] := by
  rw [past]
  split
  · rename_i hsame
    have hnumbered := h.numbered
    rw [← hsame, hkeys] at hnumbered
    exact hnumbered.epoch_eq_nil
  · rfl

variable [Service S] [Radio R]

/-- A call, and the sealed frames it wrote: those the radio was asked to write and those that were
handed out to the host. -/
def perform (t : Tracked S R) (call : HostCall S R) : Tracked S R :=
  let (s, handedOut) := t.session.clearEffects.perform call
  { session := s, epoch := t.past s ++ sealedFrames (s.asked ++ handedOut) }

def run (t : Tracked S R) (calls : List (HostCall S R)) : Tracked S R := calls.foldl perform t

theorem session_run (t : Tracked S R) (calls : List (HostCall S R)) :
    (t.run calls).session = t.session.run calls := by
  induction calls generalizing t with
  | nil => rfl
  | cons call calls ih => exact ih (t.perform call)

theorem Valid.perform {t : Tracked S R} (h : t.Valid) (call : HostCall S R) :
    (t.perform call).Valid := by
  -- A call either goes on with the keys there are, or ends without any.
  have hkept {s : Session StreamLink S R} (hs : Within t.session.handshake.keys? t.epoch s) :
      Valid ⟨s, t.past s ++ sealedFrames (s.asked ++ [])⟩ := by
    rw [h.past_eq hs, List.append_nil]
    exact ⟨hs.coherent, hs.numbered⟩
  have hdropped {s : Session StreamLink S R} (hcoherent : s.handshake.Coherent)
      (hkeys : s.handshake.keys? = none) (hsealed : s.sealedAsked = []) :
      Valid ⟨s, t.past s ++ sealedFrames (s.asked ++ [])⟩ := by
    rw [h.past_eq_nil hkeys, List.append_nil, List.nil_append]
    refine ⟨hcoherent, ?_⟩
    change Numbered s.handshake.keys? _ s.sealedAsked
    rw [hkeys, hsealed]
    exact .unkeyed _
  have hperformed := t.session.clearEffects.performed call
  rw [Tracked.perform]
  generalize t.session.clearEffects.perform call = result at hperformed ⊢
  cases hperformed with
  | connect discovery nonce =>
      obtain ⟨hkeys, hsealed⟩ := connect_unkeyed t.session.clearEffects discovery nonce
      exact hdropped (coherent_connect h.within.coherent discovery nonce) hkeys hsealed
  | disconnect => exact hdropped (Handshake.coherent_reset _) rfl (sealedAsked_tell _ _)
  | mtuChanged mtu => exact hkept (h.within.of_eq rfl rfl rfl)
  | radio radio => exact hkept (h.within.of_eq rfl rfl rfl)
  | register service => exact hkept (h.within.of_eq rfl rfl rfl)
  | @sendIn _ link _ written =>
      have hnumbered := numbered_writeCommand written h.numbered
      have hpast : t.past { t.session.clearEffects with link := link } = t.epoch := if_pos rfl
      rw [← hpast] at hnumbered
      exact ⟨h.coherent, hnumbered⟩
  | moved moves => exact hkept (moves.keep Within.move h.within)

theorem Valid.run {t : Tracked S R} (h : t.Valid) (calls : List (HostCall S R)) :
    (t.run calls).Valid := by
  induction calls generalizing t with
  | nil => exact h
  | cons call calls ih => exact ih (h.perform call)

/-- With keys, a command of the host's that is not too long to be sealed goes out as one more
frame. -/
theorem epoch_sendIn {t : Tracked S R} {keys : SessionKeys} {command : Command}
    (hkeys : t.session.handshake.keys? = some keys)
    (htype : StreamLink.dataTypeOf command = .encrypted)
    (short : command.toBytes.length < Cipher.Ccm.lengthLimit) :
    (t.perform (.sendIn command)).session.handshake = t.session.handshake ∧
      ∃ octets, (t.perform (.sendIn command)).epoch = t.epoch ++ [octets] := by
  let frame := Frame.command 0 (StreamLink.dataTypeOf command) command.toBytes
  obtain ⟨text, -, hwritten⟩ := t.session.link.exists_writeCommand_of_sealed keys htype short
  rw [← Handshake.cipher?_of_keys? hkeys] at hwritten
  have hframes := sealedFrames_of_sealed (t.session.link.sealedFrame frame text) .stream htype
  have hpast : t.past { t.session.clearEffects with link := t.session.link.afterSealed } =
      t.epoch := if_pos rfl
  rw [Tracked.perform, perform_sendIn (s := t.session.clearEffects) hwritten]
  refine ⟨rfl, (t.session.link.sealedFrame frame text).octets, ?_⟩
  rw [← hpast, ← hframes]
  rfl

/-- Over every run the sealed frames under one set of keys are numbered by their counters, from one
on and modulo 65536, each is sealed under the counter it carries, and the link's counter is that of
the last. So two of them share a nonce exactly when their positions differ by a multiple of 65536,
and the nonce under which the handshake sealed the phone's description comes back at multiples of
65536 only. Without keys nothing is sealed. -/
theorem nonce_use {link : StreamLink} {radio : R} {config : LinkConfig}
    {capabilities : Capabilities} {s : Session StreamLink S R}
    (hs : Session.ofConfig link radio config capabilities = .ok s)
    (calls : List (HostCall S R)) :
    ((run { session := s } calls).session.handshake.keys? = none →
      (run { session := s } calls).epoch = []) ∧
    ∀ keys, (run { session := s } calls).session.handshake.keys? = some keys →
      (run { session := s } calls).session.link.counter =
        .ofNat (run { session := s } calls).epoch.length ∧
      (∀ i octets, (run { session := s } calls).epoch[i]? = some octets →
        SealedUnder keys (.ofNat (i + 1)) octets ∧
        carried octets = .ofNat (i + 1) ∧
        (SessionKeys.packetNonce keys.encNonce (carried octets) =
          SessionKeys.packetNonce keys.encNonce 0 ↔ (i + 1) % 65536 = 0)) ∧
      ∀ i j a b, (run { session := s } calls).epoch[i]? = some a →
        (run { session := s } calls).epoch[j]? = some b →
        (SessionKeys.packetNonce keys.encNonce (carried a) =
          SessionKeys.packetNonce keys.encNonce (carried b) ↔ i % 65536 = j % 65536) := by
  have hvalid := ((Valid.ofConfig hs).run calls).numbered
  generalize run { session := s } calls = t at hvalid ⊢
  refine ⟨?_, ?_⟩
  · intro hkeys
    rw [hkeys] at hvalid
    exact hvalid.epoch_eq_nil
  · intro keys hkeys
    rw [hkeys] at hvalid
    cases hvalid with
    | keyed count numbered =>
        have hcarried : ∀ i octets, t.epoch[i]? = some octets → carried octets = .ofNat (i + 1) :=
          fun i octets hi => (numbered i octets hi).carried_eq
        refine ⟨count, ?_, ?_⟩
        · intro i octets hi
          refine ⟨numbered i octets hi, hcarried i octets hi, ?_⟩
          rw [SessionKeys.packetNonce_eq_iff, hcarried i octets hi, ← UInt16.toNat_inj,
            UInt16.toNat_ofNat']
          exact Iff.rfl
        · intro i j a b hi hj
          rw [SessionKeys.packetNonce_eq_iff, hcarried i a hi, hcarried j b hj,
            ← UInt16.toNat_inj, UInt16.toNat_ofNat', UInt16.toNat_ofNat']
          omega

end

/-- After a connection has come about and the host has had two commands written, there are frames
under its keys; the first two carry one and two, and share no nonce. -/
theorem nonce_use_paired :
    ∃ (s : Session StreamLink DeviceService RadioQueue) (calls : List (HostCall _ _))
      (keys : SessionKeys) (a b : Bytes) (rest : List Bytes),
      Session.ofConfig {} {} bareConfig {} = .ok s ∧
      keys = .derive (.zero 16) (.zero 16) (.replicate 16 1) ∧
      (run { session := s } calls).session.handshake.keys? = some keys ∧
      (run { session := s } calls).epoch = a :: b :: rest ∧
      (run { session := s } calls).session.link.counter = .ofNat (rest.length + 2) ∧
      carried a = 1 ∧ carried b = 2 ∧
      SessionKeys.packetNonce keys.encNonce (carried a) ≠
        SessionKeys.packetNonce keys.encNonce (carried b) := by
  obtain ⟨s, hs, hrest, hsecret, htaken, hinfo⟩ := exists_bare
  have hkeys := keys?_run_pairing bareHost (.zero 16) (.replicate 16 1) hrest (routed_ofConfig hs)
    (htaken _) hinfo
  rw [hsecret] at hkeys
  generalize pairing bareHost (.zero 16) (.zero 16) (.replicate 16 1) = calls at hkeys
  rw [← session_run { session := s } calls] at hkeys
  -- Each of two commands is one more frame.
  let battery := DeviceService.request DeviceService.batterySubtype
  have hshort : battery.toBytes.length < Cipher.Ccm.lengthLimit := by decide
  have htype : StreamLink.dataTypeOf battery = .encrypted := rfl
  obtain ⟨hkept, first, hfirst⟩ := epoch_sendIn hkeys htype hshort
  rw [← hkept] at hkeys
  obtain ⟨hkept, second, hsecond⟩ := epoch_sendIn hkeys htype hshort
  rw [← hkept] at hkeys
  have hrun : run { session := s } (calls ++ [.sendIn battery, .sendIn battery]) =
      ((run { session := s } calls).perform (.sendIn battery)).perform (.sendIn battery) :=
    List.foldl_append
  rw [← hrun] at hkeys hsecond
  rw [hfirst, List.append_assoc] at hsecond
  obtain ⟨a, b, rest, hepoch⟩ : ∃ a b rest,
      (run { session := s } calls).epoch ++ ([first] ++ [second]) = a :: b :: rest := by
    rcases (run { session := s } calls).epoch with _ | ⟨a, _ | ⟨b, rest⟩⟩
    · exact ⟨first, second, [], rfl⟩
    · exact ⟨a, first, [second], rfl⟩
    · exact ⟨a, b, rest ++ ([first] ++ [second]), rfl⟩
  rw [hepoch] at hsecond
  obtain ⟨hcounter, hnumbered, hnonces⟩ := (nonce_use hs _).2 _ hkeys
  rw [hsecond] at hcounter hnumbered hnonces
  refine ⟨s, _, _, a, b, rest, hs, rfl, hkeys, hsecond, hcounter, (hnumbered 0 a rfl).2.1,
    (hnumbered 1 b rfl).2.1, ?_⟩
  exact mt (hnonces 0 1 a b rfl rfl).1 (by decide)

end Tracked

end Session

end WatchLink
