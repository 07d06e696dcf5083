import Mathlib.Data.List.DropRight
import WatchLink.Proofs.Frame.RoundTrip
import WatchLink.Proofs.Link.BulkReading

/-!
# Writes and their numbers

A write goes into a transaction of the caller's. Either it fails, and link and transaction are what
they were, or one write stands behind what the transaction held: both are proved of what the links
hand back, with the link and the transaction in it on either outcome. Which numbers the write
carries is the link's to say: a stream numbers its frames and, apart from that, those that it seals;
a characteristic for commands numbers what it seals; the one for uploads seals everything under
zero. Whatever is done with a link, in any order and with any ciphers, these numbers count the
writes since they were last set to zero, and a write that failed is not counted.
-/

namespace WatchLink

/-- What a link is given to write. -/
inductive Outgoing where
  | command (command : Command)
  | part (bytes : Bytes)

/-- What can be done with a link. -/
inductive LinkCall where
  | bind (discovery : Discovery)
  | receive (endpoint : Endpoint) (data : Bytes) (cipher : Option PacketCipher)
  | write (transaction : Transaction) (item : Outgoing) (cipher : Option PacketCipher)
  | setMtu (mtu : Nat)
  | resync
  | resetCounters
  | teardown

namespace Link

variable {L : Type} [Link L]

def write (link : L) : Outgoing → Option PacketCipher → Writing L
  | .command command => Link.writeCommand link command
  | .part bytes => Link.writeBulk link bytes

theorem write_allOrNothing (link : L) (item : Outgoing) (cipher : Option PacketCipher) :
    (write link item cipher).AllOrNothing link := by
  cases item with
  | command command => exact Link.writeCommand_allOrNothing link command cipher
  | part bytes => exact Link.writeBulk_allOrNothing link bytes cipher

/-- The link after a call. -/
def perform (link : L) : LinkCall → L
  | .bind discovery => (Link.bind link discovery).1
  | .receive endpoint data cipher => (Link.receive link endpoint data cipher).1
  | .write transaction item cipher => (write link item cipher transaction).1
  | .setMtu mtu => Link.setMtu link mtu
  | .resync => Link.resync link
  | .resetCounters => Link.resetCounters link
  | .teardown => Link.teardown link

def run (link : L) (calls : List LinkCall) : L := calls.foldl perform link

/-- The calls of a run, each with the link that it found. -/
def history (link : L) : List LinkCall → List (L × LinkCall)
  | [] => []
  | call :: calls => (link, call) :: history (perform link call) calls

/-- What was done since the numbers were last set to zero. -/
def since (resets : LinkCall → Bool) (history : List (L × LinkCall)) : List (L × LinkCall) :=
  history.rtakeWhile fun entry => !resets entry.2

/-- Whether something was written. -/
def wrote : L × LinkCall → Bool
  | (link, .write transaction item cipher) => (write link item cipher transaction).2.2.isOk
  | _ => false

theorem run_snoc (link : L) (calls : List LinkCall) (call : LinkCall) :
    run link (calls ++ [call]) = perform (run link calls) call := by
  simp [run]

section

variable {link next : L} {item : Outgoing} {cipher : Option PacketCipher} {op : RadioOp}
  {e : LinkError}

theorem perform_of_written (h : (write link item cipher).Puts next op)
    (transaction : Transaction) : perform link (.write transaction item cipher) = next := by
  rw [perform, h]

theorem perform_of_refused (h : (write link item cipher).Fails link e)
    (transaction : Transaction) : perform link (.write transaction item cipher) = link := by
  rw [perform, h]

theorem wrote_of_written (h : (write link item cipher).Puts next op) (transaction : Transaction) :
    wrote (link, .write transaction item cipher) = true := by
  rw [wrote, h]
  rfl

theorem wrote_of_refused (h : (write link item cipher).Fails link e) (transaction : Transaction) :
    wrote (link, .write transaction item cipher) = false := by
  rw [wrote, h]
  rfl

end

theorem history_snoc (link : L) (calls : List LinkCall) (call : LinkCall) :
    history link (calls ++ [call]) = history link calls ++ [(run link calls, call)] := by
  induction calls generalizing link with
  | nil => rfl
  | cons first calls ih =>
      rw [List.cons_append, history, ih]
      rfl

omit [Link L] in
theorem since_snoc_of_reset {resets : LinkCall → Bool} {history : List (L × LinkCall)} {link : L}
    {call : LinkCall} (h : resets call = true) : since resets (history ++ [(link, call)]) = [] :=
  List.rtakeWhile_concat_neg _ _ _ (by simp [h])

omit [Link L] in
theorem since_snoc {resets : LinkCall → Bool} {history : List (L × LinkCall)} {link : L}
    {call : LinkCall} (h : resets call = false) :
    since resets (history ++ [(link, call)]) = since resets history ++ [(link, call)] :=
  List.rtakeWhile_concat_pos _ _ _ (by simp [h])

end Link

/-! ## Over a stream -/

namespace StreamLink

open Link (history since wrote)

/-- The frame that something travels in, before it is numbered. -/
def frameOf : Outgoing → Frame
  | .command command => Frame.command 0 (dataTypeOf command) command.toBytes
  | .part bytes => bulkFrame bytes

/-- What sets the numbers of a stream to zero. -/
def resets : LinkCall → Bool
  | .resetCounters | .teardown => true
  | _ => false

/-- Whether something was written that is sealed. -/
def sealedOne : StreamLink × LinkCall → Bool
  | (link, .write transaction item cipher) =>
    wrote (link, .write transaction item cipher) && (frameOf item).dataType = .encrypted
  | _ => false

/-- The numbers of a stream are those of what it wrote, and what it can write next carries them. -/
structure Counted (history : List (StreamLink × LinkCall)) (link : StreamLink) : Prop where
  serial : link.serial.toNat = history.countP wrote % 256
  counter : link.counter.toNat = history.countP sealedOne % 65536
  carried : ∀ item cipher op, (∃ next, (Link.write link item cipher).Puts next op) ↔
    ∃ wire counter, (frameOf item).Carries (cipher.getD .refusing) link.counter wire counter ∧
      op = .write .stream { frameOf item with serial := link.serial, payload := wire }.octets

variable (link : StreamLink)

theorem write_eq (item : Outgoing) (cipher : Option PacketCipher) :
    Link.write link item cipher = link.writeFrame (frameOf item) cipher := by
  cases item <;> rfl

theorem written_iff {item : Outgoing} {cipher : Option PacketCipher} {op : RadioOp} :
    (∃ next, (Link.write link item cipher).Puts next op) ↔
      ∃ wire counter, (frameOf item).Carries (cipher.getD .refusing) link.counter wire counter ∧
        op =
          .write .stream { frameOf item with serial := link.serial, payload := wire }.octets := by
  rw [write_eq]
  constructor
  · rintro ⟨next, hwrite⟩
    rcases writeFrame_cases link _ cipher hwrite with ⟨htype, -, rfl⟩ | ⟨htype, -, text, htext, rfl⟩
    · exact ⟨_, _, .clear htype, rfl⟩
    · exact ⟨_, _, .sealed htype htext, rfl⟩
  · rintro ⟨wire, counter, ⟨htype⟩ | ⟨htype, htext⟩, rfl⟩
    · exact ⟨_, writeFrame_of_unsealed link _ cipher htype⟩
    · exact ⟨_, writeFrame_of_sealed link _ cipher htype htext⟩

/-- What a call adds to the numbers, where it does not set them to zero. -/
theorem numbers_perform {call : LinkCall} (h : resets call = false) :
    (Link.perform link call).serial = link.serial + (if wrote (link, call) then 1 else 0) ∧
      (Link.perform link call).counter =
        link.counter + (if sealedOne (link, call) then 1 else 0) := by
  cases call with
  | write transaction item cipher =>
      cases Link.write_allOrNothing link item cipher with
      | fails e failed =>
          rw [Link.perform_of_refused failed, sealedOne, Link.wrote_of_refused failed]
          exact ⟨(UInt8.add_zero _).symm, (UInt16.add_zero _).symm⟩
      | puts next endpoint data made =>
          rw [Link.perform_of_written made, sealedOne, Link.wrote_of_written made]
          rw [write_eq] at made
          rcases writeFrame_cases link _ cipher made with ⟨htype, rfl, -⟩ | ⟨htype, rfl, -⟩
          · simp [htype, afterUnsealed]
          · simp [htype, afterSealed]
  | receive endpoint data cipher =>
      have hsame : (link.receive endpoint data cipher).1.serial = link.serial ∧
          (link.receive endpoint data cipher).1.counter = link.counter := by
        rw [receive]
        split <;> exact ⟨rfl, rfl⟩
      exact ⟨hsame.1.trans (UInt8.add_zero _).symm, hsame.2.trans (UInt16.add_zero _).symm⟩
  | bind discovery => exact ⟨(UInt8.add_zero _).symm, (UInt16.add_zero _).symm⟩
  | setMtu mtu => exact ⟨(UInt8.add_zero _).symm, (UInt16.add_zero _).symm⟩
  | resync => exact ⟨(UInt8.add_zero _).symm, (UInt16.add_zero _).symm⟩
  | resetCounters => cases h
  | teardown => cases h

theorem numbers_of_reset {call : LinkCall} (h : resets call = true) :
    (Link.perform link call).serial = 0 ∧ (Link.perform link call).counter = 0 := by
  cases call with
  | resetCounters => exact ⟨rfl, rfl⟩
  | teardown => exact ⟨rfl, rfl⟩
  | bind discovery => cases h
  | receive endpoint data cipher => cases h
  | write transaction item cipher => cases h
  | setMtu mtu => cases h
  | resync => cases h

/-- The numbers after a run. -/
theorem numbers_run (first : StreamLink) (hserial : first.serial = 0) (hcounter : first.counter = 0)
    (calls : List LinkCall) :
    (Link.run first calls).serial =
        UInt8.ofNat ((since resets (history first calls)).countP wrote) ∧
      (Link.run first calls).counter =
        UInt16.ofNat ((since resets (history first calls)).countP sealedOne) := by
  -- From the back: the last call is either what the numbers start from or one more entry.
  induction calls using List.reverseRecOn with
  | nil => exact ⟨hserial, hcounter⟩
  | append_singleton calls call ih =>
      rw [Link.run_snoc, Link.history_snoc]
      cases hreset : resets call with
      | true =>
          rw [Link.since_snoc_of_reset hreset]
          exact numbers_of_reset _ hreset
      | false =>
          obtain ⟨hserial', hcounter'⟩ := numbers_perform (Link.run first calls) hreset
          rw [Link.since_snoc hreset, List.countP_append, List.countP_append, hserial', hcounter',
            ih.1, ih.2, List.countP_singleton, List.countP_singleton, UInt8.ofNat_add,
            UInt16.ofNat_add]
          constructor <;> split <;> rfl

theorem counted_run (chunkSize : Nat) (calls : List LinkCall) :
    Counted (since resets (history ({ chunkSize } : StreamLink) calls))
      (Link.run { chunkSize } calls) := by
  obtain ⟨hserial, hcounter⟩ := numbers_run { chunkSize } rfl rfl calls
  exact {
    serial := by rw [hserial, UInt8.toNat_ofNat']
    counter := by rw [hcounter, UInt16.toNat_ofNat']
    carried := fun _ _ _ => written_iff _ }

end StreamLink

/-! ## Over characteristics -/

namespace Resource

variable {r : Resource} {cipher : Option PacketCipher}

theorem cipherFor_eq_none_iff :
    r.cipherFor cipher = none ↔ (r.encrypted = true → cipher = none) := by
  rw [cipherFor]
  split <;> simp_all

theorem cipherFor_eq_some_iff {c : PacketCipher} :
    r.cipherFor cipher = some c ↔ r.encrypted = true ∧ cipher = some c := by
  rw [cipherFor]
  split <;> simp_all

theorem encode_of_clear (h : r.cipherFor cipher = none) (value : Bytes) :
    r.encode value cipher = (r, .ok value) := by
  rw [encode, h]

theorem encode_of_sealed {c : PacketCipher} {value text : Bytes} (h : r.cipherFor cipher = some c)
    (text_eq : c.sealed r.nextCounter value = .ok text) :
    r.encode value cipher =
      ({ r with counter := r.nextCounter }, .ok (Bytes.le16 r.nextCounter ++ text)) := by
  simp only [encode, h, text_eq]

end Resource

/-- The characteristics of a layout after so many sealed commands. -/
def BoundResources.numbered (t : ServiceTemplate) (sealed : Nat) : BoundResources :=
  { ofTemplate t with
    commandWrite := { (ofTemplate t).commandWrite with counter := .ofNat sealed } }

theorem BoundResources.nextCounter_numbered (t : ServiceTemplate) (sealed : Nat) :
    (numbered t sealed).commandWrite.nextCounter = .ofNat (sealed + 1) :=
  (UInt16.ofNat_add sealed 1).symm

namespace GattLink

open Link (history since wrote)

/-- What sets the numbers of characteristics to zero. Settling on a layout does. -/
def resets : LinkCall → Bool
  | .bind _ | .resetCounters | .teardown => true
  | _ => false

/-- Whether a command was written that is sealed. -/
def sealedCommand : GattLink × LinkCall → Bool
  | (link, .write transaction (.command command) cipher) =>
    wrote (link, .write transaction (.command command) cipher) &&
      link.bound.any BoundResources.encrypted && cipher.isSome
  | _ => false

/-- The write of something to characteristics, in clear or sealed under its number. -/
inductive Carried (b : BoundResources) (sealed : Nat) (cipher : Option PacketCipher) :
    Outgoing → RadioOp → Prop
  | clearCommand (command : Command) (h : b.encrypted = true → cipher = none) :
      Carried b sealed cipher (.command command)
        (.write (.resource b.commandWrite.uuid) command.toBytes)
  | clearPart (bytes : Bytes) (h : b.encrypted = true → cipher = none) :
      Carried b sealed cipher (.part bytes) (.write (.resource b.dataUpload.uuid) bytes)
  | sealedCommand {c : PacketCipher} {command : Command} {text : Bytes}
      (encrypted : b.encrypted = true) (cipher_eq : cipher = some c)
      (text_eq : c.sealed (.ofNat (sealed + 1)) command.toBytes = .ok text) :
      Carried b sealed cipher (.command command)
        (.write (.resource b.commandWrite.uuid) (Bytes.le16 (.ofNat (sealed + 1)) ++ text))
  | sealedPart {c : PacketCipher} {bytes text : Bytes} (encrypted : b.encrypted = true)
      (cipher_eq : cipher = some c) (text_eq : c.sealed 0 bytes = .ok text) :
      Carried b sealed cipher (.part bytes)
        (.write (.resource b.dataUpload.uuid) (Bytes.le16 0 ++ text))

/-- Commands are numbered by those that were sealed and nothing else is, and what can be written
next carries that number. -/
structure Counted (history : List (GattLink × LinkCall)) (link : GattLink) : Prop where
  numbers : ∀ b, link.bound = some b →
    b.commandWrite.counter.toNat = history.countP sealedCommand % 65536 ∧
      b.dataUpload.counter = 0 ∧ b.commandRead.counter = 0 ∧ b.activityData.counter = 0
  carried : ∀ item cipher op, (∃ next, (Link.write link item cipher).Puts next op) ↔
    ∃ b, link.bound = some b ∧ Carried b (history.countP sealedCommand) cipher item op

/-- Whatever is bound is a layout after so many sealed commands. Which layout is not said: a link
settles on another one without being told what it was settled on before. -/
def Numbered (link : GattLink) (sealed : Nat) : Prop :=
  ∀ b, link.bound = some b → ∃ t, b = .numbered t sealed

variable {link next : GattLink} {sealed : Nat} {cipher : Option PacketCipher} {op : RadioOp}

theorem sealedCommand_of_written {b : BoundResources} {command : Command}
    (h : (Link.write link (.command command) cipher).Puts next op)
    (hbound : link.bound = some b) (transaction : Transaction) :
    sealedCommand (link, .write transaction (.command command) cipher) =
      (b.encrypted && cipher.isSome) := by
  rw [sealedCommand, Link.wrote_of_written h, hbound]
  rfl

/-- What a write leaves bound, beside what it writes. -/
theorem written_of_numbered (hnumbered : link.Numbered sealed) (transaction : Transaction)
    {item : Outgoing} (h : (Link.write link item cipher).Puts next op) :
    ∃ t, link.bound = some (.numbered t sealed) ∧
      next.bound = some (.numbered t
        (sealed + if sealedCommand (link, .write transaction item cipher) then 1 else 0)) ∧
      Carried (.numbered t sealed) sealed cipher item op := by
  cases item with
  | command command =>
      obtain ⟨b, r, value, hbound, hencode, rfl, rfl⟩ := writeCommand_cases h
      obtain ⟨t, rfl⟩ := hnumbered b hbound
      refine ⟨t, hbound, ?_⟩
      rw [sealedCommand_of_written h hbound]
      rcases encode_cases hencode with ⟨hclear, rfl, rfl⟩ | ⟨c, text, hsome, rfl, htext, rfl⟩
      · have hclear' := Resource.cipherFor_eq_none_iff.1 hclear
        have hunsealed :
            ((BoundResources.numbered t sealed).encrypted && cipher.isSome) = false := by
          rw [Bool.and_eq_false_imp]
          intro hencrypted
          rw [hclear' hencrypted]
          rfl
        rw [hunsealed]
        exact ⟨rfl, .clearCommand _ hclear'⟩
      · obtain ⟨hencrypted, rfl⟩ := Resource.cipherFor_eq_some_iff.1 hsome
        have hsealed :
            ((BoundResources.numbered t sealed).encrypted && (some c).isSome) = true :=
          Bool.and_eq_true_iff.2 ⟨hencrypted, rfl⟩
        rw [BoundResources.nextCounter_numbered] at htext ⊢
        rw [hsealed]
        exact ⟨rfl, .sealedCommand hencrypted rfl htext⟩
  | part bytes =>
      obtain ⟨b, r, value, hbound, hencode, rfl, rfl⟩ := writeBulk_cases h
      obtain ⟨t, rfl⟩ := hnumbered b hbound
      refine ⟨t, hbound, ?_⟩
      -- The counter of the characteristic for uploads does not move, so `t` is left as it is.
      rcases encode_cases hencode with ⟨hclear, rfl, rfl⟩ | ⟨c, text, hsome, rfl, htext, rfl⟩
      · exact ⟨rfl, .clearPart _ (Resource.cipherFor_eq_none_iff.1 hclear)⟩
      · obtain ⟨hencrypted, rfl⟩ := Resource.cipherFor_eq_some_iff.1 hsome
        exact ⟨rfl, .sealedPart hencrypted rfl htext⟩

theorem written_of_carried {t : ServiceTemplate} {item : Outgoing}
    (hbound : link.bound = some (.numbered t sealed))
    (h : Carried (.numbered t sealed) sealed cipher item op) :
    ∃ next, (Link.write link item cipher).Puts next op := by
  cases h with
  | clearCommand command hclear =>
      exact ⟨_, writeCommand_of_encode hbound
        (Resource.encode_of_clear (Resource.cipherFor_eq_none_iff.2 hclear) _)⟩
  | clearPart bytes hclear =>
      exact ⟨_, writeBulk_of_encode hbound
        (Resource.encode_of_clear (Resource.cipherFor_eq_none_iff.2 hclear) _)⟩
  | sealedCommand encrypted cipher_eq text_eq =>
      rw [← BoundResources.nextCounter_numbered t] at text_eq ⊢
      exact ⟨_, writeCommand_of_encode hbound (Resource.encode_of_sealed
        (Resource.cipherFor_eq_some_iff.2 ⟨encrypted, cipher_eq⟩) text_eq)⟩
  | sealedPart encrypted cipher_eq text_eq =>
      exact ⟨_, writeBulk_of_encode hbound (Resource.encode_of_sealed
        (Resource.cipherFor_eq_some_iff.2 ⟨encrypted, cipher_eq⟩) text_eq)⟩

/-- What a call adds to the number, where it does not set it to zero. -/
theorem numbered_perform (hnumbered : link.Numbered sealed) {call : LinkCall}
    (h : resets call = false) :
    (Link.perform link call).Numbered (sealed + if sealedCommand (link, call) then 1 else 0) := by
  cases call with
  | write transaction item cipher =>
      cases Link.write_allOrNothing link item cipher with
      | fails e failed =>
          have hsealed : sealedCommand (link, .write transaction item cipher) = false := by
            cases item with
            | command command =>
                rw [sealedCommand, Link.wrote_of_refused failed]
                rfl
            | part bytes => rfl
          rw [Link.perform_of_refused failed, hsealed]
          exact hnumbered
      | puts next endpoint data made =>
          obtain ⟨t, -, hnext, -⟩ := written_of_numbered hnumbered transaction made
          rw [Link.perform_of_written made]
          intro b hb
          exact ⟨t, Option.some.inj (hb.symm.trans hnext)⟩
  | receive endpoint data cipher =>
      have hsame : (link.receive endpoint data cipher).1 = link := by
        unfold receive
        split <;> rfl
      show (link.receive endpoint data cipher).1.Numbered sealed
      rw [hsame]
      exact hnumbered
  | setMtu mtu => exact hnumbered
  | resync => exact hnumbered
  | bind discovery => cases h
  | resetCounters => cases h
  | teardown => cases h

theorem numbered_of_reset (hnumbered : link.Numbered sealed) {call : LinkCall}
    (h : resets call = true) : (Link.perform link call).Numbered 0 := by
  cases call with
  | bind discovery =>
      show (link.bind discovery).1.Numbered 0
      rw [bind]
      split
      · rintro _ ⟨⟩
        exact ⟨_, rfl⟩
      · intro b hb
        cases hb
  | resetCounters =>
      intro b hb
      obtain ⟨b, hbound, rfl⟩ := Option.map_eq_some_iff.1 hb
      obtain ⟨t, rfl⟩ := hnumbered b hbound
      exact ⟨t, rfl⟩
  | teardown =>
      intro b hb
      cases hb
  | receive endpoint data cipher => cases h
  | write transaction item cipher => cases h
  | setMtu mtu => cases h
  | resync => cases h

theorem numbered_run (first : GattLink) (hfirst : first.bound = none) (calls : List LinkCall) :
    (Link.run first calls).Numbered
      ((since resets (history first calls)).countP sealedCommand) := by
  induction calls using List.reverseRecOn with
  | nil =>
      intro b hb
      cases hfirst.symm.trans hb
  | append_singleton calls call ih =>
      rw [Link.run_snoc, Link.history_snoc]
      cases hreset : resets call with
      | true =>
          rw [Link.since_snoc_of_reset hreset]
          exact numbered_of_reset ih hreset
      | false =>
          rw [Link.since_snoc hreset, List.countP_append, List.countP_singleton]
          exact numbered_perform ih hreset

theorem counted_run (templates : List ServiceTemplate) (mtuRequest : UInt16)
    (calls : List LinkCall) :
    Counted (since resets (history ({ templates, mtuRequest } : GattLink) calls))
      (Link.run { templates, mtuRequest } calls) := by
  have hnumbered := numbered_run { templates, mtuRequest } rfl calls
  constructor
  · intro b hb
    obtain ⟨t, rfl⟩ := hnumbered b hb
    exact ⟨UInt16.toNat_ofNat', rfl, rfl, rfl⟩
  · intro item cipher op
    constructor
    · rintro ⟨next, hwrite⟩
      obtain ⟨t, hbound, -, hcarried⟩ := written_of_numbered hnumbered { name := "" } hwrite
      exact ⟨_, hbound, hcarried⟩
    · rintro ⟨b, hbound, hcarried⟩
      obtain ⟨t, rfl⟩ := hnumbered b hbound
      exact written_of_carried hbound hcarried

end GattLink

namespace Link

/-- A write that fails leaves the link and the transaction as they were; one that succeeds puts one
write behind what the transaction held. -/
def Atomic {L : Type} (link : L) (writing : Writing L) : Prop :=
  ∀ transaction,
    (∀ e, (writing transaction).2.2 = .error e →
      (writing transaction).1 = link ∧ (writing transaction).2.1 = transaction) ∧
    ((writing transaction).2.2 = .ok () → ∃ endpoint data, (writing transaction).2.1 =
      { transaction with ops := transaction.ops ++ [.write endpoint data] })

theorem atomic_of_allOrNothing {L : Type} {link : L} {writing : Writing L}
    (h : writing.AllOrNothing link) : Atomic link writing := by
  intro transaction
  cases h with
  | puts next endpoint data made =>
      rw [made]
      exact ⟨fun e => nofun, fun _ => ⟨endpoint, data, rfl⟩⟩
  | fails e failed =>
      rw [failed]
      exact ⟨fun _ _ => ⟨rfl, rfl⟩, nofun⟩

/-- A link's writes are atomic. And whatever is done with it, each carries the number of the writes
since the numbers were last set to zero. -/
theorem writes_counted :
    (∀ (link : StreamLink) command cipher, Atomic link (link.writeCommand command cipher)) ∧
    (∀ (link : StreamLink) part cipher, Atomic link (link.writeBulk part cipher)) ∧
    (∀ (link : GattLink) command cipher, Atomic link (link.writeCommand command cipher)) ∧
    (∀ (link : GattLink) part cipher, Atomic link (link.writeBulk part cipher)) ∧
    (∀ chunkSize calls, StreamLink.Counted
      (since StreamLink.resets (history ({ chunkSize } : StreamLink) calls))
      (run { chunkSize } calls)) ∧
    ∀ templates mtuRequest calls, GattLink.Counted
      (since GattLink.resets (history ({ templates, mtuRequest } : GattLink) calls))
      (run { templates, mtuRequest } calls) :=
  ⟨fun link _ cipher => atomic_of_allOrNothing (link.writeFrame_allOrNothing _ cipher),
    fun link _ cipher => atomic_of_allOrNothing (link.writeFrame_allOrNothing _ cipher),
    fun link command cipher =>
      atomic_of_allOrNothing (link.writeCommand_allOrNothing command cipher),
    fun link part cipher => atomic_of_allOrNothing (link.writeBulk_allOrNothing part cipher),
    StreamLink.counted_run, GattLink.counted_run⟩

end Link

end WatchLink
