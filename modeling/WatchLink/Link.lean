import WatchLink.Cipher.Packet
import WatchLink.Command
import WatchLink.Transport

/-!
# Links

A link carries commands, activity data and uploads over one kind of connection. A session works
with any link; `StreamLink` and `GattLink` are the two of the library.

A write goes into a transaction of the caller's, which may hold operations already and is handed
back with the link, whether the write was made or not. Every link makes its writes whole or not at
all: one that fails leaves link and transaction as they were, one that succeeds puts one write
behind the operations there are.
-/

namespace WatchLink

/-- A write into a transaction: the link to go on with, the transaction, and how it went. -/
abbrev Writing (L : Type) := Transaction → L × Transaction × Except LinkError Unit

namespace Writing

variable {L α : Type} {writing : Writing L} {link next last : L} {op : RadioOp} {e : LinkError}

/-- Whatever the transaction holds, one operation comes behind it, and the link goes on as
another. -/
def Puts (writing : Writing L) (next : L) (op : RadioOp) : Prop :=
  ∀ transaction, writing transaction = (next, transaction.add [op], .ok ())

/-- Whatever the transaction holds, it stays as it is, and so does the link. -/
def Fails (writing : Writing L) (link : L) (e : LinkError) : Prop :=
  ∀ transaction, writing transaction = (link, transaction, .error e)

/-- One write, or nothing at all. -/
inductive AllOrNothing (link : L) (writing : Writing L) : Prop
  | puts (next : L) (endpoint : Endpoint) (data : Bytes)
      (made : writing.Puts next (.write endpoint data))
  | fails (e : LinkError) (failed : writing.Fails link e)

theorem Puts.inj {op' : RadioOp} (h : writing.Puts next op) (h' : writing.Puts last op') :
    next = last ∧ op = op' := by
  have heq := (h { name := "" }).symm.trans (h' { name := "" })
  simpa [Transaction.add] using heq

theorem Puts.not_fails (h : writing.Puts next op) : ¬ writing.Fails link e := by
  intro h'
  have heq := (h { name := "" }).symm.trans (h' { name := "" })
  simp at heq

/-- One write after the other, until one fails. Those before it stay made. -/
def each (write : L → α → Writing L) : List α → L → Writing L
  | [], link, transaction => (link, transaction, .ok ())
  | a :: rest, link, transaction =>
    match write link a transaction with
    | (link, transaction, .ok ()) => each write rest link transaction
    | (link, transaction, .error e) => (link, transaction, .error e)

/-- One write after the other, all of them made; with the operations that they put. -/
inductive PutsEach (write : L → α → Writing L) : L → List α → L → List RadioOp → Prop
  | nil (link : L) : PutsEach write link [] link []
  | cons {link next last : L} {a : α} {rest : List α} {op : RadioOp} {ops : List RadioOp}
      (made : (write link a).Puts next op) (more : PutsEach write next rest last ops) :
      PutsEach write link (a :: rest) last (op :: ops)

variable {write : L → α → Writing L}

theorem PutsEach.each_eq {as : List α} {ops : List RadioOp}
    (h : PutsEach write link as last ops) (transaction : Transaction) :
    each write as link transaction = (last, transaction.add ops, .ok ()) := by
  induction h generalizing transaction with
  | nil => simp [each]
  | cons made _ ih => simp [each, made transaction, ih]

/-- What each write keeps holds of the link after all of them. -/
theorem PutsEach.keep {P : L → Prop}
    (step : ∀ link next a op, (write link a).Puts next op → P link → P next)
    {as : List α} {ops : List RadioOp} (h : PutsEach write link as last ops) (hlink : P link) :
    P last := by
  induction h with
  | nil => exact hlink
  | cons made _ ih => exact ih (step _ _ _ _ made hlink)

/-- Where every write is made or not, those up to the first that fails are. -/
theorem each_cases (lawful : ∀ link a, (write link a).AllOrNothing link) (as : List α) (link : L) :
    ∃ done last ops, PutsEach write link done last ops ∧ done <+: as ∧
      ((done = as ∧ ∀ transaction, each write as link transaction =
          (last, transaction.add ops, .ok ())) ∨
        ∃ e, ∀ transaction, each write as link transaction =
          (last, transaction.add ops, .error e)) := by
  induction as generalizing link with
  | nil => exact ⟨[], link, [], .nil link, List.prefix_rfl, .inl ⟨rfl, fun _ => by simp [each]⟩⟩
  | cons a rest ih =>
    cases lawful link a with
    | fails e failed =>
      exact ⟨[], link, [], .nil link, List.nil_prefix, .inr ⟨e, fun _ => by
        simp [each, failed _]⟩⟩
    | puts next endpoint data made =>
      obtain ⟨done, last, ops, hdone, hprefix, hend⟩ := ih next
      refine ⟨a :: done, last, .write endpoint data :: ops, .cons made hdone,
        (List.prefix_cons_inj a).2 hprefix, ?_⟩
      rcases hend with ⟨rfl, hall⟩ | ⟨e, hstopped⟩
      · exact .inl ⟨rfl, fun _ => by simp [each, made _, hall]⟩
      · exact .inr ⟨e, fun _ => by simp [each, made _, hstopped]⟩

end Writing

/-- What carries commands, activity data and uploads. -/
class Link (L : Type) where
  /-- The link's tag in reports. -/
  tag : L → String
  /-- Settle on what was discovered. -/
  bind : L → Discovery → L × Except LinkError HandshakeMode
  /-- What the radio has to do before the first write. -/
  startup : L → List RadioOp
  /-- The payloads that received bytes complete. -/
  receive : L → Endpoint → Bytes → Option PacketCipher → L × List Inbound
  writeCommand : L → Command → Option PacketCipher → Writing L
  writeBulk : L → Bytes → Option PacketCipher → Writing L
  /-- The largest part that can be written. -/
  maxBulk : L → Nat
  /-- The connection carries values of this size. -/
  setMtu : L → Nat → L := fun link _ => link
  /-- Number packets from the start again. -/
  resetCounters : L → L
  /-- Give up input that is only half there. -/
  resync : L → L := id
  /-- Forget the connection. -/
  teardown : L → L
  writeCommand_allOrNothing (link : L) (command : Command) (cipher : Option PacketCipher) :
    (writeCommand link command cipher).AllOrNothing link
  writeBulk_allOrNothing (link : L) (part : Bytes) (cipher : Option PacketCipher) :
    (writeBulk link part cipher).AllOrNothing link

end WatchLink
