import Mathlib.Data.List.Infix
import WatchLink.Proofs.Session.Reporting
import WatchLink.Proofs.Session.Sizing

/-!
# Which values fit a connection

Over characteristics a connection carries values of some size, which the radio may report anew at
any time. The parts of an upload are cut for the size there was when the watch asked for the first;
as long as it stays, every value that is written for one fits, with the counter and the tag of an
encrypted layout. A size that leaves a part no data has the upload given up before anything of it is
written.
-/

namespace WatchLink.Session

open GattLink Upload

section

variable {S R : Type} [CipherSuite] [Service S] [Radio R] {s t : Session GattLink S R}

/-! ## The connection -/

theorem mtu_mtuChanged (s : Session GattLink S R) (mtu : Nat) :
    (s.perform (.mtuChanged mtu)).1.link.mtu = mtu := rfl

omit [CipherSuite] in
theorem keptInUse_connection (link : GattLink) :
    KeptInUse fun next : GattLink => next.layout = link.layout ∧ next.mtu = link.mtu where
  writeCommand written h :=
    ⟨(layout_writeCommand written).trans h.1, (mtu_writeCommand written).trans h.2⟩
  writeBulk written h := ⟨(layout_writeBulk written).trans h.1, (mtu_writeBulk written).trans h.2⟩
  receive _ _ _ h := ⟨(layout_receive _ _ _ _).trans h.1, (mtu_receive _ _ _ _).trans h.2⟩
  resync h := h
  resetCounters h := ⟨(layout_resetCounters _).trans h.1, h.2⟩

/-- On the way from one session to another the connection stays what it was, or it is over. -/
theorem connection_moves (h : Moves s t) :
    t.link.layout = none ∨ (t.link.layout = s.link.layout ∧ t.link.mtu = s.link.mtu) := by
  refine h.keep (P := fun t => t.link.layout = none ∨
    (t.link.layout = s.link.layout ∧ t.link.mtu = s.link.mtu)) ?_ (.inr ⟨rfl, rfl⟩)
  intro t u move hbefore
  have hgone (down : u.link = Link.teardown t.link) : u.link.layout = none := by
    rw [down]
    rfl
  rcases hbefore with hnone | hsame
  · rcases link_move move with ⟨hlayout, -⟩ | hdown
    · exact .inl (Eq.trans hlayout hnone)
    · exact .inl (hgone hdown)
  · exact ((keptInUse_connection s.link).move move hsame).symm.imp hgone id

omit [CipherSuite] in
theorem unbound_of_layout {link : GattLink} {b : BoundResources} (none : link.layout = none)
    (bound : link.bound = some b) : False := by
  rw [GattLink.layout, bound] at none
  cases none

/-! ## What is written -/

/-- What is written to the characteristic for uploads: a value that a connection with values of this
size carries, while the link leaves parts room for data. Where that characteristic is the one for
commands as well, these are written to it too. -/
inductive Conveyed (mtu : Nat) (link : GattLink) (b : BoundResources) (op : RadioOp)
    (value : Bytes) : Prop
  | part (room : partHeader < link.maxBulk) (fits : value.length + attOverhead ≤ mtu)
  | command (shared : b.commandWrite.uuid = b.dataUpload.uuid) {u next : GattLink}
      {command : Command} {cipher : Option PacketCipher} (same : u.layout = link.layout)
      (written : (u.writeCommand command cipher).Puts next op)

/-- What the link writes for a part is a value that a connection with values of this size
carries. -/
def PartFits (mtu : Nat) (s : Session GattLink S R) (part : Bytes) : Prop :=
  ∀ next endpoint value,
    (s.link.writeBulk part s.handshake.cipher?).Puts next (.write endpoint value) →
      value.length + attOverhead ≤ mtu

/-- A part that the link has room for fits the connection there was, or that one is over and nothing
is written. -/
theorem partFits_of_moves (even : Even s.link.layout) (moves : Moves s t) {size : Nat}
    (fits : size + partHeader ≤ t.link.maxBulk) (blob : Bytes) (total index : UInt16) :
    PartFits s.link.mtu t (part blob size total index) := by
  intro next endpoint value written
  rcases connection_moves moves with hnone | ⟨hlayout, hmtu⟩
  · obtain ⟨b, r, text, hbound, -⟩ := writeBulk_cases written
    exact (unbound_of_layout hnone hbound).elim
  · have hheader : 0 < partHeader := by decide
    have hroom : partHeader ≤ t.link.maxBulk := Nat.le_trans (Nat.le_add_left _ _) fits
    have hlength := length_part_le blob size total index
    obtain ⟨b, text, -, hop, hcarried⟩ := length_of_writeBulk (hlayout ▸ even)
      (Nat.lt_of_lt_of_le hheader hroom) (Nat.le_trans hlength fits) written
    obtain rfl := (RadioOp.write.inj hop).2
    exact hmtu ▸ hcarried

omit [CipherSuite] in
theorem uuid_of_layout {link other : GattLink} {b c : BoundResources}
    (same : other.layout = link.layout) (bound : link.bound = some b)
    (another : other.bound = some c) : c.commandWrite.uuid = b.commandWrite.uuid := by
  rw [GattLink.layout, GattLink.layout, bound, another] at same
  exact congrArg (fun b => b.commandWrite.uuid) (Option.some.inj same)

omit [CipherSuite] in
theorem conveyed_of_writeCommand {mtu : Nat} {link u next : GattLink} {b : BoundResources}
    {value : Bytes} {command : Command} {cipher : Option PacketCipher}
    (bound : link.bound = some b) (same : u.layout = link.layout)
    (written : (u.writeCommand command cipher).Puts next
      (.write (.resource b.dataUpload.uuid) value)) :
    Conveyed mtu link b (.write (.resource b.dataUpload.uuid) value) value := by
  obtain ⟨c, r, text, hbound, -, -, hop⟩ := writeCommand_cases written
  have hshared : c.commandWrite.uuid = b.dataUpload.uuid :=
    (Endpoint.resource.inj (RadioOp.write.inj hop).1).symm
  exact .command ((uuid_of_layout same bound hbound).symm.trans hshared) same written

/-- All that goes out to the characteristic for uploads fits the connection. -/
theorem Outgoing.conveyed (even : Even s.link.layout) {b : BoundResources}
    (bound : s.link.bound = some b) {value : Bytes}
    (h : Outgoing s t (.write (.resource b.dataUpload.uuid) value)) :
    Conveyed s.link.mtu s.link b (.write (.resource b.dataUpload.uuid) value) value := by
  cases h with
  | writeless writeless => exact absurd rfl (writeless _ _)
  | @command u next command cipher _ before written =>
      rcases connection_moves before with hnone | ⟨hlayout, -⟩
      · obtain ⟨c, r, text, hbound, -⟩ := writeCommand_cases written
        exact (unbound_of_layout hnone hbound).elim
      · exact conveyed_of_writeCommand bound hlayout written
  | @part u v job size total index next _ before _ _ room fits written _ =>
      rcases connection_moves before with hnone | ⟨hlayout, hmtu⟩
      · obtain ⟨c, r, text, hbound, -⟩ := writeBulk_cases written
        exact (unbound_of_layout hnone hbound).elim
      · have hbulk : u.link.maxBulk = s.link.maxBulk := maxBulk_of_layout hlayout hmtu
        have hfits : size + partHeader ≤ u.link.maxBulk := fits
        exact .part (by omega)
          (partFits_of_moves even before hfits job.blob total index _ _ _ written)

theorem conveyed_perform (heeded : s.Heeded) (sized : s.Sized) (even : Even s.link.layout)
    (call : HostCall S R) (asked : s.asked = []) {b : BoundResources}
    (bound : (s.linkFor call).bound = some b) {value : Bytes}
    (mem : .write (.resource b.dataUpload.uuid) value ∈
      (s.perform call).1.asked ++ (s.perform call).2) :
    Conveyed s.link.mtu (s.linkFor call) b (.write (.resource b.dataUpload.uuid) value) value := by
  rcases written_perform heeded sized call asked mem with
    ⟨ongoing, hout⟩ | writeless | ⟨_, _, written⟩
  · rw [linkFor_of_ongoing s ongoing] at bound ⊢
    exact hout.conveyed even bound
  · exact absurd rfl (writeless _ _)
  · exact conveyed_of_writeCommand bound rfl written

/-! ## No room -/

section

variable {templates : List ServiceTemplate} {mtuRequest : UInt16} {radio : R} {config : LinkConfig}
  {capabilities : Capabilities} {start : Session GattLink S R}
  (hstart : ofConfig ({ templates := templates, mtuRequest := mtuRequest } : GattLink) radio config
    capabilities = .ok start) (calls : List (HostCall S R))

include hstart

theorem even_run : Even (start.run calls).link.layout := by
  refine run_keep (P := fun t : Session GattLink S R => Even t.link.layout) calls ?_
    fun t heven call _ => even_perform (s := t.clearEffects) heven call
  obtain ⟨secret, rfl⟩ := eq_of_ofConfig hstart
  exact even_none

/-! Since a time when no part of an upload is out, and while the size of values stays. -/

variable {more : List (HostCall S R)} {mtu : Nat} (unsent : (start.run calls).Unsent)
  (stays : ∀ before, before <+: more → (start.run (calls ++ before)).link.mtu = mtu)

include unsent stays

/-- The parts that are out fit. -/
theorem sized_of_stays : (start.run (calls ++ more)).Sized := by
  refine sized_run hstart rfl calls unsent more fun before size h => ?_
  have hafter := stays _ h
  have hbefore := stays _ ((List.prefix_append _ _).trans h)
  rw [← List.append_assoc, run_snoc, mtu_mtuChanged] at hafter
  exact maxBulk_of_layout rfl (hafter.trans hbefore.symm)

section

variable {call : HostCall S R} {b : BoundResources} {value : Bytes}
  (bound : ((start.run (calls ++ more)).clearEffects.linkFor call).bound = some b)
  (mem : .write (.resource b.dataUpload.uuid) value ∈
    ((start.run (calls ++ more)).clearEffects.perform call).1.asked ++
      ((start.run (calls ++ more)).clearEffects.perform call).2)

include bound mem

theorem conveyed_run :
    Conveyed mtu ((start.run (calls ++ more)).clearEffects.linkFor call) b
      (.write (.resource b.dataUpload.uuid) value) value := by
  have hsized := sized_of_stays hstart calls unsent stays
  have heven := even_run hstart (calls ++ more)
  have hheeded := ((Reachable.ofConfig hstart).run (calls ++ more)).heeded
  rw [← stays more (List.prefix_refl _)]
  exact conveyed_perform (s := (start.run (calls ++ more)).clearEffects) hheeded hsized heven call
    rfl bound mem

/-- On a layout with a characteristic for uploads alone, all that is written to it fits. -/
theorem fits_run_of_apart (apart : b.commandWrite.uuid ≠ b.dataUpload.uuid) :
    value.length + attOverhead ≤ mtu := by
  cases conveyed_run hstart calls unsent stays bound mem with
  | part room fits => exact fits
  | command shared => exact absurd shared apart

end

/-- On any layout, one whose commands are written to the characteristic for uploads too, the parts
that the upload gives out in a call fit: the first, when the watch has answered the request, and any
other, when the one before it has been acknowledged. -/
theorem partFits_run (acts : Acts (start.run (calls ++ more)).clearEffects t) :
    (∀ command upload out,
      t.upload.handleCommand command (Link.maxBulk t.link) = .ok (upload, out) →
        ∀ part ∈ out.parts, PartFits mtu t part) ∧
    ∀ ack, ∀ part ∈ (t.upload.handleAck ack).2.parts, PartFits mtu t part := by
  have hheeded := ((Reachable.ofConfig hstart).run (calls ++ more)).heeded
  have hsized : t.Sized :=
    (acts.keep sized_act ⟨hheeded, sized_of_stays hstart calls unsent stays⟩).2
  have heven := even_run hstart (calls ++ more)
  have hparts (blob : Bytes) {size : Nat} (total index : UInt16)
      (fits : size + partHeader ≤ t.link.maxBulk) :
      PartFits mtu t (Upload.part blob size total index) := by
    rw [← stays more (List.prefix_refl _)]
    exact partFits_of_moves (s := (start.run (calls ++ more)).clearEffects) heven acts.moves fits
      blob total index
  constructor
  · intro command upload out handled part mem
    cases Upload.started handled with
    | ignored => cases mem
    | refused => cases mem
    | @started job chunk size _ _ _ _ sized room =>
        obtain rfl := List.mem_singleton.1 mem
        have hfits : size + partHeader ≤ Link.maxBulk t.link := by
          rw [partSize] at sized
          omega
        exact hparts _ _ _ hfits
  · intro ack part mem
    have hacknowledged := t.upload.acknowledged ack
    generalize t.upload.handleAck ack = answer at hacknowledged mem
    cases hacknowledged with
    | ignored => cases mem
    | rejected => cases mem
    | completed => cases mem
    | advanced running out =>
        obtain rfl := List.mem_singleton.1 mem
        exact hparts _ _ _ (hsized _ _ _ _ running out).2

end

end

end WatchLink.Session
