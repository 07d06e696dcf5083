import WatchLink.Proofs.Link.Sealing
import WatchLink.Proofs.Session.Renewing

/-!
# What is written over a connection that has keys

A connection keeps its keys, its layout and its mode as long as it lasts. So whatever goes on over
one that has keys, all that the radio is asked to write went through them, but for what the link has
travel in clear.
-/

namespace WatchLink.Session

open Relation BulkReading Settling Sealing

/-! ## What is asked on the way -/

section

variable {L S R : Type} {s t u : Session L S R} {P Q : RadioOp → Prop}

/-- What the radio is asked on the way from one session to another is like this. -/
def Asks (P : RadioOp → Prop) (s t : Session L S R) : Prop :=
  ∃ more, t.asked = s.asked ++ more ∧ ∀ op ∈ more, P op

theorem asks_of_effects (h : t.effects = s.effects) : Asks P s t :=
  ⟨[], by rw [List.append_nil, asked, asked, h], List.forall_mem_nil _⟩

theorem Asks.refl (s : Session L S R) : Asks P s s := asks_of_effects rfl

theorem Asks.trans (h : Asks P s t) (hmore : Asks P t u) : Asks P s u := by
  obtain ⟨first, hfirst, hall⟩ := h
  obtain ⟨last, hlast, hrest⟩ := hmore
  refine ⟨first ++ last, by rw [hlast, hfirst, List.append_assoc], ?_⟩
  exact fun op hmem => (List.mem_append.1 hmem).elim (hall op) (hrest op)

theorem Asks.mono (h : Asks P s t) (hsub : ∀ op, P op → Q op) : Asks Q s t := by
  obtain ⟨more, hmore, hall⟩ := h
  exact ⟨more, hmore, fun op hmem => hsub op (hall op hmem)⟩

theorem asks_tell (s : Session L S R) (event : Event) : Asks P s (s.tell event) :=
  ⟨[], by simp, List.forall_mem_nil _⟩

theorem asks_setState (s : Session L S R) (state : ConnectionState) :
    Asks P s (s.setState state) := asks_tell { s with state := state } _

theorem asks_ready [Link L] [Service S] (s : Session L S R) : Asks P s s.ready := by
  refine ⟨[], ?_, List.forall_mem_nil _⟩
  rw [List.append_nil, asked, effects_ready]
  simp [asked, Effect.ops]

theorem asks_submit [Radio R] (s : Session L S R) {transaction : Transaction}
    (h : ∀ op ∈ transaction.ops, P op) : Asks P s (s.submit transaction).1 :=
  ⟨transaction.ops, asked_submit s transaction, h⟩

theorem asks_tells (s : Session L S R) (events : List Event) :
    Asks P s (events.foldl tell s) :=
  List.foldlRecOn (motive := Asks P s) events _ (.refl s) fun t h event _ =>
    h.trans (asks_tell t event)

theorem asks_send [CipherSuite] [Link L] [Radio R] (s : Session L S R) (task : String)
    (command : Command)
    (h : ∀ link op, (Link.writeCommand s.link command s.handshake.cipher?).Puts link op → P op) :
    Asks P s (s.send task command).1 := by
  rcases send_cases s task command with hsend | ⟨link, op, hwritten, hsend⟩
  · rw [hsend]
    exact .refl s
  · rw [hsend]
    exact asks_submit { s with link := link } (List.forall_mem_singleton.2 (h link op hwritten))

end

section

variable {L S R : Type} [CipherSuite] [Link L] [Settling L] [BulkReading L] [Sealing L]
  [Service S] [Radio R] {s t u : Session L S R} {keys : SessionKeys}

/-! ## The link on the way -/

omit [Sealing L] in
/-- What the link has settled on and its layout stay, until the connection is torn down. -/
theorem link_move (move : Move s t) :
    (layout t.link = layout s.link ∧ mode? t.link = mode? s.link) ∨
      t.link = Link.teardown s.link := by
  refine KeptInUse.move (P := fun link => layout link = layout s.link ∧ mode? link = mode? s.link)
    ?_ move ⟨rfl, rfl⟩
  exact
    { writeCommand := fun written h =>
        ⟨(layout_writeCommand written).trans h.1, (mode?_writeCommand written).trans h.2⟩
      writeBulk := fun written h =>
        ⟨(layout_writeBulk written).trans h.1, (mode?_writeBulk written).trans h.2⟩
      receive := fun _ _ _ h =>
        ⟨(layout_receive _ _ _ _).trans h.1, (mode?_receive _ _ _ _).trans h.2⟩
      resync := fun h => ⟨(layout_resync _).trans h.1, (mode?_resync _).trans h.2⟩
      resetCounters := fun h =>
        ⟨(layout_resetCounters _).trans h.1, (mode?_resetCounters _).trans h.2⟩ }

theorem even_move (s t : Session L S R) (move : Move s t) (h : Even (layout s.link)) :
    Even (layout t.link) := by
  rcases link_move move with ⟨hlayout, -⟩ | hdown
  · rwa [hlayout]
  · rw [hdown]
    exact even_teardown s.link h

/-- A link that is not in clear text does not come to be. -/
theorem hidden_move (s t : Session L S R) (move : Move s t)
    (h : mode? s.link ≠ some .clearText) : mode? t.link ≠ some .clearText := by
  rcases link_move move with ⟨-, hmode⟩ | hdown
  · rwa [hmode]
  · rw [hdown, mode?_teardown]
    exact unsettled_ne

/-! ## With keys -/

/-- A connection has these keys. -/
structure Keyed (keys : SessionKeys) (s : Session L S R) : Prop where
  coherent : s.handshake.Coherent
  staged : s.Staged
  even : Even (layout s.link)
  keys : s.handshake.keys? = some keys

omit [Service S] [Radio R] in
theorem Keyed.mode (h : s.Keyed keys) : mode? s.link = some .encrypted := by
  have hstaged := h.staged
  rw [Staged, h.keys] at hstaged
  exact hstaged.of_keyed.2

omit [Service S] [Radio R] in
theorem Keyed.cipher? (h : s.Keyed keys) : s.handshake.cipher? = some keys.cipher :=
  Handshake.cipher?_of_keys? h.keys

omit [Service S] in
theorem Keyed.asks_send (h : s.Keyed keys) (task : String) (command : Command) :
    Asks (Guarded L keys) s (s.send task command).1 := by
  refine Session.asks_send s task command fun link op hwritten => ?_
  rw [h.cipher?] at hwritten
  rcases sealed_of_keyed h.even h.mode hwritten with hsealed | ⟨hkind, hclear⟩
  · exact .sealed hsealed
  · exact .introduces ⟨command, hkind, hclear⟩

omit [Service S] [Radio R] in
theorem guarded_of_partsPut {link next : L} {parts : List Bytes} {writes : List RadioOp}
    (written : PartsPut (some keys.cipher) link parts next writes) (even : Even (layout link))
    (mode : mode? link = some .encrypted) : ∀ op ∈ writes, Guarded L keys op := by
  induction written with
  | nil => exact List.forall_mem_nil _
  | cons made _ ih =>
      refine List.forall_mem_cons.2 ⟨(part_of_keyed even mode made).elim .sealed .part, ?_⟩
      exact ih (by rwa [layout_writeBulk made]) (by rwa [mode?_writeBulk made])

theorem Keyed.react (h : s.Keyed keys) (reaction : Reaction s t) :
    t.Keyed keys ∧ Asks (Guarded L keys) s t := by
  have hkept := keys?_react s t reaction ⟨h.coherent, h.keys⟩
  refine ⟨⟨hkept.1, staged_react s t reaction h.staged,
    even_move s t (.react reaction) h.even, hkept.2⟩, ?_⟩
  have hnever (awaits : s.handshake.state.awaits = true) : Asks (Guarded L keys) s t := by
    have hkeys := h.keys
    rw [h.coherent.keys?_of_awaits awaits] at hkeys
    cases hkeys
  cases reaction with
  | tell event => exact asks_tell s event
  | device => exact asks_of_effects rfl
  | registry => exact asks_of_effects rfl
  | upload => exact asks_of_effects rfl
  | send task command => exact h.asks_send task command
  | parts => exact asks_of_effects rfl
  | @submitParts _ link _ progress written progressOnly =>
      rw [h.cipher?] at written
      refine asks_submit { s with link := link } fun op hmem => ?_
      rcases List.mem_append.1 hmem with hwrite | hshown
      · exact guarded_of_partsPut written h.even h.mode op hwrite
      · obtain ⟨message, percent, rfl⟩ := progressOnly op hshown
        exact .writeless fun _ _ => by nofun
  | answer handled => exact hnever (Handshake.awaits_of_send handled).1
  | accept handled => exact hnever (Handshake.awaits_of_authenticated handled)
  | refuse handled => exact hnever (Handshake.awaits_of_failed handled)

/-- Whatever goes on over a connection that has keys, nothing is written that is not guarded. -/
theorem Keyed.moves (h : s.Keyed keys) (moves : Moves s t) :
    t.Keyed keys ∧ Asks (Guarded L keys) s t := by
  refine moves.keep (P := fun t => t.Keyed keys ∧ Asks (Guarded L keys) s t) ?_ ⟨h, .refl s⟩
  rintro t u move ⟨hkeyed, hasks⟩
  have hsilent (hhandshake : u.handshake = t.handshake) (heffects : u.effects = t.effects) :
      u.Keyed keys ∧ Asks (Guarded L keys) s u :=
    ⟨⟨hhandshake ▸ hkeyed.coherent, staged_move t u move hkeyed.staged,
      even_move t u move hkeyed.even, hhandshake ▸ hkeyed.keys⟩,
      hasks.trans (asks_of_effects heffects)⟩
  cases move with
  | inbox => exact hsilent rfl rfl
  | receive => exact hsilent rfl rfl
  | resync => exact hsilent rfl rfl
  | react reaction =>
      obtain ⟨hnext, hmore⟩ := hkeyed.react reaction
      exact ⟨hnext, hasks.trans hmore⟩

end

end WatchLink.Session
