import WatchLink.Proofs.Session.Introducing

/-!
# What a host that follows the events knows of being busy

What a session is busy with is told when it changes, with one exception: giving a connection up
clears it, and of that only the state of the connection is told. So the last that was told of being
busy is what a session is busy with, unless the connection was given up after it; then the session
is not busy, and the host has not been told so. A host that takes the loss of a connection for the
end of being busy is right.
-/

namespace WatchLink

/-! ## Following events -/

/-- What an event tells of being busy. -/
def Event.busy? : Event → Option (Option String)
  | .busy task => some task
  | _ => none

/-- The last that was told of being busy. -/
def lastBusy (events : List Event) : Option (Option String) :=
  (events.filterMap Event.busy?).getLast?

theorem lastBusy_append (events more : List Event) :
    lastBusy (events ++ more) = (lastBusy more).or (lastBusy events) := by
  rw [lastBusy, List.filterMap_append, List.getLast?_append]
  rfl

/-- The states in which whatever there was of a connection has been given up. -/
def ConnectionState.GivesUp (state : ConnectionState) : Prop :=
  state = .notConnected ∨ state = .connecting

/-- What a session is busy with after these events were told: what was told last, or what was found
if nothing was; and nothing if the connection was given up since. -/
inductive BusyAfter (found : Option String) (events : List Event) : Option String → Prop
  | told : BusyAfter found events ((lastBusy events).getD found)
  | givenUp {before after : List Event} {state : ConnectionState}
      (told : events = before ++ .connectionState state :: after) (givesUp : state.GivesUp)
      (untold : lastBusy after = none) : BusyAfter found events none

namespace BusyAfter

variable {found busy last : Option String} {events more : List Event}

theorem of_eq (h : (lastBusy events).getD found = busy) : BusyAfter found events busy := by
  rw [← h]
  exact .told

theorem append (h : BusyAfter found events busy) (hmore : BusyAfter busy more last) :
    BusyAfter found (events ++ more) last := by
  cases hmore with
  | @givenUp before after state told givesUp untold =>
      exact .givenUp (by rw [told, List.append_assoc]) givesUp untold
  | told =>
      cases hlast : lastBusy more with
      | some task =>
          exact .of_eq (by rw [lastBusy_append, hlast]; rfl)
      | none =>
          cases h with
          | told => exact .of_eq (by rw [lastBusy_append, hlast]; rfl)
          | @givenUp before after state told givesUp untold =>
              have hlater : events ++ more =
                  before ++ .connectionState state :: (after ++ more) := by
                rw [told, List.append_assoc]
                rfl
              exact .givenUp hlater givesUp (by rw [lastBusy_append, hlast, untold]; rfl)

/-- Where no state was told, what was told last is what there is. -/
theorem eq_of_stateless (h : BusyAfter found events busy)
    (stateless : ∀ event ∈ events, event.state? = none) : busy = (lastBusy events).getD found := by
  cases h with
  | told => rfl
  | @givenUp before after state told =>
      have hstate := stateless (.connectionState state) (by rw [told]; simp)
      cases hstate

end BusyAfter

/-- What a host knows after an event, if it takes the loss of a connection for the end of being
busy. Connecting ends a connection unless there was none. -/
def Event.follow (known : ConnectionState × Option String) : Event → ConnectionState × Option String
  | .busy task => (known.1, task)
  | .connectionState .notConnected => (.notConnected, none)
  | .connectionState .connecting =>
    (.connecting, if known.1 = .notConnected then known.2 else none)
  | .connectionState state => (state, known.2)
  | _ => known

theorem foldl_follow_of_stateless {events : List Event}
    (stateless : ∀ event ∈ events, event.state? = none) (known : ConnectionState × Option String) :
    events.foldl Event.follow known = (known.1, (lastBusy events).getD known.2) := by
  induction events generalizing known with
  | nil => rfl
  | cons event events ih =>
      obtain ⟨hfirst, hrest⟩ := List.forall_mem_cons.1 stateless
      have happend : event :: events = [event] ++ events := rfl
      rw [List.foldl_cons, ih hrest, happend, lastBusy_append]
      cases event with
      | connectionState => cases hfirst
      | busy task => cases lastBusy events <;> rfl
      | _ => cases lastBusy events <;> rfl

namespace Session

open Settling

section

variable {L S R : Type} [CipherSuite] [Link L] [Service S] [Radio R] {s t u : Session L S R}

/-! ## What is told last -/

/-- What a session is busy with was told last on the way to it, or the connection was given up. -/
def Heralded (s t : Session L S R) : Prop := BusyAfter s.busy (told s t) t.busy

omit [CipherSuite] [Link L] [Service S] [Radio R] in
theorem heralded_of_untold (busy : t.busy = s.busy) (untold : told s t = []) : Heralded s t :=
  .of_eq (by rw [untold, busy]; rfl)

omit [CipherSuite] [Link L] [Service S] [Radio R] in
theorem heralded_of_effects (busy : t.busy = s.busy) (effects : t.effects = s.effects) :
    Heralded s t := heralded_of_untold busy (told_of_effects effects)

omit [CipherSuite] [Link L] [Service S] [Radio R] in
theorem Heralded.trans (h : Heralded s t) (hnext : Heralded t u) (hst : s.effects <:+ t.effects)
    (htu : t.effects <:+ u.effects) : Heralded s u := by
  rw [Heralded, told_trans hst htu]
  exact h.append hnext

omit [CipherSuite] [Link L] [Service S] [Radio R] in
theorem heralded_tell (s : Session L S R) (event : Event) : Heralded s (s.tell event) := by
  refine .of_eq ?_
  rw [told_tell]
  cases event <;> rfl

omit [CipherSuite] [Radio R] in
/-- Whatever was told besides, a session that gives the connection up is not busy. -/
theorem heralded_reset (hst : s.effects <:+ t.effects) {state : ConnectionState}
    (givesUp : state.GivesUp) : Heralded s (t.resetConnection.setState state) := by
  have hreset : s.effects <:+ t.resetConnection.effects := hst
  rw [Heralded, told_setState hreset]
  exact .givenUp rfl givesUp rfl

theorem heralded_react (s t : Session L S R) (reaction : Reaction s t) : Heralded s t := by
  cases reaction with
  | tell event => exact heralded_tell s event
  | device => exact heralded_of_effects rfl rfl
  | registry => exact heralded_of_effects rfl rfl
  | upload => exact heralded_of_effects rfl rfl
  | send task command => exact heralded_of_untold (busy_send _ _ _) (told_send s task command)
  | parts => exact heralded_of_effects rfl rfl
  | @submitParts _ link writes =>
      exact heralded_of_untold rfl (told_submit { s with link := link } _)
  | @answer _ reply handshake =>
      exact heralded_of_untold (busy_send _ _ _)
        (told_send { s with handshake := handshake } "auth step" reply)
  | @accept _ handshake =>
      have hsubmitted : Heralded s
          (submit { s with handshake := handshake, link := Link.resetCounters s.link }
            ⟨"initialized", [.setState .initialized]⟩).1 :=
        heralded_of_untold rfl
          (told_submit { s with handshake := handshake, link := Link.resetCounters s.link } _)
      exact hsubmitted.trans (heralded_tell _ _) (List.suffix_cons _ _) (List.suffix_cons _ _)
  | refuse => exact heralded_reset (List.suffix_cons _ _) (.inl rfl)

theorem Moves.heralded (h : Moves s t) : Heralded s t := by
  have hkeep : s.effects <:+ t.effects ∧ Heralded s t := by
    refine h.keep (P := fun t => s.effects <:+ t.effects ∧ Heralded s t) ?_
      ⟨List.suffix_rfl, heralded_of_effects rfl rfl⟩
    rintro t u move ⟨hst, hheralded⟩
    have htu := Moves.effects (.single move)
    refine ⟨hst.trans htu, hheralded.trans ?_ hst htu⟩
    cases move with
    | react reaction => exact heralded_react t u reaction
    | inbox => exact heralded_of_effects rfl rfl
    | receive => exact heralded_of_effects rfl rfl
    | resync => exact heralded_of_effects rfl rfl
  exact hkeep.2

omit [CipherSuite] [Radio R] in
theorem heralded_ready (s : Session L S R) : Heralded s s.ready := by
  rcases s.ready_cases with ⟨-, hready⟩ | hready
  · rw [hready]
    exact heralded_tell { s with state := .connecting } _
  · rw [hready]
    exact heralded_reset List.suffix_rfl (.inr rfl)

omit [CipherSuite] in
theorem heralded_connect (s : Session L S R) (discovery : Discovery) (nonce : Octets 16) :
    Heralded s (s.connect discovery nonce).1 := by
  have hst : s.effects <:+ s.ready.effects := by
    rw [effects_ready]
    exact List.suffix_cons _ _
  have hconnected := s.connected discovery nonce
  generalize (s.connect discovery nonce).1 = t at hconnected ⊢
  cases hconnected with
  | @unbound link _ state =>
      exact s.heralded_ready.trans (heralded_tell { s.ready with link := link, state := state } _)
        hst (List.suffix_cons _ _)
  | unwritten => exact heralded_reset hst (.inl rfl)
  | refused => exact heralded_reset (hst.trans (List.suffix_cons _ _)) (.inl rfl)
  | @greeted link next mode op =>
      have hsaid : Heralded s.ready
          (s.saidHello (Link.resetCounters link) next mode nonce op).1 :=
        heralded_of_untold rfl (told_submit (s.introduced next mode nonce) _)
      exact (s.heralded_ready.trans hsaid hst (List.suffix_cons _ _)).trans (heralded_tell _ _)
        (hst.trans (List.suffix_cons _ _)) (List.suffix_cons _ _)

theorem heralded_perform (s : Session L S R) (call : HostCall S R) :
    Heralded s (s.perform call).1 := by
  have hperformed := s.performed call
  generalize s.perform call = result at hperformed ⊢
  cases hperformed with
  | connect discovery nonce => exact s.heralded_connect discovery nonce
  | disconnect => exact heralded_reset List.suffix_rfl (.inl rfl)
  | mtuChanged => exact heralded_of_effects rfl rfl
  | radio => exact heralded_of_effects rfl rfl
  | register => exact heralded_of_effects rfl rfl
  | sendIn => exact heralded_of_effects rfl rfl
  | moved moves => exact moves.heralded

/-- What was told in a run, in order. -/
def toldIn (start : Session L S R) (calls : List (HostCall S R)) : List Event :=
  (start.record calls).filterMap Moment.event?

theorem toldIn_snoc (start : Session L S R) (calls : List (HostCall S R)) (call : HostCall S R) :
    start.toldIn (calls ++ [call]) =
      start.toldIn calls ++
        told (start.run calls).clearEffects ((start.run calls).clearEffects.perform call).1 := by
  rw [toldIn, record_snoc, List.filterMap_append, event?_moments]
  rfl

theorem heralded_run {link : L} {radio : R} {config : LinkConfig} {capabilities : Capabilities}
    {start : Session L S R} (hstart : ofConfig link radio config capabilities = .ok start)
    (calls : List (HostCall S R)) :
    BusyAfter none (start.toldIn calls) (start.run calls).busy := by
  induction calls using List.reverseRecOn with
  | nil =>
      obtain ⟨secret, rfl⟩ := eq_of_ofConfig hstart
      exact .told
  | append_singleton calls call ih =>
      rw [toldIn_snoc, run_snoc]
      exact ih.append (heralded_perform (start.run calls).clearEffects call)

/-! ## What a host knows -/

/-- A host that knew how one session stands, and what it was busy with, knows it of another. -/
def Followed (s t : Session L S R) : Prop :=
  (told s t).foldl Event.follow (s.state, s.busy) = (t.state, t.busy)

omit [CipherSuite] [Link L] [Service S] [Radio R] in
theorem Followed.trans (h : Followed s t) (hnext : Followed t u) (hst : s.effects <:+ t.effects)
    (htu : t.effects <:+ u.effects) : Followed s u := by
  rw [Followed, told_trans hst htu, List.foldl_append, h]
  exact hnext

omit [CipherSuite] [Link L] [Service S] [Radio R] in
theorem Heralded.followed (h : Heralded s t) (state : t.state = s.state)
    (stateless : ∀ event ∈ told s t, event.state? = none) : Followed s t := by
  rw [Followed, foldl_follow_of_stateless stateless, state, h.eq_of_stateless stateless]

omit [CipherSuite] [Link L] [Service S] [Radio R] in
theorem followed_of_untold (state : t.state = s.state) (busy : t.busy = s.busy)
    (untold : told s t = []) : Followed s t := by
  rw [Followed, untold, state, busy]
  rfl

omit [CipherSuite] [Link L] [Service S] [Radio R] in
theorem followed_of_effects (state : t.state = s.state) (busy : t.busy = s.busy)
    (effects : t.effects = s.effects) : Followed s t :=
  followed_of_untold state busy (told_of_effects effects)

theorem followed_act (act : Act s t) (heeded : s.Heeded) (hosts : s.Hosts Outbox.TellsNoState) :
    Followed s t := by
  rcases stateless_act act heeded with ⟨hstate, hown⟩ | ⟨handshake, rfl⟩ | ⟨handshake, rfl⟩
  · refine (Acts.moves (.single act)).heralded.followed hstate fun event hmem => ?_
    cases event with
    | connectionState state => exact hosts.tells (hown state hmem)
    | _ => rfl
  · rw [Followed, told_opened]
    rfl
  · rw [Followed, told_refused]
    rfl

theorem followed_acts (acts : Acts s t) (heeded : s.Heeded) (hosts : s.Hosts Outbox.TellsNoState) :
    Followed s t := by
  have hkeep : t.Heeded ∧ t.Hosts Outbox.TellsNoState ∧ s.effects <:+ t.effects ∧ Followed s t := by
    refine acts.keep (P := fun t => t.Heeded ∧ t.Hosts Outbox.TellsNoState ∧ s.effects <:+ t.effects ∧
      Followed s t) ?_ ⟨heeded, hosts, List.suffix_rfl, followed_of_effects rfl rfl rfl⟩
    rintro t u act ⟨hheeded, hhosts, heffects, hfollowed⟩
    have hnext := (Acts.moves (.single act)).effects
    exact ⟨hheeded.act t u act, hhosts.act act, heffects.trans hnext,
      hfollowed.trans (followed_act act hheeded hhosts) heffects hnext⟩
  exact hkeep.2.2.2

omit [CipherSuite] [Radio R] in
theorem followed_ready (s : Session L S R) : Followed s s.ready := by
  have htold : told s s.ready = [.connectionState .connecting] :=
    told_of_eq [.told (.connectionState .connecting)] s.effects_ready
  rw [Followed, htold]
  by_cases hstate : s.state = .notConnected
  · rw [ready, if_pos hstate]
    exact Prod.ext rfl (if_pos hstate)
  · rw [ready, if_neg hstate]
    exact Prod.ext rfl (if_neg hstate)

omit [CipherSuite] in
/-- Connecting can be followed if a session whose link cannot be bound is not busy. -/
theorem followed_connect (s : Session L S R) (discovery : Discovery) (nonce : Octets 16)
    (unbusy : ∀ link e, Link.bind s.ready.link discovery = (link, .error e) → s.ready.busy = none) :
    Followed s (s.connect discovery nonce).1 := by
  have hst : s.effects <:+ s.ready.effects := by
    rw [effects_ready]
    exact List.suffix_cons _ _
  -- Whatever else was recorded on the way, of a state that was come to only the state was told.
  have hcame {t : Session L S R} (effects : s.ready.effects <:+ t.effects)
      (untold : told s.ready t = []) {state : ConnectionState}
      (follow : Event.follow (s.ready.state, s.ready.busy) (.connectionState state) =
        (state, t.busy)) : Followed s (t.setState state) := by
    refine s.followed_ready.trans ?_ hst (effects.trans (List.suffix_cons _ _))
    rw [Followed, told_setState effects, untold]
    exact follow
  have hconnected := s.connected discovery nonce
  generalize (s.connect discovery nonce).1 = t at hconnected ⊢
  cases hconnected with
  | @unbound link e state bound given =>
      have hnothing := unbusy link e bound
      rcases given with rfl | rfl
      · exact hcame (t := { s.ready with link := link }) List.suffix_rfl (told_of_effects rfl)
          (Prod.ext rfl hnothing.symm)
      · exact hcame (t := { s.ready with link := link }) List.suffix_rfl (told_of_effects rfl) rfl
  | unwritten => exact hcame (t := resetConnection _) List.suffix_rfl (told_of_effects rfl) rfl
  | @refused link next mode op =>
      exact hcame
        (t := (s.saidHello (Link.resetCounters link) next mode nonce op).1.resetConnection)
        (List.suffix_cons _ _) (told_submit (s.introduced next mode nonce) _) rfl
  | @greeted link next mode op =>
      exact hcame (List.suffix_cons _ _) (told_submit (s.introduced next mode nonce) _) rfl

theorem followed_perform (heeded : s.Heeded) (hosts : s.Hosts Outbox.TellsNoState) (call : HostCall S R)
    (unbusy : ∀ discovery link e, Link.bind s.ready.link discovery = (link, .error e) →
      s.ready.busy = none) : Followed s (s.perform call).1 := by
  have hhappened := s.happened call
  generalize (s.perform call).1 = t at hhappened ⊢
  generalize s.moments call = moments at hhappened
  cases hhappened with
  | connect discovery nonce => exact s.followed_connect discovery nonce (unbusy discovery)
  | disconnect =>
      have htold : told s s.disconnect = [.connectionState .notConnected] :=
        told_of_eq [.told (.connectionState .notConnected)] rfl
      rw [Followed, htold]
      rfl
  | mtuChanged => exact followed_of_effects rfl rfl rfl
  | radio => exact followed_of_effects rfl rfl rfl
  | sendIn => exact followed_of_effects rfl rfl rfl
  | register => exact followed_of_effects rfl rfl rfl
  | @install image =>
      exact followed_of_untold (state_send _ _ _) (busy_send _ _ _)
        (told_send { s with device := { s.device with install := .requested image } } _ _)
  | inbox => exact followed_of_effects rfl rfl rfl
  | deeds deeds => exact followed_acts deeds.acts heeded hosts
  | processPending host => exact followed_acts (acts_processAtMost host _ s) heeded hosts
  | receive host endpoint data =>
      exact followed_acts (acts_onReceive s host endpoint data) heeded hosts

theorem followed_run {link : L} {radio : R} {config : LinkConfig} {capabilities : Capabilities}
    {start : Session L S R} (hstart : ofConfig link radio config capabilities = .ok start)
    (unbusy : ∀ calls discovery link e,
      Link.bind (start.run calls).clearEffects.ready.link discovery = (link, .error e) →
        (start.run calls).clearEffects.ready.busy = none)
    (calls : List (HostCall S R))
    (hadded : ∀ service, .register service ∈ calls →
      ∀ out, Service.Fills S out → out.TellsNoState) :
    (start.toldIn calls).foldl Event.follow (.notConnected, none) =
      ((start.run calls).state, (start.run calls).busy) := by
  have hreachable : start.Reachable := .ofConfig hstart
  induction calls using List.reverseRecOn with
  | nil =>
      obtain ⟨secret, rfl⟩ := eq_of_ofConfig hstart
      rfl
  | append_singleton calls call ih =>
      have hbefore : ∀ service, .register service ∈ calls →
          ∀ out, Service.Fills S out → out.TellsNoState :=
        fun service hmem => hadded service (List.mem_append_left _ hmem)
      have hhosts : (start.run calls).clearEffects.Hosts Outbox.TellsNoState :=
        (hosts_ofConfig hstart).run calls hbefore
      have hheeded : (start.run calls).clearEffects.Heeded := (hreachable.run calls).heeded
      rw [toldIn_snoc, run_snoc, List.foldl_append, ih hbefore]
      exact followed_perform hheeded hhosts call (unbusy calls)

end

/-! ## Over either link -/

section

variable {S R : Type} [CipherSuite] [Service S] [Radio R]

/-- After every run, what a session is busy with is what was told last of it, unless the connection
was given up since; then it is not busy, which nobody was told. Where services leave it to the
session to tell how the connection stands, a host that follows the events and takes the loss of a
connection for the end of being busy knows what the session is busy with, over a stream and over
characteristics. -/
theorem busy_run {radio : R} {config : LinkConfig} {capabilities : Capabilities} :
    (∀ (link : StreamLink) (start : Session StreamLink S R),
      ofConfig link radio config capabilities = .ok start → ∀ calls,
        BusyAfter none (start.toldIn calls) (start.run calls).busy ∧
        ((∀ service, .register service ∈ calls →
            ∀ out, Service.Fills S out → out.TellsNoState) →
          (start.toldIn calls).foldl Event.follow (.notConnected, none) =
            ((start.run calls).state, (start.run calls).busy))) ∧
    ∀ (link : GattLink) (start : Session GattLink S R), link.bound = none →
      ofConfig link radio config capabilities = .ok start → ∀ calls,
        BusyAfter none (start.toldIn calls) (start.run calls).busy ∧
        ((∀ service, .register service ∈ calls →
            ∀ out, Service.Fills S out → out.TellsNoState) →
          (start.toldIn calls).foldl Event.follow (.notConnected, none) =
            ((start.run calls).state, (start.run calls).busy)) := by
  constructor
  · intro link start hstart calls
    exact ⟨heralded_run hstart calls,
      followed_run hstart (fun _ _ _ _ bound => by cases bound) calls⟩
  · intro link start unbound hstart calls
    refine ⟨heralded_run hstart calls, followed_run hstart (fun before _ _ _ _ => ?_) calls⟩
    have hcalm := calm_run unbound hstart before
    have hclear : (start.run before).clearEffects.Calm :=
      ⟨hcalm.heeded, hcalm.staged, hcalm.unbusy⟩
    exact hclear.ready

end

/-- The connection is given up in the middle of an installation. -/
def abandoned : List (HostCall DeviceService RadioQueue) := installing ++ [.disconnect]

theorem busy_run_abandoned :
    BusyAfter none (streamStart.toldIn halfRead) (streamStart.run halfRead).busy ∧
    (clearTextStart.toldIn abandoned).foldl Event.follow (.notConnected, none) =
      (.notConnected, none) := by
  have hstart : ofConfig {} {} bareConfig {} = .ok streamStart := rfl
  have hadded (service : DeviceService) : .register service ∉ abandoned := by
    simp [abandoned, installing, meeting, commandFromWatch, agreement]
  exact ⟨(busy_run.1 {} streamStart hstart halfRead).1,
    (busy_run.2 {} clearTextStart rfl ofConfig_clearTextStart abandoned).2
      fun service hmem => absurd hmem (hadded service)⟩

/-- The host was told that firmware is being updated, and never that it is not any more. -/
theorem busy_abandoned :
    ofConfig {} {} bareConfig {} = .ok clearTextStart ∧
    (clearTextStart.run installing).busy = some "Updating firmware" ∧
    (clearTextStart.run abandoned).busy = none ∧
    lastBusy (clearTextStart.toldIn abandoned) = some (some "Updating firmware") := by
  refine ⟨rfl, ?_, ?_, ?_⟩
  all_goals decide +kernel

end Session

end WatchLink
