import Mathlib.Data.List.Induction
import WatchLink.Proofs.Session.Deeds
import WatchLink.Proofs.Session.Run

/-!
# What connecting and acting lead to

Connecting has four outcomes, `Connected`. Whatever acts do, what was done before stays on record.

What a session is left with after a run is there since some call that caused it, and has lasted over
every call from then on: `Since`. A condition that no new session has, and that no call leaves true
unless it causes it or found it true, has lasted since it was caused.
-/

namespace WatchLink.Session

open Relation

variable {L S R : Type} [CipherSuite] [Link L] [Service S] [Radio R]

/-! ## Connecting -/

/-- A session that connects: whatever there was of a connection is given up. -/
def ready (s : Session L S R) : Session L S R :=
  (if s.state = .notConnected then s else s.resetConnection).setState .connecting

omit [CipherSuite] [Radio R] in
theorem ready_cases (s : Session L S R) :
    (s.state = .notConnected ∧ s.ready = s.setState .connecting) ∨
    s.ready = s.resetConnection.setState .connecting := by
  by_cases hstate : s.state = .notConnected
  · exact .inl ⟨hstate, by rw [ready, if_pos hstate]⟩
  · exact .inr (by rw [ready, if_neg hstate])

omit [CipherSuite] [Radio R] in
theorem effects_ready (s : Session L S R) :
    s.ready.effects = .told (.connectionState .connecting) :: s.effects := by
  rcases s.ready_cases with ⟨-, hready⟩ | hready <;> rw [hready] <;> rfl

/-- A session over a link that was settled on, with the handshake started. -/
def introduced (s : Session L S R) (link : L) (mode : HandshakeMode) (nonce : Octets 16) :
    Session L S R :=
  { s.ready with
    device := s.ready.device.resetStatus
    link := link
    handshake := (s.ready.handshake.start mode nonce).1 }

/-- The radio is asked for everything up to the hello. -/
def saidHello (s : Session L S R) (bound written : L) (mode : HandshakeMode) (nonce : Octets 16)
    (op : RadioOp) : Session L S R × Except LinkError Unit :=
  (s.introduced written mode nonce).submit ⟨"initialize", Link.startup bound ++ [op]⟩

/-- What connecting can come to. -/
inductive Connected (s : Session L S R) (discovery : Discovery) (nonce : Octets 16) :
    Session L S R → Prop
  | unbound {link : L} {e : LinkError} {state : ConnectionState}
      (bound : Link.bind s.ready.link discovery = (link, .error e))
      (given : state = .notConnected ∨ state = .waitingForReconnect) :
      Connected s discovery nonce (setState { s.ready with link := link } state)
  | unwritten {link : L} {mode : HandshakeMode} {e : LinkError}
      (bound : Link.bind s.ready.link discovery = (link, .ok mode))
      (written : (Link.writeCommand (Link.resetCounters link)
        (s.ready.handshake.start mode nonce).2 none).Fails (Link.resetCounters link) e) :
      Connected s discovery nonce
        ((s.introduced (Link.resetCounters link) mode nonce).resetConnection.setState .notConnected)
  | refused {link next : L} {mode : HandshakeMode} {op : RadioOp} {e : LinkError}
      (bound : Link.bind s.ready.link discovery = (link, .ok mode))
      (written : (Link.writeCommand (Link.resetCounters link)
        (s.ready.handshake.start mode nonce).2 none).Puts next op)
      (taken : (s.saidHello (Link.resetCounters link) next mode nonce op).2 = .error e) :
      Connected s discovery nonce
        ((s.saidHello (Link.resetCounters link) next mode nonce op).1.resetConnection.setState
          .notConnected)
  | greeted {link next : L} {mode : HandshakeMode} {op : RadioOp}
      (bound : Link.bind s.ready.link discovery = (link, .ok mode))
      (written : (Link.writeCommand (Link.resetCounters link)
        (s.ready.handshake.start mode nonce).2 none).Puts next op)
      (taken : (s.saidHello (Link.resetCounters link) next mode nonce op).2 = .ok ()) :
      Connected s discovery nonce
        ((s.saidHello (Link.resetCounters link) next mode nonce op).1.setState .initializing)

omit [CipherSuite] in
/-- The list is complete. -/
theorem connected (s : Session L S R) (discovery : Discovery) (nonce : Octets 16) :
    Connected s discovery nonce (s.connect discovery nonce).1 := by
  have hready : (if s.state = .notConnected then s else s.resetConnection).setState .connecting =
      s.ready := rfl
  simp only [connect, hready]
  cases hbound : Link.bind s.ready.link discovery with
  | mk link bound =>
      cases bound with
      | error e =>
          simp only
          split
          · exact .unbound hbound (.inr rfl)
          · exact .unbound hbound (.inl rfl)
          · rename_i heq
            cases heq
      | ok mode =>
          cases Link.writeCommand_allOrNothing (Link.resetCounters link)
            (s.ready.handshake.start mode nonce).2 none with
          | fails e failed =>
              simp only [failed _]
              exact .unwritten hbound failed
          | puts next endpoint data made =>
              simp only [made _]
              generalize hasked : submit (_ : Session L S R) _ = submitted
              have hsubmitted : s.saidHello (Link.resetCounters link) next mode nonce
                  (.write endpoint data) = submitted := hasked
              cases submitted with
              | mk t answer =>
                  cases answer with
                  | ok =>
                      have hgreeted := Connected.greeted hbound made (congrArg Prod.snd hsubmitted)
                      rwa [hsubmitted] at hgreeted
                  | error e =>
                      have hrefused := Connected.refused hbound made (congrArg Prod.snd hsubmitted)
                      rwa [hsubmitted] at hrefused

/-! ## What was done -/

omit [Service S] in
theorem effects_send (s : Session L S R) (task : String) (command : Command) :
    s.effects <:+ (s.send task command).1.effects := by
  rcases send_cases s task command with h | ⟨link, op, -, h⟩
  · exact ⟨[], (congrArg effects h).symm⟩
  · rw [h]
    exact List.suffix_cons _ _

theorem effects_react (s t : Session L S R) (reaction : Reaction s t) :
    s.effects <:+ t.effects := by
  cases reaction with
  | tell => exact List.suffix_cons _ _
  | device => exact List.suffix_rfl
  | registry => exact List.suffix_rfl
  | upload => exact List.suffix_rfl
  | send task command => exact effects_send s task command
  | parts => exact List.suffix_rfl
  | submitParts => exact List.suffix_cons _ _
  | @answer _ reply handshake =>
      exact effects_send { s with handshake := handshake } "auth step" reply
  | accept => exact (List.suffix_cons _ _).trans (List.suffix_cons _ _)
  | refuse => exact (List.suffix_cons _ _).trans (List.suffix_cons _ _)

/-- What was done stays on record. -/
theorem Moves.effects {s t : Session L S R} (h : Moves s t) : s.effects <:+ t.effects := by
  induction h with
  | refl => exact List.suffix_rfl
  | tail _ move ih =>
      cases move with
      | react reaction => exact ih.trans (effects_react _ _ reaction)
      | inbox => exact ih
      | receive => exact ih
      | resync => exact ih

/-- Something was done on the way from one session to another. -/
def OnTheWay (did : Session L S R → Session L S R → Prop) (found s : Session L S R) : Prop :=
  ∃ u, Moves found u ∧ did u s

/-- What acts leave they have found, or they have done what causes it: that is so for many acts if
it is so for one. -/
theorem Acts.cause {I P : Session L S R → Prop} {D : Session L S R → Session L S R → Prop}
    (keep : ∀ s t, Act s t → I s → I t)
    (step : ∀ s t, Act s t → I s → P t → P s ∨ OnTheWay D s t)
    (record : ∀ u s t, D u s → Moves s t → D u t)
    {s t : Session L S R} (h : Acts s t) (hs : I s) (ht : P t) : P s ∨ OnTheWay D s t := by
  have hcause : I t ∧ (P t → P s ∨ OnTheWay D s t) := by
    clear ht
    induction h with
    | refl => exact ⟨hs, .inl⟩
    | @tail b c hacts act ih =>
        refine ⟨keep b c act ih.1, ?_⟩
        intro hc
        rcases step b c act ih.1 hc with hfound | ⟨u, hmoves, hdid⟩
        · refine (ih.2 hfound).imp_right ?_
          rintro ⟨u, hmoves, hdid⟩
          exact ⟨u, hmoves, record u b c hdid (Acts.moves (.single act))⟩
        · exact .inr ⟨u, (Acts.moves hacts).trans hmoves, hdid⟩
  exact hcause.2 ht

/-- What no act brings about is found before acts that leave it. -/
theorem Acts.found {I P : Session L S R → Prop} (keep : ∀ s t, Act s t → I s → I t)
    (step : ∀ s t, Act s t → I s → P t → P s) {s t : Session L S R} (h : Acts s t) (hs : I s)
    (ht : P t) : P s := by
  rcases h.cause (D := fun _ _ => False) keep (fun s t act hs ht => .inl (step s t act hs ht))
    (fun _ _ _ h _ => h) hs ht with hfound | ⟨-, -, hfalse⟩
  · exact hfound
  · exact hfalse.elim

/-! ## Since -/

/-- After these calls it is so since a call that caused it: it has lasted over every call from then
on. What causes it is looked for between the session that the call found and the one it left. -/
inductive Since (start : Session L S R)
    (cause : Session L S R → HostCall S R → Session L S R → Prop)
    (lasts : HostCall S R → Session L S R → Prop) : List (HostCall S R) → Prop
  | caused {calls : List (HostCall S R)} {call : HostCall S R}
      (caused : cause (start.run calls).clearEffects call (start.run (calls ++ [call]))) :
      Since start cause lasts (calls ++ [call])
  | lasted {calls : List (HostCall S R)} {call : HostCall S R}
      (since : Since start cause lasts calls) (lasted : lasts call (start.run (calls ++ [call]))) :
      Since start cause lasts (calls ++ [call])

theorem run_snoc (s : Session L S R) (calls : List (HostCall S R)) (call : HostCall S R) :
    s.run (calls ++ [call]) = ((s.run calls).clearEffects.perform call).1 := run_append ..

/-- What a new session does not have, and what a call leaves only if it causes it or has found it,
has lasted since it was caused. -/
theorem since_of_run {start : Session L S R} (hstart : start.Reachable)
    {cause : Session L S R → HostCall S R → Session L S R → Prop}
    {lasts : HostCall S R → Session L S R → Prop} {P : Session L S R → Prop} (hnot : ¬ P start)
    (hstep : ∀ s : Session L S R, s.Reachable → ∀ call, P (s.clearEffects.perform call).1 →
      cause s.clearEffects call (s.clearEffects.perform call).1 ∨
        P s ∧ lasts call (s.clearEffects.perform call).1)
    (calls : List (HostCall S R)) (h : P (start.run calls)) : start.Since cause lasts calls := by
  induction calls using List.reverseRecOn with
  | nil => exact absurd h hnot
  | append_singleton calls call ih =>
      rw [run_snoc] at h
      rcases hstep (start.run calls) (hstart.run calls) call h with hcause | ⟨hheld, hlasts⟩
      · exact .caused (by rwa [run_snoc])
      · exact .lasted (ih hheld) (by rwa [run_snoc])

end WatchLink.Session
