import WatchLink.Proofs.Session.Acting

/-!
# The record of a run

The effects of a call say what it did and the payloads that came in say what it heard, but neither
says which came first. The record of a run has both, payload by payload, and the installations that
the host asked for, in the order in which all that happened: so it can be said that a part was
acknowledged before the next was written. What was done, read off the record of a call, is what the
call did.
-/

namespace WatchLink

/-- Something that happened in a run. -/
inductive Moment where
  /-- The host asked for an installation, and was not refused. -/
  | installing (image : FirmwareImage)
  /-- A payload came in. -/
  | heard (inbound : Inbound)
  | did (effect : Effect)
  deriving DecidableEq

def Moment.effect? : Moment → Option Effect
  | .did effect => some effect
  | _ => none

namespace Session

variable {L S R : Type}

/-- What one session has done that another has not, in order. -/
def news (s t : Session L S R) : List Moment :=
  (t.effects.take (t.effects.length - s.effects.length)).reverse.map .did

theorem news_of_eq {s t : Session L S R} {more : List Effect} (h : t.effects = more ++ s.effects) :
    news s t = more.reverse.map .did := by
  rw [news, h, List.length_append, Nat.add_sub_cancel, List.take_left]

theorem news_of_effects {s t : Session L S R} (h : t.effects = s.effects) : news s t = [] := by
  rw [news, h, Nat.sub_self, List.take_zero]
  rfl

theorem news_trans {s t u : Session L S R} (hst : s.effects <:+ t.effects)
    (htu : t.effects <:+ u.effects) : news s u = news s t ++ news t u := by
  obtain ⟨more, hmore⟩ := hst
  obtain ⟨last, hlast⟩ := htu
  rw [news_of_eq hmore.symm, news_of_eq hlast.symm, ← List.map_append, ← List.reverse_append]
  exact news_of_eq (by rw [← hlast, ← hmore, List.append_assoc])

theorem news_submit [Radio R] (s : Session L S R) (transaction : Transaction) :
    news s (s.submit transaction).1 = [.did (.submitted transaction)] ∨
    news s (s.submit transaction).1 = [.did (.refused transaction)] := by
  cases hanswer : (Radio.submit s.radio transaction).2 with
  | ok =>
      have heffects : (s.submit transaction).1.effects = [.submitted transaction] ++ s.effects := by
        simp [submit, hanswer]
      exact .inl (news_of_eq heffects)
  | error e =>
      have heffects : (s.submit transaction).1.effects = [.refused transaction] ++ s.effects := by
        simp [submit, hanswer]
      exact .inr (news_of_eq heffects)

variable [CipherSuite] [Link L] [Service S] [Radio R]

/-- Give up what is half-read if input was lost. -/
def resynced (s : Session L S R) (lost : Bool) : Session L S R :=
  if lost then { s with link := Link.resync s.link } else s

/-- A session that is about to receive a read directly. -/
def caughtUp (s : Session L S R) (host : HostView) : Session L S R :=
  let s := s.processPending host
  resynced { s with inbox := s.inbox.takeLost.1 } s.inbox.takeLost.2

theorem onReceive_eq_receiveNow (s : Session L S R) (host : HostView) (endpoint : Endpoint)
    (data : Bytes) :
    s.onReceive host endpoint data = (s.caughtUp host).receiveNow host endpoint data := rfl

theorem processChunk_eq_receiveNow (s : Session L S R) (host : HostView) (chunk : Chunk) :
    s.processChunk host chunk =
      (s.resynced chunk.resync).receiveNow host chunk.endpoint chunk.data := rfl

/-- Payloads come in one after the other. -/
def hearing (host : HostView) : Session L S R → List Inbound → List Moment
  | _, [] => []
  | s, inbound :: more =>
    .heard inbound :: news s (s.handleInbound host inbound) ++
      hearing host (s.handleInbound host inbound) more

/-- The payloads of a read come in. -/
def receiving (s : Session L S R) (host : HostView) (endpoint : Endpoint) (data : Bytes) :
    List Moment :=
  let (link, payloads) := Link.receive s.link endpoint data s.handshake.cipher?
  hearing host { s with link := link } payloads

/-- Chunks that wait come in. -/
def processing (host : HostView) : Nat → Session L S R → List Moment
  | 0, _ => []
  | n + 1, s =>
    match s.inbox.next? with
    | some (chunk, inbox) =>
      let s := { s with inbox := inbox }
      receiving (s.resynced chunk.resync) host chunk.endpoint chunk.data ++
        processing host n (s.processChunk host chunk)
    | none => []

/-- What happens in a call. -/
def moments (s : Session L S R) : HostCall S R → List Moment
  | .processPending host => processing host s.inbox.chunks.length s
  | .receive host endpoint data =>
    processing host s.inbox.chunks.length s ++ receiving (s.caughtUp host) host endpoint data
  | .installFirmware image =>
    match s.installFirmware image with
    | (t, .ok ()) => .installing image :: news s t
    | (_, .error _) => []
  | call => news s (s.perform call).1

/-- What happens in a run. -/
def record (s : Session L S R) : List (HostCall S R) → List Moment
  | [] => []
  | call :: calls => s.clearEffects.moments call ++ record (s.clearEffects.perform call).1 calls

theorem record_append (s : Session L S R) (calls more : List (HostCall S R)) :
    s.record (calls ++ more) = s.record calls ++ (s.run calls).record more := by
  induction calls generalizing s with
  | nil => rfl
  | cons call calls ih =>
      rw [List.cons_append, record, record, ih, List.append_assoc]
      rfl

theorem record_snoc (s : Session L S R) (calls : List (HostCall S R)) (call : HostCall S R) :
    s.record (calls ++ [call]) = s.record calls ++ (s.run calls).clearEffects.moments call := by
  rw [record_append, record, record, List.append_nil]

/-- How a call and its record come about. -/
inductive Happened (s : Session L S R) : HostCall S R → Session L S R → List Moment → Prop
  | connect (discovery : Discovery) (nonce : Octets 16) :
      Happened s (.connect discovery nonce) (s.connect discovery nonce).1
        (news s (s.connect discovery nonce).1)
  | disconnect : Happened s .disconnect s.disconnect (news s s.disconnect)
  | mtuChanged (mtu : Nat) : Happened s (.mtuChanged mtu) (s.onMtuChanged mtu) []
  | radio (radio : R) : Happened s (.radio radio) { s with radio := radio } []
  | sendIn {command : Command} {link : L} {op : RadioOp}
      (written : (Link.writeCommand s.link command s.handshake.cipher?).Puts link op) :
      Happened s (.sendIn command) { s with link := link } []
  | register (service : S) :
      Happened s (.register service)
        { s with registry := (s.registry.register service).1 } []
  | install {image : FirmwareImage} (initialized : s.state = .initialized)
      (idle : s.device.install = .idle) :
      Happened s (.installFirmware image) (s.requested image)
        (.installing image :: news s (s.requested image))
  | inbox {call : HostCall S R} (inbox : Inbox) : Happened s call { s with inbox := inbox } []
  | deeds {call : HostCall S R} {t : Session L S R} (deeds : Deeds s t) :
      Happened s call t (news s t)
  | processPending (host : HostView) :
      Happened s (.processPending host) (s.processPending host)
        (processing host s.inbox.chunks.length s)
  | receive (host : HostView) (endpoint : Endpoint) (data : Bytes) :
      Happened s (.receive host endpoint data) (s.onReceive host endpoint data)
        (processing host s.inbox.chunks.length s ++
          receiving (s.caughtUp host) host endpoint data)

/-- The list is complete. -/
theorem happened (s : Session L S R) (call : HostCall S R) :
    Happened s call (s.perform call).1 (s.moments call) := by
  have hsilent {call : HostCall S R} {t : Session L S R} (hhappened : Happened s call t [])
      (h : t.effects = s.effects) : Happened s call t (news s t) := by
    rwa [news_of_effects h]
  have hnothing (call : HostCall S R) : Happened s call s (news s s) := .deeds .refl
  cases call with
  | connect discovery nonce => exact .connect discovery nonce
  | disconnect => exact .disconnect
  | mtuChanged mtu => exact hsilent (.mtuChanged mtu) rfl
  | register service => exact hsilent (.register service) rfl
  | deliver endpoint data => exact hsilent (.inbox _) rfl
  | processPending host => exact .processPending host
  | receive host endpoint data => exact .receive host endpoint data
  | sendIn command =>
      have hmoments : s.moments (.sendIn command) = news s (s.perform (.sendIn command)).1 := rfl
      rw [hmoments, perform, sendIn]
      cases Link.writeCommand_allOrNothing s.link command s.handshake.cipher? with
      | puts link endpoint data made =>
          rw [made]
          exact hsilent (.sendIn made) rfl
      | fails e failed =>
          rw [failed]
          exact hnothing _
  | send task command => exact .deeds (.single (.send s task command))
  | installFirmware image =>
      rw [perform, moments]
      rcases installFirmware_cases s image with ⟨error, h⟩ | ⟨hinitialized, hidle, h⟩
      · rw [h]
        have hrefused := hnothing (.installFirmware image)
        rwa [news_of_effects rfl] at hrefused
      · rw [h]
        exact .install hinitialized hidle
  | sendConfiguration host key => exact .deeds (deeds_sendConfiguration s host key)
  | setCurrentTime host => exact .deeds (deeds_setCurrentTime s host)
  | findPhoneStop => exact .deeds (deeds_findPhoneStop s)
  | findWatch start => exact .deeds (deeds_findWatch s start)
  | setVibration type preset => exact .deeds (deeds_setVibration s type preset)
  | radio radio => exact hsilent (.radio radio) rfl
  | inbox inbox => exact hsilent (.inbox inbox) rfl

/-! ## What was done -/

omit [CipherSuite] [Link L] [Service S] [Radio R] in
theorem effect?_news {s t : Session L S R} (h : s.effects <:+ t.effects) :
    t.effects.reverse = s.effects.reverse ++ (news s t).filterMap Moment.effect? := by
  obtain ⟨more, hmore⟩ := h
  rw [news_of_eq hmore.symm, ← hmore, List.reverse_append, List.filterMap_map]
  simp [Function.comp_def, Moment.effect?]

theorem effect?_hearing (host : HostView) (s : Session L S R) (payloads : List Inbound) :
    (payloads.foldl (fun s payload => s.handleInbound host payload) s).effects.reverse =
      s.effects.reverse ++ (hearing host s payloads).filterMap Moment.effect? := by
  induction payloads generalizing s with
  | nil => simp [hearing]
  | cons inbound more ih =>
      have hnews := effect?_news (acts_handleInbound s host inbound).moves.effects
      rw [List.foldl_cons, ih, hearing, List.cons_append, List.filterMap_cons,
        List.filterMap_append, hnews, List.append_assoc]
      rfl

theorem effect?_receiving (s : Session L S R) (host : HostView) (endpoint : Endpoint)
    (data : Bytes) :
    (s.receiveNow host endpoint data).effects.reverse =
      s.effects.reverse ++ (receiving s host endpoint data).filterMap Moment.effect? :=
  effect?_hearing host _ _

omit [CipherSuite] [Service S] [Radio R] in
theorem effects_resynced (s : Session L S R) (lost : Bool) :
    (s.resynced lost).effects = s.effects := by
  cases lost <;> rfl

theorem effect?_processing (host : HostView) (n : Nat) (s : Session L S R) :
    (processAtMost host n s).effects.reverse =
      s.effects.reverse ++ (processing host n s).filterMap Moment.effect? := by
  induction n generalizing s with
  | zero => simp [processing, processAtMost]
  | succ n ih =>
      rw [processAtMost, processing]
      cases s.inbox.next? with
      | none => simp
      | some next =>
          simp only [ih, processChunk_eq_receiveNow, effect?_receiving, effects_resynced,
            List.filterMap_append, List.append_assoc]

omit [CipherSuite] in
theorem effects_connect (s : Session L S R) (discovery : Discovery) (nonce : Octets 16) :
    s.effects <:+ (s.connect discovery nonce).1.effects := by
  have hready : s.effects <:+ s.ready.effects := by
    rw [effects_ready]
    exact List.suffix_cons _ _
  have hmore (effect : Effect) : s.effects <:+ effect :: s.ready.effects :=
    hready.trans (List.suffix_cons _ _)
  have hconnected := s.connected discovery nonce
  generalize (s.connect discovery nonce).1 = t at hconnected ⊢
  cases hconnected with
  | unbound => exact hmore _
  | unwritten => exact hmore _
  | refused => exact (hmore _).trans (List.suffix_cons _ _)
  | greeted => exact (hmore _).trans (List.suffix_cons _ _)

/-- What was done in a call, by its record, is what the call did. -/
theorem effect?_moments (s : Session L S R) (call : HostCall S R) :
    (s.perform call).1.effects.reverse =
      s.effects.reverse ++ (s.moments call).filterMap Moment.effect? := by
  have hhappened := s.happened call
  generalize (s.perform call).1 = t at hhappened ⊢
  generalize s.moments call = moments at hhappened ⊢
  cases hhappened with
  | connect discovery nonce => exact effect?_news (effects_connect s discovery nonce)
  | disconnect => exact effect?_news (List.suffix_cons _ _)
  | mtuChanged => exact (List.append_nil _).symm
  | radio => exact (List.append_nil _).symm
  | sendIn => exact (List.append_nil _).symm
  | register => exact (List.append_nil _).symm
  | @install image =>
      exact effect?_news
        (effects_send { s with device := { s.device with install := .requested image } } _ _)
  | inbox => exact (List.append_nil _).symm
  | deeds deeds => exact effect?_news deeds.reactions.moves.effects
  | processPending host => exact effect?_processing host _ s
  | receive host endpoint data =>
      have hpending := effect?_processing host s.inbox.chunks.length s
      have hcaught : (s.caughtUp host).effects = (s.processPending host).effects :=
        effects_resynced _ _
      rw [onReceive_eq_receiveNow, effect?_receiving, hcaught, processPending, hpending,
        List.filterMap_append, List.append_assoc]

end Session

end WatchLink
