import WatchLink.Proofs.Session.Sheltering

/-!
# What leaves an encrypted connection in clear

In a run whose host adds no services and writes no commands of its own, each call is `Covered`: what
it has written over an encrypted connection goes with the keys there are. With keys that is all a
sealing link can do. Without them a stream writes the handshake and nothing else; characteristics
let the request for the battery's level through as well, in clear, to a watch that has not been
authenticated.
-/

namespace WatchLink

/-- The host writes a command of its own. -/
def HostCall.isOwnWrite {S R : Type} : HostCall S R → Bool
  | .sendIn _ | .send _ _ => true
  | _ => false

/-- The call neither starts nor ends a connection. -/
def HostCall.isOngoing {S R : Type} : HostCall S R → Bool
  | .connect _ _ | .disconnect => false
  | _ => true

namespace Session

open Relation BulkReading Settling Sealing

section

variable {L S R : Type} [CipherSuite] [Link L] [Settling L] [BulkReading L] [Sealing L]
  [Service S] [Radio R] {s t u : Session L S R} {keys : SessionKeys}

/-! ## Calls -/

/-- Connecting has nothing written but the hello, and leaves no keys. -/
theorem asks_connect (h : s.Sound) (discovery : Discovery) (nonce : Octets 16) :
    (s.connect discovery nonce).1.handshake.keys? = none ∧
      Asks (Bare L) s (s.connect discovery nonce).1 := by
  have hready : Asks (Bare L) s s.ready := s.asks_ready
  have hunkeyed : s.ready.handshake.keys? = none := by
    have hkeys := h.staged.ready.2.1
    exact Option.not_isSome_iff_eq_none.1 (by rw [hkeys]; exact Bool.false_ne_true)
  have hstarted (mode : HandshakeMode) : (s.ready.handshake.start mode nonce).1.keys? = none := by
    cases mode <;> rfl
  have hhello {link next : L} {mode : HandshakeMode} {op : RadioOp}
      (written : (Link.writeCommand (Link.resetCounters link)
        (s.ready.handshake.start mode nonce).2 none).Puts next op) :
      Asks (Bare L) s (s.saidHello (Link.resetCounters link) next mode nonce op).1 := by
    refine hready.trans (asks_submit (s.introduced next mode nonce) fun asked hmem => ?_)
    rcases List.mem_append.1 hmem with hstartup | hsaid
    · exact .inl (writeless_startup _ asked hstartup)
    · obtain rfl := List.mem_singleton.1 hsaid
      exact .inr ⟨_, Handshake.kind_start _ mode nonce, inClear_of_unkeyed written⟩
  have hconnected := s.connected discovery nonce
  generalize (s.connect discovery nonce).1 = t at hconnected ⊢
  cases hconnected with
  | @unbound link _ state =>
      exact ⟨hunkeyed, hready.trans (asks_setState { s.ready with link := link } state)⟩
  | @unwritten link mode =>
      exact ⟨rfl, hready.trans (asks_setState (resetConnection _) _)⟩
  | refused _ written => exact ⟨rfl, (hhello written).trans (asks_setState (resetConnection _) _)⟩
  | @greeted _ _ mode _ _ written =>
      exact ⟨hstarted mode, (hhello written).trans (asks_setState _ _)⟩

/-- Between connecting and disconnecting a call is sheltered, unless the host writes commands of its
own. -/
theorem sheltered_perform (h : s.Shrouded) {call : HostCall S R} (own : call.isOwnWrite = false)
    (ongoing : call.isOngoing = true) : Sheltered (Early L) s (s.perform call).1 := by
  have hsame {t : Session L S R} (handshake : t.handshake = s.handshake)
      (effects : t.effects = s.effects) : Sheltered (Early L) s t :=
    sheltered_of_eq handshake effects
  have hstart : s.Shrouded ∧ Sheltered (Early L) s s := ⟨h, hsame rfl rfl⟩
  -- Without keys the connection is not open, and the host is refused.
  have hasked {t : Session L S R} (moves : Moves s t) (refused : s.state ≠ .initialized → t = s) :
      Sheltered (Early L) s t := by
    cases hkeys : s.handshake.keys? with
    | none =>
        rw [refused (h.closed hkeys)]
        exact hsame rfl rfl
    | some keys =>
        obtain ⟨hlast, hasks⟩ := (h.toSound.keyed hkeys).moves moves
        exact .keyed hkeys hlast.keys hasks
  cases call with
  | connect => cases ongoing
  | disconnect => cases ongoing
  | sendIn => cases own
  | send => cases own
  | mtuChanged => exact hsame rfl rfl
  | register => exact hsame rfl rfl
  | deliver => exact hsame rfl rfl
  | processPending host => exact ((heard_sheltered s).reads.processAtMost host _ hstart).2
  | receive host endpoint data =>
      exact ((heard_sheltered s).reads.onReceive host endpoint data hstart).2
  | installFirmware image =>
      exact hasked (reactions_installFirmware s image).moves
        fun hclosed => congrArg Prod.fst ((refuses hclosed).installFirmware image)
  | sendConfiguration host key =>
      exact hasked (deeds_sendConfiguration s host key).reactions.moves
        fun hclosed => congrArg Prod.fst ((refuses hclosed).sendConfiguration host key)
  | setCurrentTime host =>
      exact hasked (deeds_setCurrentTime s host).reactions.moves
        fun hclosed => congrArg Prod.fst ((refuses hclosed).setCurrentTime host)
  | findPhoneStop =>
      exact hasked (deeds_findPhoneStop s).reactions.moves
        fun hclosed => congrArg Prod.fst (refuses hclosed).findPhoneStop
  | findWatch start =>
      exact hasked (deeds_findWatch s start).reactions.moves
        fun hclosed => congrArg Prod.fst ((refuses hclosed).findWatch start)
  | setVibration type preset =>
      exact hasked (deeds_setVibration s type preset).reactions.moves
        fun hclosed => congrArg Prod.fst ((refuses hclosed).setVibration type preset)
  | radio => exact hsame rfl rfl
  | inbox => exact hsame rfl rfl

/-- A call is sheltered, or it starts or ends a connection and has nothing written but a hello. -/
inductive Covered (early : RadioOp → Prop) (s t : Session L S R) : Prop
  | goesOn (sheltered : Sheltered early s t)
  | renewed (left : t.handshake.keys? = none) (asks : Asks (Bare L) s t)

theorem covered_perform (h : s.Sound) {call : HostCall S R} (own : call.isOwnWrite = false)
    (hidden : call.isOngoing = true → mode? s.link ≠ some .clearText) :
    Covered (Early L) s (s.perform call).1 := by
  cases hongoing : call.isOngoing with
  | true => exact .goesOn (sheltered_perform ⟨h, hidden hongoing⟩ own hongoing)
  | false =>
      cases call with
      | connect discovery nonce =>
          obtain ⟨hleft, hasks⟩ := asks_connect h discovery nonce
          exact .renewed hleft hasks
      | disconnect => exact .renewed rfl (asks_setState (resetConnection _) _)
      | _ => cases hongoing

/-! ## Runs -/

omit [Radio R] in
theorem even_ready (h : Even (layout s.link)) : Even (layout s.ready.link) := by
  rcases s.ready_cases with ⟨-, hready⟩ | hready
  · rw [hready]
    exact h
  · rw [hready]
    exact even_teardown s.link h

theorem even_connect (h : Even (layout s.link)) (discovery : Discovery) (nonce : Octets 16) :
    Even (layout (s.connect discovery nonce).1.link) := by
  have hbind := even_bind s.ready.link discovery (even_ready h)
  have hconnected := s.connected discovery nonce
  generalize (s.connect discovery nonce).1 = t at hconnected ⊢
  cases hconnected with
  | unbound bound =>
      rw [bound] at hbind
      exact hbind
  | @unwritten link _ _ bound =>
      rw [bound] at hbind
      refine even_teardown (Link.resetCounters link) ?_
      rw [layout_resetCounters]
      exact hbind
  | @refused link next _ _ _ bound written =>
      rw [bound] at hbind
      refine even_teardown next ?_
      rw [layout_writeCommand written, layout_resetCounters]
      exact hbind
  | @greeted link next _ _ bound written =>
      rw [bound] at hbind
      change Even (layout next)
      rw [layout_writeCommand written, layout_resetCounters]
      exact hbind

theorem even_perform (h : Even (layout s.link)) (call : HostCall S R) :
    Even (layout (s.perform call).1.link) := by
  have hperformed := s.performed call
  generalize s.perform call = result at hperformed ⊢
  cases hperformed with
  | connect discovery nonce => exact even_connect h discovery nonce
  | disconnect => exact even_teardown s.link h
  | mtuChanged mtu =>
      change Even (layout (Link.setMtu s.link mtu))
      rw [layout_setMtu]
      exact h
  | radio => exact h
  | register => exact h
  | sendIn written =>
      rw [layout_writeCommand written]
      exact h
  | moved moves => exact moves.keep even_move h

omit [Sealing L] in
/-- Only connecting settles a link anew. -/
theorem mode?_perform (s : Session L S R) {call : HostCall S R} (ongoing : call.isOngoing = true) :
    mode? (s.perform call).1.link = mode? s.link ∨
      mode? (s.perform call).1.link = unsettled (L := L) := by
  have hperformed := s.performed call
  generalize s.perform call = result at hperformed ⊢
  cases hperformed with
  | connect => cases ongoing
  | disconnect => cases ongoing
  | mtuChanged mtu => exact .inl (mode?_setMtu s.link mtu)
  | radio => exact .inl rfl
  | register => exact .inl rfl
  | sendIn written => exact .inl (mode?_writeCommand written)
  | moved moves =>
      refine moves.keep (P := fun t => mode? t.link = mode? s.link ∨
        mode? t.link = unsettled (L := L)) ?_ (.inl rfl)
      intro t u move hbefore
      rcases link_move move with ⟨-, hmode⟩ | hdown
      · rwa [hmode]
      · rw [hdown]
        exact .inr (mode?_teardown t.link)

omit [Settling L] [BulkReading L] [Sealing L] in
/-- A host that adds no services has none. -/
theorem builtIn_run {start : Session L S R} {link : L} {radio : R} {config : LinkConfig}
    {capabilities : Capabilities} (hstart : ofConfig link radio config capabilities = .ok start)
    (calls : List (HostCall S R)) (hadded : ∀ service, .register service ∉ calls) :
    (start.run calls).registry.services = [] := by
  have hhosts : (start.run calls).Hosts fun _ => False :=
    (hosts_ofConfig hstart).run calls fun service hmem => absurd hmem (hadded service)
  by_contra hsome
  obtain ⟨service, -⟩ := List.exists_mem_of_ne_nil _ hsome
  exact hhosts hsome _ (.authenticated service bareHost)

theorem sound_run {start : Session L S R} {link : L} {radio : R} {config : LinkConfig}
    {capabilities : Capabilities} (hstart : ofConfig link radio config capabilities = .ok start)
    (unbound : mode? link = unsettled (L := L)) (even : Even (layout link))
    (calls : List (HostCall S R)) (hadded : ∀ service, .register service ∉ calls) :
    (start.run calls).clearEffects.Sound := by
  have hstaged : start.Staged := staged_ofConfig hstart unbound
  obtain ⟨heven, hfree⟩ : Even (layout start.link) ∧ start.Occupied := by
    obtain ⟨secret, rfl⟩ := eq_of_ofConfig hstart
    exact ⟨even, .free rfl rfl rfl⟩
  have hoccupied := (hfree.run (hosts_ofConfig hstart) calls
    fun service hmem => absurd hmem (hadded service)).2
  exact
    { coherent := ((Reachable.ofConfig hstart).run calls).coherent
      staged := hstaged.run calls
      even := run_keep (P := fun t => Even (layout t.link)) calls heven
        fun t heven call _ => even_perform (s := t.clearEffects) heven call
      routed := routed_run (routed_ofConfig hstart) calls
      builtIn := builtIn_run hstart calls hadded
      occupied := hoccupied.of_eq rfl rfl rfl id }

end

section

variable {S R : Type} [CipherSuite] [Service S] [Radio R]

/-- A stream does not write the request for the battery's level in clear. -/
theorem introduces_of_early {op : RadioOp} (h : Early StreamLink op) :
    Introduces StreamLink op := by
  rcases h with hintroduces | hbattery
  · exact hintroduces
  · cases hbattery with
    | frame serial unsealed => exact absurd rfl unsealed

/-- In every run in which the host adds no services and writes no commands of its own, all that is
written over an encrypted connection goes with its keys. With them everything is sealed but the
handshake, and the parts of uploads over a stream. Without them nothing is written over a stream but
the handshake; over characteristics there is one command more, the request for the battery's level,
and it is written in clear. -/
theorem covered_run {radio : R} {config : LinkConfig} {capabilities : Capabilities} :
    (∀ (link : StreamLink) (start : Session StreamLink S R),
      ofConfig link radio config capabilities = .ok start → ∀ calls call,
        (∀ service, .register service ∉ calls) → call.isOwnWrite = false →
        Covered (Introduces StreamLink) (start.run calls).clearEffects
          ((start.run calls).clearEffects.perform call).1) ∧
    ∀ (link : GattLink) (start : Session GattLink S R), link.bound = none →
      ofConfig link radio config capabilities = .ok start → ∀ calls call,
        (∀ service, .register service ∉ calls) → call.isOwnWrite = false →
        ((start.run calls).link.mode? = some .encrypted ∨
          ((start.run calls).clearEffects.perform call).1.link.mode? = some .encrypted) →
        Covered
          (fun op => Introduces GattLink op ∨
            GattLink.InClear (DeviceService.request DeviceService.batterySubtype) op)
          (start.run calls).clearEffects ((start.run calls).clearEffects.perform call).1 := by
  constructor
  · intro link start hstart calls call hadded own
    have hsound := sound_run hstart rfl trivial calls hadded
    cases covered_perform hsound own (fun _ => by nofun) with
    | goesOn sheltered => exact .goesOn (sheltered.mono fun _ => introduces_of_early)
    | renewed left asks => exact .renewed left asks
  · intro link start hlink hstart calls call hadded own hmode
    have hunbound : link.layout = none := Option.map_eq_none_iff.2 hlink
    have hsound := sound_run hstart (Option.map_eq_none_iff.2 hlink)
      (by change GattLink.Even link.layout; rw [hunbound]; exact GattLink.even_none) calls hadded
    refine covered_perform hsound own fun ongoing hclear => ?_
    have hfound : (start.run calls).link.mode? = some .clearText := hclear
    rcases hmode with hbefore | hafter
    · cases hbefore.symm.trans hfound
    · rcases mode?_perform (start.run calls).clearEffects ongoing with hsame | hdown
      · cases hafter.symm.trans (hsame.trans hfound)
      · cases hafter.symm.trans hdown

end

/-! ## A report that comes too early -/

/-- A watch with the characteristics of the encrypted layout. -/
def encryptedWatch : Discovery :=
  ⟨[⟨.ofShort 0xFE95, [.ofShort 0x0051, .ofShort 0x0052, .ofShort 0x0053, .ofShort 0x0055]⟩]⟩

/-- A session that will find a watch of the encrypted layout. -/
abbrev encryptedStart : Session GattLink DeviceService RadioQueue := clearTextStart

/-- The session has said hello to the watch. -/
def saidHelloTo : List (HostCall DeviceService RadioQueue) := [.connect encryptedWatch (.zero 16)]

/-- The watch sends a basic state with nothing in it. -/
def emptyReport : HostCall DeviceService RadioQueue :=
  .receive bareHost (.resource (.ofShort 0x0051)) [2, 78, 0]

theorem mode?_saidHelloTo : (encryptedStart.run saidHelloTo).link.mode? = some .encrypted := by
  decide +kernel

/-- Over a stream that has been paired, and over characteristics before the watch has answered the
hello. -/
theorem covered_run_emptyReport :
    (∃ (s : Session StreamLink DeviceService RadioQueue) (calls : List (HostCall _ _)),
      ofConfig {} {} bareConfig {} = .ok s ∧ (∀ service, .register service ∉ calls) ∧
      (s.run calls).handshake.keys? = some (.derive (.zero 16) (.zero 16) (.replicate 16 1)) ∧
      Covered (Introduces StreamLink) (s.run calls).clearEffects
        ((s.run calls).clearEffects.perform .findPhoneStop).1) ∧
    (encryptedStart.run saidHelloTo).link.mode? = some .encrypted ∧
    Covered
      (fun op => Introduces GattLink op ∨
        GattLink.InClear (DeviceService.request DeviceService.batterySubtype) op)
      (encryptedStart.run saidHelloTo).clearEffects
      ((encryptedStart.run saidHelloTo).clearEffects.perform emptyReport).1 := by
  constructor
  · obtain ⟨s, hs, hrest, hsecret, htaken, hinfo⟩ := exists_bare
    have hrouted : s.registry.Routed := routed_ofConfig hs
    have hkeys := keys?_run_pairing bareHost (.zero 16) (.replicate 16 1) hrest hrouted (htaken _)
      hinfo
    rw [hsecret] at hkeys
    have hadded (service : DeviceService) :
        .register service ∉ pairing (S := DeviceService) (R := RadioQueue) bareHost (.zero 16)
          (.zero 16) (.replicate 16 1) := by
      simp [pairing, approach]
    exact ⟨s, _, hs, hadded, hkeys, covered_run.1 {} s hs _ .findPhoneStop hadded rfl⟩
  · have hadded (service : DeviceService) : .register service ∉ saidHelloTo := by
      simp [saidHelloTo]
    exact ⟨mode?_saidHelloTo, covered_run.2 {} encryptedStart rfl ofConfig_clearTextStart
      saidHelloTo emptyReport hadded rfl (.inl mode?_saidHelloTo)⟩

/-- The battery's level is asked for in clear on an encrypted connection that has no keys yet. -/
theorem inClear_emptyReport :
    ofConfig {} {} bareConfig {} = .ok encryptedStart ∧
    (encryptedStart.run saidHelloTo).link.mode? = some .encrypted ∧
    (encryptedStart.run (saidHelloTo ++ [emptyReport])).link.mode? = some .encrypted ∧
    (encryptedStart.run (saidHelloTo ++ [emptyReport])).handshake.keys? = none ∧
    (encryptedStart.run (saidHelloTo ++ [emptyReport])).transactions =
      [⟨"request battery state", [.write (.resource (.ofShort 0x0052))
        (DeviceService.request DeviceService.batterySubtype).toBytes]⟩] ∧
    (DeviceService.request DeviceService.batterySubtype).kind ≠ Command.authKind := by
  refine ⟨rfl, mode?_saidHelloTo, ?_, ?_, ?_, ?_⟩
  all_goals decide +kernel

end Session

end WatchLink
