import Mathlib.Data.List.Dedup
import Mathlib.Data.List.Induction
import WatchLink.Service

/-!
# Where the services of a host stand

A registry notes in one place who answers a kind and keeps the services in another. That the two
agree is an invariant of adding: the library's kinds stay with the library, and any other kind is
routed to the place where the service of that kind is. A service of a new kind goes behind the
others and its place is noted; one of a kind already there takes the place of the other and nothing
is noted. So a place belongs to one kind for good, and whoever looks a kind up finds the service
that was added for it last.

Services that change, but are not added to, leave the routes and the number of places alone
(`Alike`), and with them what is routed where (`Routed`).
-/

namespace WatchLink.Registry

/-- The kinds that the library answers itself. -/
def builtIn : List UInt8 := [Command.authKind, Command.systemKind, Command.uploadKind]

section

variable {S : Type} {registry other third : Registry S} {kind : UInt8} {index : Nat}

/-- The library's kinds are routed to the library and no others are, and every registered place has
a service. -/
structure Routed (registry : Registry S) : Prop where
  auth (kind : UInt8) : registry.route kind = some .auth ↔ kind = Command.authKind
  system (kind : UInt8) : registry.route kind = some .system ↔ kind = Command.systemKind
  upload (kind : UInt8) : registry.route kind = some .upload ↔ kind = Command.uploadKind
  place {kind : UInt8} {index : Nat} (registered : registry.route kind = some (.registered index)) :
    index < registry.services.length

/-- A kind noted before all others. -/
theorem lookup_cons_eq (route : Route) (routes : List (UInt8 × Route)) (new kind : UInt8) :
    ((new, route) :: routes).lookup kind =
      if kind = new then some route else routes.lookup kind := by
  rw [List.lookup_cons]
  by_cases h : kind = new
  · simp [h]
  · rw [if_neg h, beq_eq_false_iff_ne.2 h]

theorem routed_empty : Routed ({} : Registry S) := by
  have hroute (kind : UInt8) : ({} : Registry S).route kind =
      if kind = Command.authKind then some .auth
      else if kind = Command.systemKind then some .system
      else if kind = Command.uploadKind then some .upload else none := by
    simp only [route, lookup_cons_eq, List.lookup_nil]
  refine ⟨fun kind => ?_, fun kind => ?_, fun kind => ?_, fun registered => ?_⟩
  · rw [hroute]
    split_ifs <;> simp_all [Command.authKind]
  · rw [hroute]
    split_ifs <;> simp_all [Command.systemKind, Command.authKind]
  · rw [hroute]
    split_ifs <;> simp_all [Command.uploadKind, Command.systemKind, Command.authKind]
  · rw [hroute] at registered
    split_ifs at registered <;> simp at registered

/-- What is routed is routed to the library, which are its kinds, or to a place. -/
theorem Routed.mem_builtIn (h : registry.Routed) {route : Route}
    (routed : registry.route kind = some route) (library : ∀ index, route ≠ .registered index) :
    kind ∈ builtIn := by
  cases route with
  | auth => exact List.mem_cons.2 (.inl ((h.auth kind).1 routed))
  | system => exact List.mem_cons_of_mem _ (List.mem_cons.2 (.inl ((h.system kind).1 routed)))
  | upload =>
      exact List.mem_cons_of_mem _ (List.mem_cons_of_mem _
        (List.mem_singleton.2 ((h.upload kind).1 routed)))
  | registered index => exact absurd rfl (library index)

theorem Routed.route_of_mem_builtIn (h : registry.Routed) (builtIn : kind ∈ builtIn) :
    ∃ route, registry.route kind = some route ∧ ∀ index, route ≠ .registered index := by
  rcases List.mem_cons.1 builtIn with hauth | builtIn
  · exact ⟨.auth, (h.auth kind).2 hauth, nofun⟩
  · rcases List.mem_cons.1 builtIn with hsystem | builtIn
    · exact ⟨.system, (h.system kind).2 hsystem, nofun⟩
    · exact ⟨.upload, (h.upload kind).2 (List.mem_singleton.1 builtIn), nofun⟩

theorem Routed.route_ne_registered (h : registry.Routed) (nothing : registry.services = [])
    (kind : UInt8) (index : Nat) : registry.route kind ≠ some (.registered index) := by
  intro registered
  have hplace := h.place registered
  rw [nothing] at hplace
  exact Nat.not_lt_zero index hplace

/-! ## Services that change -/

/-- The routes are the same, and there are as many services. -/
structure Alike (registry other : Registry S) : Prop where
  routes : other.routes = registry.routes
  length : other.services.length = registry.services.length

theorem Alike.refl (registry : Registry S) : registry.Alike registry := ⟨rfl, rfl⟩

theorem Alike.trans (h : registry.Alike other) (h' : other.Alike third) : registry.Alike third :=
  ⟨h'.routes.trans h.routes, h'.length.trans h.length⟩

theorem Alike.services_eq_nil_iff (h : registry.Alike other) :
    other.services = [] ↔ registry.services = [] := by
  rw [← List.length_eq_zero_iff, h.length, List.length_eq_zero_iff]

theorem Alike.route_eq (h : registry.Alike other) (kind : UInt8) :
    other.route kind = registry.route kind := by
  rw [route, route, h.routes]

theorem Alike.routed (h : registry.Alike other) (routed : registry.Routed) : other.Routed where
  auth kind := by rw [h.route_eq, routed.auth]
  system kind := by rw [h.route_eq, routed.system]
  upload kind := by rw [h.route_eq, routed.upload]
  place registered := by
    rw [h.route_eq] at registered
    rw [h.length]
    exact routed.place registered

theorem alike_put (registry : Registry S) (index : Nat) (service : S) :
    registry.Alike (registry.put index service) := ⟨rfl, List.length_set⟩

end

section

variable {S : Type} [Service S] (registry : Registry S) (host : HostView)

theorem alike_onAuthenticated : registry.Alike (registry.onAuthenticated host).1 :=
  ⟨rfl, by simp [onAuthenticated]⟩

theorem alike_onCommand (index : Nat) (command : Command) :
    registry.Alike (registry.onCommand index host command).1 := by
  rw [onCommand]
  split
  · exact registry.alike_put index _
  · exact .refl registry

theorem length_offer (key : String) (services : List S) :
    (offer host key services).1.length = services.length := by
  induction services with
  | nil => rfl
  | cons service services ih =>
      rw [offer]
      simp only
      split
      · rfl
      · exact congrArg (· + 1) ih

theorem alike_onConfiguration (key : String) :
    registry.Alike (registry.onConfiguration host key).1 :=
  ⟨rfl, length_offer host key registry.services⟩

theorem alike_onDisconnect : registry.Alike registry.onDisconnect := ⟨rfl, List.length_map _⟩

end

section

variable {S : Type} [Service S] {registry : Registry S} {service : S} {kind : UInt8} {index : Nat}

/-! ## Adding a service -/

/-- What adding a service comes to. -/
inductive Added (registry : Registry S) (service : S) : Registry S × Except LinkError Unit → Prop
  | refused (builtIn : Service.commandType service ∈ builtIn) :
      Added registry service (registry, .error .unsupported)
  | replaced {index : Nat}
      (registered : registry.route (Service.commandType service) = some (.registered index)) :
      Added registry service (registry.put index service, .ok ())
  | appended (unrouted : registry.route (Service.commandType service) = none) :
      Added registry service
        ({ routes :=
             (Service.commandType service, .registered registry.services.length) :: registry.routes
           services := registry.services ++ [service] }, .ok ())

theorem Routed.added (h : registry.Routed) (service : S) :
    Added registry service (registry.register service) := by
  rw [register]
  cases hroute : registry.route (Service.commandType service) with
  | none => exact .appended hroute
  | some route =>
      cases route with
      | registered index => exact .replaced hroute
      | auth => exact .refused (h.mem_builtIn hroute nofun)
      | system => exact .refused (h.mem_builtIn hroute nofun)
      | upload => exact .refused (h.mem_builtIn hroute nofun)

section

variable {next : Registry S} {answer : Except LinkError Unit}
  (h : Added registry service (next, answer))

include h

/-- A service of a new kind is noted; whatever else is looked up is found as before. -/
theorem Added.route_eq (kind : UInt8) :
    next.route kind = registry.route kind ∨
      kind = Service.commandType service ∧ registry.route kind = none ∧
        next.route kind = some (.registered registry.services.length) ∧
        next.services = registry.services ++ [service] := by
  cases h with
  | refused => exact .inl rfl
  | replaced => exact .inl rfl
  | appended unrouted =>
      rw [route, lookup_cons_eq]
      split
      · rename_i heq
        exact .inr ⟨heq, heq ▸ unrouted, rfl, rfl⟩
      · exact .inl rfl

theorem Added.length_le : registry.services.length ≤ next.services.length := by
  cases h with
  | refused => exact Nat.le_refl _
  | replaced => exact Nat.le_of_eq (registry.alike_put _ service).length.symm
  | appended => simp

/-- A kind that is routed stays routed as it is. -/
theorem Added.route_of_some {route : Route} (routed : registry.route kind = some route) :
    next.route kind = some route := by
  rcases h.route_eq kind with hsame | ⟨-, hunrouted, -⟩
  · rw [hsame, routed]
  · rw [hunrouted] at routed
    cases routed

theorem Added.routed (routed : registry.Routed) : next.Routed := by
  have hlibrary (route : Route) (library : ∀ index, route ≠ .registered index) (kind : UInt8) :
      next.route kind = some route ↔ registry.route kind = some route := by
    refine ⟨fun hnext => ?_, h.route_of_some⟩
    rcases h.route_eq kind with hsame | ⟨-, -, hnew, -⟩
    · rwa [← hsame]
    · exact absurd (Option.some.inj (hnext.symm.trans hnew)) (library _)
  refine ⟨fun kind => ?_, fun kind => ?_, fun kind => ?_, @fun kind index registered => ?_⟩
  · rw [hlibrary .auth nofun, routed.auth]
  · rw [hlibrary .system nofun, routed.system]
  · rw [hlibrary .upload nofun, routed.upload]
  · rcases h.route_eq kind with hsame | ⟨-, -, hnew, hservices⟩
    · rw [hsame] at registered
      exact Nat.lt_of_lt_of_le (routed.place registered) h.length_le
    · rw [hnew] at registered
      cases registered
      simp [hservices]

end

/-- Services come and are replaced, but none goes. -/
theorem services_register_ne_nil (service : S) (h : registry.services ≠ []) :
    (registry.register service).1.services ≠ [] := by
  rw [register]
  split <;> simp [put, h]

/-! ## Routes and services agree -/

/-- The kinds of the services, by their places. -/
def kinds (registry : Registry S) : List UInt8 := registry.services.map Service.commandType

theorem getElem?_kinds (registry : Registry S) (index : Nat) :
    registry.kinds[index]? = (registry.service? index).map Service.commandType :=
  List.getElem?_map

theorem length_kinds (registry : Registry S) : registry.kinds.length = registry.services.length :=
  List.length_map _

/-- Beside the library's kinds, a kind is routed to a place if and only if the service of that place
is of that kind. -/
structure Consistent (registry : Registry S) : Prop where
  routed : registry.Routed
  registered (kind : UInt8) (index : Nat) :
    registry.route kind = some (.registered index) ↔ registry.kinds[index]? = some kind

theorem consistent_empty : Consistent ({} : Registry S) where
  routed := routed_empty
  registered kind index :=
    iff_of_false (routed_empty.route_ne_registered rfl kind index) (by simp [kinds])

theorem Consistent.not_mem_builtIn (h : registry.Consistent) (stands : kind ∈ registry.kinds) :
    kind ∉ builtIn := by
  intro hbuiltIn
  obtain ⟨index, hindex⟩ := List.mem_iff_getElem?.1 stands
  obtain ⟨route, hroute, hlibrary⟩ := h.routed.route_of_mem_builtIn hbuiltIn
  exact hlibrary index (Option.some.inj (hroute.symm.trans ((h.registered kind index).2 hindex)))

/-- No two services are of one kind. -/
theorem Consistent.nodup_kinds (h : registry.Consistent) : registry.kinds.Nodup := by
  refine List.nodup_iff_injective_get.2 fun i j heq => ?_
  have hi := (h.registered _ i).2 (List.getElem?_eq_getElem i.2)
  have hj := (h.registered _ j).2 (List.getElem?_eq_getElem j.2)
  rw [List.get_eq_getElem, List.get_eq_getElem] at heq
  rw [heq, hj] at hi
  exact Fin.ext (Route.registered.inj (Option.some.inj hi)).symm

/-- Services of the library's kinds are refused and no others. -/
theorem Consistent.register_refused_iff (h : registry.Consistent) (service : S) :
    (∃ e, (registry.register service).2 = .error e) ↔ Service.commandType service ∈ builtIn := by
  have hadded := h.routed.added service
  generalize registry.register service = answer at hadded
  cases hadded with
  | refused builtIn => exact iff_of_true ⟨_, rfl⟩ builtIn
  | @replaced index registered =>
      exact iff_of_false (by rintro ⟨e, ⟨⟩⟩)
        (h.not_mem_builtIn (List.mem_of_getElem? ((h.registered _ index).1 registered)))
  | appended unrouted =>
      refine iff_of_false (by rintro ⟨e, ⟨⟩⟩) fun builtIn => ?_
      obtain ⟨route, hroute, -⟩ := h.routed.route_of_mem_builtIn builtIn
      rw [unrouted] at hroute
      cases hroute

/-- A refused service changes nothing. -/
theorem Added.of_error {next : Registry S} {e : LinkError}
    (h : Added registry service (next, .error e)) :
    Service.commandType service ∈ builtIn ∧ e = .unsupported ∧ next = registry := by
  cases h with
  | refused builtIn => exact ⟨builtIn, rfl, rfl⟩

section

variable {next : Registry S} {answer : Except LinkError Unit}
  (h : Added registry service (next, answer)) (agrees : registry.Consistent)

include h agrees

/-- The kinds of the places stay, and a new kind comes behind them. -/
theorem Added.kinds_eq : next.kinds = registry.kinds ∨
    next.kinds = registry.kinds ++ [Service.commandType service] ∧
      registry.route (Service.commandType service) = none := by
  cases h with
  | refused => exact .inl rfl
  | @replaced index registered =>
      refine .inl (List.ext_getElem? fun i => ?_)
      rw [kinds, put, List.map_set, List.getElem?_set]
      split
      · rename_i heq
        subst heq
        have hstands := (agrees.registered _ _).1 registered
        rw [kinds] at hstands
        rw [kinds, hstands, if_pos (List.getElem?_eq_some_iff.1 hstands).1]
      · rfl
  | appended unrouted => exact .inr ⟨List.map_append, unrouted⟩

theorem Added.consistent : next.Consistent := by
  refine ⟨h.routed agrees.routed, fun kind index => ?_⟩
  cases h with
  | refused => exact agrees.registered kind index
  | @replaced place registered =>
      have hkinds : (registry.put place service).kinds = registry.kinds := by
        rcases (Added.replaced registered).kinds_eq agrees with hsame | ⟨-, hunrouted⟩
        · exact hsame
        · rw [hunrouted] at registered
          cases registered
      rw [hkinds]
      exact agrees.registered kind index
  | appended unrouted =>
      rw [route, lookup_cons_eq, kinds, List.map_append, ← kinds, List.map_singleton]
      split
      · rename_i heq
        subst heq
        constructor
        · rintro ⟨⟩
          rw [← length_kinds, List.getElem?_concat_length]
        · intro hstands
          have hold : registry.kinds[index]? ≠ some (Service.commandType service) := fun hold => by
            rw [(agrees.registered _ index).2 hold] at unrouted
            cases unrouted
          rcases Nat.lt_or_ge index registry.kinds.length with hlt | hge
          · rw [List.getElem?_append_left hlt] at hstands
            exact absurd hstands hold
          · have hbound := (List.getElem?_eq_some_iff.1 hstands).1
            rw [List.length_append, List.length_singleton] at hbound
            rw [← length_kinds, Nat.le_antisymm hge (Nat.le_of_lt_succ hbound)]
      · rename_i hne
        rw [← route, agrees.registered]
        rcases Nat.lt_or_ge index registry.kinds.length with hlt | hge
        · rw [List.getElem?_append_left hlt]
        · rw [List.getElem?_append_right hge, List.getElem?_eq_none hge]
          refine iff_of_false nofun fun hstands => hne ?_
          exact (List.mem_singleton.1 (List.mem_of_getElem? hstands))

theorem Added.mem_kinds_iff : kind ∈ next.kinds ↔
    kind ∈ registry.kinds ∨ kind = Service.commandType service ∧ kind ∉ builtIn := by
  have hconsistent := h.consistent agrees
  refine ⟨fun hmem => ?_, fun hkind => ?_⟩
  · rcases h.kinds_eq agrees with hsame | ⟨hnew, -⟩
    · exact .inl (hsame ▸ hmem)
    · rw [hnew, List.mem_append, List.mem_singleton] at hmem
      refine hmem.imp_right fun heq => ⟨heq, hconsistent.not_mem_builtIn ?_⟩
      rw [hnew, heq]
      exact List.mem_append_right _ (List.mem_singleton_self _)
  · rcases hkind with hold | ⟨rfl, hkind⟩
    · rcases h.kinds_eq agrees with hsame | ⟨hnew, -⟩
      · exact hsame ▸ hold
      · exact hnew ▸ List.mem_append_left _ hold
    · cases h with
      | refused builtIn => exact absurd builtIn hkind
      | replaced registered =>
          exact List.mem_of_getElem? ((hconsistent.registered _ _).1
            ((Added.replaced registered).route_of_some registered))
      | appended => simp [kinds]

/-- At the place of a kind is the service that was added, or what stood there before if that is of
another kind. -/
theorem Added.stands_cases (registered : next.route kind = some (.registered index))
    (accepted : answer = .ok ()) :
    Service.commandType service = kind ∧ next.service? index = some service ∨
      Service.commandType service ≠ kind ∧ registry.route kind = some (.registered index) ∧
        next.service? index = registry.service? index := by
  have hstood {place : Nat}
      (hplace : registry.route (Service.commandType service) = some (.registered place))
      (hold : registry.route kind = some (.registered index)) (hne : index ≠ place) :
      Service.commandType service ≠ kind := by
    rintro rfl
    rw [hplace] at hold
    exact hne (Route.registered.inj (Option.some.inj hold)).symm
  cases h with
  | refused => cases accepted
  | @replaced place hplace =>
      have hold : registry.route kind = some (.registered index) := registered
      by_cases hindex : index = place
      · subst hindex
        have hkind := (agrees.registered kind index).1 hold
        have hadded := (agrees.registered _ index).1 hplace
        refine .inl ⟨Option.some.inj (hadded.symm.trans hkind), ?_⟩
        exact List.getElem?_set_self (agrees.routed.place hold)
      · exact .inr ⟨hstood hplace hold hindex, hold, List.getElem?_set_ne (Ne.symm hindex)⟩
  | appended unrouted =>
      rcases (Added.appended unrouted).route_eq kind with hsame | ⟨rfl, -, hnew, -⟩
      · rw [hsame] at registered
        refine .inr ⟨?_, registered,
          List.getElem?_append_left (agrees.routed.place registered)⟩
        rintro rfl
        rw [unrouted] at registered
        cases registered
      · rw [hnew] at registered
        cases registered
        exact .inl ⟨rfl, List.getElem?_concat_length⟩

end

/-! ## One service after another -/

/-- The registry of a host that has added services one after another. -/
def ofServices (services : List S) : Registry S :=
  services.foldl (fun registry service => (registry.register service).1) {}

theorem ofServices_append (services more : List S) :
    ofServices (services ++ more) =
      more.foldl (fun registry service => (registry.register service).1) (ofServices services) := by
  rw [ofServices, List.foldl_append]
  rfl

theorem consistent_ofServices (services : List S) : (ofServices services).Consistent := by
  induction services using List.reverseRecOn with
  | nil => exact consistent_empty
  | append_singleton services service ih =>
      rw [ofServices_append]
      exact (ih.routed.added service).consistent ih

/-- What holds of no services, and again after one was added, holds of all. -/
theorem ofServices_induction {P : List S → Registry S → Prop} (nil : P [] {})
    (concat : ∀ services service next answer, Added (ofServices services) service (next, answer) →
      P services (ofServices services) → P (services ++ [service]) next)
    (services : List S) : P services (ofServices services) := by
  induction services using List.reverseRecOn with
  | nil => exact nil
  | append_singleton services service ih =>
      rw [ofServices_append]
      exact concat services service _ _ ((consistent_ofServices services).routed.added service) ih

/-- A kind keeps its place whatever is added later. -/
theorem route_ofServices_append {services : List S} {route : Route}
    (routed : (ofServices services).route kind = some route) (more : List S) :
    (ofServices (services ++ more)).route kind = some route := by
  induction more using List.reverseRecOn with
  | nil => rwa [List.append_nil]
  | append_singleton more service ih =>
      rw [← List.append_assoc, ofServices_append]
      exact ((consistent_ofServices (services ++ more)).routed.added service).route_of_some ih

/-- The kinds of a registry are those added, but for the library's. -/
theorem mem_kinds_ofServices (services : List S) :
    ∀ kind, kind ∈ (ofServices services).kinds ↔
      kind ∈ services.map Service.commandType ∧ kind ∉ builtIn := by
  induction services using ofServices_induction with
  | nil => exact fun kind => iff_of_false List.not_mem_nil fun h => List.not_mem_nil h.1
  | concat services service next answer added ih =>
      intro kind
      rw [List.map_append, List.mem_append, or_and_right, ← ih kind, List.map_singleton,
        List.mem_singleton]
      exact added.mem_kinds_iff (consistent_ofServices services)

/-- At the place of a kind is the service that was added for it last. -/
theorem service?_ofServices (services : List S) :
    ∀ index kind, (ofServices services).route kind = some (.registered index) →
      (ofServices services).service? index =
        (services.filter fun service => Service.commandType service = kind).getLast? := by
  induction services using ofServices_induction with
  | nil => exact fun index kind hregistered =>
      absurd hregistered (routed_empty.route_ne_registered rfl kind index)
  | concat services service next answer added ih =>
      intro index kind hregistered
      have hconsistent := consistent_ofServices services
      rw [List.filter_append]
      cases answer with
      | error e =>
          obtain ⟨hbuiltIn, -, rfl⟩ := added.of_error
          have hne : Service.commandType service ≠ kind := by
            rintro rfl
            exact hconsistent.not_mem_builtIn
              (List.mem_of_getElem? ((hconsistent.registered _ index).1 hregistered)) hbuiltIn
          rw [List.filter_cons_of_neg (by simpa using hne), List.filter_nil, List.append_nil]
          exact ih index kind hregistered
      | ok =>
          obtain ⟨heq, hservice⟩ | ⟨hne, hstood, hservice⟩ :=
            added.stands_cases hconsistent hregistered rfl
          · rw [List.filter_cons_of_pos (by simpa using heq), List.filter_nil,
              List.getLast?_concat]
            exact hservice
          · rw [List.filter_cons_of_neg (by simpa using hne), List.filter_nil, List.append_nil,
              ← ih index kind hstood]
            exact hservice

theorem length_kinds_ofServices (services : List S) :
    (ofServices services).kinds.length =
      ((services.map Service.commandType).filter (· ∉ builtIn)).dedup.length := by
  refine List.Perm.length_eq ((List.perm_ext_iff_of_nodup
    (consistent_ofServices services).nodup_kinds (List.nodup_dedup _)).2 fun kind => ?_)
  rw [mem_kinds_ofServices, List.mem_dedup, List.mem_filter, decide_eq_true_eq]

/-- The kinds of the library are answered by the library, and services of these kinds are refused
and no others. Every other kind that was added has a place of its own, for good, where the service
stands that was added for it last; there are no other places. -/
theorem routes_ofServices (services : List S) :
    ((ofServices services).route 1 = some .auth ∧ (ofServices services).route 2 = some .system ∧
      (ofServices services).route 22 = some .upload) ∧
    (∀ kind index, (ofServices services).route kind = some (.registered index) ↔
      index < (ofServices services).services.length ∧
        ((ofServices services).service? index).map Service.commandType = some kind) ∧
    (∀ kind other index, (ofServices services).route kind = some (.registered index) →
      (ofServices services).route other = some (.registered index) → kind = other) ∧
    (∀ kind index, (ofServices services).route kind = some (.registered index) →
      ∀ more, (ofServices (services ++ more)).route kind = some (.registered index)) ∧
    (∀ kind index, (ofServices services).route kind = some (.registered index) →
      (ofServices services).service? index =
        (services.filter fun service => Service.commandType service = kind).getLast?) ∧
    (ofServices services).services.length =
      ((services.map Service.commandType).filter (· ∉ [1, 2, 22])).dedup.length ∧
    ∀ service,
      ((∃ e, ((ofServices services).register service).2 = .error e) ↔
        Service.commandType service ∈ [1, 2, 22]) ∧
      ∀ e, ((ofServices services).register service).2 = .error e →
        e = .unsupported ∧ ((ofServices services).register service).1 = ofServices services := by
  have hconsistent := consistent_ofServices services
  have hrouted := hconsistent.routed
  refine ⟨⟨(hrouted.auth 1).2 rfl, (hrouted.system 2).2 rfl, (hrouted.upload 22).2 rfl⟩,
    ?_, ?_, fun kind index hkind => route_ofServices_append hkind,
    fun kind index => service?_ofServices services index kind, ?_, fun service => ⟨?_, ?_⟩⟩
  · intro kind index
    rw [hconsistent.registered, ← getElem?_kinds, ← length_kinds]
    exact (and_iff_right_of_imp fun hstands => (List.getElem?_eq_some_iff.1 hstands).1).symm
  · intro kind other index hkind hother
    rw [hconsistent.registered] at hkind hother
    exact Option.some.inj (hkind.symm.trans hother)
  · rw [← length_kinds, length_kinds_ofServices]
    rfl
  · exact hconsistent.register_refused_iff service
  · intro e hrefused
    have hadded := hrouted.added service
    generalize (ofServices services).register service = answer at hrefused hadded
    obtain ⟨next, result⟩ := answer
    obtain rfl : result = .error e := hrefused
    exact hadded.of_error.2

end

/-- A service that tells its name once the connection has been authenticated. -/
structure Announcer where
  kind : UInt8
  name : String
  deriving DecidableEq

instance : Service Announcer where
  commandType := Announcer.kind
  onAuthenticated announcer _ := (announcer, .ofEvent (.deviceInfo "service" announcer.name))
  onCommand announcer _ _ := (announcer, {}, .ok ())

/-- Three services, one of a kind that the library answers. -/
def announcers : List Announcer := [⟨50, "first"⟩, ⟨2, "intruder"⟩, ⟨60, "other"⟩]

/-- A second service of a kind stands where the first one stood. -/
theorem routes_ofServices_announcers :
    (ofServices announcers).route 50 = some (.registered 0) ∧
      (ofServices (announcers ++ [⟨50, "second"⟩])).route 50 = some (.registered 0) ∧
      (ofServices (announcers ++ [⟨50, "second"⟩])).service? 0 = some ⟨50, "second"⟩ ∧
      (ofServices (announcers ++ [⟨50, "second"⟩])).services.length = 2 := by
  obtain ⟨-, -, -, hkeeps, -⟩ := routes_ofServices announcers
  obtain ⟨-, -, -, -, hlast, hcount, -⟩ := routes_ofServices (announcers ++ [⟨50, "second"⟩])
  have hroute : (ofServices announcers).route 50 = some (.registered 0) := by decide
  have hkept := hkeeps 50 0 hroute [⟨50, "second"⟩]
  exact ⟨hroute, hkept, hlast 50 0 hkept, hcount⟩

end WatchLink.Registry
