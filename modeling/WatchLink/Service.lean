import WatchLink.Calendar
import WatchLink.Command
import WatchLink.Error
import WatchLink.Event
import WatchLink.Upload

/-!
# Services

A service answers the commands of one kind. It never touches the radio: it says in an `Outbox` what
is to be sent and told, and the session does so when the service has finished. Beside its own state
a service sees the host's preferences and clock.

`Registry` keeps the services a host has added, and beside them who answers which kind: a service
is answered to by its place, which is noted when a kind is added first. The kinds that the library
answers itself are noted from the start and cannot be taken over.
-/

namespace WatchLink

/-- What a service sees of the host. -/
structure HostView where
  preferences : Preferences
  now : LocalTime
  deriving DecidableEq, Repr

structure UploadRequest where
  kind : UInt8
  bytes : Bytes
  listener : UploadListener
  deriving DecidableEq, Repr

/-- What a service wants sent and told, in order. -/
structure Outbox where
  /-- Commands under the names of the tasks they belong to. -/
  commands : List (String × Command) := []
  events : List Event := []
  upload : Option UploadRequest := none
  deriving DecidableEq, Repr

namespace Outbox

/-- One outbox, then another. Of two uploads the later one is asked for. -/
protected def append (a b : Outbox) : Outbox where
  commands := a.commands ++ b.commands
  events := a.events ++ b.events
  upload := b.upload.or a.upload

instance : Append Outbox := ⟨Outbox.append⟩

/-- Nothing to send or tell. -/
def isEmpty (out : Outbox) : Bool := out.commands.isEmpty && out.events.isEmpty && out.upload.isNone

/-- A command to send. -/
def ofCommand (task : String) (command : Command) : Outbox := { commands := [(task, command)] }

/-- An event to tell. -/
def ofEvent (event : Event) : Outbox := { events := [event] }

end Outbox

/-- What answers the commands of one kind. -/
class Service (S : Type) where
  commandType : S → UInt8
  /-- The connection has been authenticated. -/
  onAuthenticated : S → HostView → S × Outbox := fun s _ => (s, {})
  /-- A command came in. An answer may fail and still leave something to send. -/
  onCommand : S → HostView → Command → S × Outbox × Except LinkError Unit
  /-- A preference has changed; whether it is one of this service's. -/
  onConfiguration : S → HostView → String → S × Outbox × Bool := fun s _ _ => (s, {}, false)
  /-- The connection is over. -/
  onDisconnect : S → S := id

/-- Who answers a command. -/
inductive Route where
  | auth
  | system
  | upload
  | registered (index : Nat)
  deriving DecidableEq, Repr

/-- The services a host has added, and who answers which kind. -/
structure Registry (S : Type) where
  /-- The routes by kind, the latest first. -/
  routes : List (UInt8 × Route) :=
    [(Command.authKind, .auth), (Command.systemKind, .system), (Command.uploadKind, .upload)]
  /-- The services, in the order in which their kinds were added. -/
  services : List S := []

namespace Registry

variable {S : Type}

/-- Who answers commands of a kind, if anybody. -/
def route (registry : Registry S) (kind : UInt8) : Option Route := registry.routes.lookup kind

/-- The service of a place. -/
def service? (registry : Registry S) (index : Nat) : Option S := registry.services[index]?

/-- Another service at a place. -/
def put (registry : Registry S) (index : Nat) (service : S) : Registry S :=
  { registry with services := registry.services.set index service }

variable [Service S]

/-- Add a service. One of a kind already added takes the place of the other. -/
def register (registry : Registry S) (service : S) : Registry S × Except LinkError Unit :=
  let kind := Service.commandType service
  match registry.route kind with
  | some (.registered index) => (registry.put index service, .ok ())
  | some _ => (registry, .error .unsupported)
  | none =>
    ({ registry with
       routes := (kind, .registered registry.services.length) :: registry.routes
       services := registry.services ++ [service] },
     .ok ())

/-- All services after the connection has been authenticated, and what they want sent. -/
def onAuthenticated (registry : Registry S) (host : HostView) : Registry S × Outbox :=
  let answers := registry.services.map fun service => Service.onAuthenticated service host
  ({ registry with services := answers.map Prod.fst },
   answers.foldl (fun out (_, more) => out ++ more) {})

def onCommand (registry : Registry S) (index : Nat) (host : HostView) (command : Command) :
    Registry S × Outbox × Except LinkError Unit :=
  match registry.service? index with
  | some service =>
    let (service, out, result) := Service.onCommand service host command
    (registry.put index service, out, result)
  | none => (registry, {}, .ok ())

/-- Offer a changed preference to one service after the other until one takes it. -/
def offer (host : HostView) (key : String) : List S → List S × Outbox × Bool
  | [] => ([], {}, false)
  | service :: rest =>
    let (service, out, taken) := Service.onConfiguration service host key
    if taken then (service :: rest, out, true)
    else
      let (rest, more, taken) := offer host key rest
      (service :: rest, out ++ more, taken)

/-- Offer a changed preference to the services until one takes it. -/
def onConfiguration (registry : Registry S) (host : HostView) (key : String) :
    Registry S × Outbox × Bool :=
  let (services, out, taken) := offer host key registry.services
  ({ registry with services := services }, out, taken)

/-- All services after the connection is over. -/
def onDisconnect (registry : Registry S) : Registry S :=
  { registry with services := registry.services.map Service.onDisconnect }

end Registry

end WatchLink
