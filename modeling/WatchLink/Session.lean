import WatchLink.Device
import WatchLink.Handshake
import WatchLink.Inbox
import WatchLink.Link
import WatchLink.Radio

/-!
# Sessions

A session is one host's connection to one watch: a link, the handshake, the device service and the
services the host has added, the upload that may be running, and the inbox. It performs nothing
itself. What it tells the host, and what it asks of the radio, it records as `Effect`s in the order
in which they happen; the radio is asked at once, because what comes next may depend on its answer.

Every operation is a function from sessions to sessions, so a run is a composition and nothing is
hidden from a statement about it. The operations are in the modules below this one: what goes out
(`Session.Outbound`), what comes in (`Session.Inbound`), and what the host can ask for
(`Session.Operations`).
-/

namespace WatchLink

/-- Something that left the session. -/
inductive Effect where
  /-- The host was told. -/
  | told (event : Event)
  | submitted (transaction : Transaction)
  | refused (transaction : Transaction)
  deriving DecidableEq, Repr

/-- The state of a session over a link `L`, with services `S` and a radio `R`. -/
structure Session (L S R : Type) where
  link : L
  radio : R
  handshake : Handshake
  registry : Registry S := {}
  device : DeviceService
  upload : Upload := {}
  inbox : Inbox := {}
  state : ConnectionState := .notConnected
  /-- What the host has been told the connection is busy with. -/
  busy : Option String := none
  /-- What left the session, the latest first. -/
  effects : List Effect := []

namespace Session

variable {L S R : Type}

/-- A session that has not been connected. The settings must be usable. -/
def ofConfig (link : L) (radio : R) (config : LinkConfig) (capabilities : Capabilities) :
    Except Error (Session L S R) :=
  match config.validate, config.secret with
  | .ok (), .ok secret =>
    .ok { link := link
          radio := radio
          handshake :=
            { secret := secret, userId := config.userId, phoneInfo := config.phoneInfo }
          device := .ofConfig capabilities config }
  | .error e, _ => .error (.config e)
  | _, .error e => .error (.config e)

/-- What was told, in order. -/
def events (s : Session L S R) : List Event :=
  s.effects.reverse.filterMap fun
    | .told event => some event
    | _ => none

/-- What the radio took, in order. -/
def transactions (s : Session L S R) : List Transaction :=
  s.effects.reverse.filterMap fun
    | .submitted transaction => some transaction
    | _ => none

/-- The same session with nothing recorded, for a host that has seen to the effects. -/
def clearEffects (s : Session L S R) : Session L S R := { s with effects := [] }

/-- Tell the host. Being busy is remembered. -/
def tell (s : Session L S R) (event : Event) : Session L S R :=
  { s with
    busy := match event with
      | .busy task => task
      | _ => s.busy
    effects := .told event :: s.effects }

/-- The connection has come this far. -/
def setState (s : Session L S R) (state : ConnectionState) : Session L S R :=
  tell { s with state := state } (.connectionState state)

/-- Ask the radio to take a transaction, and what it answers. -/
def submit [Radio R] (s : Session L S R) (transaction : Transaction) :
    Session L S R × Except LinkError Unit :=
  let (radio, answer) := Radio.submit s.radio transaction
  ({ s with
     radio := radio
     effects := (match answer with
       | .ok () => .submitted transaction
       | .error _ => .refused transaction) :: s.effects },
   answer)

/-- Forget everything that belongs to a connection. Nobody is told. -/
def resetConnection [Link L] [Service S] (s : Session L S R) : Session L S R :=
  { s with
    upload := {}
    link := Link.teardown s.link
    inbox := .empty
    handshake := s.handshake.reset
    device := s.device.disconnect
    registry := s.registry.onDisconnect
    busy := none }

end Session

end WatchLink
