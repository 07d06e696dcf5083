import WatchLink.Session.Inbound

/-!
# What a host can ask of a session

Connecting and disconnecting, adding services, and the requests to the watch, which need a
connection that has been authenticated.
-/

namespace WatchLink.Session

variable {L S R : Type} [CipherSuite] [Link L] [Service S] [Radio R]

/-- Settle on what was discovered and start the handshake, with a nonce for an encrypted one. The
first write goes out behind everything the link needs done before it. -/
def connect (s : Session L S R) (discovery : Discovery) (nonce : Octets 16) :
    Session L S R × Except LinkError Unit :=
  let s := if s.state = .notConnected then s else s.resetConnection
  let s := s.setState .connecting
  let (link, bound) := Link.bind s.link discovery
  let s := { s with link := link }
  match bound with
  | .error .resourceIncomplete => (s.setState .waitingForReconnect, .error .resourceIncomplete)
  | .error e => (s.setState .notConnected, .error e)
  | .ok mode =>
    let (handshake, hello) := s.handshake.start mode nonce
    let s :=
      { s with
        device := s.device.resetStatus
        link := Link.resetCounters s.link
        handshake := handshake }
    let giveUp := fun (s : Session L S R) (e : LinkError) =>
      (s.resetConnection.setState .notConnected, Except.error e)
    let transaction := { name := "initialize", ops := Link.startup s.link }
    match Link.writeCommand s.link hello none transaction with
    | (link, _, .error e) => giveUp { s with link := link } e
    | (link, transaction, .ok ()) =>
      match submit { s with link := link } transaction with
      | (s, .ok ()) => (s.setState .initializing, .ok ())
      | (s, .error e) => giveUp s e

/-- Give up the connection. -/
def disconnect (s : Session L S R) : Session L S R :=
  s.resetConnection.setState .notConnected

/-- The connection carries values of another size. -/
def onMtuChanged (s : Session L S R) (mtu : Nat) : Session L S R :=
  { s with link := Link.setMtu s.link mtu }

/-- Add a service. -/
def register (s : Session L S R) (service : S) : Session L S R × Except LinkError Unit :=
  let (registry, added) := s.registry.register service
  ({ s with registry := registry }, added)

/-- Whether the watch can be asked for anything. -/
def isInitialized (s : Session L S R) : Bool := s.state = .initialized

/-- Do what an outbox says, on an authenticated connection, unless there is an error instead. -/
def request (s : Session L S R) (out : Except LinkError Outbox) :
    Session L S R × Except LinkError Unit :=
  if s.isInitialized then
    match out with
    | .ok out => (s.flush out, .ok ())
    | .error e => (s, .error e)
  else (s, .error .notConnected)

/-- Ask the watch to take an image. Its upload follows once the watch agrees. -/
def installFirmware (s : Session L S R) (image : FirmwareImage) :
    Session L S R × Except Error Unit :=
  if s.isInitialized then
    match s.device.requestInstall image with
    | .ok (device, out) => (flush { s with device := device } out, .ok ())
    | .error e => (s, .error e)
  else (s, .error (.link .notConnected))

/-- A preference has changed; whether any service tells the watch about it. -/
def sendConfiguration (s : Session L S R) (host : HostView) (key : String) :
    Session L S R × Bool :=
  if s.isInitialized then
    let (device, out, taken) := Service.onConfiguration s.device host key
    let s := { s with device := device }
    if taken then (s.flush out, true)
    else
      let (registry, more, taken) := s.registry.onConfiguration host key
      (flush { s with registry := registry } (out ++ more), taken)
  else (s, false)

def setCurrentTime (s : Session L S R) (host : HostView) : Session L S R × Except LinkError Unit :=
  s.request (.ok (DeviceService.setCurrentTime host))

/-- The phone was found. -/
def findPhoneStop (s : Session L S R) : Session L S R × Except LinkError Unit :=
  s.request (.ok DeviceService.findPhoneStop)

/-- Make the watch ring, or stop. -/
def findWatch (s : Session L S R) (start : Bool) : Session L S R × Except LinkError Unit :=
  s.request (s.device.findWatch start)

/-- Set how one kind of notification vibrates. -/
def setVibration (s : Session L S R) (type : String) (preset : UInt32) :
    Session L S R × Except LinkError Unit :=
  s.request (DeviceService.setVibration type preset)

end WatchLink.Session
