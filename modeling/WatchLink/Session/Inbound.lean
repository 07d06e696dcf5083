import WatchLink.Session.Outbound

/-!
# What a session receives

Received bytes complete payloads, and each payload is handled in turn: a command goes to whoever
answers its kind, activity data to the host, an acknowledgement to the upload. The payloads of one
read are opened with the cipher there was when it came.

Reads may also wait in the inbox; they are processed one chunk at a time, in order, and before any
read that is received directly.
-/

namespace WatchLink.Session

variable {L S R : Type} [CipherSuite] [Link L] [Service S] [Radio R]

/-- The watch has accepted the phone: packets are numbered from the start, and every service may
send its first requests. -/
def onAuthenticated (s : Session L S R) (host : HostView) : Session L S R :=
  let s := { s with link := Link.resetCounters s.link }
  let s := (s.submit { name := "initialized", ops := [.setState .initialized] }).1
  let s := s.setState .initialized
  let (device, out) := Service.onAuthenticated s.device host
  let (registry, more) := s.registry.onAuthenticated host
  flush { s with device := device, registry := registry } (out ++ more)

def handleAuth (s : Session L S R) (host : HostView) (command : Command) : Session L S R :=
  let (handshake, step) := s.handshake.handle command
  let s := { s with handshake := handshake }
  match step with
  | .ok (some (.send reply)) => (s.send "auth step" reply).1
  | .ok (some .authenticated) => s.onAuthenticated host
  | .ok none => s
  | .error .authenticationFailed =>
    (s.tell .authenticationFailed).resetConnection.setState .notConnected
  | .error _ => s

/-- A command came in; it goes to whoever answers its kind. -/
def dispatch (s : Session L S R) (host : HostView) (command : Command) : Session L S R :=
  match s.registry.route command.kind with
  | some .auth => s.handleAuth host command
  | some .system =>
    let (device, out, _) := Service.onCommand s.device host command
    flush { s with device := device } out
  | some .upload =>
    match s.upload.handleCommand command (Link.maxBulk s.link) with
    | .ok (upload, out) => applyUpload { s with upload := upload } out
    | .error _ => s
  | some (.registered index) =>
    let (registry, out, _) := s.registry.onCommand index host command
    flush { s with registry := registry } out
  | none => s

/-- A payload came in. What is no command is dropped. -/
def handleInbound (s : Session L S R) (host : HostView) (inbound : Inbound) : Session L S R :=
  match inbound with
  | .command bytes =>
    match Command.ofBytes bytes with
    | .ok command => s.dispatch host command
    | .error _ => s
  | .activity bytes => s.tell (.activityData bytes)
  | .uploadAck bytes =>
    let (upload, out) := s.upload.handleAck bytes
    applyUpload { s with upload := upload } out

/-- Bytes came in. -/
def receiveNow (s : Session L S R) (host : HostView) (endpoint : Endpoint) (data : Bytes) :
    Session L S R :=
  let (link, payloads) := Link.receive s.link endpoint data s.handshake.cipher?
  payloads.foldl (fun s payload => s.handleInbound host payload) { s with link := link }

def processChunk (s : Session L S R) (host : HostView) (chunk : Chunk) : Session L S R :=
  let s := if chunk.resync then { s with link := Link.resync s.link } else s
  s.receiveNow host chunk.endpoint chunk.data

/-- Process at most so many chunks. -/
def processAtMost (host : HostView) : Nat → Session L S R → Session L S R
  | 0, s => s
  | n + 1, s =>
    match s.inbox.next? with
    | some (chunk, inbox) =>
      processAtMost host n (processChunk { s with inbox := inbox } host chunk)
    | none => s

/-- Process what waits in the inbox. Processing adds nothing to it. -/
def processPending (s : Session L S R) (host : HostView) : Session L S R :=
  processAtMost host s.inbox.chunks.length s

/-- Put a read into the inbox, and whether it went in. -/
def deliver (s : Session L S R) (endpoint : Endpoint) (data : Bytes) : Session L S R × Bool :=
  let (inbox, taken) := s.inbox.deliver endpoint data
  ({ s with inbox := inbox }, taken)

/-- Receive a read directly, after what waits in the inbox. -/
def onReceive (s : Session L S R) (host : HostView) (endpoint : Endpoint) (data : Bytes) :
    Session L S R :=
  let s := s.processPending host
  let (inbox, lost) := s.inbox.takeLost
  let s := { s with inbox := inbox }
  let s := if lost then { s with link := Link.resync s.link } else s
  s.receiveNow host endpoint data

end WatchLink.Session
