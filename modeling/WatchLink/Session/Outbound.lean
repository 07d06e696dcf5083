import WatchLink.Session

/-!
# What a session sends

A command goes out in a transaction of its own. When a service has answered, its outbox is flushed:
events first, then commands, then the upload it asked for. Where nobody waits for the outcome of a
command, a refusal is passed over.
-/

namespace WatchLink.Session

variable {L S R : Type} [CipherSuite] [Link L] [Radio R]

/-- Write a command into a transaction of the caller's. -/
def sendIn (s : Session L S R) (command : Command) (transaction : Transaction) :
    Session L S R × Transaction × Except LinkError Unit :=
  let (link, transaction, written) :=
    Link.writeCommand s.link command s.handshake.cipher? transaction
  ({ s with link := link }, transaction, written)

def send (s : Session L S R) (task : String) (command : Command) :
    Session L S R × Except LinkError Unit :=
  match s.sendIn command { name := task } with
  | (s, transaction, .ok ()) => s.submit transaction
  | (s, _, .error e) => (s, .error e)

/-- Tell the events and send the commands of an outbox. -/
def post (s : Session L S R) (out : Outbox) : Session L S R :=
  out.commands.foldl (fun s (task, command) => (s.send task command).1)
    (out.events.foldl tell s)

/-- An upload has ended: tell who asked for it. -/
def finishUpload (s : Session L S R) (listener : UploadListener) (success : Bool) :
    Session L S R :=
  match listener with
  | .deviceService =>
    let (device, out) := s.device.finishInstall success
    post { s with device := device } out

/-- Start the upload a service asked for. One that cannot be requested has failed. -/
def startUpload (s : Session L S R) (request : UploadRequest) : Session L S R :=
  match s.upload.request request.kind request.bytes with
  | .error _ => s.finishUpload request.listener false
  | .ok (upload, command) =>
    let s := { s with upload := { upload with listener := some request.listener } }
    match s.send "upload request" command with
    | (s, .ok ()) => s
    | (s, .error _) => finishUpload { s with upload := {} } request.listener false

/-- See to everything in an outbox. -/
def flush (s : Session L S R) (out : Outbox) : Session L S R :=
  match out.upload with
  | some request => (s.post out).startUpload request
  | none => s.post out

/-- Write upload parts, one operation each, until one cannot be written. Those before it have moved
the link on. -/
def writeParts (cipher : Option PacketCipher) (parts : List Bytes) (link : L) : Writing L :=
  Writing.each (fun link part => Link.writeBulk link part cipher) parts link

/-- What upload news come to. -/
structure News where
  /-- Progress for the radio to show. -/
  ops : List RadioOp := []
  /-- Who still waits for news. -/
  listener : Option UploadListener
  /-- Who is to be told that the upload has ended, and how. -/
  finished : Option (UploadListener × Bool) := none

/-- Read one notice. Nobody who has been told of the end hears more. -/
def News.read (device : DeviceService) (news : News) (notice : UploadNotice) : News :=
  match notice, news.listener with
  | .progress percent, some .deviceService =>
    { news with ops := news.ops ++ [device.progress percent] }
  | .completed, some listener =>
    { news with listener := none, finished := some (listener, true) }
  | .failed, some listener =>
    { news with listener := none, finished := some (listener, false) }
  | _, none => news

/-- Do what an upload's answer asks for: write the parts, show the progress, tell of the end. A
part that cannot be written ends the upload. -/
def applyUpload (s : Session L S R) (out : Upload.Output) : Session L S R :=
  let (link, transaction, written) :=
    writeParts s.handshake.cipher? out.parts s.link { name := "upload part" }
  let s := { s with link := link }
  match written with
  | .error _ =>
    let listener := s.upload.listener
    let s := { s with upload := {} }
    match listener with
    | some listener => s.finishUpload listener false
    | none => s
  | .ok () =>
    let news := out.notices.foldl (News.read s.device) { listener := s.upload.listener }
    let s := { s with upload := { s.upload with listener := news.listener } }
    let transaction := transaction.add news.ops
    let s := if transaction.ops = [] then s else (s.submit transaction).1
    match news.finished with
    | some (listener, success) => s.finishUpload listener success
    | none => s

end WatchLink.Session
