import WatchLink.Command
import WatchLink.Digest.Crc32
import WatchLink.Digest.Md5
import WatchLink.Error

/-!
# Uploads

A file goes to the watch as one blob: a head that names its kind, digest and size, the file, and a
checksum of all that. The phone requests the upload, the watch answers with the size of its
writes, and then the blob travels in numbered parts, each sent when the watch has acknowledged the
one before. There is one upload at a time.

What an answer moves the connection to do is an `Upload.Output`: parts to write and news for whoever
asked for the upload.
-/

namespace WatchLink

/-- Where an upload stands. -/
inductive UploadPhase where
  | awaitingAck
  /-- Part `sent` of `total` is out and not acknowledged. -/
  | sending (partSize : Nat) (total sent : UInt16)
  deriving DecidableEq, Repr

namespace UploadPhase

/-- The phase in reports. -/
def text : UploadPhase → String
  | awaitingAck => "awaiting ack"
  | sending _ total sent => s!"sending {sent}/{total}"

end UploadPhase

/-- A running upload. -/
structure UploadJob where
  kind : UInt8
  blob : Bytes
  phase : UploadPhase
  deriving DecidableEq, Repr

/-- Who is told about an upload. -/
inductive UploadListener where
  | deviceService
  deriving DecidableEq, Repr

/-- News about an upload. -/
inductive UploadNotice where
  | progress (percent : UInt8)
  | completed
  | failed
  deriving DecidableEq, Repr

/-- The upload of a connection, if there is one. -/
structure Upload where
  job : Option UploadJob := none
  listener : Option UploadListener := none
  deriving DecidableEq, Repr

namespace Upload

def watchfaceKind : UInt8 := 16

def firmwareKind : UInt8 := 32

def startSubtype : UInt8 := 0

/-- Octets before the data of a part. -/
def partHeader : Nat := 4

/-- The size of writes when the watch names none. -/
def defaultChunk : Nat := 2048

/-- What an answer moves the connection to do. -/
structure Output where
  parts : List Bytes := []
  notices : List UploadNotice := []
  deriving DecidableEq, Repr

def framed (kind : UInt8) (file : Bytes) : Bytes :=
  [0, 0, kind] ++ (Digest.Md5.digest file).toList ++
    Bytes.le32 (UInt32.ofNat file.length) ++ file

/-- What travels for a file. -/
def blob (kind : UInt8) (file : Bytes) : Bytes :=
  framed kind file ++ Bytes.le32 (Digest.Crc32.checksum (framed kind file))

/-- Part `index` of a blob, counted from one, under its total and its index. -/
def part (blob : Bytes) (partSize : Nat) (total index : UInt16) : Bytes :=
  Bytes.le16 total ++ Bytes.le16 index ++ (blob.drop ((index.toNat - 1) * partSize)).take partSize

def request (upload : Upload) (kind : UInt8) (file : Bytes) :
    Except LinkError (Upload × Command) :=
  match upload.job with
  | some _ => .error .uploadInProgress
  | none =>
    .ok ({ upload with job := some ⟨kind, blob kind file, .awaitingAck⟩ },
      ⟨Command.uploadKind, startSubtype,
        .upload (.request kind (Digest.Md5.digest file) (UInt32.ofNat file.length))⟩)

def failed (upload : Upload) : Upload × Output :=
  ({ upload with job := none }, { notices := [.failed] })

/-- The octets of data in a part, for the watch's size of writes and the link's largest. -/
def partSize (chunk : UInt32) (maxPayload : Nat) : Nat :=
  min (if chunk = 0 then defaultChunk else chunk.toNat) maxPayload - partHeader

/-- How many parts a blob takes. -/
def partCount (blobSize partSize : Nat) : Nat := (blobSize + partSize - 1) / partSize

/-- The first part goes out, unless the sizes leave no room or the parts cannot be numbered. -/
def startSending (upload : Upload) (job : UploadJob) (size : Nat) : Upload × Output :=
  let total := partCount job.blob.length size
  if size = 0 ∨ 65535 < total then upload.failed
  else
    let total := UInt16.ofNat total
    ({ upload with job := some { job with phase := .sending size total 1 } },
     { parts := [part job.blob size total 1] })

/-- The upload after an upload command. Only the answer to an outstanding request moves it. -/
def handleCommand (upload : Upload) (command : Command) (maxPayload : Nat) :
    Except LinkError (Upload × Output) :=
  if command.subtype = startSubtype then
    match command.body, upload.job with
    | .upload (.ack status chunk), some job =>
      if job.phase = .awaitingAck then
        if status = 0 then .ok (upload.startSending job (partSize chunk maxPayload))
        else .ok upload.failed
      else .ok (upload, {})
    | _, _ => .ok (upload, {})
  else .error (.unknownCommand command.kind command.subtype)

/-- How much of an upload the acknowledged parts are. -/
def percent (index total : UInt16) : UInt8 := UInt8.ofNat (index.toNat * 100 / total.toNat)

/-- The upload after an acknowledgement: a status, then the part's index. Only the part that is
out can be acknowledged. -/
def handleAck (upload : Upload) (ack : Bytes) : Upload × Output :=
  match upload.job, ack with
  | some job, status :: low :: high :: _ =>
    match job.phase with
    | .sending size total sent =>
      if Bytes.word16 low high ≠ sent then (upload, {})
      else if status ≠ 0 then upload.failed
      else if sent = total then
        ({ upload with job := none }, { notices := [.progress (percent sent total), .completed] })
      else
        ({ upload with job := some { job with phase := .sending size total (sent + 1) } },
         { parts := [part job.blob size total (sent + 1)]
           notices := [.progress (percent sent total)] })
    | .awaitingAck => (upload, {})
  | _, _ => (upload, {})

end Upload

end WatchLink
