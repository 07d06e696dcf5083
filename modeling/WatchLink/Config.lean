import WatchLink.Command.Packed
import WatchLink.Error
import WatchLink.Hex
import WatchLink.Json.Shape
import WatchLink.Text.Case
import WatchLink.Text.Size
import WatchLink.Text.Trim

/-!
# Configuration

What the host decides about a connection before there is one: the pairing secret, who the phone and
its user are, the locale, the sizes to ask for, and the texts shown during an installation. Settings
are kept packed or as JSON.
-/

namespace WatchLink

/-- Texts shown to the user. -/
structure Messages where
  updatingFirmware : String := "Updating firmware"
  updateInProgress : String := "Firmware update in progress"
  updateComplete : String := "Update complete"
  writeFailed : String := "Write failed"
  /-- The label of the menu's second section. -/
  more : String := "More"
  deriving DecidableEq, Repr

/-- The settings of a connection. -/
structure LinkConfig where
  /-- The pairing secret, as hexadecimal digits. -/
  authKey : String := ""
  /-- The user's account, told in the clear-text handshake. -/
  userId : String := ""
  /-- The host's locale, a language and perhaps a country. -/
  locale : String := "en_US"
  phoneName : String := "wearlink"
  apiLevel : UInt32 := 34
  region : String := "US"
  /-- The value size to ask for on a GATT link. -/
  mtuRequest : UInt16 := 247
  /-- The largest upload part on a stream link. -/
  streamChunkSize : Nat := 2048
  messages : Messages := {}
  deriving DecidableEq, Repr

namespace Messages

def packing : Packing Messages :=
  (Packing.text.pair <| .pair .text <| .pair .text <| .pair .text .text).map
    (fun (updatingFirmware, updateInProgress, updateComplete, writeFailed, more) =>
      ⟨updatingFirmware, updateInProgress, updateComplete, writeFailed, more⟩)
    fun m =>
      (m.updatingFirmware, m.updateInProgress, m.updateComplete, m.writeFailed, m.more)

/-- The names of the texts. -/
def shape : Json.Shape Messages := .record "Messages" {}
  [.of "updating_firmware" .text updatingFirmware fun m t => { m with updatingFirmware := t },
   .of "update_in_progress" .text updateInProgress fun m t => { m with updateInProgress := t },
   .of "update_complete" .text updateComplete fun m t => { m with updateComplete := t },
   .of "write_failed" .text writeFailed fun m t => { m with writeFailed := t },
   .of "more" .text more fun m t => { m with more := t }]

end Messages

namespace LinkConfig

/-- The characters after one leading `0x` or `0X`, if there is one. -/
def withoutMark : List Char → List Char
  | '0' :: 'x' :: rest => rest
  | '0' :: 'X' :: rest => rest
  | cs => cs

/-- The pairing secret of a key: sixteen octets in hexadecimal, white space around them and one
mark before them allowed. The length is checked first, in octets. -/
def secretOf (key : List Char) : Except ConfigError (Octets 16) :=
  let digits := withoutMark (Text.trimmed key)
  if Text.octetCount digits ≠ 32 then .error .authKeyLength
  else
    match (Hex.decode? digits).bind (Octets.ofList? 16) with
    | some secret => .ok secret
    | none => .error .authKeyDigits

/-- The pairing secret. -/
def secret (c : LinkConfig) : Except ConfigError (Octets 16) := secretOf c.authKey.toList

def phoneInfo (c : LinkConfig) : PhoneInfo := ⟨c.apiLevel, c.phoneName, c.region⟩

/-- The stretches of a locale between its separators. -/
def localeParts : List Char → List (List Char)
  | [] => [[]]
  | c :: cs =>
    if c = '_' ∨ c = '-' then [] :: localeParts cs
    else
      match localeParts cs with
      | [] => [[c]]
      | first :: rest => (c :: first) :: rest

/-- The locale as language and country. A language alone is its own country. -/
def resolvedLocale (c : LinkConfig) : String :=
  let parts := localeParts c.locale.toList
  let language := Text.lower (String.ofList (parts.headD []))
  let country := match parts[1]? with
    | some (c :: cs) => Text.upper (String.ofList (c :: cs))
    | _ => Text.upper language
  language ++ "_" ++ country

/-- The least value size a connection has. -/
def minimumMtu : UInt16 := 23

/-- The least upload part worth writing. -/
def minimumChunk : Nat := 16

/-- Whether a connection can be made with the settings. -/
def validate (c : LinkConfig) : Except ConfigError Unit :=
  match c.secret with
  | .error e => .error e
  | .ok _ =>
    if c.mtuRequest < minimumMtu then .error .mtuTooSmall
    else if c.streamChunkSize < minimumChunk then .error .chunkTooSmall
    else .ok ()

def packing : Packing LinkConfig :=
  (Packing.text.pair <| .pair .text <| .pair .text <| .pair .text <| .pair .word32 <|
    .pair .text <| .pair .word16 <| .pair .length Messages.packing).map
    (fun (authKey, userId, locale, phoneName, apiLevel, region, mtuRequest, streamChunkSize,
      messages) =>
      ⟨authKey, userId, locale, phoneName, apiLevel, region, mtuRequest, streamChunkSize,
        messages⟩)
    fun c =>
      (c.authKey, c.userId, c.locale, c.phoneName, c.apiLevel, c.region, c.mtuRequest,
        c.streamChunkSize, c.messages)

def shape : Json.Shape LinkConfig := .record "LinkConfig" {}
  [.of "auth_key" .text authKey fun c t => { c with authKey := t },
   .of "user_id" .text userId fun c t => { c with userId := t },
   .of "locale" .text locale fun c t => { c with locale := t },
   .of "phone_name" .text phoneName fun c t => { c with phoneName := t },
   .of "api_level" .word32 apiLevel fun c n => { c with apiLevel := n },
   .of "region" .text region fun c t => { c with region := t },
   .of "mtu_request" .word16 mtuRequest fun c n => { c with mtuRequest := n },
   .of "stream_chunk_size" (.natural UInt64.size) streamChunkSize fun c n =>
     { c with streamChunkSize := n },
   .of "messages" Messages.shape messages fun c m => { c with messages := m }]

end LinkConfig

end WatchLink
