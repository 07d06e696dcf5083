import WatchLink.Json.Shape
import WatchLink.Packing

/-!
# Capabilities

What the models of watch can do. A model is looked up by its id, or by the name it advertises,
which starts with a known text; the longer of two such texts is tried first.
-/

namespace WatchLink

/-- How a model connects. -/
inductive ConnectionType where
  | ble
  | stream
  | both
  deriving DecidableEq, Repr

inductive PasswordMode where
  | none
  | fourDigits
  | sixDigits
  deriving DecidableEq, Repr

/-- What a model can do. -/
structure Capabilities where
  model : String := ""
  connection : ConnectionType := .both
  supportsFindDevice : Bool := true
  password : PasswordMode := .none
  /-- Wearing and sleep are only pushed, never part of a reply. -/
  wearingAndSleepViaDeviceState : Bool := false
  languages : List String := ["auto"]
  deriving DecidableEq, Repr

namespace ConnectionType

/-- The type's name in settings. -/
def name : ConnectionType → String
  | ble => "Ble"
  | stream => "Stream"
  | both => "Both"

/-- All types, in the order of their numbers. -/
def all : List ConnectionType := [ble, stream, both]

def packing : Packing ConnectionType := .choice (all.map .only)

def shape : Json.Shape ConnectionType := .choice (all.map fun t => .only t.name t)

end ConnectionType

namespace PasswordMode

/-- The mode's name in settings. -/
def name : PasswordMode → String
  | none => "None"
  | fourDigits => "Numbers4"
  | sixDigits => "Numbers6"

/-- All modes, in the order of their numbers. -/
def all : List PasswordMode := [none, fourDigits, sixDigits]

def packing : Packing PasswordMode := .choice (all.map .only)

def shape : Json.Shape PasswordMode := .choice (all.map fun m => .only m.name m)

end PasswordMode

namespace Capabilities

def knownLanguages : List String :=
  ["auto", "ar_SA", "cs_CZ", "da_DK", "de_DE", "el_GR", "en_US", "es_ES", "fr_FR", "he_IL",
   "id_ID", "it_IT", "ja_JP", "ko_KO", "nl_NL", "nb_NO", "pl_PL", "pt_BR", "pt_PT", "ro_RO",
   "ru_RU", "sv_SE", "th_TH", "tr_TR", "uk_UA", "vi_VN", "zh_CN", "zh_TW"]

/-- The known models, and whether they can be made to ring. -/
def models : List (String × Bool) :=
  [("xiaomi_watch_s1", true), ("xiaomi_watch_s1_pro", true), ("xiaomi_watch_s1_active", false)]

/-- How advertised names start, with the model's id. -/
def advertisedNames : List (String × String) :=
  [("Xiaomi Watch S1 Pro ", "xiaomi_watch_s1_pro"),
   ("XiaomiWatchS1Active ", "xiaomi_watch_s1_active"),
   ("Xiaomi Watch S1 ", "xiaomi_watch_s1")]

/-- What a known model can do. -/
def ofModel? (model : String) : Option Capabilities :=
  (models.lookup model).map fun findDevice =>
    { model := model
      supportsFindDevice := findDevice
      password := .sixDigits
      languages := knownLanguages }

/-- The model that advertises itself by a name. -/
def modelOfName? (name : String) : Option String :=
  (advertisedNames.find? fun entry => entry.1.toList.isPrefixOf name.toList).map Prod.snd

/-- Whether a language can be set. -/
def supportsLanguage (c : Capabilities) (code : String) : Bool := c.languages.contains code

def packing : Packing Capabilities :=
  (Packing.text.pair <| .pair ConnectionType.packing <| .pair .flag <|
    .pair PasswordMode.packing <| .pair .flag (.list .text)).map
    (fun (model, connection, findDevice, password, viaDeviceState, languages) =>
      ⟨model, connection, findDevice, password, viaDeviceState, languages⟩)
    fun c =>
      (c.model, c.connection, c.supportsFindDevice, c.password, c.wearingAndSleepViaDeviceState,
        c.languages)

def shape : Json.Shape Capabilities := .record "Capabilities" {}
  [.of "model" .text model fun c t => { c with model := t },
   .of "connection" ConnectionType.shape connection fun c t => { c with connection := t },
   .of "supports_find_device" .flag supportsFindDevice fun c b =>
     { c with supportsFindDevice := b },
   .of "password" PasswordMode.shape password fun c m => { c with password := m },
   .of "wearing_and_sleep_via_device_state" .flag wearingAndSleepViaDeviceState fun c b =>
     { c with wearingAndSleepViaDeviceState := b },
   .of "languages" (.list .text) languages fun c l => { c with languages := l }]

end Capabilities

end WatchLink
