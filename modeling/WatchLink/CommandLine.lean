import WatchLink.Capabilities
import WatchLink.Command.Named
import WatchLink.Command.Packed
import WatchLink.Config
import WatchLink.Firmware
import WatchLink.Json.Writer
import WatchLink.Reassembler

/-!
# The command line

Four subcommands look into what the library works with: `decode` shows the frames of a capture,
`firmware` a file for the watch, `caps` what a model can do, and `config` checks settings or prints
the default ones.

The arguments are read into an `Invocation`, and running it is a function from the file it names and
the standard input to an `Outcome`. Arguments are read in order and the first decisive one counts,
so help that is asked for behind a mistake is not given.
-/

namespace WatchLink.CommandLine

/-- What is asked for. -/
inductive Invocation where
  /-- Show the frames of a capture, from the standard input when no text is given. -/
  | decode (texts : List String)
  | firmware (path version : String)
  | capabilities (model : String)
  /-- Check settings, or print the default ones. -/
  | config (path : Option String)
  | showVersion
  | showHelp
  deriving DecidableEq, Repr

/-- What comes of it. -/
structure Outcome where
  status : UInt32 := 0
  /-- What goes to the standard output. -/
  output : String := ""
  error : Option String := none
  deriving DecidableEq, Repr

/-- The program's name and version. -/
def versionText : String := "wearlink 0.2.0"

/-- How the program is used. -/
def usage : String :=
  "Inspect wearable protocol captures and configuration\n\n" ++
  "Usage: wearlink <COMMAND>\n\n" ++
  "Commands:\n" ++
  "  decode    Decode a hex capture of stream bytes (reads stdin when no args)\n" ++
  "  firmware  Inspect a firmware or watchface file\n" ++
  "  caps      Print the capability table entry for a model id or device name\n" ++
  "  config    Validate a configuration file (prints the defaults when omitted)\n"

/-! ## Arguments -/

/-- Why reading the values of a subcommand stops. -/
inductive Stop where
  | help
  | misuse
  deriving DecidableEq, Repr

/-- Whether an argument is an option. A lone dash is a value. -/
def isOption (arg : String) : Bool := "-".toList.isPrefixOf arg.toList && arg ≠ "-"

/-- Whether an argument asks for what stands under a long and a short option. Behind a short option
that is decisive, nothing is looked at. -/
def asksFor (long short arg : String) : Bool := arg = long || short.toList.isPrefixOf arg.toList

def asksForHelp : String → Bool := asksFor "--help" "-h"

/-- The values of a subcommand. After `--` everything is a value; `fits` says of the values so far
whether they are acceptable. -/
def values (fits : List String → Bool) :
    (literal : Bool) → (done : List String) → List String → Except Stop (List String)
  | _, done, [] => .ok done
  | literal, done, arg :: args =>
    if !literal && arg = "--" then values fits true done args
    else if !literal && asksForHelp arg then .error .help
    else if !literal && isOption arg then .error .misuse
    else if fits (done ++ [arg]) then values fits literal (done ++ [arg]) args
    else .error .misuse

def startsWithPath (most : Nat) (values : List String) : Bool :=
  values.length ≤ most && values.head? ≠ some ""

/-- An invocation of a subcommand by its values. -/
def invocation (fits : List String → Bool) (make : List String → Option Invocation)
    (args : List String) : Option Invocation :=
  match values fits false [] args with
  | .ok values => make values
  | .error .help => some .showHelp
  | .error .misuse => none

def subcommands : List (String × (List String → Option Invocation)) :=
  [("decode", invocation (fun _ => true) fun texts => some (.decode texts)),
   ("firmware", invocation (startsWithPath 2) fun
      | [path] => some (.firmware path "unknown")
      | [path, version] => some (.firmware path version)
      | _ => none),
   ("caps", invocation (fun values => values.length ≤ 1) fun
      | [model] => some (.capabilities model)
      | _ => none),
   ("config", invocation (startsWithPath 1) fun
      | [] => some (.config none)
      | [path] => some (.config (some path))
      | _ => none)]

def helpOn : List String → Option Invocation
  | [] => some .showHelp
  | [name] =>
    if name = "help" ∨ (subcommands.lookup name).isSome then some .showHelp else none
  | _ => none

/-- What the arguments ask for, if they can be read. -/
def parse : List String → Option Invocation
  | [] => none
  | arg :: args =>
    if asksForHelp arg then some .showHelp
    else if asksFor "--version" "-V" arg then some .showVersion
    else if arg = "help" then helpOn args
    else
      match subcommands.lookup arg with
      | some subcommand => subcommand args
      | none => none

namespace Invocation

/-- The file it is about. -/
def path? : Invocation → Option String
  | firmware path _ => some path
  | config path => path
  | _ => none

/-- Whether it is about the standard input. -/
def readsInput (invocation : Invocation) : Bool := invocation = decode []

end Invocation

/-! ## Running -/

def printed (lines : List String) : Outcome := { output := String.join (lines.map (· ++ "\n")) }

/-- Nothing but an error. -/
def failed (error : String) : Outcome := { status := 1, error := some error }

/-- A frame of a capture. -/
def frameLines (frame : Frame) : List String :=
  let size := frame.payload.length
  [s!"frame ch={frame.channel.name} flag={frame.flag} needs_response={frame.needsResponse} " ++
     s!"opcode={frame.opcode} serial={frame.serial} type={frame.dataType.name} len={size}",
   if frame.dataType = .encrypted then s!"  (encrypted, {size} bytes)"
   else
     match Command.ofBytes frame.payload with
     | .ok command => s!"  {command.kind}/{command.subtype} " ++ (Body.shape.term command.body).render
     | .error _ => "  raw " ++ Hex.encode frame.payload]

/-- What a capture leaves over. -/
def remainderLines (rest : Reassembler) : List String :=
  (if rest.buffer = [] then [] else [s!"{rest.buffer.length} trailing bytes buffered"]) ++
  if rest.discarded = 0 ∧ rest.dropped = 0 then []
  else [s!"{rest.discarded} bytes discarded, {rest.dropped} malformed frames dropped"]

/-- Show the frames of a capture. Only its digits count. -/
def decode (text : String) : Outcome :=
  match Hex.decode? (text.toList.filter Hex.isDigit) with
  | some bytes =>
    let (rest, frames) := Reassembler.push {} bytes
    printed (frames.flatMap frameLines ++ remainderLines rest)
  | none => failed "capture is not valid hex"

def firmware (path version : String) (file : Option Bytes) : Outcome :=
  match file with
  | none => failed s!"reading {path}"
  | some bytes =>
    match FirmwareImage.ofBytes bytes version with
    | .error e => failed s!"{path}: {e.message}"
    | .ok image =>
      printed (
        [s!"kind:    {image.kind.name}", s!"version: {image.version}",
         s!"size:    {image.bytes.length}", s!"md5:     {image.md5Hex}"] ++
        if image.isFirmware then [] else ["not installable as firmware"])

/-- Print what a model can do, by its id or the name it advertises. -/
def capabilities (model : String) : Outcome :=
  match Capabilities.ofModel? ((Capabilities.modelOfName? model).getD model) with
  | some c => printed [(Capabilities.shape.term c).json]
  | none => failed s!"unknown model {model}"

def textOf? (bytes : Bytes) : Option String := String.fromUTF8? ⟨bytes.toArray⟩

/-- Check settings. -/
def config (path : String) (file : Option Bytes) : Outcome :=
  match file.bind textOf? with
  | none => failed s!"reading {path}"
  | some text =>
    match Json.Reader.run? LinkConfig.shape.read text with
    | .error _ => failed s!"parsing {path}"
    | .ok c =>
      match c.validate with
      | .error _ => failed s!"validating {path}"
      | .ok () => printed [s!"ok, locale {c.resolvedLocale}"]

/-- Do what is asked for, with the file it is about, if that could be read, and the standard
input. -/
def Invocation.run (file : Option Bytes) (input : Bytes) : Invocation → Outcome
  | .decode [] =>
    match textOf? input with
    | some text => CommandLine.decode text
    | none => failed "reading capture from stdin"
  | .decode texts => CommandLine.decode (String.join texts)
  | .firmware path version => CommandLine.firmware path version file
  | .capabilities model => CommandLine.capabilities model
  | .config (some path) => CommandLine.config path file
  | .config none => printed [(LinkConfig.shape.term {}).json]
  | .showVersion => printed [versionText]
  | .showHelp => { output := usage }

/-- Read the arguments and do what they ask for. `readFile` gives the contents of the files that can
be read. -/
def run (readFile : String → Option Bytes) (input : Bytes) (args : List String) : Outcome :=
  match parse args with
  | some invocation => invocation.run (invocation.path?.bind readFile) input
  | none => { status := 2 }

end WatchLink.CommandLine
