import WatchLink.CommandLine

/-!
# The program

Reads what an invocation is about, runs it, and writes what comes of it.
-/

namespace WatchLink.CommandLine

/-- Everything left in a stream. -/
partial def readToEnd (stream : IO.FS.Stream) (done : ByteArray) : IO ByteArray := do
  let more ← stream.read 65536
  if more.isEmpty then return done else readToEnd stream (done ++ more)

def readFile? (path : String) : IO (Option Bytes) :=
  try
    let contents ← IO.FS.readBinFile path
    return some contents.toList
  catch _ => return none

end WatchLink.CommandLine

open WatchLink.CommandLine in
/-- Reads what the arguments name, runs what they ask for, and writes the outcome. -/
def main (args : List String) : IO UInt32 := do
  match parse args with
  | none =>
    IO.eprint usage
    return 2
  | some invocation =>
    let input ← if invocation.readsInput then readToEnd (← IO.getStdin) .empty else pure .empty
    let file ← match invocation.path? with
      | some path => readFile? path
      | none => pure none
    let outcome := invocation.run file input.toList
    IO.print outcome.output
    match outcome.error with
    | some error => IO.eprintln ("Error: " ++ error)
    | none => pure ()
    return outcome.status
