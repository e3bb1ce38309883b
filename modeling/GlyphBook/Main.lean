import GlyphBook.CommandLine.Parse
import GlyphBook.CommandLine.Run
import GlyphBook.Media.Known

/-!
# The program

Reads what a request needs from outside, lets the library carry it out, and prints the result.
-/

namespace GlyphBook

namespace Main

/-- What a failed attempt to read a file says about its path. What may not be read is taken to be
there. -/
def nodeOfError : IO.Error → Except FileError Node
  | .noFileOrDirectory _ _ _ => .error .notFound
  | .permissionDenied _ 13 _ => .ok (.locked "Permission denied (os error 13)")
  | .inappropriateType _ 21 _ => .ok .directory
  | .inappropriateType _ _ _ => .error .notDirectory
  | .invalidArgument _ 36 _ => .error .nameTooLong
  | e => .error (.other (toString e))

/-- What stands at a path. -/
def look (path : String) : IO (String × Except FileError Node) := do
  try
    let content ← IO.FS.readBinFile path
    return (path, .ok (.file content.toList))
  catch e => return (path, nodeOfError e)

def surroundings : IO Surroundings := do
  return ⟨← IO.getEnv "HOME", ← IO.getEnv "XDG_CONFIG_HOME", none⟩

/-- Reads what is typed for as long as the request is under way. -/
partial def converse (input : IO.FS.Stream) (carryOut : List TerminalEvent → CommandLine.Result)
    (typed : Bytes) : IO CommandLine.Result := do
  match carryOut (Input.events typed) with
  | .underWay =>
    let sent ← input.read 1024
    if sent.isEmpty then return .underWay
    converse input carryOut (typed ++ sent.toList)
  | result => return result

def carryOut (request : Request) : IO UInt32 := do
  let surroundings ← surroundings
  let found ← (CommandLine.paths surroundings request).mapM look
  let result ← converse (← IO.getStdin) (fun events =>
    let world : CommandLine.World :=
      { extensions := Extension.Table.known, files := Files.ofList found,
        surroundings := surroundings, console := Console.reliable 80 24, events := events }
    (CommandLine.run world request).2) []
  match result with
  | .printed output =>
    IO.print output
    return 0
  | .failed failure =>
    IO.eprint failure.report
    return 1
  | .underWay => return 1

end Main

end GlyphBook

open GlyphBook

def main (arguments : List String) : IO UInt32 := do
  match CommandLine.parse arguments with
  | .ok request => Main.carryOut request
  | .error refusal =>
    if refusal.exitCode = 0 then
      IO.print refusal.message
    else
      IO.eprintln refusal.message
    return UInt32.ofNat refusal.exitCode
