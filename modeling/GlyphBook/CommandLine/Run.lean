import GlyphBook.CommandLine.Output
import GlyphBook.CommandLine.Request
import GlyphBook.Config.Load
import GlyphBook.Media.FileType
import GlyphBook.Picker.Session
import GlyphBook.Terminal.Input

/-!
# Carrying out a request

Listing needs nothing. Checking a configuration prints the theme it makes. Showing paths needs the
theme first: if it cannot be had nothing is printed, and otherwise every path has its own line,
whatever the other paths are. Picking needs the theme too, and only then touches the terminal.
-/

namespace GlyphBook

namespace CommandLine

/-- Why a request could not be carried out. -/
inductive Failure where
  | config (e : Config.LoadError)
  | badCheck (file : String) (e : Config.LoadError)
  | terminal (fault : String)
  | output (fault : String)
  deriving Repr, DecidableEq

namespace Failure

/-- What is reported, and its causes behind it, the outermost first. -/
def chain : Failure → List String
  | .config e => e.chain
  | .badCheck file e => (file ++ " is not a valid config") :: e.chain
  | .terminal fault => [fault]
  | .output fault => [fault]

/-- The icon that was asked for and is not declared, if that is the cause. -/
def unknownIcon? : Failure → Option UnknownIcon
  | .config e => e.unknownIcon?
  | .badCheck _ e => e.unknownIcon?
  | .terminal _ => none
  | .output _ => none

/-- The failure as it is shown to people. -/
def report (failure : Failure) : String :=
  match failure.chain with
  | [] => ""
  | message :: causes =>
    let because := causes.map fun cause => "    " ++ cause ++ "\n"
    "Error: " ++ message ++ "\n"
      ++ (if because.isEmpty then "" else "\nCaused by:\n" ++ String.join because)

end Failure

/-- Every path whose file may be looked at for a request. -/
def paths (surroundings : Surroundings) (request : Request) : List String :=
  (request.config?.or surroundings.defaultPath?).toList ++ (request.command?.getD .pick).values

/-- How a request was carried out: what was done to the terminal, then what was printed or why it
failed. It is still under way while the picker waits for a key. -/
inductive Result where
  | printed (output : String)
  | failed (failure : Failure)
  | underWay
  deriving Repr, DecidableEq

/-- The world that a request is carried out in, with the table by which extensions are known. -/
structure World where
  extensions : Extension.Table
  files : Files
  surroundings : Surroundings
  console : Console
  events : List TerminalEvent

/-! ## What a path leads to -/

/-- What is found at a path. -/
inductive Finding where
  | directory
  | file (type : FileType)
  | unreadable
  deriving Repr, DecidableEq

def find (table : Extension.Table) (files : Files) (path : String) : Finding :=
  if files.isDirectory path then .directory
  else
    match FileType.detect table files path with
    | .ok type => .file type
    | .error _ => .unreadable

/-- The icon of a finding; what cannot be read has that of the placeholder. -/
def Finding.icon (theme : Theme) : Finding → Icon
  | .directory => theme.entryIcon .directory
  | .file type => theme.entryIcon (.file type.category)
  | .unreadable => theme.drawn .placeholder

/-- How a finding is described. -/
def Finding.text : Finding → String
  | .directory => "Directory"
  | .file type => type.category.name ++ "\t" ++ type.mime
  | .unreadable => "unreadable"

/-- The line of a path: the icon of what is found there, the path, and what was found. -/
def record (table : Extension.Table) (files : Files) (theme : Theme) (path : String) : String :=
  let finding := find table files path
  (finding.icon theme).glyph ++ " " ++ path ++ "\t" ++ finding.text ++ "\n"

/-! ## The commands -/

/-- What a command that prints leaves behind: what the output has taken, and why the command failed
if it did. -/
structure Printout where
  taken : String
  failure? : Option Failure
  deriving Repr, DecidableEq

namespace Printout

/-- A failure before anything is printed. -/
def ofFailure (failure : Failure) : Printout := ⟨"", some failure⟩

/-- Lines sent to an output. -/
def ofLines (outlet : Outlet) (lines : List String) : Printout :=
  let sent := outlet.send "" lines
  ⟨sent.1, sent.2.map Failure.output⟩

def result : Printout → Result
  | ⟨taken, none⟩ => .printed taken
  | ⟨_, some failure⟩ => .failed failure

end Printout

def checkOn (outlet : Outlet) (files : Files) (file : String) : Printout :=
  match Config.load files file with
  | .ok theme => .ofLines outlet theme.lines
  | .error e => .ofFailure (.badCheck file e)

def whichOn (outlet : Outlet) (world : World) (config? : Option String) (paths : List String) :
    Printout :=
  match Config.loadOrDefault world.files world.surroundings config? with
  | .ok theme => .ofLines outlet (paths.map (record world.extensions world.files theme))
  | .error e => .ofFailure (.config e)

def check (files : Files) (file : String) : Result := (checkOn .accepting files file).result

def which (world : World) (config? : Option String) (paths : List String) : Result :=
  (whichOn .accepting world config? paths).result

/-- What is printed after a session. -/
def afterSession : Finish → Result
  | .chosen id => .printed (icons.name id ++ "\n")
  | .cancelled => .printed ""
  | .failed fault => .failed (.terminal fault)
  | .waiting => .underWay

def pick (world : World) (config? : Option String) : List Taken × Result :=
  match Config.loadOrDefault world.files world.surroundings config? with
  | .ok theme =>
    let (steps, finish) := (Picker.start theme).session world.console world.events
    (steps, afterSession finish)
  | .error e => ([], .failed (.config e))

/-! ## Requests -/

/-- Carries out a request: the steps taken at the terminal, and the result that follows them. -/
def run (world : World) (request : Request) : List Taken × Result :=
  match request.command?.getD .pick with
  | .pick => pick world request.config?
  | .list => ([], .printed listing)
  | .check file => ([], check world.files file)
  | .which paths => ([], which world request.config? paths)

end CommandLine

end GlyphBook
