/-!
# Requests and how they are written

What a command line can ask for, and one way to write each request as arguments. The written form
leaves nothing to interpretation: the path of the configuration is attached to its option, and the
values of a command stand behind two dashes, where nothing is taken for an option any more.
-/

namespace GlyphBook

/-- What the program is asked to do. -/
inductive Command where
  | pick
  | list
  | check (file : String)
  | which (paths : List String)
  deriving Repr, DecidableEq

/-- A command with the options that go with every command. Without a command an icon is picked. -/
structure Request where
  config? : Option String
  verbosity : Nat
  command? : Option Command
  deriving Repr, DecidableEq

/-- The names of the commands. -/
inductive CommandName where
  | pick
  | list
  | check
  | which
  deriving Repr, DecidableEq

namespace CommandName

def all : List CommandName := [.pick, .list, .check, .which]

def name : CommandName → String
  | .pick => "pick"
  | .list => "list"
  | .check => "check"
  | .which => "which"

def ofName? (name : String) : Option CommandName := all.find? fun c => c.name == name

end CommandName

namespace Command

def commandName : Command → CommandName
  | .pick => .pick
  | .list => .list
  | .check _ => .check
  | .which _ => .which

/-- The values behind the name of the command. -/
def values : Command → List String
  | .pick => []
  | .list => []
  | .check file => [file]
  | .which paths => paths

/-- The command as arguments; one that takes values has them behind two dashes. -/
def encode (command : Command) : List String :=
  match command with
  | .pick => ["pick"]
  | .list => ["list"]
  | .check file => ["check", "--", file]
  | .which paths => "which" :: "--" :: paths

end Command

/-- The request as arguments. -/
def Request.encode (request : Request) : List String :=
  (request.config?.map fun path => "--config=" ++ path).toList
    ++ List.replicate request.verbosity "-v"
    ++ (request.command?.map Command.encode).getD []

end GlyphBook
