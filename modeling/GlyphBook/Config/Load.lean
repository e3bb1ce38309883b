import GlyphBook.Config.Basic
import GlyphBook.Files.Inquiry

/-!
# Loading a configuration

A path that is given has to lead to a configuration: whatever is wrong with the file there is
reported. Only when none is given may the built-in theme stand in, and then only if there is no
file at the default path; a file that is there is read like any other.
-/

namespace GlyphBook

/-! ## The default path -/

namespace FilePath

/-- A path below another; no second slash is written. -/
def join (base name : String) : String :=
  if base = "" ∨ base.toList.getLast? = some '/' then base ++ name else base ++ "/" ++ name

def isAbsolute (path : String) : Bool := path.toList.head? = some '/'

end FilePath

/-- What a program is told by its surroundings: the variables for the home directory and for the
directory of configurations as far as they are set, and the home directory of the account that it
runs for if that is known. -/
structure Surroundings where
  home? : Option String
  configHome? : Option String
  accountHome? : Option String
  deriving Repr, DecidableEq

namespace Surroundings

/-- The home directory. A variable that is empty counts as one that is not set. -/
def homeDirectory? (s : Surroundings) : Option String :=
  (s.home?.filter fun path => path != "").or s.accountHome?

/-- The directory for configurations; one that is set counts only as an absolute path. -/
def configDirectory? (s : Surroundings) : Option String :=
  (s.configHome?.filter FilePath.isAbsolute).or
    (s.homeDirectory?.map fun home => FilePath.join home ".config")

/-- Where a configuration is looked for when no path is given. -/
def defaultPath? (s : Surroundings) : Option String :=
  s.configDirectory?.map fun directory =>
    FilePath.join (FilePath.join directory "iconmap") "config.toml"

end Surroundings

/-! ## Loading -/

namespace Config

/-- Why a configuration cannot be had from a path. -/
inductive ReadError where
  | file (e : FileError)
  | notUtf8
  deriving Repr, DecidableEq

def ReadError.message : ReadError → String
  | .file e => e.message
  | .notUtf8 => "stream did not contain valid UTF-8"

/-- Why a configuration could not be loaded. -/
inductive LoadError where
  | unreadable (path : String) (e : ReadError)
  | invalid (e : Error)
  deriving Repr, DecidableEq

def LoadError.message : LoadError → String
  | .unreadable path e => "failed to read config '" ++ path ++ "': " ++ e.message
  | .invalid e => e.message

/-- The message with those of its causes behind it, the outermost first. -/
def LoadError.chain (e : LoadError) : List String :=
  e.message :: match e with
    | .unreadable _ cause => [cause.message]
    | .invalid (.unknownIcon _ cause) => [cause.message]
    | .invalid cause => cause.report?.toList

/-- The icon that was asked for and is not declared, if that is the cause. -/
def LoadError.unknownIcon? : LoadError → Option UnknownIcon
  | .invalid (.unknownIcon _ e) => some e
  | _ => none

/-- The text that was read, if it is one. -/
def textOf : Except FileError Bytes → Except ReadError String
  | .error e => .error (.file e)
  | .ok bytes =>
    match String.fromUTF8? ⟨bytes.toArray⟩ with
    | some text => .ok text
    | none => .error .notUtf8

/-- Asks for the file at a path and makes a theme of it. -/
def loading (path : String) : Inquiry (Except LoadError Theme) :=
  .read path fun answer =>
    match textOf answer with
    | .error e => .done (.error (.unreadable path e))
    | .ok source => .done ((parse source).mapError LoadError.invalid)

/-- Asks for the file at the given path; without one, for that at the default path if it is there.
If it is not, nothing is read. -/
def loadingOrDefault (surroundings : Surroundings) :
    Option String → Inquiry (Except LoadError Theme)
  | some path => loading path
  | none =>
    match surroundings.defaultPath? with
    | some path =>
      .isFile path fun there => if there then loading path else .done (.ok Theme.default)
    | none => .done (.ok Theme.default)

/-- The theme that the file at a path configures. -/
def load (files : Files) (path : String) : Except LoadError Theme :=
  (loading path).result files

/-- The theme of the given path; without one, that of the file at the default path, or else the
built-in one. -/
def loadOrDefault (files : Files) (surroundings : Surroundings) (path? : Option String) :
    Except LoadError Theme :=
  (loadingOrDefault surroundings path?).result files

end Config

end GlyphBook
