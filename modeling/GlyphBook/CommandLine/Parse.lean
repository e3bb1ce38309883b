import GlyphBook.CommandLine.Help
import GlyphBook.Text.Plain

/-!
# Reading a command line

Arguments are read from left to right. The options may stand before or behind the command; those
behind it are counted on their own and, where given, replace those before it. A value that waits
for its word, or has one but is not yet accepted, is settled when the next option is read and at
the end. The options before a command are settled after the command's own arguments.
-/

namespace GlyphBook

namespace CommandLine

/-! ## Refusals -/

/-- The parameters that take a value. -/
inductive Parameter where
  | config
  | file
  | paths
  deriving Repr, DecidableEq

def Parameter.label : Parameter → String
  | .config => "--config <CONFIG>"
  | .file => "<FILE>"
  | .paths => "<PATHS>..."

/-- Why arguments make no request. Help and the version are asked for in the same way. -/
inductive Refusal where
  | help (topic : HelpTopic)
  | version
  | unknownArgument (word : String)
  | unknownCommand (word : String)
  | noValue (parameter : Parameter)
  | noArguments
  | unwantedValue (value flag : String)
  | repeatedConfig
  deriving Repr, DecidableEq

namespace Refusal

/-- Help and the version are printed as an answer; anything else is an error. -/
def exitCode : Refusal → Nat
  | .help _ => 0
  | .version => 0
  | _ => 2

/-- A word from the command line as an error shows it: its plain text between single quotes. -/
def quoted (word : String) : String := "'" ++ PlainText.ofText word ++ "'"

/-- What an error says. -/
def complaint : Refusal → String
  | .help _ => ""
  | .version => ""
  | .unknownArgument word => "error: unexpected argument " ++ quoted word ++ " found"
  | .unknownCommand word => "error: unrecognized subcommand " ++ quoted word
  | .noValue parameter =>
    "error: a value is required for '" ++ parameter.label ++ "' but none was supplied"
  | .noArguments => "error: the following required arguments were not provided:"
  | .unwantedValue value flag =>
    "error: unexpected value " ++ quoted value ++ " for '" ++ flag
      ++ "' found; no more were expected"
  | .repeatedConfig =>
    "error: the argument '" ++ Parameter.config.label ++ "' cannot be used multiple times"

/-- The text of an answer, or the first line of an error. -/
def message : Refusal → String
  | .help topic => topic.text
  | .version => versionText
  | refusal => PlainText.firstLine refusal.complaint

end Refusal

/-! ## Words -/

/-- What an argument looks like. -/
inductive Word where
  | dashes
  | long (name : List Char) (value? : Option String)
  | short (letters : List Char)
  | plain
  deriving Repr, DecidableEq

/-- A single dash is a plain word. -/
def Word.of (word : String) : Word :=
  match word.toList with
  | '-' :: '-' :: [] => .dashes
  | '-' :: '-' :: rest =>
    match rest.dropWhile (· ≠ '=') with
    | [] => .long rest none
    | _ :: value => .long (rest.takeWhile (· ≠ '=')) (some (String.ofList value))
  | '-' :: c :: rest => .short (c :: rest)
  | _ => .plain

/-! ## What has been read on one side of the command -/

/-- A value that is not settled. -/
inductive Pending where
  | nothing
  /-- The configuration option, with its word if it has come. -/
  | config (word? : Option String)
  /-- The values of the command read in a row. -/
  | values (words : List String)
  deriving Repr, DecidableEq

/-- What has been settled, what is pending, and whether two dashes have ended the options. -/
structure State where
  config? : Option String := none
  verbosity? : Option Nat := none
  values : List String := []
  pending : Pending := .nothing
  afterDashes : Bool := false
  deriving Repr, DecidableEq

/-- The place in which arguments are read: before a command, or behind one. -/
abbrev Place := Option CommandName

/-- The parameter that the values of a command belong to. -/
def valueParameter : Place → Parameter
  | some .check => .file
  | _ => .paths

namespace State

/-- Accepts the value of the configuration option: once, and not empty. -/
def setConfig (path : String) (s : State) : Except Refusal State :=
  if s.config?.isSome then .error .repeatedConfig
  else if path = "" then .error (.noValue .config)
  else .ok { s with config? := some path }

/-- Settles what is pending. -/
def settle (place : Place) (s : State) : Except Refusal State :=
  match s.pending with
  | .nothing => .ok s
  | .config none => .error (.noValue .config)
  | .config (some path) => ({ s with pending := .nothing } : State).setConfig path
  | .values words =>
    if words.contains "" then .error (.noValue (valueParameter place))
    else .ok { s with values := s.values ++ words, pending := .nothing }

/-- The largest count of the verbosity flag. -/
def verbosityLimit : Nat := 255

def countVerbose (place : Place) (s : State) : Except Refusal State := do
  let s ← s.settle place
  return { s with verbosity? := some (min verbosityLimit (s.verbosity?.getD 0 + 1)) }

/-- Takes a value that is attached to the configuration option. -/
def attachConfig (place : Place) (path : String) (s : State) : Except Refusal State := do
  let s ← s.settle place
  s.setConfig path

/-- Waits for the value of the configuration option. -/
def awaitConfig (place : Place) (s : State) : Except Refusal State := do
  let s ← s.settle place
  return { s with pending := .config none }

end State

/-! ## Options -/

def topicOf : Place → HelpTopic
  | none => .program
  | some c => .command c

/-- Settles what is pending, then stops. -/
def stop (place : Place) (s : State) (refusal : Refusal) : Except Refusal State := do
  let _ ← s.settle place
  throw refusal

/-- The letters of a short option. The rest of the word belongs to the configuration option once
its letter is met. The version is asked for only before a command. -/
def readLetters (place : Place) : List Char → State → Except Refusal State
  | [], s => .ok s
  | c :: rest, s =>
    if c = 'v' then do
      let s ← s.countVerbose place
      readLetters place rest s
    else if c = 'c' then
      match rest with
      | [] => s.awaitConfig place
      | '=' :: path => s.attachConfig place (String.ofList path)
      | path => s.attachConfig place (String.ofList path)
    else if c = 'h' then stop place s (.help (topicOf place))
    else if c = 'V' ∧ place = none then stop place s .version
    else .error (.unknownArgument (String.ofList ['-', c]))

/-- A long option. A flag takes no value. -/
def readLong (place : Place) (name : List Char) (value? : Option String) (s : State) :
    Except Refusal State :=
  let name := String.ofList name
  if name = "config" then
    match value? with
    | some path => s.attachConfig place path
    | none => s.awaitConfig place
  else if name = "verbose" then
    match value? with
    | some value => .error (.unwantedValue value "--verbose...")
    | none => s.countVerbose place
  else if name = "help" then
    match value? with
    | some value => .error (.unwantedValue value "--help")
    | none => stop place s (.help (topicOf place))
  else if name = "version" ∧ place = none then
    match value? with
    | some value => .error (.unwantedValue value "--version")
    | none => stop place s .version
  else .error (.unknownArgument ("--" ++ name))

/-! ## Values -/

/-- A word that is neither an option nor the value of one, behind a command. -/
def readValue (command : CommandName) (word : String) (s : State) : Except Refusal State :=
  match command with
  | .pick => .error (.unknownArgument word)
  | .list => .error (.unknownArgument word)
  | .check =>
    match s.pending, s.values with
    | .values _, _ => .error (.unknownArgument word)
    | _, _ :: _ => .error (.unknownArgument word)
    | _, [] => do
      let s ← s.settle (some command)
      return { s with pending := .values [word] }
  | .which =>
    match s.pending with
    | .values words => .ok { s with pending := .values (words ++ [word]) }
    | _ => do
      let s ← s.settle (some command)
      return { s with pending := .values [word] }

/-- The names that are commands, help among them. -/
def isCommandWord (word : String) : Bool := (CommandName.ofName? word).isSome || word == "help"

/-- A word where a command is expected and none, or none any more, can be. -/
def refuseWord (word : String) (s : State) : Refusal :=
  if s.afterDashes ∧ isCommandWord word then .unknownArgument word else .unknownCommand word

/-! ## From left to right -/

/-- One argument behind a command. -/
def readBehind (command : CommandName) (s : State) (word : String) : Except Refusal State :=
  if s.afterDashes then readValue command word s
  else match Word.of word with
    | .dashes => .ok { s with afterDashes := true }
    | .long name value? => readLong (some command) name value? s
    | .short letters => readLetters (some command) letters s
    | .plain =>
      if s.pending = .config none then .ok { s with pending := .config (some word) }
      else readValue command word s

/-- The arguments behind a command; a command that takes values needs one. -/
def readCommand (command : CommandName) (words : List String) : Except Refusal State := do
  let s ← words.foldlM (readBehind command) {}
  let s ← s.settle (some command)
  if (command = .check ∨ command = .which) ∧ s.values = [] then throw .noArguments
  return s

/-- The command that was read, from its name and its values. -/
def commandOf : CommandName → List String → Command
  | .pick, _ => .pick
  | .list, _ => .list
  | .check, values => .check (values.headD "")
  | .which, values => .which values

/-- The help that is asked for by name. Only commands have help, and they have no commands. -/
def helpOn : List String → Refusal
  | [] => .help .program
  | word :: rest =>
    let topic? : Option HelpTopic :=
      if word = "help" then some .help else (CommandName.ofName? word).map .command
    match topic?, rest with
    | none, _ => .unknownCommand word
    | some topic, [] => .help topic
    | some _, other :: _ => .unknownCommand other

/-- The arguments up to a command, and then those behind it. -/
def readBefore : State → List String → Except Refusal (State × Option (CommandName × State))
  | s, [] => .ok (s, none)
  | s, word :: rest =>
    if s.afterDashes then .error (refuseWord word s)
    else
      match Word.of word with
      | .dashes => readBefore { s with afterDashes := true } rest
      | .long name value? => do
        let s ← readLong none name value? s
        readBefore s rest
      | .short letters => do
        let s ← readLetters none letters s
        readBefore s rest
      | .plain =>
        if s.pending = .config none then readBefore { s with pending := .config (some word) } rest
        else if word = "help" then .error (helpOn rest)
        else match CommandName.ofName? word with
          | none => .error (refuseWord word s)
          | some command => do
            let behind ← readCommand command rest
            return (s, some (command, behind))

/-- The request that arguments make. What stands behind the command counts before what stands in
front of it. -/
def parse (arguments : List String) : Except Refusal Request := do
  let (before, found) ← readBefore {} arguments
  let before ← before.settle none
  match found with
  | none => return ⟨before.config?, before.verbosity?.getD 0, none⟩
  | some (command, behind) =>
    return ⟨behind.config? <|> before.config?,
      (behind.verbosity? <|> before.verbosity?).getD 0,
      some (commandOf command behind.values)⟩

end CommandLine

end GlyphBook
