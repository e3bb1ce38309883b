import GlyphBook.CommandLine.Request

/-!
# Help texts

The help of the program and of each command. The options that every command knows are written
once.
-/

namespace GlyphBook

/-- What help can be about. -/
inductive HelpTopic where
  | program
  | command (name : CommandName)
  | help
  deriving Repr, DecidableEq

namespace HelpTopic

/-- The options of every command. -/
def options : String :=
  "Options:\n"
    ++ "  -c, --config <CONFIG>  Config file (defaults to <config dir>/iconmap/config.toml)\n"
    ++ "  -v, --verbose...       Increase log verbosity (-v, -vv, -vvv)\n"
    ++ "  -h, --help             Print help\n"

def about : CommandName → String
  | .pick => "Pick an icon interactively and print its identifier"
  | .list => "Print every identifier with its codepoint and glyph"
  | .check => "Validate a config file and print the resolved theme"
  | .which => "Print the themed icon for each path"

def aboutHelp : String := "Print this message or the help of the given subcommand(s)"

/-- The values of a command in its usage line. -/
def usageValues : CommandName → String
  | .pick => ""
  | .list => ""
  | .check => " <FILE>"
  | .which => " <PATHS>..."

/-- The paragraph on the values of a command. -/
def arguments : CommandName → String
  | .pick => ""
  | .list => ""
  | .check => "Arguments:\n  <FILE>  Config file to validate\n\n"
  | .which => "Arguments:\n  <PATHS>...  \n\n"

/-- A line of the list of commands; the names are filled up to one width. -/
def commandLine (name about : String) : String :=
  "  " ++ name ++ String.ofList (List.replicate (7 - name.length) ' ') ++ about ++ "\n"

def text : HelpTopic → String
  | .program =>
    "Browse and validate the application's icon set\n\n"
      ++ "Usage: iconmap [OPTIONS] [COMMAND]\n\n"
      ++ "Commands:\n"
      ++ String.join (CommandName.all.map fun c => commandLine c.name (about c))
      ++ commandLine "help" aboutHelp ++ "\n"
      ++ options
      ++ "  -V, --version          Print version\n"
  | .command c =>
    about c ++ "\n\n"
      ++ "Usage: iconmap " ++ c.name ++ " [OPTIONS]" ++ usageValues c ++ "\n\n"
      ++ arguments c
      ++ options
  | .help =>
    aboutHelp ++ "\n\n"
      ++ "Usage: iconmap help [COMMAND]...\n\n"
      ++ "Arguments:\n  [COMMAND]...  Print help for the subcommand(s)\n"

end HelpTopic

/-- The name of the program with its version. -/
def versionText : String := "iconmap 0.1.0\n"

end GlyphBook
