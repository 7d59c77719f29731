/-!
# Help

The texts that explain the command and its subcommands.

## Main definitions

* `Scope` : the command itself, or a subcommand.
* `Scope.briefText`, `Scope.fullText` : its explanation, in few words and in full.
* `versionText` : the version of the command.
-/

namespace ResolverTypes.Command

/-- The command itself, or a subcommand. -/
inductive Scope where
  /-- The command itself. -/
  | top
  /-- The subcommand that writes the generated module. -/
  | generate
  /-- The subcommand that compares the generated module with the file on disk. -/
  | check
  /-- The subcommand that explains the others. -/
  | help
deriving DecidableEq, Repr, Inhabited

/-- The words that lead to a scope. -/
def Scope.path : Scope → String
  | .top => "graphql"
  | .generate => "graphql generate"
  | .check => "graphql check"
  | .help => "graphql help"

/-- The names of the subcommands. -/
def subcommandNames : List String := ["generate", "check", "help"]

/-- The subcommand of a name. -/
def subcommand? (name : String) : Option Scope :=
  match name with
  | "generate" => some .generate
  | "check" => some .check
  | "help" => some .help
  | _ => none

/-- Lines as a text. -/
def textOfLines (lines : List String) : String := String.join (lines.map (· ++ "\n"))

/-- The version of the command. -/
def versionText : String := textOfLines ["graphql 0.1.0"]

/-- The explanation of the command. -/
def topHelp : String := textOfLines [
  "Generate TypeScript resolver types from a GraphQL schema",
  "",
  "Usage: graphql [OPTIONS] <COMMAND>",
  "",
  "Commands:",
  "  generate  Generate resolver type declarations",
  "  check     Verify the generated file on disk is up to date",
  "  help      Print this message or the help of the given subcommand(s)",
  "",
  "Options:",
  "  -c, --config <FILE>      Path to GraphQL config file",
  "  -p, --project <PROJECT>  Project name (for multi-project configs)",
  "      --color              Force colored output even when not a TTY",
  "      --no-color           Disable colored output",
  "  -q, --quiet              Suppress all output except errors and warnings",
  "  -h, --help               Print help",
  "  -V, --version            Print version"]

/-- The explanation of the subcommand `generate`. -/
def generateHelp : String := textOfLines [
  "Generate resolver type declarations",
  "",
  "Usage: graphql generate [OPTIONS]",
  "",
  "Options:",
  "  -c, --config <FILE>      Path to GraphQL config file",
  "  -o, --output <FILE>      Write to this file instead of the configured output",
  "  -p, --project <PROJECT>  Project name (for multi-project configs)",
  "      --stdout             Print the generated declarations instead of writing a file",
  "      --color              Force colored output even when not a TTY",
  "  -w, --watch              Watch mode - regenerate on schema changes",
  "      --no-color           Disable colored output",
  "  -q, --quiet              Suppress all output except errors and warnings",
  "  -h, --help               Print help"]

/-- The explanation of the subcommand `check` in few words. -/
def checkHelp : String := textOfLines [
  "Verify the generated file on disk is up to date",
  "",
  "Usage: graphql check [OPTIONS]",
  "",
  "Options:",
  "  -c, --config <FILE>      Path to GraphQL config file",
  "  -p, --project <PROJECT>  Project name (for multi-project configs)",
  "      --color              Force colored output even when not a TTY",
  "      --no-color           Disable colored output",
  "  -q, --quiet              Suppress all output except errors and warnings",
  "  -h, --help               Print help (see more with '--help')"]

/-- The explanation of the subcommand `check` in full. -/
def checkLongHelp : String := textOfLines [
  "Verify the generated file on disk is up to date",
  "",
  "Generates in memory and compares with the configured output file. Exits with code 1 when the " ++
    "file is missing or stale. Intended for CI.",
  "",
  "Usage: graphql check [OPTIONS]",
  "",
  "Options:",
  "  -c, --config <FILE>",
  "          Path to GraphQL config file",
  "",
  "  -p, --project <PROJECT>",
  "          Project name (for multi-project configs)",
  "",
  "      --color",
  "          Force colored output even when not a TTY",
  "",
  "      --no-color",
  "          Disable colored output",
  "",
  "  -q, --quiet",
  "          Suppress all output except errors and warnings",
  "",
  "  -h, --help",
  "          Print help (see a summary with '-h')"]

/-- The explanation of the subcommand `help`. -/
def helpHelp : String := textOfLines [
  "Print this message or the help of the given subcommand(s)",
  "",
  "Usage: graphql help [COMMAND]...",
  "",
  "Arguments:",
  "  [COMMAND]...  Print help for the subcommand(s)"]

/-- The explanation of a scope in few words. -/
def Scope.briefText : Scope → String
  | .top => topHelp
  | .generate => generateHelp
  | .check => checkHelp
  | .help => helpHelp

/-- The explanation of a scope in full. -/
def Scope.fullText : Scope → String
  | .check => checkLongHelp
  | scope => scope.briefText

end ResolverTypes.Command
