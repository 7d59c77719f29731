import ResolverTypes.Command.Help
import ResolverTypes.Command.Similarity
import ResolverTypes.Disk.FilePath

/-!
# Arguments

What the arguments of the command ask for.  Options that all subcommands share may stand before and
behind the subcommand, and of two values the one behind it counts.  The first argument that makes no
sense is reported, with the way to use the command.

## Main definitions

* `Flag`, `Scope.flags` : the options of the command and of each subcommand.
* `UsageError` : why arguments make no sense, with its text `UsageError.message`.
* `Invocation` : a subcommand with its options.
* `Request` : what arguments ask for.
* `readArguments` : the request of a list of arguments.
-/

namespace ResolverTypes.Command

/-! ### Options -/

/-- An option. -/
inductive Flag where
  /-- The path of the configuration. -/
  | config
  /-- The name of the project. -/
  | project
  /-- Colors are used. -/
  | color
  /-- Colors are not used. -/
  | noColor
  /-- Nothing but errors and warnings is shown. -/
  | quiet
  /-- The path of the generated module. -/
  | output
  /-- The generated module is shown and not written. -/
  | stdout
  /-- The module is generated again when the schema changes. -/
  | watch
  /-- The command is explained. -/
  | help
  /-- The version is shown. -/
  | version
deriving DecidableEq, Repr, Inhabited

namespace Flag

/-- The name of an option. -/
def long : Flag → String
  | .config => "config"
  | .project => "project"
  | .color => "color"
  | .noColor => "no-color"
  | .quiet => "quiet"
  | .output => "output"
  | .stdout => "stdout"
  | .watch => "watch"
  | .help => "help"
  | .version => "version"

/-- The letter of an option, if it has one. -/
def short? : Flag → Option Char
  | .config => some 'c'
  | .project => some 'p'
  | .quiet => some 'q'
  | .output => some 'o'
  | .watch => some 'w'
  | .help => some 'h'
  | .version => some 'V'
  | _ => none

/-- What the value of an option is called, if it takes one. -/
def valueName? : Flag → Option String
  | .config => some "FILE"
  | .project => some "PROJECT"
  | .output => some "FILE"
  | _ => none

/-- Whether the value of an option is a path, which is not empty. -/
def takesPath (flag : Flag) : Bool := flag.valueName? == some "FILE"

/-- The options that exclude an option. -/
def opposites : Flag → List Flag
  | .color => [.noColor]
  | .noColor => [.color]
  | .output => [.stdout]
  | .stdout => [.output]
  | _ => []

/-- How an option is written. -/
def usage (flag : Flag) : String :=
  "--" ++ flag.long ++
    match flag.valueName? with
    | some name => " <" ++ name ++ ">"
    | none => ""

end Flag

/-- The options that all subcommands share. -/
def sharedFlags : List Flag := [.config, .project, .color, .noColor, .quiet]

/-- The options that may stand in a scope. -/
def Scope.flags : Scope → List Flag
  | .top => sharedFlags ++ [.help, .version]
  | .generate => [.output, .stdout, .watch] ++ sharedFlags ++ [.help]
  | .check => sharedFlags ++ [.help]
  | .help => []

/-- The options that a scope declares together; those that all subcommands share belong to the
command. -/
def Scope.ownFlags : Scope → List Flag
  | .top => sharedFlags
  | .generate => [.output, .stdout, .watch]
  | .check | .help => []

/-! ### Errors -/

/-- Advice on an argument that makes no sense. -/
inductive Tip where
  /-- An option is written in a similar way. -/
  | similarFlag (flag : Flag)
  /-- A subcommand has an option that is written in a similar way. -/
  | subcommandFlag (subcommand : String) (flag : Flag)
  /-- Subcommands are written in a similar way. -/
  | similarSubcommands (names : List String)
  /-- A subcommand stands behind a double dash. -/
  | doubleDash (subcommand : String)
deriving DecidableEq, Repr, Inhabited

/-- A text between single quotes. -/
def inQuotes (text : String) : String := "'" ++ text ++ "'"

/-- The text of advice. -/
def Tip.message : Tip → String
  | .similarFlag flag => "a similar argument exists: " ++ inQuotes ("--" ++ flag.long)
  | .subcommandFlag subcommand flag =>
      inQuotes (subcommand ++ " --" ++ flag.long) ++ " exists"
  | .similarSubcommands [name] => "a similar subcommand exists: " ++ inQuotes name
  | .similarSubcommands names =>
      "some similar subcommands exist: " ++ ", ".intercalate (names.map inQuotes)
  | .doubleDash subcommand =>
      "subcommand " ++ inQuotes subcommand ++ " exists; to use it, remove the '--' before it"

/-- What is wrong with arguments. -/
inductive UsageProblem where
  /-- An argument has no meaning. -/
  | unknownArgument (argument : String) (tip : Option Tip)
  /-- A subcommand does not exist. -/
  | unknownSubcommand (name : String) (tip : Option Tip)
  /-- Two options exclude each other. -/
  | conflict (flag other : Flag)
  /-- An option stands twice. -/
  | repeated (flag : Flag)
  /-- An option lacks its value. -/
  | missingValue (flag : Flag)
  /-- An option takes no value. -/
  | unexpectedValue (flag : Flag) (value : String)
  /-- No subcommand is given. -/
  | missingSubcommand
deriving DecidableEq, Repr, Inhabited

/-- Why arguments make no sense. -/
structure UsageError where
  /-- The scope in which the problem is found. -/
  scope : Scope
  /-- What is wrong. -/
  problem : UsageProblem
  /-- The options that are shown in the way to use the scope; without any, all are meant. -/
  used : List Flag := []
  /-- Further options, shown as a choice. -/
  choice : List Flag := []
deriving DecidableEq, Repr, Inhabited

/-- The way to use a scope, with some options and a choice of others, or with any. -/
def Scope.usage (scope : Scope) (used choice : List Flag) : String :=
  let any := if scope = .help then "[COMMAND]..." else "[OPTIONS]"
  let chosen :=
    if choice.isEmpty then [] else ["<" ++ "|".intercalate (choice.map Flag.usage) ++ ">"]
  let options := if used.isEmpty && choice.isEmpty then [any] else used.map Flag.usage ++ chosen
  let subcommand := if scope = .top then ["<COMMAND>"] else []
  "Usage: " ++ " ".intercalate ([scope.path] ++ options ++ subcommand)

/-- The text of a problem. -/
def UsageProblem.message : UsageProblem → String
  | .unknownArgument argument _ => "unexpected argument " ++ inQuotes argument ++ " found"
  | .unknownSubcommand name _ => "unrecognized subcommand " ++ inQuotes name
  | .conflict flag other =>
      "the argument " ++ inQuotes flag.usage ++ " cannot be used with " ++ inQuotes other.usage
  | .repeated flag => "the argument " ++ inQuotes flag.usage ++ " cannot be used multiple times"
  | .missingValue flag =>
      "a value is required for " ++ inQuotes flag.usage ++ " but none was supplied"
  | .unexpectedValue flag value =>
      "unexpected value " ++ inQuotes value ++ " for " ++ inQuotes flag.usage ++
        " found; no more were expected"
  | .missingSubcommand =>
      "'graphql' requires a subcommand but one was not provided\n  [subcommands: " ++
        ", ".intercalate subcommandNames ++ "]"

/-- The advice on a problem, if there is any. -/
def UsageProblem.tip? : UsageProblem → Option Tip
  | .unknownArgument _ tip => tip
  | .unknownSubcommand _ tip => tip
  | _ => none

/-- The text of the error. -/
def UsageError.message (error : UsageError) : String :=
  "error: " ++ error.problem.message ++ "\n" ++
    (match error.problem.tip? with
      | some tip => "\n  tip: " ++ tip.message ++ "\n"
      | none => "") ++
    (match error.problem with
      | .missingValue _ => ""
      | _ => "\n" ++ error.scope.usage error.used error.choice ++ "\n") ++
    (if error.scope = .help then "" else "\nFor more information, try '--help'.\n")

/-! ### Requests -/

/-- The options of a subcommand. -/
structure CommonOptions where
  /-- The path of the configuration, if one is given. -/
  config : Option FilePath := none
  /-- The name of the project, if one is given. -/
  project : Option String := none
  /-- Whether colors are asked for. -/
  color : Bool := false
  /-- Whether colors are refused. -/
  noColor : Bool := false
  /-- Whether nothing but errors and warnings is shown. -/
  quiet : Bool := false
deriving DecidableEq, Repr, Inhabited

/-- A subcommand with its own options. -/
inductive Subcommand where
  /-- Writes the generated module to a path, or shows it. -/
  | generate (output : Option FilePath) (stdout watch : Bool)
  /-- Compares the generated module with the file on disk. -/
  | check
deriving DecidableEq, Repr, Inhabited

/-- A subcommand with its options. -/
structure Invocation where
  /-- The options that all subcommands share. -/
  common : CommonOptions
  /-- The subcommand. -/
  subcommand : Subcommand
deriving DecidableEq, Repr, Inhabited

/-- What arguments ask for. -/
inductive Request where
  /-- A subcommand. -/
  | run (invocation : Invocation)
  /-- A text. -/
  | inform (text : String)
  /-- An explanation, since nothing is given. -/
  | explain (text : String)
  /-- Nothing that makes sense. -/
  | refuse (error : UsageError)
deriving DecidableEq, Repr, Inhabited

/-! ### Reading -/

/-- Why reading arguments comes to an end. -/
inductive Interruption where
  /-- An option or a subcommand asks for a text. -/
  | inform (text : String)
  /-- Something makes no sense. -/
  | refuse (error : UsageError)
deriving DecidableEq, Repr, Inhabited

/-- The options of a scope that have been read. -/
structure ReadOptions where
  /-- The options with their values, in the order in which they are read. -/
  found : List (Flag × String) := []
  /-- An option that takes a value, with the value if it has been read. -/
  pending : Option (Flag × Option String) := none
deriving DecidableEq, Repr, Inhabited

namespace ReadOptions

/-- The options that have been read. -/
def flags (read : ReadOptions) : List Flag := read.found.map (·.1)

/-- Whether an option has been read. -/
def has (read : ReadOptions) (flag : Flag) : Bool := read.flags.contains flag

/-- The options that have been read, and one more. -/
def flagsWith (read : ReadOptions) (flag : Flag) : List Flag :=
  if read.has flag then read.flags else read.flags ++ [flag]

/-- The value of an option that has been read. -/
def value? (read : ReadOptions) (flag : Flag) : Option String := read.found.lookup flag

/-- Reads an option with its value. -/
def add (read : ReadOptions) (scope : Scope) (flag : Flag) (value : String) :
    Except Interruption ReadOptions :=
  if read.has flag then .error (.refuse { scope, problem := .repeated flag })
  else if flag.takesPath && value.isEmpty then
    .error (.refuse { scope, problem := .missingValue flag })
  else .ok { read with found := read.found ++ [(flag, value)] }

/-- Settles the option that takes a value. -/
def settle (read : ReadOptions) (scope : Scope) : Except Interruption ReadOptions :=
  match read.pending with
  | none => .ok read
  | some (flag, none) => .error (.refuse { scope, problem := .missingValue flag })
  | some (flag, some value) => { read with pending := none }.add scope flag value

/-- Settles the option that takes a value, whether or not that makes sense: an option that stands
twice does not count any more. -/
def settleAnyhow (read : ReadOptions) : ReadOptions :=
  match read.pending with
  | some (flag, some value) =>
      if read.has flag then { read with found := read.found.filter (·.1 != flag) }
      else { read with found := read.found ++ [(flag, value)] }
  | _ => read

/-- An error of a value that an option does not take, after these options. -/
def unexpectedValue (read : ReadOptions) (scope : Scope) (flag : Flag) (value : String) :
    UsageError :=
  let used := read.flagsWith flag
  let problem := .unexpectedValue flag value
  if read.flags.any scope.ownFlags.contains then
    { scope, problem, used := used.filter (!scope.ownFlags.contains ·), choice := scope.ownFlags }
  else { scope, problem, used }

end ReadOptions

/-- The option of a scope that is most similar to a misspelt one. -/
def similarFlag? (flags : List Flag) (name : String) : Option Flag :=
  (similarWords name (flags.map Flag.long)).getLast?.bind fun word =>
    flags.find? fun flag => flag.long == word

/-- The advice on an unknown option of a scope, given the arguments behind it. -/
def flagTip? (scope : Scope) (name : String) (rest : List String) : Option Tip :=
  match similarFlag? scope.flags name with
  | some flag => some (.similarFlag flag)
  | none =>
      if scope = .top then
        rest.findSome? fun word =>
          match subcommand? word with
          | some subcommand =>
              (similarFlag? subcommand.flags name).map (Tip.subcommandFlag word)
          | none => none
      else none

/-- Reads an option by its name, perhaps with a value. -/
def readLong (scope : Scope) (read : ReadOptions) (name : String) (value? : Option String)
    (rest : List String) : Except Interruption ReadOptions := do
  match scope.flags.find? fun flag => flag.long == name with
  | none =>
      let read := read.settleAnyhow
      let tip := flagTip? scope name rest
      let used :=
        match tip with
        | some (.similarFlag flag) => read.flagsWith flag
        | _ => read.flags
      throw (.refuse { scope, problem := .unknownArgument ("--" ++ name) tip, used })
  | some flag =>
      match flag.valueName?, value? with
      | none, some value => throw (.refuse (read.unexpectedValue scope flag value))
      | none, none =>
          let read ← read.settle scope
          if flag = .help then throw (.inform scope.fullText)
          if flag = .version then throw (.inform versionText)
          read.add scope flag ""
      | some _, some value => (← read.settle scope).add scope flag value
      | some _, none => return { ← read.settle scope with pending := some (flag, none) }

/-- Reads options by their letters; the characters behind a letter whose option takes a value are
that value. -/
def readShort (scope : Scope) : ReadOptions → List Char → Except Interruption ReadOptions
  | read, [] => .ok read
  | read, c :: rest =>
      match scope.flags.find? fun flag => flag.short? == some c with
      | none =>
          .error (.refuse { scope, problem := .unknownArgument ("-" ++ c.toString) none })
      | some flag => do
          let read ← read.settle scope
          if flag = .help then throw (.inform scope.briefText)
          if flag = .version then throw (.inform versionText)
          if flag.valueName?.isNone then readShort scope (← read.add scope flag "") rest
          else
            match rest with
            | [] => return { read with pending := some (flag, none) }
            | '=' :: value => read.add scope flag (String.ofList value)
            | value => read.add scope flag (String.ofList value)

/-- The error of an argument that is neither an option nor a subcommand. -/
def strayArgument (scope : Scope) (argument : String) (isTrailing : Bool) : UsageError :=
  if scope = .top then
    if isTrailing && subcommandNames.contains argument then
      { scope, problem := .unknownArgument argument (some (.doubleDash argument)) }
    else
      let similar := similarWords argument subcommandNames
      let tip := if similar.isEmpty then none else some (.similarSubcommands similar)
      { scope, problem := .unknownSubcommand argument tip }
  else { scope, problem := .unknownArgument argument none }

/-- The text that the words behind the subcommand `help` ask for. -/
def explainWords (scope : Scope) : List String → Interruption
  | [] => .inform scope.fullText
  | word :: rest =>
      match if scope = .top then subcommand? word else none with
      | some subcommand => explainWords subcommand rest
      | none => .refuse { scope, problem := .unknownSubcommand word none }

/-- The name and the value of an argument that starts with two dashes. -/
def splitLong (chars : List Char) : String × Option String :=
  let name := chars.takeWhile (· != '=')
  match chars.drop name.length with
  | [] => (String.ofList name, none)
  | _ :: value => (String.ofList name, some (String.ofList value))

/-- Reads the arguments of a scope up to a subcommand, which is given with the arguments behind it.
Behind a double dash nothing is an option. -/
def readScope (scope : Scope) (isTrailing : Bool) :
    ReadOptions → List String → Except Interruption (ReadOptions × Option (Scope × List String))
  | read, [] => do return (← read.settle scope, none)
  | read, argument :: rest => do
      let awaits := (read.pending.map fun p => p.2.isNone).getD false
      if isTrailing then throw (.refuse (strayArgument scope argument true))
      if scope = .top && !awaits then
        match subcommand? argument with
        | some .help => throw (explainWords .top rest)
        | some subcommand => return (← read.settle scope, some (subcommand, rest))
        | none => pure ()
      match argument.toList with
      | ['-', '-'] => readScope scope true read rest
      | '-' :: '-' :: chars =>
          let (name, value?) := splitLong chars
          readScope scope false (← readLong scope read name value? rest) rest
      | '-' :: c :: chars => readScope scope false (← readShort scope read (c :: chars)) rest
      | _ =>
          match read.pending with
          | some (flag, none) =>
              readScope scope false { read with pending := some (flag, some argument) } rest
          | _ => throw (.refuse (strayArgument scope argument false))

/-- The first two options that exclude each other, as an error. -/
def conflict? (scope : Scope) (read : ReadOptions) : Option UsageError :=
  read.flags.findSome? fun flag =>
    (flag.opposites.find? read.has).map fun other =>
      { scope, problem := .conflict flag other, used := read.flags.filter (· != other) }

/-- Checks that no two options exclude each other. -/
def checkConflicts (scope : Scope) (read : ReadOptions) : Except Interruption Unit :=
  match conflict? scope read with
  | some error => .error (.refuse error)
  | none => .ok ()

/-- The shared options, given those read before and behind a subcommand. -/
def commonOptions (before behind : ReadOptions) : CommonOptions where
  config := (behind.value? .config).or (before.value? .config)
  project := (behind.value? .project).or (before.value? .project)
  color := behind.has .color || before.has .color
  noColor := behind.has .noColor || before.has .noColor
  quiet := behind.has .quiet || before.has .quiet

/-- Reads the arguments behind a subcommand. -/
def readSubcommand (scope : Scope) (arguments : List String) :
    Except Interruption ReadOptions := do
  let (read, _) ← readScope scope false {} arguments
  checkConflicts scope read
  return read

/-- Reads all arguments; there is no invocation where none are given. -/
def readInvocation (arguments : List String) : Except Interruption (Option Invocation) := do
  let (before, subcommand) ← readScope .top false {} arguments
  match subcommand with
  | none =>
      if before.found.isEmpty then return none
      throw (.refuse { scope := .top, problem := .missingSubcommand })
  | some (scope, rest) =>
      let behind ← readSubcommand scope rest
      checkConflicts .top before
      let own : Subcommand :=
        if scope = .generate then
          .generate (behind.value? .output) (behind.has .stdout) (behind.has .watch)
        else .check
      return some { common := commonOptions before behind, subcommand := own }

/-- The request of a list of arguments. -/
def readArguments (arguments : List String) : Request :=
  match readInvocation arguments with
  | .ok (some invocation) => .run invocation
  | .ok none => .explain topHelp
  | .error (.inform text) => .inform text
  | .error (.refuse error) => .refuse error

end ResolverTypes.Command
