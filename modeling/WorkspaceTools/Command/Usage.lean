import WorkspaceTools.Command.Version
import WorkspaceTools.Grid.Range
import WorkspaceTools.Text.Likeness

/-!
# The command line

* `Level` is the program or one of its commands: its options, its help, and the line that shows its use.
* `Invocation.read` says what a list of arguments asks for, or refuses it; `Refusal.text` is what
  the user is told then.
* Options stand in front of the command that they do not belong to. An option takes its value from behind
  an equals sign, or else from the next argument, and after `--` nothing is an option.
-/

namespace WorkspaceTools.Command

open Text

/-- The name of the program. -/
def programName : String := "workspace-agent"

/-- The commands. -/
inductive Subcommand where
  | doctor | mcp | setup
  deriving DecidableEq, Inhabited

namespace Subcommand

/-- All commands by name. -/
def all : List Subcommand := [.doctor, .mcp, .setup]

/-- The name of a command. -/
def name : Subcommand → String
  | .doctor => "doctor"
  | .mcp => "mcp"
  | .setup => "setup"

/-- What a command does, in one line. -/
def summary : Subcommand → String
  | .doctor => "Check installation and authentication status."
  | .mcp => "Start the MCP server on stdio."
  | .setup => "Authorize access to Gmail, Calendar and Sheets."

/-- What there is to say of a command besides. -/
def details : Subcommand → List String
  | .doctor => []
  | .mcp => [
    "",
    "Authentication is required before starting the server. This command is",
    "normally launched by an MCP client rather than by hand."]
  | .setup => [
    "",
    "Opens the browser for Google consent and stores the resulting tokens at",
    "./.workspace-agent-mcp/tokens.json.",
    "",
    "Requires: - GOOGLE_OAUTH_CLIENT_ID environment variable or --client-id option",
    "- GOOGLE_OAUTH_CLIENT_SECRET environment variable or --client-secret option"]

/-- The command of a name. -/
def ofName? (s : String) : Option Subcommand := all.find? fun c => c.name == s

end Subcommand

/-- An option. -/
structure Flag where
  name : String
  /-- What stands for its value in the help, if it has one. -/
  value : Option String := none
  help : String

/-- The option that shows the help. -/
def helpFlag : Flag := { name := "--help", help := "Show this message and exit." }

/-- The option that shows the version. -/
def versionFlag : Flag := { name := "--version", help := "Show the version and exit." }

/-- The option for the id of the client. -/
def clientIdFlag : Flag :=
  { name := "--client-id", value := some "TEXT", help := "Google OAuth client ID" }

/-- The option for the secret of the client. -/
def clientSecretFlag : Flag :=
  { name := "--client-secret", value := some "TEXT", help := "Google OAuth client secret" }

/-- The program or one of its commands. -/
inductive Level where
  | program
  | command (c : Subcommand)
  deriving DecidableEq, Inhabited

namespace Level

/-- The words that lead to a level. -/
def path : Level → String
  | .program => programName
  | .command c => programName ++ " " ++ c.name

/-- What follows those words. -/
def synopsis : Level → String
  | .program => "[OPTIONS] COMMAND [ARGS]..."
  | .command _ => "[OPTIONS]"

/-- The options of a level. -/
def flags : Level → List Flag
  | .program => [versionFlag, helpFlag]
  | .command .setup => [clientIdFlag, clientSecretFlag, helpFlag]
  | .command _ => [helpFlag]

/-- What a level is for. -/
def about : Level → List String
  | .program => [
    "Workspace Agent MCP Server - Gmail, Calendar and Sheets for agents.",
    "",
    "Tools provided: - Gmail (read messages and threads, labels, attachments,",
    "drafts) - Calendar (calendars, events, free/busy) - Sheets (values,",
    "spreadsheets, pivot tables)"]
  | .command c => c.summary :: c.details

/-- The line that shows the use of a level. -/
def usage (l : Level) : String := "Usage: " ++ l.path ++ " " ++ l.synopsis

end Level

/-! ## Help -/

/-- Two blanks in front of a line that is not empty. -/
def indented (line : String) : String := if line = "" then "" else "  " ++ line

/-- Pairs in two columns. -/
def columns (rows : List (String × String)) : List String :=
  let width := (rows.map fun r => r.1.length).foldl Nat.max 0
  rows.map fun r => "  " ++ r.1 ++ String.ofList (List.replicate (width - r.1.length + 2) ' ') ++ r.2

/-- An option as the help shows it. -/
def Flag.shown (f : Flag) : String :=
  match f.value with
  | some value => f.name ++ " " ++ value
  | none => f.name

/-- The list of commands in the help of the program. -/
def Level.commandLines : Level → List String
  | .program => "" :: "Commands:" :: columns (Subcommand.all.map fun c => (c.name, c.summary))
  | .command _ => []

/-- The help of a level. -/
def Level.help (l : Level) : String :=
  "\n".intercalate (l.usage :: "" :: l.about.map indented ++ "" :: "Options:"
    :: columns (l.flags.map fun f => (f.shown, f.help)) ++ l.commandLines) ++ "\n"

/-! ## Refusals -/

/-- Why a list of arguments is refused. -/
inductive Refusal where
  | noSuchOption (level : Level) (name : String)
  /-- An option of one hyphen; there are none. -/
  | noShortOption (level : Level) (name : String)
  | noSuchCommand (name : String)
  /-- Options, but no command. -/
  | missingCommand
  /-- No argument at all. -/
  | nothingAsked
  | unexpected (command : Subcommand) (args : List String)
  | valueMissing (name : String)
  | valueNotTaken (name : String)
  deriving DecidableEq, Inhabited

/-- Names that are like another one, in the order of their characters. -/
def similarNames (names : List String) (name : String) : List String :=
  (names.filter fun n => isLike n.toList name.toList).mergeSort

/-- A question whether one of several names was meant. -/
def suggestion : List String → String
  | [] => ""
  | [name] => " Did you mean " ++ quoted name ++ "?"
  | names => " (Did you mean one of: " ++ ", ".intercalate (names.map quoted) ++ "?)"

namespace Refusal

/-- The level whose use is shown with a refusal. -/
def level? : Refusal → Option Level
  | .noSuchOption level _ => some level
  | .noShortOption level _ => some level
  | .noSuchCommand _ => some .program
  | .missingCommand => some .program
  | .unexpected command _ => some (.command command)
  | .nothingAsked => none
  | .valueMissing _ => none
  | .valueNotTaken _ => none

/-- The wording of a refusal. -/
def message : Refusal → String
  | .noSuchOption level name =>
    "No such option " ++ quoted name ++ "." ++ suggestion (similarNames (level.flags.map Flag.name) name)
  | .noShortOption _ name => "No such option " ++ quoted name ++ "."
  | .noSuchCommand name =>
    "No such command " ++ quoted name ++ "." ++ suggestion (similarNames (Subcommand.all.map Subcommand.name) name)
  | .missingCommand => "Missing command."
  | .nothingAsked => ""
  | .unexpected _ args =>
    "Got unexpected extra argument" ++ (if args.length = 1 then "" else "s") ++ " ("
      ++ " ".intercalate args ++ ")"
  | .valueMissing name => "Option " ++ quoted name ++ " requires an argument."
  | .valueNotTaken name => "Option " ++ quoted name ++ " does not take a value."

/-- What the user is told. -/
def text (r : Refusal) : String :=
  match r with
  | .nothingAsked => Level.program.help
  | r =>
    (match r.level? with
      | some level => level.usage ++ "\nTry '" ++ level.path ++ " --help' for help.\n\n"
      | none => "")
      ++ "Error: " ++ r.message ++ "\n"

end Refusal

/-! ## Reading arguments -/

/-- Options in the order in which they are given, with their values or with empty ones, and the other
arguments. -/
structure Given where
  options : List (String × String) := []
  rest : List String := []
  deriving DecidableEq, Inhabited

namespace Given

/-- One more option in front. -/
def addOption (name value : String) (g : Given) : Given := { g with options := (name, value) :: g.options }

/-- One more argument in front. -/
def addArgument (arg : String) (g : Given) : Given := { g with rest := arg :: g.rest }

/-- The last value that is given to an option. -/
def value? (flag : Flag) (g : Given) : Option String :=
  (g.options.reverse.find? fun o => o.1 == flag.name).map Prod.snd

/-- The first of some options that is given. -/
def first? (flags : List Flag) (g : Given) : Option String :=
  (g.options.find? fun o => flags.any fun f => f.name == o.1).map Prod.fst

end Given

/-- A hyphen and something more. -/
def isOption (arg : String) : Bool :=
  match arg.toList with
  | '-' :: _ :: _ => true
  | _ => false

/-- The name of an option, and the value behind an equals sign. -/
def splitOption (arg : String) : String × Option String :=
  let (name, value) := cutAt '=' arg.toList
  (String.ofList name, value.map String.ofList)

/-- The refusal of an argument that names no option. -/
def unknownOption (level : Level) (arg : String) : Refusal :=
  match arg.toList with
  | '-' :: '-' :: _ => .noSuchOption level (splitOption arg).1
  | '-' :: c :: _ => .noShortOption level (String.ofList ['-', c])
  | _ => .noSuchOption level arg

/-- The options and the other arguments of a level. For the program, the first argument that is no option
ends the options. -/
def Given.read (level : Level) : List String → Except Refusal Given
  | [] => .ok {}
  | arg :: rest =>
    if arg = "--" then .ok { rest }
    else if !isOption arg then
      if level = .program then .ok { rest := arg :: rest }
      else (Given.read level rest).map (·.addArgument arg)
    else
      let (name, explicit) := splitOption arg
      match level.flags.find? fun f => f.name == name with
      | none => .error (unknownOption level arg)
      | some flag =>
        match flag.value, explicit with
        | none, none => (Given.read level rest).map (·.addOption name "")
        | none, some _ => .error (.valueNotTaken name)
        | some _, some value => (Given.read level rest).map (·.addOption name value)
        | some _, none =>
          match rest with
          | [] => .error (.valueMissing name)
          | value :: rest => (Given.read level rest).map (·.addOption name value)

/-- What a list of arguments asks for. -/
inductive Invocation where
  | showVersion
  | showHelp (level : Level)
  | doctor
  | mcp
  | setup (clientId clientSecret : Option String)
  deriving DecidableEq, Inhabited

namespace Invocation

/-- A command with its options. -/
def ofGiven (given : Given) : Subcommand → Invocation
  | .doctor => .doctor
  | .mcp => .mcp
  | .setup => .setup (given.value? clientIdFlag) (given.value? clientSecretFlag)

/-- What the arguments after a command ask for. -/
def readCommand (c : Subcommand) (args : List String) : Except Refusal Invocation := do
  let given ← Given.read (.command c) args
  if (given.first? [helpFlag]).isSome then return .showHelp (.command c)
  else if !given.rest.isEmpty then throw (.unexpected c given.rest)
  else return ofGiven given c

/-- What the program is to show of itself, if an option asks for it. -/
def shown? (given : Given) : Option Invocation :=
  (given.first? [versionFlag, helpFlag]).map fun name =>
    if name = versionFlag.name then .showVersion else .showHelp .program

/-- What a list of arguments asks for. An argument in the place of a command that names none may still be
an option of the program: it and those after it are then read once more. -/
def read (args : List String) : Except Refusal Invocation := do
  if args.isEmpty then throw .nothingAsked
  let given ← Given.read .program args
  match shown? given, given.rest with
  | some invocation, _ => return invocation
  | none, [] => throw .missingCommand
  | none, name :: rest =>
    match Subcommand.ofName? name with
    | some c => readCommand c rest
    | none =>
      match shown? (← Given.read .program (name :: rest)) with
      | some invocation => return invocation
      | none => throw (.noSuchCommand name)

end Invocation

end WorkspaceTools.Command
