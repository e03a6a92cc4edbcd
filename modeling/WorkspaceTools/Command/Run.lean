import WorkspaceTools.Command.Doctor
import WorkspaceTools.Command.Setup
import WorkspaceTools.Command.Usage

/-!
# Running the program

`runArguments` is the outcome of the program for a list of arguments: `Invocation.read` tells what they
ask for, and `Invocation.run` does it.
-/

namespace WorkspaceTools.Command

/-- The line with which the server starts; the other output belongs to the exchange with its client. -/
def startLine : String := "Starting Workspace Agent MCP server..."

/-- The outcome of the server. -/
def serve (s : Setting) (folder : TokenFolder) : Outcome :=
  let ending :=
    match s.server with
    | .finished => Outcome.success folder
    | .interrupted => Outcome.warning ["", "Server stopped."] (.success folder)
    | .failed text => Outcome.warning ["❌ Server error: " ++ text] (.failure folder)
  { ending.warning [startLine] with serverStarted := true }

/-- Starts the server if a token is stored. -/
def mcp (s : Setting) (folder : TokenFolder) : Outcome :=
  match folder.status serviceName s.now with
  | .error _ => .failure folder
  | .ok .missing => Outcome.warning ["❌ Not authenticated. " ++ setupHint] (.failure folder)
  | .ok .invalid => Outcome.warning ["❌ Token file corrupted. " ++ setupHint] (.failure folder)
  | .ok _ => serve s folder

/-- The outcome of what is asked for. -/
def Invocation.run (s : Setting) (folder : TokenFolder) : Invocation → Outcome
  | .showVersion =>
    Outcome.saying [programName ++ ", version " ++ version] (.success folder)
  | .showHelp level => Outcome.writing level.help (.success folder)
  | .doctor => Command.doctor s folder.opened
  | .mcp => Command.mcp s folder.opened
  | .setup clientId clientSecret => Command.setup s clientId clientSecret folder.opened

/-- The outcome of the program for a list of arguments. -/
def runArguments (s : Setting) (folder : TokenFolder) (args : List String) : Outcome :=
  match Invocation.read args with
  | .error refusal => { exitCode := 2, err := refusal.text, folder }
  | .ok invocation => invocation.run s folder

end WorkspaceTools.Command
