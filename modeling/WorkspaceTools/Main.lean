import Std.Time.DateTime.Timestamp
import WorkspaceTools.Command.Run

/-!
# The program

`main` runs the program with the arguments of its command line: it reads the environment, the clock and
the file of tokens, and writes what the outcome says. The services that keep accounts, mail, calendars
and sheets are out of its reach, so that asking for consent and serving end without a result.
-/

namespace WorkspaceTools.Command

open Text Time

/-- The present time. -/
def presentTime : IO DateTime := do
  let micros := (← Std.Time.Timestamp.now).toNanosecondsSinceUnixEpoch.val / 1000
  return (DateTime.ofInstant? (unixEpoch + micros)).getD default

/-- The variables of the environment that the program looks at. -/
def readEnvironment : IO (String → Option String) := do
  let clientId ← IO.getEnv clientIdVariable
  let clientSecret ← IO.getEnv clientSecretVariable
  let callback ← IO.getEnv callbackVariable
  return fun name =>
    if name = clientIdVariable then clientId
    else if name = clientSecretVariable then clientSecret
    else if name = callbackVariable then callback
    else none

/-- A text that no other request for consent has. -/
def freshState : IO String := do
  return String.ofList (base64Url (← IO.getRandomBytes 32).toList)

/-- The folder of tokens below the present directory. -/
def folderName : String := ".workspace-agent-mcp"

/-- The file of tokens. -/
def fileName : String := folderName ++ "/tokens.json"

/-- The folder as it is. -/
def readFolder : IO TokenFolder := do
  try
    let bytes ← IO.FS.readBinFile fileName
    return { file := some ⟨bytes.toList, false⟩ }
  catch _ => return {}

/-- The owner may read and write, and enter if it is a folder. -/
def ownerRights (enter : Bool) : IO.FileRight :=
  { user := { read := true, write := true, execution := enter } }

/-- Writes the file of tokens for its owner alone. -/
def writeFolder (folder : TokenFolder) : IO Unit := do
  match folder.file with
  | none => return
  | some file =>
    IO.FS.createDirAll folderName
    IO.setAccessRights folderName (ownerRights true)
    IO.FS.writeBinFile fileName (ByteArray.mk file.bytes.toArray)
    IO.setAccessRights fileName (ownerRights false)

/-- What happens outside when nothing outside can be reached. -/
def noSurroundings : Consent.Surroundings :=
  { pageFor := fun _ => Consent.consentAddress
    arrival := none
    exchange := fun _ => .error "The service that keeps the accounts cannot be reached." }

/-- Runs the program, and once more with each line for which it waits. `seen` counts the characters of
its output that are shown already. -/
partial def converse (args : List String) (setting : Setting) (folder : TokenFolder) (seen : Nat) :
    IO UInt32 := do
  let stdout ← IO.getStdout
  let outcome := runArguments setting folder args
  stdout.putStr (String.ofList (outcome.out.toList.drop seen))
  stdout.flush
  if outcome.starved then
    let line ← (← IO.getStdin).getLine
    if !line.isEmpty then
      let text := String.ofList (trimEndBy (fun c => c == '\n' || c == '\r') line.toList)
      let setting := { setting with typed := setting.typed ++ [text] }
      return ← converse args setting folder (outcome.out.length + text.length + 1)
  (← IO.getStderr).putStr outcome.err
  if outcome.folder.file ≠ folder.file then writeFolder outcome.folder
  return UInt32.ofNat outcome.exitCode

/-- Runs the program in the present directory. -/
def start (args : List String) : IO UInt32 := do
  let setting : Setting :=
    { environment := ← readEnvironment
      now := ← presentTime
      typed := []
      tokenPath := (← IO.currentDir).toString ++ "/" ++ fileName
      surroundings := noSurroundings
      state := ← freshState
      server := .failed "The services cannot be reached." }
  converse args setting (← readFolder) 0

end WorkspaceTools.Command

/-- Runs the program. -/
def main (args : List String) : IO UInt32 := WorkspaceTools.Command.start args
