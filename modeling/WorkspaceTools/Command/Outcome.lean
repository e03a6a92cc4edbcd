import WorkspaceTools.Consent.Flow

/-!
# What a command leaves behind

* `Setting` is where a command runs: the variables of its environment, the clock, the lines that are
  typed, and what happens outside while it asks for consent or serves.
* `Outcome` is its end: the exit code, what it wrote to the two outputs, and the folder of tokens.
  `Outcome.saying` and `Outcome.warning` put lines in front of an outcome.
-/

namespace WorkspaceTools.Command

open Text Time Consent

/-- How the server ends. -/
inductive ServerEnd where
  | finished
  | interrupted
  | failed (text : String)
  deriving DecidableEq, Inhabited

/-- Where a command runs. -/
structure Setting where
  /-- The value of a variable of the environment. -/
  environment : String → Option String
  now : DateTime
  /-- The lines that are typed, without their ends. -/
  typed : List String
  /-- Where the file of tokens is. -/
  tokenPath : String
  surroundings : Surroundings
  /-- A text that no other request for consent has. -/
  state : String
  server : ServerEnd

/-- The value of a variable, unless it is empty. -/
def Setting.value? (s : Setting) (name : String) : Option String :=
  (s.environment name).filter (· != "")

/-- How a command ends. -/
structure Outcome where
  exitCode : Nat
  out : String := ""
  err : String := ""
  folder : TokenFolder
  /-- The steps on the way to consent. -/
  steps : List Step := []
  serverStarted : Bool := false
  /-- The command ended because nothing more was typed. -/
  starved : Bool := false

/-- Lines, each with its end. -/
def ended (lines : List String) : String := String.join (lines.map (· ++ "\n"))

namespace Outcome

/-- The outcome after a text was written. -/
def writing (text : String) (o : Outcome) : Outcome := { o with out := text ++ o.out }

/-- The outcome after lines were written. -/
def saying (lines : List String) (o : Outcome) : Outcome := o.writing (ended lines)

/-- The outcome after lines were written to the output for errors. -/
def warning (lines : List String) (o : Outcome) : Outcome := { o with err := ended lines ++ o.err }

/-- A good end. -/
def success (folder : TokenFolder) : Outcome := { exitCode := 0, folder }

/-- A bad end. -/
def failure (folder : TokenFolder) : Outcome := { exitCode := 1, folder }

/-- The end of a command that waits for a line when no more are typed. -/
def starvation (folder : TokenFolder) : Outcome :=
  { exitCode := 1, err := "Aborted!\n", folder, starved := true }

/-! ## Small laws -/

@[simp] theorem exitCode_writing (text : String) (o : Outcome) : (o.writing text).exitCode = o.exitCode := rfl

@[simp] theorem exitCode_saying (lines : List String) (o : Outcome) :
    (o.saying lines).exitCode = o.exitCode := rfl

@[simp] theorem exitCode_warning (lines : List String) (o : Outcome) :
    (o.warning lines).exitCode = o.exitCode := rfl

@[simp] theorem folder_saying (lines : List String) (o : Outcome) :
    (o.saying lines).folder = o.folder := rfl

@[simp] theorem folder_warning (lines : List String) (o : Outcome) :
    (o.warning lines).folder = o.folder := rfl

end Outcome

/-- What to do when there is no usable token. -/
def setupHint : String := "Run '" ++ setupCommand ++ "' to authenticate."

end WorkspaceTools.Command
