import WorkspaceTools.Exchange.Session
import WorkspaceTools.Report.Render
import WorkspaceTools.Tool.Calendar
import WorkspaceTools.Tool.Sheets

/-!
# Calling tools

* `Tool.program` is what a tool does with its arguments.
* `Session.call` runs a tool by its name and gives the text for the user: the rendered result, or what
  went wrong.
-/

namespace WorkspaceTools

open Text

/-- What a tool does with its arguments. -/
def Tool.program (tool : Tool) (args : Members) : Program Json :=
  match tool with
  | .listMessages => runListMessages (.obj args)
  | .getMessage => runGetMessage (.obj args)
  | .listThreads => runListThreads (.obj args)
  | .getThread => runGetThread (.obj args)
  | .listLabels => runListLabels
  | .createDraft => runCreateDraft (.obj args)
  | .listAttachments => runListAttachments (.obj args)
  | .getAttachment => runGetAttachment (.obj args)
  | .listCalendars => runListCalendars
  | .listEvents => runListEvents (.obj args)
  | .getEvent => runGetEvent (.obj args)
  | .queryFreeBusy => runQueryFreeBusy (.obj args)
  | .getSpreadsheet => runGetSpreadsheet (.obj args)
  | .getValues => runGetValues (.obj args)
  | .batchGetValues => runBatchGetValues (.obj args)
  | .updateValues => runUpdateValues (.obj args)
  | .appendValues => runAppendValues (.obj args)
  | .createSpreadsheet => runCreateSpreadsheet (.obj args)
  | .batchUpdate => runBatchUpdate (.obj args)
  | .clearValues => runClearValues (.obj args)
  | .duplicateSheet => runDuplicateSheet (.obj args)
  | .createPivotTable => runCreatePivotTable args

/-- What the tool of a name does with its arguments. -/
def dispatch (name : String) (args : Members) : Program Json :=
  match Tool.ofName? name with
  | some tool => tool.program args
  | none => .fail (.unknownTool name)

/-- The format that a call asks for. -/
def responseFormat (args : Members) : Json := (args.find? "response_format").getD (.str "markdown")

/-- The text of the outcome of a call. -/
def answerText (name : String) (args : Members) (outcome : Except Fault Json) : Shaped String :=
  match outcome with
  | .error fault => fault.describe
  | .ok result =>
    match renderResult name result (responseFormat args) with
    | .ok text => .ok text
    | .error fault => (Fault.shape fault).describe

/-- The text for the user of a call of a tool, and the session after it. -/
def Session.call (name : String) (args : Members) (s : Session) : Shaped String × Session :=
  let (outcome, s) := (dispatch name args).run s
  (answerText name args outcome, s)

end WorkspaceTools
