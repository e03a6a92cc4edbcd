import WorkspaceTools.Json.Printer
import WorkspaceTools.Report.Calendar
import WorkspaceTools.Report.Mail
import WorkspaceTools.Report.Sheets
import WorkspaceTools.Tool.Name

/-!
# Rendering results

`renderResult` turns the result of a tool into text: a report of limited length, or the whole result
as a document where the format is `json` or the tool is unknown.
-/

namespace WorkspaceTools

/-- The report on the result of a tool. -/
def Tool.report : Tool → Json → Shaped String
  | .listMessages => Report.messageList
  | .getMessage => Report.message
  | .listThreads => Report.threadList
  | .getThread => Report.thread
  | .listLabels => Report.labels
  | .createDraft => Report.draft
  | .listAttachments => Report.attachmentList
  | .getAttachment => Report.attachment
  | .listCalendars => Report.calendarList
  | .listEvents => Report.eventList
  | .getEvent => Report.event
  | .queryFreeBusy => Report.freeBusy
  | .getSpreadsheet => Report.spreadsheet
  | .getValues => Report.values
  | .batchGetValues => Report.batchValues
  | .updateValues => Report.update
  | .appendValues => Report.append
  | .createSpreadsheet => Report.createdSpreadsheet
  | .batchUpdate => Report.batchUpdate
  | .clearValues => Report.clear
  | .duplicateSheet => Report.duplicateSheet
  | .createPivotTable => Report.pivotTable

/-- The text of a result. -/
def renderResult (tool : String) (result format : Json) : Shaped String :=
  match Tool.ofName? tool with
  | none => .ok result.pretty
  | some t => if format.isText "json" then .ok result.pretty else (t.report result).map Report.truncate

end WorkspaceTools
