/-!
# Tools

`Tool` lists the tools in the order in which they are offered; `Tool.name` is the name of each, and
`Tool.ofName?` finds a tool by its name.
-/

namespace WorkspaceTools

/-- The tools. -/
inductive Tool where
  | listMessages | getMessage | listThreads | getThread | listLabels | createDraft
  | listAttachments | getAttachment
  | listCalendars | listEvents | getEvent | queryFreeBusy
  | getSpreadsheet | getValues | batchGetValues | updateValues | appendValues | createSpreadsheet
  | batchUpdate | clearValues | duplicateSheet | createPivotTable
  deriving DecidableEq, Inhabited

namespace Tool

/-- All tools in the order in which they are offered. -/
def all : List Tool := [
  .listMessages, .getMessage, .listThreads, .getThread, .listLabels, .createDraft,
  .listAttachments, .getAttachment,
  .listCalendars, .listEvents, .getEvent, .queryFreeBusy,
  .getSpreadsheet, .getValues, .batchGetValues, .updateValues, .appendValues, .createSpreadsheet,
  .batchUpdate, .clearValues, .duplicateSheet, .createPivotTable]

/-- The name of a tool. -/
def name : Tool → String
  | listMessages => "gmail_list_messages"
  | getMessage => "gmail_get_message"
  | listThreads => "gmail_list_threads"
  | getThread => "gmail_get_thread"
  | listLabels => "gmail_list_labels"
  | createDraft => "gmail_create_draft"
  | listAttachments => "gmail_list_attachments"
  | getAttachment => "gmail_get_attachment"
  | listCalendars => "calendar_list_calendars"
  | listEvents => "calendar_list_events"
  | getEvent => "calendar_get_event"
  | queryFreeBusy => "calendar_query_free_busy"
  | getSpreadsheet => "sheets_get_spreadsheet"
  | getValues => "sheets_get_values"
  | batchGetValues => "sheets_batch_get_values"
  | updateValues => "sheets_update_values"
  | appendValues => "sheets_append_values"
  | createSpreadsheet => "sheets_create_spreadsheet"
  | batchUpdate => "sheets_batch_update"
  | clearValues => "sheets_clear_values"
  | duplicateSheet => "sheets_duplicate_sheet"
  | createPivotTable => "sheets_create_pivot_table"

/-- The tool of a name. -/
def ofName? (s : String) : Option Tool := all.find? fun t => t.name == s

theorem mem_all (t : Tool) : t ∈ all := by cases t <;> decide

end Tool

end WorkspaceTools
