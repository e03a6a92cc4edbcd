import WorkspaceTools.Pivot.Schema
import WorkspaceTools.Tool.Name

/-!
# The catalog of tools

`Tool.description` says what a tool does, `Tool.schema` describes its arguments, and `Tool.entry` is the
entry of a tool in the catalog that clients see.
-/

namespace WorkspaceTools

open Schema

/-! ## Arguments that several tools take -/

/-- One argument with its schema. -/
abbrev Argument := String × Schema

/-- A text. -/
def textArgument (name description : String) : Argument := (name, [.type [.string], about description])

/-- One of some texts; a missing one counts as the default. -/
def choiceArgument (name : String) (choices : List String) (usual description : String) : Argument :=
  (name, [.type [.string], .enum choices, default (.str usual), about description])

/-- A list of texts. -/
def textsArgument (name description : String) : Argument :=
  (name, [.type [.array], .items [.type [.string]], about description])

/-- A list of texts that is not empty. -/
def someTextsArgument (name description : String) : Argument :=
  (name, [.type [.array], .items [.type [.string]], .minItems 1, about description])

/-- A number of results from 1 to a limit. -/
def countArgument (limit : Int) (description : String) : Argument :=
  ("max_results", [.type [.integer], .minimum 1, .maximum limit, default (.int 10), about description])

/-- Something that is true or false. -/
def flagArgument (name : String) (usual : Bool) (description : String) : Argument :=
  (name, [.type [.boolean], default (.bool usual), about description])

/-- The format of the answer. -/
def formatArgument : Argument :=
  choiceArgument "response_format" ["markdown", "json"] "markdown"
    "Output format: 'markdown' for human-readable or 'json' for structured data"

/-- Whether values come by rows or by columns. -/
def dimensionArgument : Argument :=
  choiceArgument "major_dimension" ["ROWS", "COLUMNS"] "ROWS" "Whether to return data by rows or columns"

/-- How values are taken. -/
def inputArgument : Argument :=
  choiceArgument "value_input_option" ["RAW", "USER_ENTERED"] "USER_ENTERED"
    "How to interpret input: 'RAW' for literal values, 'USER_ENTERED' to parse formulas"

/-- Rows of cells. -/
def cellsArgument : Argument :=
  ("values", [.type [.array],
    .items [.type [.array], .items [.type [.string, .number, .boolean, .null]]],
    .minItems 1, about "2D array of values (rows of cells)"])

/-- Where the next page begins. -/
def pageArgument : Argument := textArgument "page_token" "Token for the next page of results"

/-- A search in the mail. -/
def mailQueryArgument : Argument := textArgument "query" "Gmail search query (optional)"

/-- A message. -/
def messageArgument : Argument := textArgument "message_id" "Gmail message ID"

/-- A calendar. -/
def calendarArgument : Argument :=
  ("calendar_id", [.type [.string], default (.str "primary"), about "Calendar ID (default: 'primary')"])

/-- A spreadsheet. -/
def spreadsheetArgument : Argument := textArgument "spreadsheet_id" "Spreadsheet ID"

/-- A range of cells. -/
def rangeArgument : Argument := textArgument "range" "A1 notation range"

/-! ## The tools -/

/-- Arguments of which some are required. -/
def argumentsSchema (arguments : List Argument) (required : List String) : Schema :=
  [.type [.object], .properties arguments, .required required]

namespace Tool

/-- What a tool does. -/
def description : Tool → String
  | listMessages =>
    "List Gmail messages matching a search query. Supports Gmail search operators such as 'is:unread', "
      ++ "'from:alice@example.com' or 'has:attachment newer_than:7d'."
  | getMessage => "Get the full content of a Gmail message by ID"
  | listThreads => "List Gmail conversation threads matching a search query"
  | getThread => "Get every message in a Gmail thread, with bodies"
  | listLabels => "List Gmail labels, system labels first"
  | createDraft =>
    "Create a Gmail draft. The draft is saved but NOT sent. "
      ++ "Pass reply_to_message_id to draft a reply in the same thread."
  | listAttachments => "List the attachments of a Gmail message"
  | getAttachment =>
    "Download a Gmail attachment. Text, CSV and JSON content is returned "
      ++ "inline; other files are saved to a temporary file whose path is returned."
  | listCalendars => "List all calendars accessible by the authenticated user"
  | listEvents => "List events from a calendar, upcoming events by default"
  | getEvent => "Get the details of a calendar event"
  | queryFreeBusy => "Check busy periods for one or more calendars in a time range"
  | getSpreadsheet => "Get spreadsheet metadata: title, locale and sheets"
  | getValues => "Read cell values from an A1 range (e.g., 'Sheet1!A1:D10')"
  | batchGetValues => "Read cell values from several A1 ranges in one request"
  | updateValues => "Write values to an A1 range"
  | appendValues => "Append rows after the last row of data in a range"
  | createSpreadsheet => "Create a new spreadsheet"
  | batchUpdate =>
    "Apply raw Sheets API batchUpdate requests (formatting, charts, filters, sheet management)"
  | clearValues => "Clear cell values in a range, keeping formatting"
  | duplicateSheet => "Duplicate a sheet within its spreadsheet"
  | createPivotTable =>
    "Create a pivot table from a source range. Columns may be given as "
      ++ "letters ('A') or zero-based offsets within the source range. "
      ++ "A new destination sheet is created unless destination_sheet_id is set."

/-- The arguments of a tool. -/
def schema : Tool → Schema
  | listMessages =>
    argumentsSchema [mailQueryArgument, countArgument 100 "Maximum messages to return (1-100)",
      textsArgument "label_ids" "Only return messages with all of these label IDs", pageArgument,
      formatArgument] []
  | getMessage => argumentsSchema [messageArgument, formatArgument] ["message_id"]
  | listThreads =>
    argumentsSchema [mailQueryArgument, countArgument 100 "Maximum threads to return (1-100)",
      textsArgument "label_ids" "Only return threads with all of these label IDs", pageArgument,
      formatArgument] []
  | getThread =>
    argumentsSchema [textArgument "thread_id" "Gmail thread ID", formatArgument] ["thread_id"]
  | listLabels => argumentsSchema [formatArgument] []
  | createDraft =>
    argumentsSchema [someTextsArgument "to" "Recipient email addresses",
      textArgument "subject" "Email subject", textArgument "body" "Plain text email body",
      textsArgument "cc" "CC recipients (optional)", textsArgument "bcc" "BCC recipients (optional)",
      textArgument "reply_to_message_id" "Message ID this draft replies to (optional)"]
      ["to", "subject", "body"]
  | listAttachments => argumentsSchema [messageArgument, formatArgument] ["message_id"]
  | getAttachment =>
    argumentsSchema [messageArgument,
      textArgument "attachment_id" "Attachment ID from gmail_list_attachments",
      textArgument "filename" "Attachment filename, used to pick the content type"]
      ["message_id", "attachment_id"]
  | listCalendars => argumentsSchema [formatArgument] []
  | listEvents =>
    argumentsSchema [calendarArgument,
      textArgument "time_min" "Start of range, ISO 8601 (default: now)",
      textArgument "time_max" "End of range, ISO 8601 (optional)",
      countArgument 250 "Maximum events to return (1-250)",
      textArgument "query" "Free text search terms",
      flagArgument "single_events" true "Expand recurring events into instances",
      choiceArgument "order_by" ["startTime", "updated"] "startTime"
        "Sort order ('startTime' requires single_events)",
      pageArgument, formatArgument] []
  | getEvent =>
    argumentsSchema [calendarArgument, textArgument "event_id" "Event ID", formatArgument] ["event_id"]
  | queryFreeBusy =>
    argumentsSchema [textArgument "time_min" "Start of range, ISO 8601",
      textArgument "time_max" "End of range, ISO 8601",
      someTextsArgument "calendar_ids" "Calendar IDs or email addresses", formatArgument]
      ["time_min", "time_max", "calendar_ids"]
  | getSpreadsheet =>
    argumentsSchema [textArgument "spreadsheet_id" "Spreadsheet ID (found in the URL)",
      flagArgument "include_grid_data" false "Include cell data (can be large)", formatArgument]
      ["spreadsheet_id"]
  | getValues =>
    argumentsSchema [spreadsheetArgument, rangeArgument, dimensionArgument, formatArgument]
      ["spreadsheet_id", "range"]
  | batchGetValues =>
    argumentsSchema [spreadsheetArgument, someTextsArgument "ranges" "A1 notation ranges",
      dimensionArgument, formatArgument] ["spreadsheet_id", "ranges"]
  | updateValues =>
    argumentsSchema [spreadsheetArgument, rangeArgument, cellsArgument, inputArgument]
      ["spreadsheet_id", "range", "values"]
  | appendValues =>
    argumentsSchema [spreadsheetArgument,
      textArgument "range" "A1 notation range to append to (e.g., 'Sheet1!A:D')", cellsArgument,
      inputArgument,
      choiceArgument "insert_data_option" ["OVERWRITE", "INSERT_ROWS"] "INSERT_ROWS"
        "Insert new rows or overwrite existing cells"]
      ["spreadsheet_id", "range", "values"]
  | createSpreadsheet =>
    argumentsSchema [
      ("title", [.type [.string], .minLength 1, .maxLength 500, about "Spreadsheet title"]),
      textsArgument "sheet_titles" "Sheet names to create (default: one 'Sheet1')"] ["title"]
  | batchUpdate =>
    argumentsSchema [spreadsheetArgument,
      ("requests", [.type [.array], .items [.type [.object]], .minItems 1,
        about "Sheets API batchUpdate request objects"])] ["spreadsheet_id", "requests"]
  | clearValues => argumentsSchema [spreadsheetArgument, rangeArgument] ["spreadsheet_id", "range"]
  | duplicateSheet =>
    argumentsSchema [spreadsheetArgument,
      ("sheet_id", [.type [.integer], .minimum 0, about "ID of the sheet to copy"]),
      textArgument "new_sheet_name" "Name for the copy (optional)"] ["spreadsheet_id", "sheet_id"]
  | createPivotTable => Pivot.specSchema [formatArgument]

/-- The entry of a tool in the catalog. -/
def entry (t : Tool) : Json :=
  .obj [("name", .str t.name), ("description", .str t.description), ("inputSchema", t.schema.toJson)]

end Tool

end WorkspaceTools
