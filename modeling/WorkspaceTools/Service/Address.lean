import WorkspaceTools.Text.Percent

/-!
# Addresses of the services

The addresses that the tools send requests to. Identifiers stand in them as they are given; ranges
and calendars are escaped.
-/

namespace WorkspaceTools.Service

open Text

/-- The calendars. -/
def calendarBase : String := "https://www.googleapis.com/calendar/v3"

/-- The mail of the user. -/
def mailBase : String := "https://gmail.googleapis.com/gmail/v1/users/me"

/-- The spreadsheets. -/
def sheetsBase : String := "https://sheets.googleapis.com/v4/spreadsheets"

/-- A spreadsheet. -/
def spreadsheet (id : String) : String := sheetsBase ++ "/" ++ id

/-- Several changes of a spreadsheet at once. -/
def spreadsheetUpdate (id : String) : String := spreadsheet id ++ ":batchUpdate"

/-- The characters of a range that are not escaped. -/
def rangeSafe : String := "!:'"

/-- The values of a range. -/
def rangeValues (id range suffix : String) : String :=
  spreadsheet id ++ "/values/" ++ percentEncode rangeSafe range ++ suffix

/-- The events of a calendar. -/
def calendarEvents (calendar : String) : String :=
  calendarBase ++ "/calendars/" ++ percentEncode "" calendar ++ "/events"

/-- A message. -/
def message (id : String) : String := mailBase ++ "/messages/" ++ id

/-- A thread. -/
def thread (id : String) : String := mailBase ++ "/threads/" ++ id

end WorkspaceTools.Service
