import WorkspaceTools.Tool.Mail

/-!
# Tools for calendars

The tools that list calendars, list and read events, and ask when calendars are busy.
-/

namespace WorkspaceTools.Tool

open Text Time

/-! ## Calendars -/

/-- A calendar. -/
structure Calendar where
  id : Json
  summary : Json
  description : Json
  access : Json
  primary : Json

/-- The calendar that a document describes. -/
def Calendar.of (v : Json) : Shaped Calendar := do
  let id ← v.field "id"
  let summary ← v.field "summary"
  let description ← v.field "description"
  let access ← v.lookup "accessRole" (text "reader")
  let primary ← v.lookup "primary" (.bool false)
  return ⟨id, summary.orElse (text "(untitled)"), description, access, primary⟩

/-- The members of a calendar. -/
def Calendar.toJson (c : Calendar) : Json :=
  .obj [("id", c.id), ("summary", c.summary), ("description", c.description),
    ("access_role", c.access), ("primary", c.primary)]

/-- Calendars with the primary ones first, and otherwise in the order of their titles in lower
case. -/
def sortCalendars (calendars : List Calendar) : Shaped (List Calendar) := do
  let keyed ← calendars.mapM fun c => c.summary.lowerText.map (·, c)
  let sorted (primary : Bool) := sortByText (keyed.filter fun k => k.2.primary.isTruthy == primary)
  return (sorted true ++ sorted false).map Prod.snd

/-- List calendars. -/
def runListCalendars : Program Json := do
  let response ← Program.get (Service.calendarBase ++ "/users/me/calendarList") none
  let calendars ← (← response.lookup "items" (.arr [])).mapItems Calendar.of
  let sorted ← sortCalendars calendars
  return .obj [("calendars", .arr (sorted.map Calendar.toJson)), ("count", .ofNat sorted.length)]

/-! ## Events -/

/-- The boundary of an event: its time, or else its date. -/
def eventBoundary (v : Json) : Shaped Json := do
  let v := v.orElse (.obj [])
  let time ← v.field "dateTime"
  if time.isTruthy then return time
  return (← v.field "date").orElse (text "")

/-- What all results tell of an event. -/
def eventMembers (item : Json) : Shaped Members := do
  let start ← item.lookup "start" (.obj [])
  let id ← item.field "id"
  let summary ← item.field "summary"
  let description ← item.field "description"
  let location ← item.field "location"
  let beginning ← eventBoundary start
  let ending ← eventBoundary (← item.field "end")
  let hasTime ← start.hasName "dateTime"
  let status ← item.lookup "status" (text "confirmed")
  let link ← item.field "htmlLink"
  return [("id", id), ("summary", summary.orElse (text "(no title)")), ("description", description),
    ("location", location), ("start", beginning), ("end", ending), ("is_all_day", .bool !hasTime),
    ("status", status), ("html_link", link)]

/-- The address of a person, or else the name. -/
def addressOrName (v : Json) : Shaped Json := do
  let address ← v.field "email"
  if address.isTruthy then return address else v.field "displayName"

/-- An event in a list. -/
def listedEvent (item : Json) : Shaped Json := do
  let members ← eventMembers item
  let attendees ← (← item.lookup "attendees" (.arr [])).mapItems fun a => do
    return (← addressOrName a).orElse (text "Unknown")
  let organizer ← addressOrName (← item.lookup "organizer" (.obj []))
  return .obj (members ++ [("attendees", .arr attendees), ("organizer", organizer)])

/-- A calendar as part of an address. -/
def escapedCalendar : Json → Shaped String
  | .str id => .ok (Service.calendarEvents id)
  | _ => .error .notBytes

/-- The parameters of a list of events from a time on. Only events that are listed one by one can be in
the order of their beginnings. -/
def eventParams (args : Json) (now : DateTime) : Shaped Members := do
  let single ← args.lookup "single_events" (.bool true)
  let order ← args.lookup "order_by" (text "startTime")
  let start ← args.field "time_min"
  let most ← args.lookup "max_results" (.int 10)
  let stop ← optionalParam "timeMax" "time_max" args
  let query ← optionalParam "q" "query" args
  let page ← optionalParam "pageToken" "page_token" args
  let order := if single.isTruthy || !order.isText "startTime" then [("orderBy", order)] else []
  return [("timeMin", start.orElse (text now.isoText)), ("maxResults", most), ("singleEvents", single)]
    ++ order ++ stop ++ query ++ page

/-- List events. -/
def runListEvents (args : Json) : Program Json := do
  let address ← escapedCalendar (← args.lookup "calendar_id" (text "primary"))
  let now ← Program.present
  let params ← eventParams args now
  let response ← Program.get address params
  let events ← (← response.lookup "items" (.arr [])).mapItems listedEvent
  let next ← response.field "nextPageToken"
  let query ← args.field "query"
  return .obj [("events", .arr events), ("result_count", .ofNat events.length),
    ("next_page_token", next), ("query", query)]

/-- An attendee. -/
def attendee (v : Json) : Shaped Json := do
  let address ← v.lookup "email" (text "")
  let name ← v.field "displayName"
  let answer ← v.lookup "responseStatus" (text "needsAction")
  let organizer ← v.lookup "organizer" (.bool false)
  return .obj [("email", address), ("display_name", name), ("response_status", answer),
    ("organizer", organizer)]

/-- A way into a conference. -/
def entryPoint (v : Json) : Shaped Json := do
  let type ← v.lookup "entryPointType" (text "")
  let address ← v.lookup "uri" (text "")
  return .obj [("type", type), ("uri", address)]

/-- A conference. -/
def conference (v : Json) : Shaped Json := do
  if !v.isTruthy then return .null
  let name ← (← v.lookup "conferenceSolution" (.obj [])).lookup "name" (text "Unknown")
  let entries ← (← v.lookup "entryPoints" (.arr [])).mapItems entryPoint
  return .obj [("type", name), ("entry_points", .arr entries)]

/-- An event with all that is known of it. -/
def fullEvent (item : Json) : Shaped Json := do
  let members ← eventMembers item
  let attendees ← (← item.lookup "attendees" (.arr [])).mapItems attendee
  let organizer ← item.lookup "organizer" (.obj [])
  let organizerAddress ← organizer.lookup "email" (text "")
  let organizerName ← organizer.field "displayName"
  let created ← item.field "created"
  let updated ← item.field "updated"
  let recurrence ← item.field "recurrence"
  let conference ← conference (← item.field "conferenceData")
  return .obj (members ++ [("attendees", .arr attendees),
    ("organizer", .obj [("email", organizerAddress), ("display_name", organizerName)]),
    ("created", created), ("updated", updated), ("recurrence", recurrence),
    ("conference", conference)])

/-- Read an event. -/
def runGetEvent (args : Json) : Program Json := do
  let calendar ← args.lookup "calendar_id" (text "primary")
  let id ← args.item "event_id"
  let address ← escapedCalendar calendar
  let item ← Program.get (address ++ "/" ++ id.display) none
  fullEvent item

/-! ## Busy time -/

/-- When a calendar is busy. -/
def busyInfo (v : Json) : Shaped Json := do
  let busy ← v.lookup "busy" (.arr [])
  let errors ← v.lookup "errors" (.arr [])
  return .obj [("busy", busy), ("errors", errors)]

/-- Ask when calendars are busy. -/
def runQueryFreeBusy (args : Json) : Program Json := do
  let start ← args.item "time_min"
  let stop ← args.item "time_max"
  let ids ← ((← args.field "calendar_ids").orElse (.arr [text "primary"])).elements
  let response ← Program.post (Service.calendarBase ++ "/freeBusy")
    (.obj [("timeMin", start), ("timeMax", stop), ("items", .arr (ids.map fun id => .obj [("id", id)]))])
    none
  let calendars ← (← response.lookup "calendars" (.obj [])).entries
  let infos ← (calendars.mapM (fun (id, v) => (busyInfo v).map (id, ·)) : Shaped Members)
  return .obj [("time_min", start), ("time_max", stop), ("calendars", .obj infos)]

end WorkspaceTools.Tool
