import WorkspaceTools.Report.Mail
import WorkspaceTools.Time.IsoText

/-!
# Reports on calendars

Reports on calendars, events and free or busy time. `eventTime` shows the boundary of an event: the
date of an event that lasts all day, and otherwise date, time and zone where they can be read.
-/

namespace WorkspaceTools.Report

open Number Time

/-- The boundary of an event. -/
def eventTime (value allDay : Json) : Shaped String :=
  if !value.isTruthy then .ok "Unknown"
  else if allDay.isTruthy then .ok (value.display ++ " (all day)")
  else match value with
    | .str s =>
      match DateTime.ofIsoText? s with
      | some t => .ok t.eventText
      | none => .ok s
    | _ => .error .notATimeText

/-- From when to when an event lasts. -/
def eventSpan (event : Json) : Shaped String := do
  let allDay ← event.lookup "is_all_day" (.bool false)
  let start ← eventTime (← event.field "start") allDay
  let stop ← eventTime (← event.field "end") allDay
  return start ++ " → " ++ stop

/-- The most characters of a description in a list. -/
def descriptionLimit : Nat := 200

/-- A description, cut where it is too long. -/
def shortDescription (v : Json) : Shaped String := do
  if (← v.size) ≤ descriptionLimit then return v.display
  else match v with
    | .str s => return String.ofList (s.toList.take descriptionLimit) ++ "..."
    | .obj _ => throw (.notAName "slice")
    | _ => throw (.notAppendable v.kind)

/-- An event in a list. -/
def eventSummary (event : Json) : Shaped String := do
  let title ← shownOr "summary" "(no title)" event
  let span ← eventSpan event
  let id ← shownField "id" event
  let place ← ifTruthy "location" event fun x => .ok [labelled "Location" x.display]
  let status ← ifTruthy "status" event fun x =>
    .ok (if x.isText "confirmed" then [] else [labelled "Status" x.display])
  let attendees ← ifTruthy "attendees" event fun x => do
    return [labelled "Attendees" (← x.joined ", ")]
  let description ← ifTruthy "description" event fun x => do
    return [labelled "Description" (← shortDescription x)]
  return unlines (["### " ++ title, labelled "When" span, labelled "ID" (inCode id)]
    ++ place ++ status ++ attendees ++ description)

/-- A calendar in a list. -/
def calendarSummary (calendar : Json) : Shaped (List String) := do
  let primary ← calendar.field "primary"
  let title ← shownItem "summary" calendar
  let id ← shownItem "id" calendar
  let access ← shownItem "access_role" calendar
  let description ← ifTruthy "description" calendar fun x => .ok [labelled "Description" x.display]
  return ["### " ++ title ++ (if primary.isTruthy then " ⭐ (Primary)" else ""),
    labelled "ID" (inCode id), labelled "Access" access] ++ description ++ [""]

/-- A list of calendars. -/
def calendarList (result : Json) : Shaped String := do
  let calendars ← result.lookup "calendars" (.arr [])
  let count ← calendars.size
  let summaries ← (← calendars.elements).mapM calendarSummary
  return unlines (["# Your Calendars", "", found count "calendar" "", ""] ++ summaries.flatten)

/-- A list of events. -/
def eventList (result : Json) : Shaped String := do
  let events ← result.lookup "events" (.arr [])
  if !events.isTruthy then
    nothingMatching "events" "No events found in the specified time range." result
  else
    let count ← events.size
    let more ← moreAvailable result
    let summaries ← (← events.elements).mapM eventSummary
    let hint ← pageHint result "events"
    return unlines (["# Calendar Events", "", found count "event" more, ""]
      ++ summaries.flatMap (fun s => [s, ""]) ++ hint)

/-! ## One event -/

/-- The mark of an answer to an invitation. -/
def answerMark : Json → Shaped String
  | .str "accepted" => .ok "✓"
  | .str "declined" => .ok "✗"
  | .str "tentative" => .ok "?"
  | .arr _ => .error (.notAName "list")
  | .obj _ => .error (.notAName "dict")
  | _ => .ok "•"

/-- An attendee. -/
def attendeeLine (attendee : Json) : Shaped String := do
  let mark ← answerMark (← attendee.field "response_status")
  let shown ← attendee.field "display_name"
  let name ← if shown.isTruthy then pure shown else attendee.field "email"
  let organizer ← attendee.field "organizer"
  return "- " ++ mark ++ " " ++ name.display ++ (if organizer.isTruthy then " (organizer)" else "")

/-- A way into a conference. -/
def entryPointLine (entry : Json) : Shaped String := do
  let type ← shownItem "type" entry
  let address ← shownItem "uri" entry
  return "- " ++ type ++ ": " ++ address

/-- The organizer of an event. -/
def organizerLines (result : Json) : Shaped (List String) := do
  let organizer := (← result.field "organizer").orElse (.obj [])
  let address ← organizer.field "email"
  if !address.isTruthy then return []
  let name ← organizer.field "display_name"
  return [entitled "Organizer" (name.orElse address).display]

/-- The conference of an event. -/
def conferenceLines (conference : Json) : Shaped (List String) := do
  let type ← shownItem "type" conference
  let entries ← (← (← conference.lookup "entry_points" (.arr [])).elements).mapM entryPointLine
  return ["", "## Conference Info", "", entitled "Type" type] ++ entries

/-- One event. -/
def event (result : Json) : Shaped String := do
  let title ← shownOr "summary" "(no title)" result
  let span ← eventSpan result
  let status ← shownField "status" result
  let place ← ifTruthy "location" result fun x => .ok [entitled "Location" x.display]
  let organizer ← organizerLines result
  let link ← ifTruthy "html_link" result fun x => .ok [entitled "Link" x.display]
  let conference ← ifTruthy "conference" result conferenceLines
  let guests ← result.lookup "attendees" (.arr [])
  let attendees ← if guests.isTruthy then
      ((← guests.elements).mapM attendeeLine).map fun ls => ["", "## Attendees", ""] ++ ls
    else pure []
  let description ← result.field "description"
  let recurrence ← ifTruthy "recurrence" result fun x => do
    return ["", "## Recurrence", "", ← x.joined "\n"]
  Json.joinItems "\n" ((["# " ++ title, "", entitled "When" span, entitled "Status" status]
      ++ place ++ organizer ++ link ++ conference ++ attendees).map .str
    ++ (if description.isTruthy then
        [.str "", .str "## Description", .str "", description] else [])
    ++ recurrence.map .str)

/-! ## Free and busy time -/

/-- Why the time of a calendar is unknown. -/
def busyReason (error : Json) : Shaped Json := error.lookup "reason" (.str "unknown")

/-- A busy period. -/
def busyLine (period : Json) : Shaped String := do
  let start ← shownField "start" period
  let stop ← shownField "end" period
  return "- Busy " ++ start ++ " → " ++ stop

/-- The busy periods of a calendar, or why they are unknown. -/
def busyLines (id : String) (info : Json) : Shaped (List String) := do
  let head := ["", "## " ++ id, ""]
  let errors ← info.field "errors"
  if errors.isTruthy then
    let reasons ← (← errors.elements).mapM busyReason
    return head ++ ["*Unavailable: " ++ (← Json.joinItems ", " reasons) ++ "*"]
  else
    let busy ← info.lookup "busy" (.arr [])
    let periods ← (← busy.elements).mapM busyLine
    return head ++ (if busy.isTruthy then [] else ["Free for the whole window."]) ++ periods

/-- The busy periods of several calendars. -/
def freeBusy (result : Json) : Shaped String := do
  let start ← shownField "time_min" result
  let stop ← shownField "time_max" result
  let calendars ← (← result.lookup "calendars" (.obj [])).entries
  let lines ← calendars.mapM fun (id, info) => busyLines id info
  return unlines (["# Free/Busy", "", entitled "From" start, entitled "To" stop] ++ lines.flatten)

end WorkspaceTools.Report
