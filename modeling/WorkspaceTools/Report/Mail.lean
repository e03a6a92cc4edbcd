import WorkspaceTools.Report.Layout

/-!
# Reports on mail

Reports on messages, threads, labels, drafts and attachments. A list without entries has a report of
its own, and a list that goes on ends with a hint how to get the rest.
-/

namespace WorkspaceTools.Report

open Number

/-- A message in a list. -/
def messageSummary (message : Json) : Shaped String := do
  let head ← [("subject", "### ", "(no subject)"), ("from", "- **From**: ", "Unknown"),
    ("to", "- **To**: ", "Unknown"), ("date", "- **Date**: ", "Unknown")].mapM
      fun (name, label, default) => (shownOr name default message).map (label ++ ·)
  let id ← shownField "id" message
  let labels ← ifTruthy "labels" message fun x => do return [labelled "Labels" (← x.joined ", ")]
  let snippet ← ifTruthy "snippet" message fun x => .ok [labelled "Preview" x.display]
  return unlines (head ++ labelled "ID" (inCode id) :: (labels ++ snippet))

/-- The report on an empty list, which names the query. -/
def nothingMatching (noun otherwise : String) (result : Json) : Shaped String := do
  let query ← result.field "query"
  return if query.isTruthy then "No " ++ noun ++ " found matching \"" ++ query.display ++ "\"."
    else otherwise

/-- A list of messages. -/
def messageList (result : Json) : Shaped String := do
  let messages ← result.lookup "messages" (.arr [])
  if !messages.isTruthy then nothingMatching "messages" "No messages found." result
  else
    let count ← messages.size
    let more ← moreAvailable result
    let summaries ← (← messages.elements).mapM messageSummary
    let hint ← pageHint result "messages"
    return unlines (["# Gmail Messages", "", found count "message" more, ""]
      ++ summaries.flatMap (fun s => [s, ""]) ++ hint)

/-- The text of a message, or a remark in its place. -/
def bodyLine (message : Json) : Shaped Json := do
  return (← message.field "body").orElse (.str "(no body content)")

/-- One message. -/
def message (result : Json) : Shaped String := do
  let subject ← shownOr "subject" "(no subject)" result
  let sender ← shownOr "from" "Unknown" result
  let recipient ← shownOr "to" "Unknown" result
  let copies ← ifTruthy "cc" result fun x => .ok [entitled "CC" x.display]
  let date ← shownOr "date" "Unknown" result
  let labels ← (← result.lookup "labels" (.arr [])).joined ", "
  let body ← bodyLine result
  Json.joinItems "\n" ((["# " ++ subject, "", entitled "From" sender, entitled "To" recipient]
    ++ copies ++ [entitled "Date" date, entitled "Labels" (if labels = "" then "None" else labels),
      "", "---", ""]).map .str ++ [body])

/-- A thread in a list. -/
def threadSummary (thread : Json) : Shaped (List String) := do
  let subject ← shownItem "subject" thread
  let sender ← shownItem "from" thread
  let count ← shownItem "message_count" thread
  let date ← shownItem "date" thread
  let id ← shownItem "id" thread
  let snippet ← shownFieldOr "snippet" (.str "") thread
  return ["### " ++ subject, labelled "From" sender, labelled "Messages" count,
    labelled "Last activity" date, labelled "ID" (inCode id), labelled "Preview" snippet, ""]

/-- A list of threads. -/
def threadList (result : Json) : Shaped String := do
  let threads ← result.lookup "threads" (.arr [])
  if !threads.isTruthy then return "No threads found."
  else
    let count ← threads.size
    let more ← moreAvailable result
    let summaries ← (← threads.elements).mapM threadSummary
    let hint ← pageHint result "threads"
    return unlines (["# Gmail Threads", "", found count "thread" more, ""]
      ++ summaries.flatten ++ hint)

/-- A message of a thread, with its number. -/
def threadMessage (number : Nat) (message : Json) : Shaped (List Json) := do
  let sender ← shownOr "from" "Unknown" message
  let recipient ← shownOr "to" "Unknown" message
  let date ← shownOr "date" "Unknown" message
  let body ← bodyLine message
  return (["## Message " ++ natText number, "", entitled "From" sender, entitled "To" recipient,
    entitled "Date" date, ""].map .str) ++ body :: (["", "---", ""].map .str)

/-- The messages of a thread, counted from the given number. -/
def threadMessages : (number : Nat) → List Json → Shaped (List Json)
  | _, [] => .ok []
  | number, m :: rest => do
    let lines ← threadMessage number m
    return lines ++ (← threadMessages (number + 1) rest)

/-- One thread. -/
def thread (result : Json) : Shaped String := do
  let messages ← result.lookup "messages" (.arr [])
  let subject ← if messages.isTruthy then (← messages.first).field "subject" else pure .null
  let count ← messages.size
  let lines ← threadMessages 1 (← messages.elements)
  Json.joinItems "\n" ((["# Thread: " ++ (subject.orElse (.str "(no subject)")).display, "",
    natText count ++ " message(s) in this thread.", ""].map .str) ++ lines)

/-- A label in a list. -/
def labelLine (label : Json) : Shaped String := do
  let name ← shownItem "name" label
  let id ← shownItem "id" label
  return "- **" ++ name ++ "** (" ++ inCode id ++ ")"

/-- The labels of the system, and those of the user if there are any. -/
def labels (result : Json) : Shaped String := do
  let system ← (← (← result.lookup "system_labels" (.arr [])).elements).mapM labelLine
  let own ← result.lookup "user_labels" (.arr [])
  let user ← if own.isTruthy then
      ((← own.elements).mapM labelLine).map fun ls => ["", "## User Labels", ""] ++ ls
    else pure []
  return unlines (["# Gmail Labels", "", "## System Labels", ""] ++ system ++ user)

/-- A draft that was saved. -/
def draft (result : Json) : Shaped String := do
  let id ← shownField "draft_id" result
  let recipients ← (← result.lookup "to" (.arr [])).joined ", "
  let subject ← shownField "subject" result
  return unlines ["Draft created successfully.", "", entitled "Draft ID" id,
    entitled "To" recipients, entitled "Subject" subject, "",
    "The draft is saved in your Gmail Drafts folder. It will NOT be sent automatically."]

/-- An attachment in a list. -/
def attachmentSummary (attachment : Json) : Shaped (List String) := do
  let name ← shownItem "filename" attachment
  let type ← shownItem "mime_type" attachment
  let size ← kilobytes (← attachment.field "size")
  let id ← shownItem "attachment_id" attachment
  return ["### " ++ name, labelled "Type" type, labelled "Size" (size ++ " KB"),
    labelled "Attachment ID" (inCode id), ""]

/-- The attachments of a message. -/
def attachmentList (result : Json) : Shaped String := do
  let attachments ← result.lookup "attachments" (.arr [])
  if !attachments.isTruthy then return "No attachments found in this message."
  else
    let count ← attachments.size
    let summaries ← (← attachments.elements).mapM attachmentSummary
    return unlines (["# Message Attachments", "", found count "attachment" "", ""]
      ++ summaries.flatten)

/-- An attachment: its text, or the place where it was saved. -/
def attachment (result : Json) : Shaped String := do
  let name ← shownField "filename" result
  let size ← kilobytes (← result.field "size")
  let type ← shownField "mime_type" result
  let head := [entitled "Attachment" name, entitled "Size" (size ++ " KB"), entitled "Type" type, ""]
  match ← result.field "content" with
  | .null =>
    let path ← shownField "saved_path" result
    return unlines (head ++ ["File saved to: " ++ path, "", "Use the Read tool to access this file."])
  | content => return unlines (head ++ ["---", "", content.display])

end WorkspaceTools.Report
