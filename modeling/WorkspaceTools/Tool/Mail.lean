import WorkspaceTools.Exchange.Program
import WorkspaceTools.Json.Order
import WorkspaceTools.Mail.Body
import WorkspaceTools.Mail.Draft
import WorkspaceTools.Mail.Header
import WorkspaceTools.Mail.MediaType
import WorkspaceTools.Service.Address

/-!
# Tools for mail

The tools that list and read messages, threads, labels and attachments, and the one that saves a
draft. The tools that list ask for the details of every entry; an entry whose details cannot be had
is left out.
-/

namespace WorkspaceTools.Tool

open Text Mail

/-- A text. -/
abbrev text (s : String) : Json := .str s

/-- How a message is asked for. -/
def formatParam (name : String) : Members := [("format", text name)]

/-- Parameters that ask for some headers only. -/
def headerParams (names : List String) : Members :=
  [("format", text "metadata"), ("metadataHeaders", .ofTexts names)]

/-- A parameter for an argument, unless that is null, false, zero or empty. -/
def optionalParam (param argument : String) (args : Json) : Shaped Members := do
  let v ← args.field argument
  return if v.isTruthy then [(param, v)] else []

/-- The parameters of a list of messages or threads. -/
def listParams (args : Json) : Shaped Members := do
  let most ← args.lookup "max_results" (.int 10)
  let query ← optionalParam "q" "query" args
  let labels ← optionalParam "labelIds" "label_ids" args
  let page ← optionalParam "pageToken" "page_token" args
  return ("maxResults", most) :: (query ++ labels ++ page)

/-- The headers of a message. -/
def headersOf (message : Json) : Shaped Json := do
  (← message.lookup "payload" (.obj [])).field "headers"

/-- What the service told of every entry of a list, in order. -/
def details (address : Json → String) (params : Members) :
    List Json → Program (List (Except Fault Json))
  | [] => .done []
  | id :: rest => do
    let detail ← Program.attempt ⟨.get, address id, params, none⟩
    return detail :: (← details address params rest)

/-- The summaries of the entries whose details could be had. -/
def summaries (summary : Json → Json → Shaped Json) : List (Json × Except Fault Json) → Shaped (List Json)
  | [] => .ok []
  | (_, .error _) :: rest => summaries summary rest
  | (entry, .ok detail) :: rest => do
    let first ← summary entry detail
    return first :: (← summaries summary rest)

/-- The entries of a list with the details of each. -/
def withDetails (address : Json → String) (params : Members) (list : Json) :
    Program (List (Json × Except Fault Json)) := do
  let entries ← list.elements
  let ids ← list.mapItems (Json.item "id")
  return entries.zip (← details address params ids)

/-! ## Messages -/

/-- A message in a list. -/
def messageSummary (entry detail : Json) : Shaped Json := do
  let headers ← headersOf detail
  let id ← entry.item "id"
  let thread ← entry.field "threadId"
  let subject ← findHeader headers "Subject"
  let sender ← findHeader headers "From"
  let recipient ← findHeader headers "To"
  let date ← findHeader headers "Date"
  let snippet ← detail.lookup "snippet" (text "")
  let labels ← detail.lookup "labelIds" (.arr [])
  return .obj [("id", id), ("thread_id", thread), ("subject", subject), ("from", sender),
    ("to", recipient), ("date", date), ("snippet", snippet), ("labels", labels)]

/-- List messages. -/
def runListMessages (args : Json) : Program Json := do
  let params ← listParams args
  let response ← Program.get (Service.mailBase ++ "/messages") params
  let list ← response.lookup "messages" (.arr [])
  let entries ← withDetails (fun id => Service.message id.display)
    (headerParams ["From", "To", "Subject", "Date"]) list
  let messages ← summaries messageSummary entries
  let next ← response.field "nextPageToken"
  let query ← args.field "query"
  return .obj [("messages", .arr messages), ("result_count", .ofNat messages.length),
    ("next_page_token", next), ("query", query)]

/-- Read a message. -/
def runGetMessage (args : Json) : Program Json := do
  let wanted ← args.item "message_id"
  let response ← Program.get (Service.message wanted.display) (formatParam "full")
  let payload ← response.lookup "payload" (.obj [])
  let headers ← payload.field "headers"
  let id ← response.field "id"
  let thread ← response.field "threadId"
  let subject ← findHeader headers "Subject"
  let sender ← findHeader headers "From"
  let recipient ← findHeader headers "To"
  let copies ← findHeader headers "Cc"
  let date ← findHeader headers "Date"
  let labels ← response.lookup "labelIds" (.arr [])
  let body ← bodyText payload
  return .obj [("id", id), ("thread_id", thread), ("subject", subject), ("from", sender),
    ("to", recipient), ("cc", copies), ("date", date), ("labels", labels), ("body", text body)]

/-! ## Threads -/

/-- A thread in a list: the subject and the sender of its first message, and the date of its last. -/
def threadSummary (entry detail : Json) : Shaped Json := do
  let messages := (← detail.field "messages").orElse (.arr [.obj []])
  let firstHeaders ← headersOf (← messages.first)
  let lastHeaders ← headersOf (← messages.last)
  let id ← entry.item "id"
  let subject ← findHeader firstHeaders "Subject"
  let sender ← findHeader firstHeaders "From"
  let date ← findHeader lastHeaders "Date"
  let snippet ← entry.lookup "snippet" (text "")
  let count ← (← detail.lookup "messages" (.arr [])).size
  return .obj [("id", id), ("subject", subject.orElse (text "(no subject)")),
    ("from", sender.orElse (text "Unknown")), ("date", date.orElse (text "")),
    ("snippet", snippet), ("message_count", .ofNat count)]

/-- List threads. -/
def runListThreads (args : Json) : Program Json := do
  let params ← listParams args
  let response ← Program.get (Service.mailBase ++ "/threads") params
  let list ← response.lookup "threads" (.arr [])
  let entries ← withDetails (fun id => Service.thread id.display)
    (headerParams ["From", "Subject", "Date"]) list
  let threads ← summaries threadSummary entries
  let next ← response.field "nextPageToken"
  return .obj [("threads", .arr threads), ("result_count", .ofNat threads.length),
    ("next_page_token", next)]

/-- A message of a thread. -/
def threadMessage (message : Json) : Except Fault Json := do
  let payload ← message.lookup "payload" (.obj [])
  let headers ← payload.field "headers"
  let id ← message.field "id"
  let sender ← findHeader headers "From"
  let recipient ← findHeader headers "To"
  let subject ← findHeader headers "Subject"
  let date ← findHeader headers "Date"
  let body ← bodyText payload
  return .obj [("id", id), ("from", sender), ("to", recipient), ("subject", subject),
    ("date", date), ("body", text body)]

/-- Read all messages of a thread. -/
def runGetThread (args : Json) : Program Json := do
  let wanted ← args.item "thread_id"
  let response ← Program.get (Service.thread wanted.display) (formatParam "full")
  let list ← (← response.lookup "messages" (.arr [])).elements
  let messages ← (list.mapM threadMessage : Except Fault (List Json))
  let id ← response.lookup "id" wanted
  return .obj [("id", id), ("message_count", .ofNat messages.length), ("messages", .arr messages)]

/-! ## Labels -/

/-- A label. -/
structure Label where
  id : Json
  name : Json
  type : Json

/-- The label that a document describes. -/
def Label.of (v : Json) : Shaped Label := do
  let id ← v.lookup "id" (text "")
  let name ← v.lookup "name" (text "")
  let type ← v.lookup "type" (text "user")
  return ⟨id, name, type⟩

/-- A label of the system. -/
def Label.isSystem (l : Label) : Bool := l.type.isText "system"

/-- The members of a label. -/
def Label.toJson (l : Label) : Json := .obj [("id", l.id), ("name", l.name), ("type", l.type)]

/-- Labels in the order of their names. -/
def sortByName (labels : List Label) : Shaped (List Label) :=
  sortByKey (labels.map fun l => (l.name, l))

/-- Labels in the order of their names in lower case. -/
def sortByLoweredName (labels : List Label) : Shaped (List Label) := do
  let keyed ← labels.mapM fun l => l.name.lowerText.map (·, l)
  return (sortByText keyed).map Prod.snd

/-- List labels, those of the system apart. -/
def runListLabels : Program Json := do
  let response ← Program.get (Service.mailBase ++ "/labels") none
  let labels ← (← response.lookup "labels" (.arr [])).mapItems Label.of
  let system ← sortByName (labels.filter Label.isSystem)
  let user ← sortByLoweredName (labels.filter (!·.isSystem))
  return .obj [("total", .ofNat labels.length), ("system_labels", .arr (system.map Label.toJson)),
    ("user_labels", .arr (user.map Label.toJson))]

/-! ## Drafts -/

/-- What a draft takes from the message that it answers. -/
structure Answered where
  thread : Json := .null
  inReplyTo : Json := .null
  references : Json := .null

/-- What a draft takes from the message with some headers. -/
def Answered.of (message : Json) : Shaped Answered := do
  let thread ← message.field "threadId"
  let headers ← headersOf message
  let id ← findHeader headers "Message-ID"
  if !id.isTruthy then return ⟨thread, id, .null⟩
  let previous ← findHeader headers "References"
  return ⟨thread, id,
    if previous.isTruthy then text (previous.display ++ " " ++ id.display) else id⟩

/-- The message that a draft answers. -/
def answered (id : Json) : Program Answered := do
  if !id.isTruthy then return {}
  let message ← Program.get (Service.message id.display)
    (headerParams ["Message-ID", "References"])
  Answered.of message

/-- Save a draft, in the thread of the message that it answers. -/
def runCreateDraft (args : Json) : Program Json := do
  let recipients ← args.item "to"
  let subject ← args.item "subject"
  let replyTo ← args.field "reply_to_message_id"
  let answered ← answered replyTo
  let body ← args.item "body"
  let cc ← args.field "cc"
  let bcc ← args.field "bcc"
  let raw ← Draft.raw ⟨recipients, subject, body, cc, bcc, answered.inReplyTo, answered.references⟩
  let thread := if answered.thread.isTruthy then [("threadId", answered.thread)] else []
  let response ← Program.post (Service.mailBase ++ "/drafts")
    (.obj [("message", .obj (("raw", text raw) :: thread))]) none
  let id ← response.field "id"
  let message ← response.lookup "message" (.obj [])
  let messageId ← message.field "id"
  let threadId ← message.field "threadId"
  return .obj [("status", text "draft_created"), ("draft_id", id), ("message_id", messageId),
    ("thread_id", threadId), ("to", recipients), ("subject", subject)]

/-! ## Attachments -/

/-- List the attachments of a message. -/
def runListAttachments (args : Json) : Program Json := do
  let wanted ← args.item "message_id"
  let response ← Program.get (Service.message wanted.display) (formatParam "full")
  let payload ← response.lookup "payload" (.obj [])
  let attachments ← attachments (← payload.field "parts")
  return .obj [("message_id", wanted), ("attachments", .arr attachments),
    ("count", .ofNat attachments.length)]

/-- The media type of a file name, or the one of unknown files. -/
def mediaType : Json → Except Fault String
  | .str name => .ok ((mediaTypeOf name).getD unknownMediaType)
  | v => .error (.shape (.notAFileName v.kind))

/-- Fetch an attachment: text is part of the result, anything else is saved to a file. -/
def runGetAttachment (args : Json) : Program Json := do
  let messageId ← args.item "message_id"
  let attachmentId ← args.item "attachment_id"
  let name := (← args.field "filename").orElse (text "attachment")
  let response ← Program.get
    (Service.message messageId.display ++ "/attachments/" ++ attachmentId.display) none
  let data ← response.field "data"
  if !data.isTruthy then Program.fail .emptyAttachment
  else
    let content ← dataBytes data
    let type ← mediaType name
    let size := (← response.field "size").orElse (.ofNat content.length)
    let members : Members := [("filename", name), ("size", size), ("mime_type", text type)]
    if shownMediaTypes.contains type then
      return .obj (members ++ [("content", text (decodeLossy content))])
    else
      let path ← Program.saveFile "gmail_" ("_" ++ safeName name.display) content
      return .obj (members ++ [("saved_path", text path)])

end WorkspaceTools.Tool
