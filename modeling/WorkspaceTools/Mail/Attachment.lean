import WorkspaceTools.Json.Access

/-!
# Attachments of messages

`attachments` lists every part of a message that has a file name and an attachment id, a part before
the parts inside it.
-/

namespace WorkspaceTools.Mail

/-- The media type of a part that names none. -/
def unknownMediaType : String := "application/octet-stream"

/-- The attachment that a part is itself. -/
def ownAttachment (part : Json) : Shaped (List Json) := do
  let body ← part.lookup "body" (.obj [])
  let name ← part.field "filename"
  if !name.isTruthy then return []
  let id ← body.field "attachmentId"
  if !id.isTruthy then return []
  let type ← part.field "mimeType"
  let size ← body.lookup "size" (.int 0)
  return [.obj [("attachment_id", id), ("filename", name),
    ("mime_type", type.orElse (.str unknownMediaType)), ("size", size)]]

mutual

/-- The attachments of a list of parts, which may be missing. -/
def attachments : Json → Shaped (List Json)
  | .arr parts => attachmentsOf parts
  | v =>
    if !v.isTruthy then .ok []
    else
      match v.elements? with
      | some (x :: _) => .error (.noOperation x.kind "get")
      | some [] => .ok []
      | none => .error (.noItems v.kind)

/-- The attachments of several parts. -/
def attachmentsOf : List Json → Shaped (List Json)
  | [] => .ok []
  | part :: rest => do
    let first ← attachmentsIn part
    return first ++ (← attachmentsOf rest)

/-- The attachments of a part and of the parts inside it. -/
def attachmentsIn : Json → Shaped (List Json)
  | .obj ms => do
    let own ← ownAttachment (.obj ms)
    return own ++ (← innerAttachments ms)
  | v => .error (.noOperation v.kind "get")

/-- The attachments of the parts among some members. -/
def innerAttachments : List (String × Json) → Shaped (List Json)
  | [] => .ok []
  | (name, v) :: rest => if name == "parts" then attachments v else innerAttachments rest

end

end WorkspaceTools.Mail
