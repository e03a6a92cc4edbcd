import WorkspaceTools.Fault
import WorkspaceTools.Text.Html

/-!
# Text of messages

`bodyText` finds the text of a message: its own data, or else the first plain part with data, or the
first marked-up part with data without its tags, or the first text that is found inside a part.
-/

namespace WorkspaceTools.Mail

open Text

/-- The bytes of data in base64. -/
def dataBytes : Json → Except Fault Bytes
  | .str s => (decodeBase64Url? s).mapError .base64
  | .arr _ => .error (.shape (.notAppendable .arr))
  | .obj _ => .error (.shape (.notAppendable .obj))
  | v => .error (.shape (.noSize v.kind))

/-- The text of data in base64. -/
def dataText (v : Json) : Except Fault String := (dataBytes v).map decodeLossy

/-- The data of a part, or null. -/
def partData (part : Json) : Shaped Json := do (← part.lookup "body" (.obj [])).field "data"

/-- The data of the first part of a media type that has data. -/
def firstData (mediaType : String) : List Json → Shaped (Option Json)
  | [] => .ok none
  | part :: rest => do
    let data ← partData part
    if (← part.field "mimeType").isText mediaType && data.isTruthy then return some data
    else firstData mediaType rest

/-- The parts of a message. -/
def parts (payload : Json) : Shaped (List Json) := do (← payload.lookup "parts" (.arr [])).elements

/-- The text of a message itself or of one of its parts, but not of parts inside parts. -/
def outerText (payload : Json) : Except Fault (Option String) := do
  let own ← partData payload
  if own.isTruthy then return some (← dataText own)
  let parts ← parts payload
  match ← firstData "text/plain" parts with
  | some data => return some (← dataText data)
  | none =>
    match ← firstData "text/html" parts with
    | some data => return some (stripHtml (← dataText data))
    | none => return none

mutual

/-- The text of a message, or the empty one. -/
def bodyText : Json → Except Fault String
  | .obj [] => .ok ""
  | .obj ms => do
    match ← outerText (.obj ms) with
    | some text => return text
    | none => innerText ms
  | v => if v.isTruthy then .error (.shape (.noOperation v.kind "get")) else .ok ""

/-- The first text inside the parts among some members. -/
def innerText : List (String × Json) → Except Fault String
  | [] => .ok ""
  | (name, v) :: rest => if name == "parts" then innerTextOf v else innerText rest

/-- The first text inside the parts of a list. -/
def innerTextOf : Json → Except Fault String
  | .arr parts => firstText parts
  | _ => .ok ""

/-- The first text that is not empty. -/
def firstText : List Json → Except Fault String
  | [] => .ok ""
  | part :: rest => do
    let text ← bodyText part
    if text = "" then firstText rest else return text

end

end WorkspaceTools.Mail
