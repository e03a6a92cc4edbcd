import WorkspaceTools.Fault
import WorkspaceTools.Mail.Folding

/-!
# Drafts

`Draft.message` writes a message of plain text: its headers, a blank line, and its text in lines of
base64. `Draft.raw` is the message in base64 without padding, as the service takes it.
-/

namespace WorkspaceTools.Mail

open Text

/-- What a message is made of, as it was given. -/
structure Draft where
  recipients : Json
  subject : Json
  body : Json
  cc : Json := .null
  bcc : Json := .null
  inReplyTo : Json := .null
  references : Json := .null

/-- How many bytes go on a line of base64. -/
def bytesPerLine : Nat := 57

/-- Bytes in lines of base64; `count` bytes are left for the present line, and `line` holds those that
it has, last one first. -/
def base64LinesFrom : (count : Nat) → (line : Bytes) → Bytes → List Char
  | _, [], [] => []
  | _, line, [] => base64 line.reverse ++ ['\n']
  | 0, line, b :: rest => base64 line.reverse ++ '\n' :: base64LinesFrom (bytesPerLine - 1) [b] rest
  | count + 1, line, b :: rest => base64LinesFrom count (b :: line) rest

/-- Bytes in lines of base64. -/
def base64Lines (bs : Bytes) : List Char := base64LinesFrom bytesPerLine [] bs

/-- A value that can be written as a header, or null for an empty one. -/
def headerLine (name : String) : Json → Except Fault String
  | .null => .ok (name ++ ": \n")
  | .str s =>
    match foldHeader name s with
    | .ok folded => .ok (name ++ ": " ++ folded ++ "\n")
    | .error value => .error (.embeddedHeader value)
  | v => .error (.shape (.noOperation v.kind "encode"))

/-- The headers that every message begins with. -/
def fixedHeaders : String :=
  "Content-Type: text/plain; charset=\"utf-8\"\nMIME-Version: 1.0\nContent-Transfer-Encoding: base64\n"

namespace Draft

/-- The addresses of a header, unless there are none. -/
def addresses (v : Json) : Shaped Json := do
  if v.isTruthy then return .str (← v.joined ", ") else return .null

/-- The optional headers of a message. -/
def optionalHeaders (headers : List (String × Json)) : Except Fault String := do
  let lines ← (headers.filter fun h => h.2.isTruthy).mapM fun (name, v) => headerLine name v
  return "".intercalate lines

/-- The text of a message; no other kind of document can be one, but null stands for the empty text. -/
def bodyText? : Json → Option String
  | .str s => some s
  | .null => some ""
  | _ => none

/-- The text of a message as it is written. -/
def content (text : String) : String := String.ofList (base64Lines (encodeUtf8 text))

/-- The whole message. A header of addresses is there when it was given, even when it is empty. -/
def message (d : Draft) : Except Fault String := do
  if d.body.isTruthy && (bodyText? d.body).isNone then
    throw (.shape (.noOperation d.body.kind "encode"))
  let recipients ← (d.recipients.joined ", " : Shaped String)
  let cc ← addresses d.cc
  let bcc ← addresses d.bcc
  match bodyText? d.body with
  | none => throw (.shape (.noOperation d.body.kind "encode"))
  | some text =>
    let toLine ← headerLine "To" (.str recipients)
    let subject ← headerLine "Subject" d.subject
    let copies ← copyLines [("Cc", cc), ("Bcc", bcc)]
    let threading ← optionalHeaders [("In-Reply-To", d.inReplyTo), ("References", d.references)]
    return fixedHeaders ++ toLine ++ subject ++ copies ++ threading ++ "\n" ++ content text
where
  /-- The headers of the copies that are asked for. -/
  copyLines (headers : List (String × Json)) : Except Fault String := do
    let lines ← (headers.filter fun h => h.2.kind != .null).mapM fun (name, v) => headerLine name v
    return "".intercalate lines

/-- The message as the service takes it. -/
def raw (d : Draft) : Except Fault String := do
  let bytes := encodeUtf8 (← d.message)
  return String.ofList ((base64Url bytes).filter (· != '='))

end Draft

end WorkspaceTools.Mail
