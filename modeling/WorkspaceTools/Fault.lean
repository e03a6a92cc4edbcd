import WorkspaceTools.Check.Issue
import WorkspaceTools.Json.Access
import WorkspaceTools.Json.Body
import WorkspaceTools.Pivot.Compile
import WorkspaceTools.Text.Base64

/-!
# Faults

* `Fault` is why a tool gives no result, and `Fault.message` words it.
* `Fault.describe` is the answer that tells the user. It looks into the body of a refused request for
  the words of the service, and fails where the body has another shape.
-/

namespace WorkspaceTools

open Number Text

/-- What is wrong with the stored token. -/
inductive TokenFault where
  | missing
  | invalid
  | notRenewable
  | lost
  deriving DecidableEq

/-- Why a tool gives no result. -/
inductive Fault where
  | shape (fault : ShapeFault)
  | base64 (error : Base64Error)
  | reading (error : ReadError)
  | brokenText (error : BrokenText)
  | issues (issues : List Issue)
  /-- A time that is in no year that counts. -/
  | timeOutOfRange
  | pivot (error : PivotError)
  | token (fault : TokenFault)
  /-- The token could not be renewed; the words of the service that renews it. -/
  | renewal (text : String)
  /-- The service refused a request with a status and a body. -/
  | refused (status : Nat) (body : Except BodyFault Json)
  /-- No answer came. -/
  | transport (text : String)
  | unknownTool (name : String)
  | emptyAttachment
  /-- A file was not saved; the words of the file system. -/
  | unsaved (text : String)
  | noRequests
  | embeddedHeader (value : String)

instance : Inhabited Fault := ⟨.emptyAttachment⟩

instance : MonadLift (Except ShapeFault) (Except Fault) := ⟨Except.mapError Fault.shape⟩

/-- The command that gets a token. -/
def setupCommand : String := "workspace-agent setup"

/-- The name under which the token is stored. -/
def serviceName : String := "workspace-agent-mcp"

/-- The wording of a fault of the token. -/
def TokenFault.message : TokenFault → String
  | .missing =>
    "No OAuth token found for service '" ++ serviceName ++ "'. Please authenticate first using: "
      ++ setupCommand
  | .invalid =>
    "OAuth token for service '" ++ serviceName
      ++ "' is invalid or corrupted. Please re-authenticate using: " ++ setupCommand
  | .notRenewable => "Token refresh failed. Please re-authenticate using: " ++ setupCommand
  | .lost => "Unexpected error: token retrieval failed"

/-- A body that could not be read. -/
def BodyFault.fault : BodyFault → Fault
  | .brokenText error => .brokenText error
  | .reading error => .reading error

/-- The wording of a fault. -/
def Fault.message : Fault → String
  | .shape fault => fault.message
  | .base64 error => error.message
  | .reading error => error.message
  | .brokenText error => error.message
  | .issues found => describeIssues found
  | .timeOutOfRange => "date value out of range"
  | .pivot error => error.message
  | .token fault => fault.message
  | .renewal text => text
  | .refused status _ => "status " ++ natText status
  | .transport text => text
  | .unknownTool name => "Unknown tool: " ++ name
  | .emptyAttachment => "Attachment data is empty."
  | .unsaved text => text
  | .noRequests => "At least one request is required"
  | .embeddedHeader value =>
    "header value appears to contain an embedded header: " ++ quoted value

/-- The words of the service in the body of a refused request. -/
def serviceMessage (body : Except BodyFault Json) : Shaped String :=
  match body with
  | .error fault =>
    match fault.depthFault? with
    | some kind => .error (.tooDeep kind)
    | none => .ok ""
  | .ok body => do
    let error ← body.lookup "error" (.obj [])
    return (← error.lookup "message" (.str "")).display

/-- The answer to a refused request. -/
def describeRefusal (status : Nat) (words : String) : String :=
  if status = 401 then "Error: Authentication failed. Please re-authenticate using: " ++ setupCommand
  else if status = 403 then
    trimEnd ("Error: Permission denied. Check that the resource is shared with your account and the "
      ++ "required scopes were granted. " ++ words)
  else if status = 404 then "Error: Resource not found. Please check the ID is correct."
  else if status = 429 then "Error: Rate limit exceeded. Please wait before making more requests."
  else trimEnd ("Error: Google API request failed with status " ++ natText status ++ ". " ++ words)

/-- An error of compilation that is about the table; the digits of a row number are not, nor is the shape of
an unchecked part. -/
def PivotError.isAboutTable : PivotError → Bool
  | .rangeDigits _ => false
  | .shape _ => false
  | _ => true

/-- The answer that tells the user of a fault. -/
def Fault.describe : Fault → Shaped String
  | .refused status body => (serviceMessage body).map (describeRefusal status)
  | .issues found => .ok (describeIssues found)
  | .pivot error =>
    .ok ((if error.isAboutTable then "Error: Cannot build pivot table. " else "Error: ") ++ error.message)
  | fault => .ok ("Error: " ++ fault.message)

end WorkspaceTools
