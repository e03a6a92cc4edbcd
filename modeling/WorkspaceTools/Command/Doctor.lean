import WorkspaceTools.Command.Outcome

/-!
# The doctor

`doctor` shows the state of the stored token: whether there is one that can be used, when it expires, and
which scopes it lacks. It succeeds when a token is stored that is valid or only expired, `isReady`.
-/

namespace WorkspaceTools.Command

open Number Text Time Consent

/-- A token is there that is valid or only expired. -/
def isReady : TokenStatus → Bool
  | .valid => true
  | .expired => true
  | .missing => false
  | .invalid => false

/-- The line that shows the expiry of a token. -/
def expiryLine (token : Token) : String := "  Token expires: " ++ token.expiresAt.expiryText

/-- The lines that show a state; the expiry is shown of a valid token. -/
def statusLines (record : Option TokenRecord) : TokenStatus → List String
  | .missing => ["  ❌ Not authenticated"]
  | .invalid => ["  ❌ Token file corrupted"]
  | .expired => ["  ⚠️  Token expired (refreshes automatically on use)"]
  | .valid => "  ✓ Authenticated" :: (record.map fun r => expiryLine r.token).toList

/-- The usual scopes that a token lacks, in the order of their characters. -/
def missingScopes (token : Token) : List String :=
  (usualScopes.filter fun scope => !token.scopes.contains scope).mergeSort

/-- The lines that show the scopes of a token. -/
def scopeLines (token : Token) : List String :=
  match missingScopes token with
  | [] => ["  Scopes: " ++ natText token.scopes.length ++ " granted"]
  | missing => "  ⚠️  Missing scopes (re-run setup):" :: missing.map ("    - " ++ ·)

/-- The lines at the beginning. -/
def doctorHeader : List String := [
  "Workspace Agent MCP Status:", "", "Dependencies:",
  "  ✓ google-auth, google-auth-oauthlib, httpx and mcp installed", ""]

/-- The lines about the token, and the last ones. -/
def verdictLines (status : TokenStatus) (record : Option TokenRecord) : List String :=
  statusLines record status
    ++ if isReady status then
        (record.map fun r => scopeLines r.token).getD [] ++ ["", "✓ Ready to use!"]
      else ["", setupHint]

/-- Shows the state of the stored token. -/
def doctor (s : Setting) (folder : TokenFolder) : Outcome :=
  Outcome.saying doctorHeader
    (match folder.statusAndRecord serviceName s.now with
      | .error _ => .failure folder
      | .ok (status, record) =>
        Outcome.saying
          ("Authentication:" :: ("  Token file: " ++ s.tokenPath) :: verdictLines status record)
          (if isReady status then .success folder else .failure folder))

/-! ## Small laws -/

theorem exitCode_doctor {s : Setting} {folder : TokenFolder} {status : TokenStatus}
    {record : Option TokenRecord} (h : folder.statusAndRecord serviceName s.now = .ok (status, record)) :
    (doctor s folder).exitCode = if isReady status then 0 else 1 := by
  simp only [doctor, h, Outcome.exitCode_saying]
  split <;> rfl

end WorkspaceTools.Command
