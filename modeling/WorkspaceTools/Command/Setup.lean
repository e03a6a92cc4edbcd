import WorkspaceTools.Command.Outcome
import WorkspaceTools.Text.LowerCase

/-!
# Setting up

* `setup` asks the user for consent and stores the token. When a valid token is stored already, it asks
  first whether to do so again.
* `confirm` puts a question until a line answers it; an empty line is a no.
-/

namespace WorkspaceTools.Command

open Text Consent

/-! ## Questions -/

/-- What a line answers to a question, if it answers it. -/
def readAnswer? (line : String) : Option Bool :=
  let word := trim (lowerCase line)
  if word = "y" ∨ word = "yes" then some true
  else if word = "n" ∨ word = "no" ∨ word = "" then some false
  else none

/-- What is shown of a question while lines are typed, and the answer; there is none when no more lines
are typed. -/
def confirm (question : String) : List String → String × Option Bool
  | [] => (question, none)
  | line :: rest =>
    match readAnswer? line with
    | some answer => (question ++ line ++ "\n", some answer)
    | none =>
      let (shown, answer) := confirm question rest
      (question ++ line ++ "\nError: invalid input\n" ++ shown, answer)

/-- The question whether to ask for consent again. -/
def againQuestion : String := "Re-authenticate? [y/N]: "

/-! ## The command -/

/-- Where the token is. -/
def storedLine (s : Setting) : String := "Token stored at: " ++ s.tokenPath

/-- The variable with the id of the client. -/
def clientIdVariable : String := "GOOGLE_OAUTH_CLIENT_ID"

/-- The variable with the secret of the client. -/
def clientSecretVariable : String := "GOOGLE_OAUTH_CLIENT_SECRET"

/-- The variable with the callback address. -/
def callbackVariable : String := "GOOGLE_OAUTH_REDIRECT_URI"

/-- How to name the client. -/
def clientHint : List String := [
  "❌ Error: OAuth client credentials required", "",
  "Set environment variables:",
  "  export " ++ clientIdVariable ++ "='your-client-id'",
  "  export " ++ clientSecretVariable ++ "='your-client-secret'", "",
  "Or pass as options:",
  "  " ++ setupCommand ++ " --client-id=... --client-secret=..."]

/-- The callback address of a setting. -/
def Setting.callbackAddress (s : Setting) : String :=
  (s.environment callbackVariable).getD usualCallbackAddress

/-- The outcome of a request for consent. -/
def askConsent (s : Setting) (client : Client) (folder : TokenFolder) : Outcome :=
  let (course, after) := folder.authorize
    ⟨client, .ofTexts usualScopes, s.callbackAddress, s.state⟩ s.surroundings s.now
  let ending :=
    match course.outcome with
    | .error fault => Outcome.saying ["❌ Authentication failed: " ++ fault.message] (.failure after)
    | .ok _ =>
      Outcome.saying
        ["✓ Authentication successful!", storedLine s, "", "Run 'workspace-agent doctor' to verify setup."]
        (.success after)
  { ending.saying (course.steps.filterMap Step.line?) with steps := course.steps }

/-- The outcome for a client of which parts may be missing. -/
def setupFor (s : Setting) (client : Option Client) (folder : TokenFolder) : Outcome :=
  match client with
  | none => Outcome.saying clientHint (.failure folder)
  | some client =>
    Outcome.saying
      ["Starting OAuth authentication flow...", "Browser will open for Google consent...", ""]
      (askConsent s client folder)

/-- Asks for consent and stores the token. The variables of the environment stand in for options that
are not given. -/
def setup (s : Setting) (clientId clientSecret : Option String) (folder : TokenFolder) : Outcome :=
  let client := Client.of? (clientId.or (s.value? clientIdVariable))
    (clientSecret.or (s.value? clientSecretVariable))
  match folder.status serviceName s.now with
  | .error _ => .failure folder
  | .ok .valid =>
    let (shown, answer) := confirm againQuestion s.typed
    let ending : Outcome :=
      match answer with
      | none => .starvation folder
      | some false => .success folder
      | some true => setupFor s client folder
    (ending.writing shown).saying ["✓ Already authenticated!", storedLine s, ""]
  | .ok _ => setupFor s client folder

end WorkspaceTools.Command
