import WorkspaceTools.Consent.Callback
import WorkspaceTools.Token.Store

/-!
# Asking for consent

* `ConsentRequest` is what the user is asked for, and in whose name. `ConsentRequest.run` asks: the
  program listens at the callback address, opens the consent page in the browser, waits for one
  request, and exchanges the code that it brings for a grant. It gives the steps that were taken and the
  outcome.
* `TokenFolder.authorize` asks for consent and stores the token that comes of it.
* What the browser and the service that keeps the accounts do is a `Surroundings`.
-/

namespace WorkspaceTools

namespace Consent

open Text Time

/-- What the program asks the user for when nothing else is said. -/
def usualScopes : List String := [
  "https://www.googleapis.com/auth/spreadsheets",
  "https://www.googleapis.com/auth/gmail.readonly",
  "https://www.googleapis.com/auth/gmail.compose",
  "https://www.googleapis.com/auth/calendar.readonly"]

/-- Where consent is given. -/
def consentAddress : String := "https://accounts.google.com/o/oauth2/auth"

/-- Where the browser comes back when nothing else is said. -/
def usualCallbackAddress : String := "http://127.0.0.1:8789/callback"

/-- The host to listen at when the callback address names none. -/
def usualHost : String := "127.0.0.1"

/-- The port to listen at when the callback address names none. -/
def usualPort : Nat := 8789

/-- The callback path when the callback address has none. -/
def usualPath : String := "/callback"

/-- How long to wait for the browser, in seconds. -/
def patience : Nat := 300

/-- The program as the service that keeps the accounts knows it. -/
structure Client where
  id : String
  secret : String
  deriving DecidableEq, Inhabited

/-- The client with the given id and secret, if neither is missing or empty. -/
def Client.of? (id secret : Option String) : Option Client :=
  match id, secret with
  | some id, some secret => if id = "" ∨ secret = "" then none else some ⟨id, secret⟩
  | _, _ => none

/-- What the user is asked for. -/
structure ConsentRequest where
  client : Client
  scopes : Json
  callbackAddress : String
  /-- A text that only this request has. -/
  state : String

/-- What the consent page is told of a request: that the token has to be renewable, that the user has to
be asked in any case, and the text that only this request has. -/
def ConsentRequest.pageParams (r : ConsentRequest) : List (String × String) :=
  [("access_type", "offline"), ("prompt", "consent"), ("state", r.state)]

/-- Where the program listens, and for which path. -/
structure Listener where
  host : String
  port : Nat
  path : String
  deriving DecidableEq, Inhabited

/-- A number of a port that is given and is not zero. -/
def givenPort? : Option Nat → Option Nat
  | some 0 => none
  | port => port

/-- The listener for a callback address. -/
def Listener.of? (callbackAddress : String) : Except AddressError Listener := do
  let address ← Address.read? callbackAddress
  let port ← address.port?
  return ⟨address.host?.getD usualHost, (givenPort? port).getD usualPort,
    if address.path.isEmpty then usualPath else String.ofList address.path⟩

/-- What happens outside the program while it asks for consent. -/
structure Surroundings where
  /-- The consent page for a request. -/
  pageFor : ConsentRequest → String
  /-- The target of the request with which the browser comes back, if it does so in time. It is the target
  as the server hands it to the handler, which is not with more than one slash at its head. -/
  arrival : Option String
  /-- Whether the server ends with the fault of its handler. Otherwise it reports the fault, and the request
  has brought nothing. -/
  handsOnFaults : Bool := false
  /-- What a code is exchanged for, or why it is refused. -/
  exchange : String → Except String Grant

/-- A step of the program on the way to a grant. -/
inductive Step where
  | prepared (request : ConsentRequest)
  | pageMade (params : List (String × String))
  | listening (host : String) (port : Nat)
  | said (line : String)
  | browserOpened (page : String)
  | waiting (seconds : Nat)
  | replied (page : Page)
  | closed
  | codeExchanged (code : String)

/-- Why there is no token. -/
inductive ConsentFault where
  | noClient
  | address (error : AddressError)
  | refused (error : String)
  | noCode
  | exchange (text : String)
  | rejected (rejection : Rejection)
  | storing (fault : Fault)

/-- The wording of a fault. -/
def ConsentFault.message : ConsentFault → String
  | .noClient =>
    "An OAuth client ID and secret are needed. Pass them explicitly or export GOOGLE_OAUTH_CLIENT_ID "
      ++ "and GOOGLE_OAUTH_CLIENT_SECRET."
  | .address error => error.message
  | .refused error => "OAuth authentication failed: " ++ error
  | .noCode => "No authorization code received from Google"
  | .exchange text => text
  | .rejected rejection => rejection.report
  | .storing fault => fault.message

/-- The steps that were taken, and the outcome. -/
structure Course (α : Type) where
  steps : List Step
  outcome : Except ConsentFault α

/-- The same course with more steps in front. -/
def Course.after {α : Type} (steps : List Step) (c : Course α) : Course α :=
  { c with steps := steps ++ c.steps }

/-- The pages that answer the arriving requests, and what those requests brought. -/
def Listener.serve (l : Listener) (s : Surroundings) : Except AddressError (List Page × Callback) :=
  match s.arrival with
  | none => .ok ([], {})
  | some target =>
    match Callback.receive l.path target {} with
    | .ok (page, brought) => .ok ([page], brought)
    | .error e => if s.handsOnFaults then .error e else .ok ([], {})

/-- What becomes of the outcome of a callback. -/
def settle (s : Surroundings) : Notice → Course Grant
  | .refused error => ⟨[], .error (.refused error)⟩
  | .silent => ⟨[], .error .noCode⟩
  | .granted code => ⟨[.codeExchanged code], (s.exchange code).mapError .exchange⟩

/-- The course from the opened consent page on. -/
def Listener.await (l : Listener) (s : Surroundings) : Course Grant :=
  match l.serve s with
  | .error e => ⟨[.closed], .error (.address e)⟩
  | .ok (pages, brought) =>
    (settle s brought.outcome).after (pages.map .replied ++ [.closed])

/-- The course from the listener on. -/
def ConsentRequest.ask (r : ConsentRequest) (s : Surroundings) (l : Listener) : Course Grant :=
  let page := s.pageFor r
  (l.await s).after [
    .listening l.host l.port,
    .said "Opening browser for Google authorization...",
    .said ("If browser doesn't open, visit: " ++ page),
    .browserOpened page, .waiting patience]

/-- The course of a request for consent. -/
def ConsentRequest.run (r : ConsentRequest) (s : Surroundings) : Course Grant :=
  Course.after [.prepared r, .pageMade r.pageParams]
    (match Listener.of? r.callbackAddress with
      | .error e => ⟨[], .error (.address e)⟩
      | .ok l => r.ask s l)

/-! ## What is told of the steps -/

/-- The line that a step says to the user. -/
def Step.line? : Step → Option String
  | .said line => some line
  | _ => none

/-- The code that a step exchanges. -/
def Step.code? : Step → Option String
  | .codeExchanged code => some code
  | _ => none

end Consent

/-! ## Storing the token -/

open Consent Time

/-- The token of a grant, and the folder in which it is stored. -/
def TokenFolder.accept (grant : Grant) (scopes : Json) (now : DateTime) (folder : TokenFolder) :
    Except ConsentFault (Token × TokenFolder) := do
  let token ← (grant.toToken now scopes).mapError fun
    | .rejected rejection => .rejected rejection
    | .timeOutOfRange => .storing .timeOutOfRange
  let createdAt ← match now.toUtc? with
    | some t => .ok t
    | none => .error (.storing .timeOutOfRange)
  let metadata : TokenMetadata := { serviceName, createdAt }
  let folder ← (folder.store serviceName token metadata).mapError .storing
  return (token, folder)

/-- The course of a request for consent after which the token is stored, and the folder after it. -/
def TokenFolder.authorize (request : ConsentRequest) (s : Surroundings) (now : DateTime)
    (folder : TokenFolder) : Course Token × TokenFolder :=
  let course := request.run s
  match course.outcome.bind fun grant => folder.accept grant request.scopes now with
  | .ok (token, folder) => (⟨course.steps, .ok token⟩, folder)
  | .error fault => (⟨course.steps, .error fault⟩, folder)

/-- The same for a client of which parts may be missing; then nothing is done. -/
def TokenFolder.authorizeAs (client : Option Client) (scopes : Json) (callbackAddress state : String)
    (s : Surroundings) (now : DateTime) (folder : TokenFolder) : Course Token × TokenFolder :=
  match client with
  | none => (⟨[], .error .noClient⟩, folder)
  | some client => folder.authorize ⟨client, scopes, callbackAddress, state⟩ s now

end WorkspaceTools
