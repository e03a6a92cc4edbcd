import WorkspaceTools.Exchange.Program
import WorkspaceTools.Token.Store

/-!
# Sessions

* `Session` is where programs run: the folder of tokens, the clock, the service that keeps the
  accounts, the answers that the other services will give, and the file system in which files are saved.
  It notes the requests that were sent and the files that were saved.
* `Session.send` sends a request with an access token, which is selected anew each time; the
  connection is opened with the first request.
* `Program.run` runs a program in a session.
-/

namespace WorkspaceTools

open Text Time

/-- What comes back for a request. -/
inductive Reply where
  | answer (status : Nat) (body : Except BodyFault Json)
  /-- Nothing comes back; the words for it. -/
  | broken (text : String)

/-- The reply of a service that was told nothing else. -/
def Reply.empty : Reply := .answer 200 (.ok (.obj []))

/-- A status that reports success. -/
def isSuccess (status : Nat) : Bool := 200 ≤ status && status < 300

/-- The document of a reply. -/
def Reply.document : Reply → Except Fault Json
  | .broken text => .error (.transport text)
  | .answer status body =>
    if isSuccess status then body.mapError BodyFault.fault else .error (.refused status body)

/-- A request that was sent, and the token that it carried. -/
structure SentRequest where
  request : Request
  token : String

/-- A file that was saved. -/
structure SavedFile where
  path : String
  content : Bytes
  deriving DecidableEq

/-- Where programs run. Requests and files are noted last one first. -/
structure Session where
  folder : TokenFolder := {}
  now : DateTime
  accounts : Accounts
  replies : List Reply := []
  /-- The path under which the file system saves a new file whose name begins and ends as given, or the
  words with which it refuses to. -/
  pathFor : String → String → Except String String
  sent : List SentRequest := []
  saved : List SavedFile := []
  opened : Nat := 0
  closed : Nat := 0

namespace Session

/-- A connection is open. -/
def isConnected (s : Session) : Bool := s.closed < s.opened

/-- The session with a connection. -/
def connect (s : Session) : Session := if s.isConnected then s else { s with opened := s.opened + 1 }

/-- The session without a connection. -/
def disconnect (s : Session) : Session := { s with closed := s.opened }

/-- The next reply of the services, and the session after it. -/
def receive (s : Session) : Reply × Session :=
  match s.replies with
  | [] => (.empty, s)
  | r :: rest => (r, { s with replies := rest })

/-- The outcome of a request. Without an access token nothing is sent. -/
def send (request : Request) (s : Session) : Except Fault Json × Session :=
  match s.folder.accessToken s.accounts s.now with
  | .error e => (.error e, s)
  | .ok (token, folder) =>
    let s := { s with folder }.connect
    let (reply, s) := { s with sent := ⟨request, token⟩ :: s.sent }.receive
    (reply.document, s)

/-- The path of a saved file, and the session with it. A refusal saves nothing. -/
def save (start ending : String) (content : Bytes) (s : Session) : Except Fault String × Session :=
  match s.pathFor start ending with
  | .ok path => (.ok path, { s with saved := ⟨path, content⟩ :: s.saved })
  | .error words => (.error (.unsaved words), s)

end Session

/-- The outcome of a program in a session, and the session after it. -/
def Program.run {α : Type} : Program α → Session → Except Fault α × Session
  | .done a, s => (.ok a, s)
  | .fail e, s => (.error e, s)
  | .send request next, s =>
    let (outcome, s) := s.send request
    (next outcome).run s
  | .save start ending content next, s =>
    match s.save start ending content with
    | (.ok path, s) => (next path).run s
    | (.error e, s) => (.error e, s)
  | .clock next, s => (next s.now).run s

end WorkspaceTools
