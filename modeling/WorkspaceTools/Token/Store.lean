import WorkspaceTools.Fault
import WorkspaceTools.Json.Printer
import WorkspaceTools.Json.Wide
import WorkspaceTools.Token.Grant

/-!
# Stored tokens

* `TokenFolder` is the folder with the file of tokens. The file is an object with one record for
  every service. Its texts, the names of services among them, are of any code units, so that what is
  written back is what was read.
* `TokenFolder.records` reads the file: one that is missing, no document, or no object counts as
  empty, but bytes that are no text and integers and depths out of bounds are faults.
* `TokenFolder.store`, `TokenFolder.retrieve` and `TokenFolder.status` put a record, get it back, and
  tell its state. `TokenFolder.renewIfNeeded` renews an expired token, and `TokenFolder.accessToken`
  selects the token that requests carry.
-/

namespace WorkspaceTools

open Number Text Time

/-- The file of tokens: its bytes, and whether only its owner may read it. -/
structure TokenFile where
  bytes : Bytes
  ownerOnly : Bool
  deriving DecidableEq

/-- How many lists and objects stand in one another in a file of records: the file, a record, its token and
the scopes of the token. -/
def recordDepth : Nat := 4

theorem recordDepth_le_usual : recordDepth ≤ 976 := by decide

/-- The folder of the file, and whether only its owner may enter it. How deep the file is read depends on
who reads it, but it is deep enough for records. -/
structure TokenFolder where
  file : Option TokenFile := none
  ownerOnly : Bool := false
  depth : Nat := 976
  takesRecords : recordDepth ≤ depth := by exact recordDepth_le_usual
  deriving DecidableEq

namespace TokenFolder

/-- The folder once it has been opened. -/
def opened (folder : TokenFolder) : TokenFolder := { folder with ownerOnly := true }

/-- The folder with a file from elsewhere; an existing file keeps its mode. -/
def overwrite (bytes : Bytes) (folder : TokenFolder) : TokenFolder :=
  { folder with file := some ⟨bytes, (folder.file.map TokenFile.ownerOnly).getD false⟩ }

/-! ## Records -/

/-- The records in the bytes of a file that is read so deep. -/
def recordsOf (depth : Nat) (bytes : Bytes) : Except Fault (Members WideText) :=
  match decodeUtf8? bytes with
  | .error e => .error (.brokenText e)
  | .ok text =>
    match Json.read? depth text with
    | .ok (.obj ms) => .ok ms
    | .ok _ => .ok []
    | .error e => if e.isMalformed then .ok [] else .error (.reading e)

/-- The records of all services. -/
def records (folder : TokenFolder) : Except Fault (Members WideText) :=
  match folder.file with
  | none => .ok []
  | some file => recordsOf folder.depth file.bytes

/-- The folder with other records. -/
def save (records : Members WideText) (folder : TokenFolder) : TokenFolder :=
  { folder.opened with file := some ⟨encodeUtf8 (Json.obj records).pretty, true⟩ }

/-- The folder with a record for a service; the records of other services stay. -/
def store (service : WideText) (token : Token) (metadata : TokenMetadata) (folder : TokenFolder) :
    Except Fault TokenFolder := do
  let records ← folder.records
  let record : TokenRecord := ⟨1, metadata, token⟩
  return folder.save (records.set service (record.toJson DateTime.documentText).widen)

/-- The record of a service, if there is one that can be read. -/
def retrieve (service : WideText) (now : DateTime) (folder : TokenFolder) :
    Except Fault (Option TokenRecord) := do
  let records ← folder.records
  match records.find? service with
  | none => return none
  | some v => return (TokenRecord.check now v.narrow).toOption

/-- Whether the token of a record has expired, or is about to. -/
def hasExpired (record : TokenRecord) (now : DateTime) : Except Fault Bool :=
  match record.token.isExpired? now expiryMargin with
  | some expired => .ok expired
  | none => .error .timeOutOfRange

/-- The state of the token of a service. -/
def status (service : WideText) (now : DateTime) (folder : TokenFolder) : Except Fault TokenStatus := do
  match ← folder.retrieve service now with
  | some record => return if ← hasExpired record now then .expired else .valid
  | none =>
    let records ← folder.records
    return if (records.find? service).isSome then .invalid else .missing

/-- The state of the token and its record, unless it is missing. -/
def statusAndRecord (service : WideText) (now : DateTime) (folder : TokenFolder) :
    Except Fault (TokenStatus × Option TokenRecord) := do
  let status ← folder.status service now
  let record ← if status = .missing then pure none else folder.retrieve service now
  return (status, record)

end TokenFolder

/-! ## Renewal -/

/-- How the service that keeps the accounts answers a request for renewal. -/
inductive RenewalAnswer where
  | refused (text : String)
  /-- A new token; without a new token for renewals the old one stays. -/
  | granted (token : Json) (refreshToken : Option Json) (expiry : Option DateTime)
  deriving Inhabited

/-- The service that keeps the accounts. -/
abbrev Accounts := RenewalRequest → RenewalAnswer

/-- What is said of a request that is not complete. -/
def incompleteRequest : String :=
  "The credentials do not contain the necessary fields need to refresh the access token. "
    ++ "You must specify refresh_token, token_uri, client_id, and client_secret."

/-- A service that refuses every request that is not complete. -/
def strictAccounts (endpoint : Accounts) : Accounts := fun request =>
  if request.isComplete then endpoint request else .refused incompleteRequest

/-- The text of a token for renewals, or null. -/
def RenewalRequest.refreshJson (request : RenewalRequest) : Json := Json.ofText? request.refreshToken

/-- A grant that makes no token. -/
def GrantFault.fault : GrantFault → Fault
  | .rejected rejection => .issues rejection.issues
  | .timeOutOfRange => .timeOutOfRange

/-- The token that a request gets. -/
def RenewalRequest.renew (request : RenewalRequest) (accounts : Accounts) (now : DateTime) :
    Except Fault Token :=
  match accounts request with
  | .refused text => .error (.renewal text)
  | .granted token refresh expiry =>
    (Grant.toToken ⟨token, refresh.getD request.refreshJson, expiry⟩ now
      (.ofTexts request.scopes)).mapError GrantFault.fault

namespace TokenFolder

/-- The token of the program, renewed and stored if it has expired. There is none without a record, and
none where an expired token cannot be renewed. -/
def renewIfNeeded (accounts : Accounts) (now : DateTime) (folder : TokenFolder) :
    Except Fault (Option Token × TokenFolder) := do
  match ← folder.retrieve serviceName now with
  | none => return (none, folder)
  | some record =>
    if !(← hasExpired record now) then return (some record.token, folder)
    else if record.token.refreshToken.isNone then return (none, folder)
    else
      let token ← record.token.renewalRequest.renew accounts now
      let folder ← folder.store serviceName token { record.metadata with lastRefreshed := some now }
      return (some token, folder)

/-- The token that requests carry. -/
def accessToken (accounts : Accounts) (now : DateTime) (folder : TokenFolder) :
    Except Fault (String × TokenFolder) := do
  match ← folder.status serviceName now with
  | .missing => throw (.token .missing)
  | .invalid => throw (.token .invalid)
  | .expired =>
    match ← folder.renewIfNeeded accounts now with
    | (some token, folder) => return (token.accessToken, folder)
    | (none, _) => throw (.token .notRenewable)
  | .valid =>
    match ← folder.retrieve serviceName now with
    | some record => return (record.token.accessToken, folder)
    | none => throw (.token .lost)

end TokenFolder

end WorkspaceTools
