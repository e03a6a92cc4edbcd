import WorkspaceTools.Check.Rejection
import WorkspaceTools.Token.Record

/-!
# Grants

A `Grant` is what the service that keeps the accounts hands out: a token, perhaps the token that
renews it, and perhaps an expiry. `Grant.toToken` makes it a token for some scopes; without an expiry
it lasts an hour, and an expiry without an offset is universal time. `GrantFault` says why it makes none.
-/

namespace WorkspaceTools

open Number Text Time

/-- What was granted. -/
structure Grant where
  token : Json
  refreshToken : Json := .null
  expiry : Option DateTime := none
  deriving Inhabited

/-- How long a token lasts when the grant does not tell, in microseconds. -/
def usualLifetime : Int := 3600 * secondMicros

/-- Why a grant makes no token. -/
inductive GrantFault where
  | rejected (rejection : Rejection)
  /-- The token would expire after the last year. -/
  | timeOutOfRange

/-- When a grant expires, if that is in a year that counts. -/
def Grant.expiresAt? (grant : Grant) (now : DateTime) : Option DateTime :=
  match grant.expiry with
  | some t => some t.assumeUtc
  | none => do
    let present ← now.toUtc?
    DateTime.ofInstant? (present.instant + usualLifetime)

/-- A grant for some scopes as the document that a token is read from. -/
def Grant.document (grant : Grant) (scopes : Json) : Json :=
  .obj [("access_token", grant.token), ("refresh_token", grant.refreshToken), ("scopes", scopes)]

/-- The token of a grant that expires at the given time. -/
def Grant.check (grant : Grant) (expiresAt : DateTime) (scopes : Json) : Checked Token :=
  match (checkText grant.token).under (.member "access_token"),
      (checkNullable checkText grant.refreshToken).under (.member "refresh_token"),
      (checkList checkText scopes).under (.member "scopes") with
  | .ok access, .ok refresh, .ok scopes => .ok ⟨access, refresh, expiresAt, scopes, "Bearer"⟩
  | access, refresh, scopes => .error (access.issues ++ refresh.issues ++ scopes.issues)

/-- The token of a grant. -/
def Grant.toToken (grant : Grant) (now : DateTime) (scopes : Json) : Except GrantFault Token :=
  match grant.expiresAt? now with
  | none => .error .timeOutOfRange
  | some expiresAt =>
    (grant.check expiresAt scopes).mapError fun issues =>
      .rejected ⟨tokenModel, grant.document scopes, issues⟩

/-- Where tokens are renewed. -/
def tokenAddress : String := "https://oauth2.googleapis.com/token"

/-- What the service is asked to renew. -/
structure RenewalRequest where
  token : String
  refreshToken : Option String
  tokenAddress : String
  scopes : List String
  clientId : Option String
  clientSecret : Option String
  deriving DecidableEq

/-- The request that renews a token. -/
def Token.renewalRequest (token : Token) : RenewalRequest :=
  ⟨token.accessToken, token.refreshToken, tokenAddress, token.scopes, none, none⟩

/-- A request has all that the service needs to renew a token. -/
def RenewalRequest.isComplete (r : RenewalRequest) : Bool :=
  r.refreshToken.isSome && r.clientId.isSome && r.clientSecret.isSome

/-- The members of a request that are shown. -/
def RenewalRequest.toJson (r : RenewalRequest) : Json :=
  .obj [("token", .str r.token), ("refresh_token", Json.ofText? r.refreshToken),
    ("token_uri", .str r.tokenAddress), ("scopes", .ofTexts r.scopes)]

end WorkspaceTools
