import WorkspaceTools.Check.Time

/-!
# Access tokens

* `Token` is an access token with the token that renews it, its expiry and its scopes;
  `TokenMetadata` says where it comes from, and a `TokenRecord` holds both.
* `Token.isExpired?` compares the expiry with a clock, a little early.
* Each has a `check` that reads it from a document and a `toJson` that writes it.
-/

namespace WorkspaceTools

open Number Text Time

/-- An access token. -/
structure Token where
  accessToken : String
  refreshToken : Option String := none
  expiresAt : DateTime
  scopes : List String := []
  tokenType : String := "Bearer"
  deriving DecidableEq, Inhabited

/-- Where a token comes from. -/
structure TokenMetadata where
  serviceName : String
  provider : String := "google"
  createdAt : DateTime
  lastRefreshed : Option DateTime := none
  deriving DecidableEq, Inhabited

/-- A token with its metadata. -/
structure TokenRecord where
  version : Int := 1
  metadata : TokenMetadata
  token : Token
  deriving DecidableEq, Inhabited

/-- The state of the token of a service. -/
inductive TokenStatus where
  | valid | expired | missing | invalid
  deriving DecidableEq, Inhabited

/-- The name of a state. -/
def TokenStatus.name : TokenStatus → String
  | .valid => "valid"
  | .expired => "expired"
  | .missing => "missing"
  | .invalid => "invalid"

/-! ## Expiry -/

/-- The microseconds before its expiry at which a token counts as expired. -/
def expiryMargin : Int := 60 * secondMicros

/-- Whether the token expires at or before the given time and margin. That can be told only if the given
time, and the one the margin later, have a year that counts. -/
def Token.isExpired? (token : Token) (now : DateTime) (margin : Int) : Option Bool := do
  let present ← now.toUtc?
  let limit ← DateTime.ofInstant? (present.instant + margin)
  return token.expiresAt.instant ≤ limit.instant

/-! ## Reading -/

/-- The name of the model of tokens. -/
def tokenModel : String := "OAuthToken"

/-- A token. -/
def Token.check : Json → Checked Token :=
  checkObject tokenModel fun ms =>
    match required "access_token" checkText ms, optional "refresh_token" none (checkNullable checkText) ms,
        required "expires_at" checkTime ms, optional "scopes" [] (checkList checkText) ms,
        optional "token_type" "Bearer" checkText ms with
    | .ok access, .ok refresh, .ok expires, .ok scopes, .ok type =>
      .ok ⟨access, refresh, expires, scopes, type⟩
    | access, refresh, expires, scopes, type =>
      .error (access.issues ++ refresh.issues ++ expires.issues ++ scopes.issues ++ type.issues)

/-- Metadata; a missing time of creation is the present. -/
def TokenMetadata.check (now : DateTime) : Json → Checked TokenMetadata :=
  checkObject "TokenMetadata" fun ms =>
    match required "service_name" checkText ms, optional "provider" "google" checkText ms,
        optional "created_at" now checkTime ms,
        optional "last_refreshed" none (checkNullable checkTime) ms with
    | .ok service, .ok provider, .ok created, .ok refreshed =>
      .ok ⟨service, provider, created, refreshed⟩
    | service, provider, created, refreshed =>
      .error (service.issues ++ provider.issues ++ created.issues ++ refreshed.issues)

/-- A token with its metadata. -/
def TokenRecord.check (now : DateTime) : Json → Checked TokenRecord :=
  checkObject "StoredToken" fun ms =>
    match optional "version" 1 checkInt ms, required "metadata" (TokenMetadata.check now) ms,
        required "token" Token.check ms with
    | .ok version, .ok metadata, .ok token => .ok ⟨version, metadata, token⟩
    | version, metadata, token => .error (version.issues ++ metadata.issues ++ token.issues)

/-! ## Writing -/

/-- All members of a token, times written by the given function. -/
def Token.toJson (time : DateTime → String) (t : Token) : Json :=
  .obj [("access_token", .str t.accessToken), ("refresh_token", Json.ofText? t.refreshToken),
    ("expires_at", .str (time t.expiresAt)), ("scopes", .ofTexts t.scopes),
    ("token_type", .str t.tokenType)]

/-- All members of metadata, times written by the given function. -/
def TokenMetadata.toJson (time : DateTime → String) (m : TokenMetadata) : Json :=
  .obj [("service_name", .str m.serviceName), ("provider", .str m.provider),
    ("created_at", .str (time m.createdAt)), ("last_refreshed", Json.ofText? (m.lastRefreshed.map time))]

/-- All members of a record, times written by the given function. -/
def TokenRecord.toJson (time : DateTime → String) (r : TokenRecord) : Json :=
  .obj [("version", .int r.version), ("metadata", r.metadata.toJson time),
    ("token", r.token.toJson time)]

end WorkspaceTools
