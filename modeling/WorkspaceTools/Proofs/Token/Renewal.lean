import WorkspaceTools.Proofs.Token.Store

/-!
# Renewed tokens

What `TokenFolder.renewIfNeeded` does with the token of the program, at every reading of the clock and for
every answer of the service that keeps the accounts.

* `Token.isExpired?_of_lt` and `Token.isExpired?_of_le` tell when a token has expired, and that this cannot
  be told in the last minute of year 9999.
* `RenewalAnswer.IsUsual` is what the service answers as a rule. `Renewal` is a token made from such an
  answer (`RenewalRequest.renew_of_usual`).
* `TokenFolder.IsRenewed` says what the file holds once that token is stored
  (`TokenFolder.renewal_of_ok`).
* `TokenFolder.RenewsRecord` collects how a renewal comes out where there is a record
  (`TokenFolder.renewal_spec`).
-/

namespace WorkspaceTools

open Json Time

/-! ## Expiry -/

section

variable {now : DateTime} {margin : Int}

theorem Token.isExpired?_of_le (hnow : now.IsClock) (h : endOfYears ≤ now.instant + margin)
    (token : Token) : token.isExpired? now margin = none := by
  obtain ⟨u, hu, hinstant⟩ := hnow.toUtc?_eq_some
  simp only [Token.isExpired?, hu, hinstant, DateTime.ofInstant?_eq_none h, Option.bind_eq_bind,
    Option.bind_some, Option.bind_none]

theorem Token.isExpired?_of_lt (hnow : now.IsClock) (hm : 0 ≤ margin)
    (h : now.instant + margin < endOfYears) (token : Token) :
    token.isExpired? now margin = some (decide (token.expiresAt.instant ≤ now.instant + margin)) := by
  obtain ⟨u, hu, hinstant⟩ := hnow.toUtc?_eq_some
  obtain ⟨limit, hlimit, hlater, -⟩ := hnow.exists_later hm h
  simp only [Token.isExpired?, hu, hinstant, hlimit, hlater, Option.bind_eq_bind, Option.bind_some,
    Option.pure_def]

theorem Token.isExpired?_of_fresh (hnow : now.IsClock) (hyears : now.instant + expiryMargin < endOfYears)
    {token : Token} (hfresh : now.instant + expiryMargin < token.expiresAt.instant) :
    token.isExpired? now expiryMargin = some false := by
  rw [Token.isExpired?_of_lt hnow (by decide) hyears, decide_eq_false (Int.not_le.2 hfresh)]

theorem Token.isExpired?_of_expired (hnow : now.IsClock)
    (hyears : now.instant + expiryMargin < endOfYears) {token : Token}
    (hexpired : token.expiresAt.instant ≤ now.instant + expiryMargin) :
    token.isExpired? now expiryMargin = some true := by
  rw [Token.isExpired?_of_lt hnow (by decide) hyears, decide_eq_true hexpired]

end

/-- The record of a token that replaces the one of `record` at a reading of the clock. -/
def TokenRecord.renewed (record : TokenRecord) (new : Token) (now : DateTime) : TokenRecord :=
  ⟨1, { record.metadata with lastRefreshed := some now }, new⟩

/-! ## Grants -/

/-- What the service that keeps the accounts answers as a rule: a text of refusal, or a text as the new
token, a text or nothing as the token that renews it, and an expiry that can be written in full or none. -/
def RenewalAnswer.IsUsual : RenewalAnswer → Prop
  | .refused _ => True
  | .granted token refresh expiry =>
    (∃ access, token = .str access) ∧ (∀ v, refresh = some v → ∃ s, v = Json.ofText? s) ∧
      ∀ t, expiry = some t → t.IsWritable

/-- The token `new` is the token `old` renewed by a grant at a reading of the clock: the scopes are kept,
and so is the token for renewals if the grant has no other one. The expiry is that of the grant, in
universal time where it has no offset; without one it is an hour from now. -/
structure Renewal (old new : Token) (access : Json) (refresh : Option Json) (expiry : Option DateTime)
    (now : DateTime) : Prop where
  access : access = .str new.accessToken
  refresh : refresh.getD (Json.ofText? old.refreshToken) = Json.ofText? new.refreshToken
  scopes : new.scopes = old.scopes
  type : new.tokenType = "Bearer"
  given : ∀ t, expiry = some t → new.expiresAt = t.assumeUtc
  usual : expiry = none → new.expiresAt.instant = now.instant + usualLifetime
  aware : new.expiresAt.offset.isSome
  writable : new.IsWritable

section

variable {now : DateTime}

/-- The expiry of a grant. -/
theorem Grant.expiresAt?_eq_some (hnow : now.IsClock) (grant : Grant)
    (hgrant : ∀ t, grant.expiry = some t → t.IsWritable)
    (h : grant.expiry.isSome ∨ now.instant + usualLifetime < endOfYears) :
    ∃ t, grant.expiresAt? now = some t ∧ t.IsWritable ∧ t.offset.isSome ∧
      (∀ u, grant.expiry = some u → t = u.assumeUtc) ∧
      (grant.expiry = none → t.instant = now.instant + usualLifetime) := by
  unfold Grant.expiresAt?
  cases hexpiry : grant.expiry with
  | some t =>
    refine ⟨t.assumeUtc, rfl, (hgrant t hexpiry).assumeUtc, t.offset_assumeUtc, ?_, ?_⟩
    · rintro u ⟨rfl⟩
      rfl
    · rintro ⟨⟩
  | none =>
    rw [hexpiry] at h
    obtain ⟨u, hu, hinstant⟩ := hnow.toUtc?_eq_some
    obtain ⟨t, ht, hlater, hoffset, hwritable⟩ :=
      hnow.exists_later (by decide) (h.resolve_left (by simp))
    refine ⟨t, ?_, hwritable, ?_, ?_, fun _ => hlater⟩
    · simp only [hu, hinstant, ht, Option.bind_eq_bind, Option.bind_some]
    · rw [hoffset]
      rfl
    · rintro u ⟨⟩

/-- A grant of texts makes a token. -/
theorem Grant.toToken_texts {access : String} {refresh : Option String} {expiry : Option DateTime}
    {t : DateTime} (h : Grant.expiresAt? ⟨.str access, Json.ofText? refresh, expiry⟩ now = some t)
    (scopes : List String) :
    Grant.toToken ⟨.str access, Json.ofText? refresh, expiry⟩ now (.ofTexts scopes) =
      .ok ⟨access, refresh, t, scopes, "Bearer"⟩ := by
  unfold Grant.toToken
  rw [h]
  simp only [Grant.check, checkText, checkNullable_ofText?, checkList_ofTexts, Checked.under,
    mapError_ok]

variable {accounts : Accounts} {old : Token} {access : Json} {refresh : Option Json}
  {expiry : Option DateTime}

/-- A usual grant renews the token. -/
theorem RenewalRequest.renew_of_usual (hnow : now.IsClock)
    (h : accounts old.renewalRequest = .granted access refresh expiry)
    (husual : (accounts old.renewalRequest).IsUsual)
    (hyears : expiry.isSome ∨ now.instant + usualLifetime < endOfYears) :
    ∃ new, old.renewalRequest.renew accounts now = .ok new ∧
      Renewal old new access refresh expiry now := by
  rw [h] at husual
  obtain ⟨⟨text, rfl⟩, hrefresh, hexpiry⟩ := husual
  obtain ⟨next, hnext⟩ : ∃ next, refresh.getD old.renewalRequest.refreshJson = Json.ofText? next := by
    cases refresh with
    | none => exact ⟨_, rfl⟩
    | some v => exact hrefresh v rfl
  obtain ⟨t, ht, hwritable, haware, hgiven, hnone⟩ :=
    Grant.expiresAt?_eq_some hnow ⟨.str text, Json.ofText? next, expiry⟩ hexpiry hyears
  refine ⟨⟨text, next, t, old.scopes, "Bearer"⟩, ?_, ?_⟩
  · have hscopes : old.renewalRequest.scopes = old.scopes := rfl
    simp only [RenewalRequest.renew, h, hnext, hscopes]
    rw [Grant.toToken_texts ht old.scopes, mapError_ok]
  · exact ⟨rfl, hnext, rfl, rfl, hgiven, hnone, haware, hwritable⟩

theorem RenewalRequest.renew_of_refused {text : String}
    (h : accounts old.renewalRequest = .refused text) :
    old.renewalRequest.renew accounts now = .error (.renewal text) := by
  simp only [RenewalRequest.renew, h]

end

namespace TokenFolder

variable {folder : TokenFolder} {ms : Members WideText} {now : DateTime} {record : TokenRecord}

/-! ## Records that were found -/

/-- A file with members is an object of them. -/
theorem holds_of_records (h : folder.records = .ok ms) (hms : ms ≠ []) : folder.Holds ms := by
  unfold records at h
  unfold Holds
  cases hfile : folder.file with
  | none =>
    rw [hfile] at h
    cases h
    rfl
  | some file =>
    rw [hfile] at h
    simp only [recordsOf] at h
    split at h
    · cases h
    · rename_i text htext
      refine ⟨text, htext, ?_⟩
      split at h
      · rename_i hread
        cases h
        exact hread
      · cases h
        exact absurd rfl hms
      · split at h
        · cases h
          exact absurd rfl hms
        · cases h

/-- What a file is read as can be written, and be read again. -/
theorem isReadable_of_records (h : folder.records = .ok ms) : IsReadable folder.depth (.obj ms) := by
  cases ms with
  | nil => exact isReadable_noMembers folder
  | cons m ms => exact (holds_of_records h (List.cons_ne_nil m ms)).isReadable

theorem retrieve_eq_some {service : WideText} (h : folder.records = .ok ms)
    (hretrieve : folder.retrieve service now = .ok (some record)) :
    ∃ v, ms.find? service = some v ∧ TokenRecord.check now v.narrow = .ok record := by
  rw [retrieve, h, ok_bind] at hretrieve
  split at hretrieve
  · cases hretrieve
  · rename_i v hfind
    refine ⟨v, hfind, ?_⟩
    cases hcheck : TokenRecord.check now v.narrow with
    | ok r =>
      rw [hcheck] at hretrieve
      cases hretrieve
      rfl
    | error issues =>
      rw [hcheck] at hretrieve
      cases hretrieve

theorem retrieve_of_check {service : WideText} (h : folder.records = .ok ms) {v : Json WideText}
    (hfind : ms.find? service = some v) (hcheck : TokenRecord.check now v.narrow = .ok record) :
    folder.retrieve service now = .ok (some record) := by
  simp only [retrieve, h, ok_bind, hfind, hcheck, pure_eq_ok]
  rfl

/-- The file is read without a fault. -/
theorem retrieve_of_records (h : folder.records = .ok ms) (service : WideText) (now : DateTime) :
    ∃ found, folder.retrieve service now = .ok found := by
  rw [retrieve, h, ok_bind]
  cases ms.find? service with
  | none => exact ⟨_, rfl⟩
  | some v => exact ⟨_, rfl⟩

/-! ## One renewal -/

/-- How a renewal comes out, and the folder after it. A fault leaves the folder as it was. -/
def renewal (accounts : Accounts) (now : DateTime) (folder : TokenFolder) :
    Except Fault (Option Token) × TokenFolder :=
  match folder.renewIfNeeded accounts now with
  | .ok (token, after) => (.ok token, after)
  | .error e => (.error e, folder)

variable {accounts : Accounts}

/-- An expired token with a token for renewals is renewed, and stored if that succeeds. -/
theorem renewIfNeeded_of_expired (h : folder.retrieve serviceName now = .ok (some record))
    (he : record.token.isExpired? now expiryMargin = some true)
    (hr : record.token.refreshToken.isSome) (accounts : Accounts) :
    folder.renewIfNeeded accounts now = (do
      let token ← record.token.renewalRequest.renew accounts now
      let after ← folder.store serviceName token { record.metadata with lastRefreshed := some now }
      return (some token, after)) := by
  have hne : record.token.refreshToken ≠ none := Option.isSome_iff_ne_none.1 hr
  simp [renewIfNeeded, h, hasExpired_of_isExpired? he, hne]

/-- A renewal that fails leaves the folder as it was. -/
theorem renewal_of_error (h : folder.retrieve serviceName now = .ok (some record))
    (he : record.token.isExpired? now expiryMargin = some true)
    (hr : record.token.refreshToken.isSome) {e : Fault}
    (hrenew : record.token.renewalRequest.renew accounts now = .error e) :
    folder.renewal accounts now = (.error e, folder) := by
  rw [renewal, renewIfNeeded_of_expired h he hr, hrenew]
  rfl

/-- The file of a folder after a renewal: the record has the new token, and is otherwise the one it was but
for the time of the last renewal. The records of other services stay. -/
structure IsRenewed (ms : Members WideText) (record : TokenRecord) (now : DateTime) (new : Token)
    (after : TokenFolder) : Prop where
  stored : ∀ later, after.retrieve serviceName later =
    .ok (some ⟨1, { record.metadata with lastRefreshed := some now }, new⟩)
  others : ∃ ms', after.Holds ms' ∧ ∀ service : WideText, service ≠ serviceName →
    ms'.find? service = ms.find? service

/-- A token for the service of a record is stored with the metadata of that record. -/
theorem store_renewed (hrecords : folder.records = .ok ms) (hnow : now.IsClock)
    (h : folder.retrieve serviceName now = .ok (some record)) (new : Token) :
    ∃ after, folder.store serviceName new { record.metadata with lastRefreshed := some now } = .ok after ∧
      after.Holds (ms.set serviceName ((record.renewed new now).toJson DateTime.documentText).widen) ∧
      (new.IsWritable → ∀ later, after.retrieve serviceName later = .ok (some (record.renewed new now))) := by
  obtain ⟨v, hfind, hcheck⟩ := retrieve_eq_some hrecords h
  have hholds : folder.Holds ms := by
    refine holds_of_records hrecords ?_
    rintro rfl
    cases hfind
  have hmetadata := (TokenRecord.ensures_check hnow.isWritable v.narrow record hcheck).2
  let call : StoreCall := ⟨serviceName, new, { record.metadata with lastRefreshed := some now }⟩
  obtain ⟨after, hstore, hafter⟩ := holds_storeCall hholds call
  refine ⟨after, hstore, hafter, fun hnew later => ?_⟩
  have hcall : call.IsWritable := by
    refine ⟨hnew, hmetadata.created, ?_⟩
    rintro t ⟨rfl⟩
    exact hnow.isWritable
  rw [retrieve_of_holds hafter, Members.find?_set_self, Option.bind_some, call.check_document hcall]
  rfl

theorem renewal_of_ok (hrecords : folder.records = .ok ms) (hnow : now.IsClock)
    (h : folder.retrieve serviceName now = .ok (some record))
    (he : record.token.isExpired? now expiryMargin = some true)
    (hr : record.token.refreshToken.isSome) {new : Token}
    (hrenew : record.token.renewalRequest.renew accounts now = .ok new) (hnew : new.IsWritable) :
    ∃ after, folder.renewal accounts now = (.ok (some new), after) ∧
      IsRenewed ms record now new after := by
  obtain ⟨after, hstore, hafter, hread⟩ := store_renewed hrecords hnow h new
  refine ⟨after, ?_, hread hnew, _, hafter, fun service hne => Members.find?_set_of_ne _ _ hne.symm⟩
  rw [renewal, renewIfNeeded_of_expired h he hr, hrenew, ok_bind, hstore]
  rfl

/-! ## Every renewal -/

/-- A record whose token expired at the beginning of January 2030. -/
def staleCall : StoreCall where
  service := serviceName
  token := { accessToken := "old", refreshToken := some "again", expiresAt := dayOf2030 1,
             scopes := ["mail"] }
  metadata := { serviceName := serviceName, createdAt := dayOf2030 1 }

/-- The folder with that record. -/
def staleFolder : TokenFolder := save [(serviceName, staleCall.document)] {}

/-- A service that grants a token with an expiry or without one. -/
def newToken (expiry : Option DateTime) : Accounts := fun _ => .granted (.str "new") none expiry

theorem records_staleFolder : staleFolder.records = .ok [(serviceName, staleCall.document)] :=
  (holds_save (isReadable_set_document (isReadable_noMembers {}) staleCall)).records

theorem isWritable_staleCall : staleCall.IsWritable where
  token := isWritable_dayOf2030 (by decide)
  metadata := ⟨isWritable_dayOf2030 (by decide), by rintro t ⟨⟩⟩

theorem retrieve_staleFolder (now : DateTime) :
    staleFolder.retrieve serviceName now = .ok (some staleCall.record) :=
  retrieve_save_set (isReadable_noMembers {}) isWritable_staleCall now

theorem isClock_dayOf2030 : (dayOf2030 2).IsClock :=
  ⟨⟨⟨by decide, by decide, by decide⟩, by decide, by decide, by decide, by decide⟩, rfl⟩

theorem isUsual_newToken {expiry : Option DateTime} (h : ∀ t, expiry = some t → t.IsWritable)
    (request : RenewalRequest) : (newToken expiry request).IsUsual :=
  ⟨⟨_, rfl⟩, by rintro v ⟨⟩, h⟩

end TokenFolder

end WorkspaceTools
