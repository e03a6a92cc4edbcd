import WorkspaceTools.Proofs.Token.Renewal

/-!
# Selected tokens

Which token requests carry, at every reading of the clock and for every answer of the service that keeps
the accounts. The file is read up to three times on the way; the verdicts agree.

* Without a record, or with one that cannot be read, nothing is selected and nothing is asked
  (`TokenFolder.accessToken_of_absent`, `TokenFolder.accessToken_of_unreadable`).
* A stored token is selected while it is fresh (`TokenFolder.SelectsStored`). An expired one is renewed, and
  then the new token is selected, which is in the file from then on (`TokenFolder.SelectsRenewed`).
* `TokenFolder.accessToken_spec`: no other token is ever selected.
-/

namespace WorkspaceTools

open Json Time

/-! ## Renewals that fail -/

section

variable {request : RenewalRequest} {accounts : Accounts} {now : DateTime}

/-- A token that is not renewed was refused, or made from what is no token, or would expire too late. -/
theorem RenewalRequest.renew_eq_error {e : Fault} (h : request.renew accounts now = .error e) :
    (∃ text, e = .renewal text) ∨ (∃ issues, e = .issues issues) ∨ e = .timeOutOfRange := by
  unfold RenewalRequest.renew at h
  split at h
  · cases h
    exact .inl ⟨_, rfl⟩
  · rename_i token refresh expiry _
    cases hgrant : Grant.toToken ⟨token, refresh.getD request.refreshJson, expiry⟩ now
        (.ofTexts request.scopes) with
    | ok new =>
      rw [hgrant] at h
      cases h
    | error fault =>
      rw [hgrant] at h
      cases h
      cases fault with
      | rejected rejection => exact .inr (.inl ⟨_, rfl⟩)
      | timeOutOfRange => exact .inr (.inr rfl)

/-- A token expires when its grant does. -/
theorem Grant.expiresAt?_of_toToken {grant : Grant} {scopes : Json} {new : Token}
    (h : grant.toToken now scopes = .ok new) : grant.expiresAt? now = some new.expiresAt := by
  unfold Grant.toToken at h
  split at h
  · cases h
  · rename_i t ht
    have hchecked := mapError_eq_ok.1 h
    unfold Grant.check at hchecked
    split at hchecked
    · cases hchecked
      exact ht
    · cases hchecked

/-- The expiry of a token can be written in full if that of its grant can. -/
theorem Grant.isWritable_of_toToken (hnow : now.IsClock) {grant : Grant} {scopes : Json} {new : Token}
    (h : grant.toToken now scopes = .ok new) (hexpiry : ∀ t, grant.expiry = some t → t.IsWritable) :
    new.IsWritable := by
  have hexpires := Grant.expiresAt?_of_toToken h
  unfold Grant.expiresAt? at hexpires
  cases hgrant : grant.expiry with
  | some t =>
    rw [hgrant] at hexpires
    have hnew : t.assumeUtc = new.expiresAt := Option.some.inj hexpires
    rw [Token.IsWritable, ← hnew]
    exact (hexpiry t hgrant).assumeUtc
  | none =>
    obtain ⟨u, hu, -⟩ := hnow.toUtc?_eq_some
    simp only [hgrant, hu, Option.bind_eq_bind, Option.bind_some] at hexpires
    exact (DateTime.ofInstant?_eq_some hexpires).2.2

/-- The expiry of a renewed token can be written in full if that of the grant can. -/
theorem RenewalRequest.isWritable_of_renew (hnow : now.IsClock) {new : Token}
    (h : request.renew accounts now = .ok new)
    (hexpiry : ∀ access refresh t, accounts request = .granted access refresh (some t) → t.IsWritable) :
    new.IsWritable := by
  unfold RenewalRequest.renew at h
  split at h
  · cases h
  · rename_i access refresh expiry hgranted
    refine Grant.isWritable_of_toToken hnow (mapError_eq_ok.1 h) ?_
    rintro t rfl
    exact hexpiry access refresh t hgranted

end

namespace TokenFolder

variable {folder : TokenFolder} {ms : Members WideText} {now : DateTime} {record : TokenRecord}
  {accounts : Accounts}

/-! ## The state of a token -/

theorem status_of_absent (h : folder.records = .ok ms) {service : WideText}
    (hfind : ms.find? service = none) (now : DateTime) :
    folder.status service now = .ok .missing := by
  simp only [status, retrieve, h, ok_bind, hfind, pure_eq_ok]
  rfl

theorem retrieve_of_unreadable (h : folder.records = .ok ms) {service : WideText} {v : Json WideText}
    (hfind : ms.find? service = some v) (hcheck : ∀ r, TokenRecord.check now v.narrow ≠ .ok r) :
    folder.retrieve service now = .ok none := by
  rw [retrieve, h, ok_bind]
  simp only [hfind]
  cases hv : TokenRecord.check now v.narrow with
  | ok r => exact absurd hv (hcheck r)
  | error issues => rfl

theorem status_of_unreadable (h : folder.records = .ok ms) {service : WideText} {v : Json WideText}
    (hfind : ms.find? service = some v) (hcheck : ∀ r, TokenRecord.check now v.narrow ≠ .ok r) :
    folder.status service now = .ok .invalid := by
  have hretrieve := retrieve_of_unreadable h hfind hcheck
  simp only [status, hretrieve, h, ok_bind, hfind, pure_eq_ok]
  rfl

theorem status_of_late {service : WideText} (h : folder.retrieve service now = .ok (some record))
    (he : record.token.isExpired? now expiryMargin = none) :
    folder.status service now = .error .timeOutOfRange := by
  simp only [status, h, ok_bind, hasExpired, he, error_bind]

/-! ## One selection -/

theorem accessToken_of_absent (h : folder.records = .ok ms) (hfind : ms.find? ↑serviceName = none)
    (accounts : Accounts) : folder.accessToken accounts now = .error (.token .missing) := by
  rw [accessToken, status_of_absent h hfind]
  rfl

theorem accessToken_of_unreadable (h : folder.records = .ok ms) {v : Json WideText}
    (hfind : ms.find? ↑serviceName = some v) (hcheck : ∀ r, TokenRecord.check now v.narrow ≠ .ok r)
    (accounts : Accounts) : folder.accessToken accounts now = .error (.token .invalid) := by
  rw [accessToken, status_of_unreadable h hfind hcheck]
  rfl

theorem accessToken_of_late (h : folder.retrieve serviceName now = .ok (some record))
    (he : record.token.isExpired? now expiryMargin = none) (accounts : Accounts) :
    folder.accessToken accounts now = .error .timeOutOfRange := by
  rw [accessToken, status_of_late h he]
  rfl

theorem accessToken_of_fresh (h : folder.retrieve serviceName now = .ok (some record))
    (he : record.token.isExpired? now expiryMargin = some false) (accounts : Accounts) :
    folder.accessToken accounts now = .ok (record.token.accessToken, folder) := by
  have hstatus := status_of_retrieve h (hasExpired_of_isExpired? he)
  simp [accessToken, hstatus, h]

theorem accessToken_of_final (h : folder.retrieve serviceName now = .ok (some record))
    (he : record.token.isExpired? now expiryMargin = some true)
    (hr : record.token.refreshToken = none) (accounts : Accounts) :
    folder.accessToken accounts now = .error (.token .notRenewable) := by
  have hstatus := status_of_retrieve h (hasExpired_of_isExpired? he)
  have hrenewal : folder.renewIfNeeded accounts now = .ok (none, folder) := by
    simp [renewIfNeeded, h, hasExpired_of_isExpired? he, hr]
  simp only [accessToken, hstatus, ok_bind, if_true, hrenewal]
  rfl

/-- An expired token with a token for renewals is renewed, and the new one is stored. -/
theorem accessToken_of_expired (h : folder.retrieve serviceName now = .ok (some record))
    (he : record.token.isExpired? now expiryMargin = some true)
    (hr : record.token.refreshToken.isSome) (accounts : Accounts) :
    folder.accessToken accounts now = (do
      let new ← record.token.renewalRequest.renew accounts now
      let after ← folder.store serviceName new { record.metadata with lastRefreshed := some now }
      return (new.accessToken, after)) := by
  have hstatus := status_of_retrieve h (hasExpired_of_isExpired? he)
  simp only [accessToken, hstatus, ok_bind, if_true, renewIfNeeded_of_expired h he hr]
  cases record.token.renewalRequest.renew accounts now with
  | error e => rfl
  | ok new =>
    simp only [ok_bind]
    cases folder.store serviceName new { record.metadata with lastRefreshed := some now } <;> rfl

/-! ## Every selection -/

/-- The stored token `record.token` is handed out as it is, and nothing is asked: it expires later than
the margin from now. -/
structure SelectsStored (folder : TokenFolder) (now : DateTime) (record : TokenRecord) (token : String)
    (after : TokenFolder) : Prop where
  found : folder.retrieve serviceName now = .ok (some record)
  inYears : now.instant + expiryMargin < endOfYears
  fresh : now.instant + expiryMargin < record.token.expiresAt.instant
  token : token = record.token.accessToken
  unchanged : after = folder

/-- The stored token `record.token` has expired, and the token `new` that is handed out was granted for its
renewal. It is the stored one from then on. It reads back if the expiry of the grant can be written in
full, or if the grant tells none. -/
structure SelectsRenewed (folder : TokenFolder) (ms : Members WideText) (accounts : Accounts) (now : DateTime)
    (record : TokenRecord) (new : Token) (token : String) (after : TokenFolder) : Prop where
  found : folder.retrieve serviceName now = .ok (some record)
  inYears : now.instant + expiryMargin < endOfYears
  expired : record.token.expiresAt.instant ≤ now.instant + expiryMargin
  renewable : record.token.refreshToken.isSome
  renewed : record.token.renewalRequest.renew accounts now = .ok new
  token : token = new.accessToken
  stored : folder.store serviceName new (record.renewed new now).metadata = .ok after
  holds : after.Holds (ms.set serviceName ((record.renewed new now).toJson DateTime.documentText).widen)
  readsBack : (∀ access refresh t,
      accounts record.token.renewalRequest = .granted access refresh (some t) → t.IsWritable) →
    ∀ later, after.retrieve serviceName later = .ok (some (record.renewed new now))

/-- The ways in which a selection comes out, one for each state of the token. -/
inductive Selection (folder : TokenFolder) (ms : Members WideText) (accounts : Accounts) (now : DateTime) :
    Except Fault (String × TokenFolder) → Prop
  | absent (hfind : ms.find? ↑serviceName = none) : Selection folder ms accounts now (.error (.token .missing))
  | unreadable (v : Json WideText) (hfind : ms.find? ↑serviceName = some v)
    (hcheck : ∀ r, TokenRecord.check now v.narrow ≠ .ok r) :
    Selection folder ms accounts now (.error (.token .invalid))
  /-- In the last minute of year 9999 no expiry can be told. -/
  | late (record : TokenRecord) (hfound : folder.retrieve serviceName now = .ok (some record))
    (hyears : endOfYears ≤ now.instant + expiryMargin) :
    Selection folder ms accounts now (.error .timeOutOfRange)
  | fresh (record : TokenRecord) (token : String) (after : TokenFolder)
    (h : folder.SelectsStored now record token after) : Selection folder ms accounts now (.ok (token, after))
  /-- An expired token that cannot be renewed. -/
  | final (record : TokenRecord) (hfound : folder.retrieve serviceName now = .ok (some record))
    (hexpired : record.token.expiresAt.instant ≤ now.instant + expiryMargin)
    (hr : record.token.refreshToken = none) : Selection folder ms accounts now (.error (.token .notRenewable))
  /-- An expired token that is not renewed. -/
  | failed (record : TokenRecord) (e : Fault) (hfound : folder.retrieve serviceName now = .ok (some record))
    (hexpired : record.token.expiresAt.instant ≤ now.instant + expiryMargin)
    (hr : record.token.refreshToken.isSome)
    (he : record.token.renewalRequest.renew accounts now = .error e) :
    Selection folder ms accounts now (.error e)
  | renewed (record : TokenRecord) (new : Token) (token : String) (after : TokenFolder)
    (h : folder.SelectsRenewed ms accounts now record new token after) :
    Selection folder ms accounts now (.ok (token, after))

/-- The selection where a record was found. -/
theorem selection_of_record (hrecords : folder.records = .ok ms) (hnow : now.IsClock)
    (hfound : folder.retrieve serviceName now = .ok (some record)) (accounts : Accounts) :
    folder.Selection ms accounts now (folder.accessToken accounts now) := by
  by_cases hyears : now.instant + expiryMargin < endOfYears
  · by_cases hfresh : now.instant + expiryMargin < record.token.expiresAt.instant
    · rw [accessToken_of_fresh hfound (Token.isExpired?_of_fresh hnow hyears hfresh)]
      exact .fresh record _ _ ⟨hfound, hyears, hfresh, rfl, rfl⟩
    · have hexpired := Int.not_lt.1 hfresh
      have he := Token.isExpired?_of_expired hnow hyears hexpired
      by_cases hr : record.token.refreshToken.isSome
      · rw [accessToken_of_expired hfound he hr]
        cases hrenew : record.token.renewalRequest.renew accounts now with
        | error e => exact .failed record e hfound hexpired hr hrenew
        | ok new =>
          obtain ⟨after, hstore, hholds, hread⟩ := store_renewed hrecords hnow hfound new
          rw [ok_bind, hstore]
          exact .renewed record new _ after ⟨hfound, hyears, hexpired, hr, hrenew, rfl, hstore, hholds,
            fun hexpiry => hread (RenewalRequest.isWritable_of_renew hnow hrenew hexpiry)⟩
      · have hnone := Option.not_isSome_iff_eq_none.1 hr
        rw [accessToken_of_final hfound he hnone]
        exact .final record hfound hexpired hnone
  · have hlate := Int.not_lt.1 hyears
    rw [accessToken_of_late hfound (Token.isExpired?_of_le hnow hlate _)]
    exact .late record hfound hlate

theorem selection (hrecords : folder.records = .ok ms) (hnow : now.IsClock) (accounts : Accounts) :
    folder.Selection ms accounts now (folder.accessToken accounts now) := by
  cases hfind : ms.find? ↑serviceName with
  | none =>
    rw [accessToken_of_absent hrecords hfind]
    exact .absent hfind
  | some v =>
    cases hcheck : TokenRecord.check now v.narrow with
    | error issues =>
      have hunreadable : ∀ r, TokenRecord.check now v.narrow ≠ .ok r := by
        intro r hr
        rw [hcheck] at hr
        cases hr
      rw [accessToken_of_unreadable hrecords hfind hunreadable]
      exact .unreadable v hfind hunreadable
    | ok record => exact selection_of_record hrecords hnow (retrieve_of_check hrecords hfind hcheck) accounts

theorem SelectsStored.accessToken (hnow : now.IsClock) {token : String} {after : TokenFolder}
    (h : folder.SelectsStored now record token after) (accounts : Accounts) :
    folder.accessToken accounts now = .ok (token, after) := by
  rw [accessToken_of_fresh h.found (Token.isExpired?_of_fresh hnow h.inYears h.fresh), h.token, h.unchanged]

theorem SelectsRenewed.accessToken (hnow : now.IsClock) {new : Token} {token : String}
    {after : TokenFolder} (h : folder.SelectsRenewed ms accounts now record new token after) :
    folder.accessToken accounts now = .ok (token, after) := by
  have he := Token.isExpired?_of_expired hnow h.inYears h.expired
  have hstored := h.stored
  rw [TokenRecord.renewed] at hstored
  rw [accessToken_of_expired h.found he h.renewable, h.renewed, ok_bind, hstored, h.token]
  rfl

theorem Selection.of_ok {token : String} {after : TokenFolder}
    (h : folder.Selection ms accounts now (.ok (token, after))) :
    (∃ record, folder.SelectsStored now record token after) ∨
      ∃ record new, folder.SelectsRenewed ms accounts now record new token after := by
  cases h with
  | fresh record _ _ h => exact .inl ⟨record, h⟩
  | renewed record new _ _ h => exact .inr ⟨record, new, h⟩

/-- A record that counts as valid is there: only a renewal could say otherwise, and its faults are others. -/
theorem Selection.ne_lost (h : folder.Selection ms accounts now (.error (.token .lost))) : False := by
  cases h with
  | failed record e hfound hexpired hr he =>
    rcases RenewalRequest.renew_eq_error he with ⟨text, h⟩ | ⟨issues, h⟩ | h <;> cases h

/-- **Every selection**, in any folder whose file can be read and at every reading of the clock. Without a
record that can be read none is made, whatever the service that keeps the accounts would answer. A token
that is selected is the stored one while that is fresh, and the renewed one afterwards. No record is lost
between the verdict on its state and the selection. -/
theorem accessToken_spec (hrecords : folder.records = .ok ms) (hnow : now.IsClock) :
    (ms.find? ↑serviceName = none →
      ∀ accounts, folder.accessToken accounts now = .error (.token .missing)) ∧
    (∀ v, ms.find? ↑serviceName = some v → (∀ record, TokenRecord.check now v.narrow ≠ .ok record) →
      ∀ accounts, folder.accessToken accounts now = .error (.token .invalid)) ∧
    (∀ accounts token after, folder.accessToken accounts now = .ok (token, after) ↔
      (∃ record, folder.SelectsStored now record token after) ∨
        ∃ record new, folder.SelectsRenewed ms accounts now record new token after) ∧
    ∀ accounts, folder.accessToken accounts now ≠ .error (.token .lost) := by
  refine ⟨accessToken_of_absent hrecords, fun v => accessToken_of_unreadable hrecords, ?_, ?_⟩
  · intro accounts token after
    constructor
    · intro h
      have hselection := selection hrecords hnow accounts
      rw [h] at hselection
      exact hselection.of_ok
    · rintro (⟨record, h⟩ | ⟨record, new, h⟩)
      · exact h.accessToken hnow accounts
      · exact h.accessToken hnow
  · intro accounts h
    have hselection := selection hrecords hnow accounts
    rw [h] at hselection
    exact hselection.ne_lost

/-- The token that expired is not selected any more, but the one that is granted for it, which is stored. -/
theorem accessToken_spec_stale :
    staleFolder.records = .ok [(serviceName, staleCall.document)] ∧ (dayOf2030 2).IsClock ∧
      staleCall.token.accessToken = "old" ∧
      ∃ after record, staleFolder.accessToken (newToken none) (dayOf2030 2) = .ok ("new", after) ∧
        after.retrieve serviceName (dayOf2030 3) = .ok (some record) ∧
        record.token.accessToken = "new" := by
  have hrecord := retrieve_staleFolder (dayOf2030 2)
  have husual : (newToken none staleCall.token.renewalRequest).IsUsual :=
    isUsual_newToken (by rintro t ⟨⟩) _
  obtain ⟨new, hrenew, hnew⟩ :=
    RenewalRequest.renew_of_usual isClock_dayOf2030 rfl husual (.inr (by decide))
  obtain ⟨after, hstore, hholds, hread⟩ :=
    store_renewed records_staleFolder isClock_dayOf2030 hrecord new
  have haccess : "new" = new.accessToken := Json.str.inj hnew.access
  have hyears : (dayOf2030 2).instant + expiryMargin < endOfYears := by decide
  have hexpired : staleCall.token.expiresAt.instant ≤ (dayOf2030 2).instant + expiryMargin := by decide
  have hselects : staleFolder.SelectsRenewed [(serviceName, staleCall.document)] (newToken none)
      (dayOf2030 2) staleCall.record new "new" after :=
    ⟨hrecord, hyears, hexpired, rfl, hrenew, haccess, hstore, hholds, fun _ => hread hnew.writable⟩
  have hspec := accessToken_spec records_staleFolder isClock_dayOf2030
  have hselected := (hspec.2.2.1 (newToken none) "new" after).2 (.inr ⟨_, new, hselects⟩)
  exact ⟨records_staleFolder, isClock_dayOf2030, rfl, after, _, hselected, hread hnew.writable _,
    haccess.symm⟩

end TokenFolder

end WorkspaceTools
