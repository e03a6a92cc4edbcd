import WorkspaceTools.Proofs.Token.Selection

/-!
# Requests for renewal

A request for renewal names the token that renews and the address, but not the client
(`Token.renewalRequest_isComplete`). A service that insists on the client refuses it before anything is
granted (`strictAccounts_renewalRequest`), so that no expired token is ever renewed there
(`TokenFolder.renewal_isIncomplete`).
-/

namespace WorkspaceTools

open Time

theorem RenewalRequest.isComplete_iff (r : RenewalRequest) :
    r.isComplete = true ↔ r.refreshToken.isSome ∧ r.clientId.isSome ∧ r.clientSecret.isSome := by
  simp only [isComplete, Bool.and_eq_true, and_assoc]

theorem Token.renewalRequest_isComplete (token : Token) : token.renewalRequest.isComplete = false := by
  rw [← Bool.not_eq_true, RenewalRequest.isComplete_iff]
  rintro ⟨-, hclient, -⟩
  cases hclient

/-- What is behind a strict service never sees a request for renewal. -/
theorem strictAccounts_renewalRequest (endpoint : Accounts) (token : Token) :
    strictAccounts endpoint token.renewalRequest = .refused incompleteRequest := by
  rw [strictAccounts, token.renewalRequest_isComplete]
  rfl

namespace TokenFolder

variable {folder : TokenFolder} {ms : Members WideText} {now : DateTime} {record : TokenRecord}

/-- **An expired token is never renewed** by a service that insists on complete requests, whatever is behind
it: the request has the token for renewals and the address, but neither the id of the client nor its
secret. The renewal fails, the file stays, and no token is selected. Nothing else is in the way: where the
client is not asked for, a usual grant makes the new token, and that is stored. -/
theorem renewal_isIncomplete (hrecords : folder.records = .ok ms) (hnow : now.IsClock)
    (hfound : folder.retrieve serviceName now = .ok (some record))
    (he : record.token.isExpired? now expiryMargin = some true)
    (hr : record.token.refreshToken.isSome) (endpoint : Accounts) :
    (record.token.renewalRequest.refreshToken = record.token.refreshToken ∧
      record.token.renewalRequest.tokenAddress = tokenAddress ∧
      record.token.renewalRequest.clientId = none ∧ record.token.renewalRequest.clientSecret = none) ∧
    folder.renewal (strictAccounts endpoint) now = (.error (.renewal incompleteRequest), folder) ∧
    folder.accessToken (strictAccounts endpoint) now = .error (.renewal incompleteRequest) ∧
    ∀ access refresh expiry, endpoint record.token.renewalRequest = .granted access refresh expiry →
      (endpoint record.token.renewalRequest).IsUsual →
      expiry.isSome ∨ now.instant + usualLifetime < endOfYears →
      ∃ new after, folder.renewal endpoint now = (.ok (some new), after) ∧
        Renewal record.token new access refresh expiry now ∧ IsRenewed ms record now new after := by
  have hrefused : record.token.renewalRequest.renew (strictAccounts endpoint) now =
      .error (.renewal incompleteRequest) :=
    RenewalRequest.renew_of_refused (strictAccounts_renewalRequest endpoint record.token)
  refine ⟨⟨rfl, rfl, rfl, rfl⟩, renewal_of_error hfound he hr hrefused, ?_, ?_⟩
  · rw [accessToken_of_expired hfound he hr, hrefused]
    rfl
  · intro access refresh expiry hgrant husual hyears
    obtain ⟨new, hrenew, hnew⟩ := RenewalRequest.renew_of_usual hnow hgrant husual hyears
    obtain ⟨after, hafter, hrenewed⟩ := renewal_of_ok hrecords hnow hfound he hr hrenew hnew.writable
    exact ⟨new, after, hafter, hnew, hrenewed⟩

/-- The token that expired is not renewed, though a new one would be granted. -/
theorem renewal_isIncomplete_stale :
    staleFolder.records = .ok [(serviceName, staleCall.document)] ∧ (dayOf2030 2).IsClock ∧
      staleFolder.retrieve serviceName (dayOf2030 2) = .ok (some staleCall.record) ∧
      staleCall.record.token.isExpired? (dayOf2030 2) expiryMargin = some true ∧
      staleCall.record.token.refreshToken.isSome ∧
      staleFolder.renewal (strictAccounts (newToken none)) (dayOf2030 2) =
        (.error (.renewal incompleteRequest), staleFolder) ∧
      ∃ new after, staleFolder.renewal (newToken none) (dayOf2030 2) = (.ok (some new), after) ∧
        new.accessToken = "new" := by
  have hfound := retrieve_staleFolder (dayOf2030 2)
  have he : staleCall.record.token.isExpired? (dayOf2030 2) expiryMargin = some true :=
    Token.isExpired?_of_expired isClock_dayOf2030 (by decide) (by decide)
  obtain ⟨-, hrefused, -, hgranted⟩ :=
    renewal_isIncomplete records_staleFolder isClock_dayOf2030 hfound he rfl (newToken none)
  have husual : (newToken none staleCall.token.renewalRequest).IsUsual :=
    isUsual_newToken (by rintro t ⟨⟩) _
  obtain ⟨new, after, hafter, hnew, -⟩ := hgranted _ _ _ rfl husual (.inr (by decide))
  exact ⟨records_staleFolder, isClock_dayOf2030, hfound, he, rfl, hrefused, new, after, hafter,
    (Json.str.inj hnew.access).symm⟩

end TokenFolder

end WorkspaceTools
