import WorkspaceTools.Proofs.Token.File

/-!
# The state of a token in the course of time

What is told of the token of a service while the file stays as it is and the clock goes on.

* The clock has no influence on what is read (`TokenRecord.token_check`). So the file has nothing for a
  service, or something that is no record, or one token, at all times (`TokenFolder.status_cases`).
* A token is valid up to a minute before it expires, and then it has expired (`Token.stateAt`). It never
  becomes valid again (`Token.mayBecome_stateAt`).
* Of its expiry only the instant counts: a record whose expiry is written anew is as good as before
  (`TokenRecord.check_redated`).
* `TokenFolder.statuses_neverGoBack`: the states that are told at one reading of the clock after another.
-/

namespace WorkspaceTools

open Json Time

/-! ## States that follow one another -/

/-- A state may be told after another one while the file stays as it is. -/
inductive TokenStatus.MayBecome : TokenStatus → TokenStatus → Prop
  | refl (s : TokenStatus) : MayBecome s s
  | expires : MayBecome .valid .expired

/-- The state of a token at a reading of the clock. In the last minute of year 9999 there is none. -/
def Token.stateAt (token : Token) (now : DateTime) : Except Fault TokenStatus :=
  if endOfYears ≤ now.instant + expiryMargin then .error .timeOutOfRange
  else .ok (if token.expiresAt.instant ≤ now.instant + expiryMargin then .expired else .valid)

/-- **A token goes from valid to expired** and not back. -/
theorem Token.mayBecome_stateAt {token : Token} {now later : DateTime} {s s' : TokenStatus}
    (hle : now.instant ≤ later.instant) (h : token.stateAt now = .ok s)
    (h' : token.stateAt later = .ok s') : s.MayBecome s' := by
  unfold Token.stateAt at h h'
  split at h
  · cases h
  split at h'
  · cases h'
  cases h
  cases h'
  by_cases hnow : token.expiresAt.instant ≤ now.instant + expiryMargin
  · have hlater : token.expiresAt.instant ≤ later.instant + expiryMargin := by omega
    rw [if_pos hnow, if_pos hlater]
    exact .refl _
  · rw [if_neg hnow]
    split
    · exact .expires
    · exact .refl _

/-! ## What is read -/

theorem optional_clock {check : Json → Checked DateTime} {name : String} {now t : DateTime} {ms : Members}
    (h : optional name now check ms = .ok t) (later : DateTime) :
    ∃ t', optional name later check ms = .ok t' := by
  rcases optional_eq_ok.1 h with ⟨hnone, -⟩ | ⟨v, hv, hcheck⟩
  · exact ⟨later, optional_eq_ok.2 (.inl ⟨hnone, rfl⟩)⟩
  · exact ⟨t, optional_eq_ok.2 (.inr ⟨v, hv, hcheck⟩)⟩

/-- The clock only dates a record without a date of its own. -/
theorem TokenMetadata.exists_check {now : DateTime} {v : Json} {m : TokenMetadata}
    (h : TokenMetadata.check now v = .ok m) (later : DateTime) :
    ∃ m', TokenMetadata.check later v = .ok m' := by
  obtain ⟨ms, hv, hfields⟩ := checkObject_eq_ok.1 h
  split at hfields
  · rename_i service provider _ refreshed hservice hprovider hcreated hrefreshed
    obtain ⟨created, hcreated⟩ := optional_clock hcreated later
    refine ⟨⟨service, provider, created, refreshed⟩, checkObject_eq_ok.2 ⟨ms, hv, ?_⟩⟩
    simp only [hservice, hprovider, hcreated, hrefreshed]
  · cases hfields

/-- **The token that is read** does not depend on the clock. -/
theorem TokenRecord.exists_check {now : DateTime} {v : Json} {record : TokenRecord}
    (h : TokenRecord.check now v = .ok record) (later : DateTime) :
    ∃ record', TokenRecord.check later v = .ok record' ∧ record'.token = record.token := by
  obtain ⟨ms, hv, hfields⟩ := checkObject_eq_ok.1 h
  split at hfields
  · rename_i version metadata token hversion hmetadata htoken
    cases hfields
    obtain ⟨w, hw, hcheck⟩ := required_eq_ok.1 hmetadata
    obtain ⟨metadata', hmetadata'⟩ := TokenMetadata.exists_check hcheck later
    have hmetadata := required_eq_ok.2 ⟨w, hw, hmetadata'⟩
    refine ⟨⟨version, metadata', token⟩, checkObject_eq_ok.2 ⟨ms, hv, ?_⟩, rfl⟩
    simp only [hversion, hmetadata, htoken]
  · cases hfields

/-! ## An expiry that is written anew -/

section

variable {α : Type} {check : Json → Checked α} {name other : String} {ms : Members} {v : Json}

theorem required_set_of_ne (h : name ≠ other) :
    required other check (ms.set name v) = required other check ms := by
  rw [required, required, Members.find?_set_of_ne v ms h]

theorem optional_set_of_ne (h : name ≠ other) (default : α) :
    optional other default check (ms.set name v) = optional other default check ms := by
  rw [optional, optional, Members.find?_set_of_ne v ms h]

end

/-- The document of the expiry in the document of a record. -/
def Json.expiry? : Json WideText → Option (Json WideText)
  | .obj ms =>
    match Members.find? ("token" : WideText) ms with
    | some (.obj token) => Members.find? ("expires_at" : WideText) token
    | _ => none
  | _ => none

/-- The document of a record with its expiry written anew; anything else stays as it is. -/
def Json.redated : Json WideText → Json WideText → Json WideText
  | .obj ms, expiry =>
    match Members.find? ("token" : WideText) ms with
    | some (.obj token) =>
      .obj (Members.set ("token" : WideText) (.obj (Members.set ("expires_at" : WideText) expiry token)) ms)
    | _ => .obj ms
  | v, _ => v

/-- Where there is an expiry, it is in the object of a token. -/
theorem Json.expiry?_eq_some {v expiry : Json WideText} (h : v.expiry? = some expiry) :
    ∃ ms token, v = .obj ms ∧ Members.find? ("token" : WideText) ms = some (.obj token) ∧
      Members.find? ("expires_at" : WideText) token = some expiry := by
  unfold Json.expiry? at h
  split at h
  · split at h
    · rename_i htoken
      exact ⟨_, _, rfl, htoken, h⟩
    · cases h
  · cases h

theorem Json.redated_widen {ms token : Members} (h : ms.find? "token" = some (.obj token)) (expiry : Json) :
    (Json.obj ms).widen.redated expiry.widen =
      (Json.obj (Members.set "token" (.obj (Members.set "expires_at" expiry token)) ms)).widen := by
  have htoken : Members.find? ("token" : WideText) (widenMembers ms) = some (.obj (widenMembers token)) := by
    rw [find?_widenMembers, h]
    rfl
  simp only [widen, Json.redated, htoken, set_widenMembers]
  exact congrArg Json.obj (set_widenMembers "token" (.obj (Members.set "expires_at" expiry token)) ms)

/-- The token with another expiry. -/
def Token.expiringAt (t : DateTime) (token : Token) : Token := { token with expiresAt := t }

/-- The record with another expiry. -/
def TokenRecord.expiringAt (t : DateTime) (record : TokenRecord) : TokenRecord :=
  { record with token := record.token.expiringAt t }

theorem StoreCall.expiry?_document (call : StoreCall) :
    call.document.expiry? = some (Json.str call.token.expiresAt.documentText).widen := by
  simp only [document, TokenRecord.toJson, Token.toJson, widen, Json.expiry?, find?_widenMembers]
  rfl

/-- The document of a record whose token has another expiry. -/
theorem StoreCall.redated_document (call : StoreCall) (t : DateTime) :
    call.document.redated (Json.str t.documentText).widen =
      StoreCall.document { call with token := call.token.expiringAt t } := by
  have htoken : Members.find? "token" [("version", .int call.record.version),
      ("metadata", call.record.metadata.toJson DateTime.documentText),
      ("token", call.record.token.toJson DateTime.documentText)] =
        some (call.record.token.toJson DateTime.documentText) := rfl
  exact Json.redated_widen htoken _

/-- The other members of a token are read as before, whether there is a token or not. -/
theorem Token.check_set_expiry {ms : Members} {old new : Json} {t t' : DateTime}
    (hfind : ms.find? "expires_at" = some old) (hold : checkTime old = .ok t)
    (hnew : checkTime new = .ok t') :
    Token.check (.obj (ms.set "expires_at" new)) = (Token.check (.obj ms)).map (Token.expiringAt t') := by
  have hexpires : required "expires_at" checkTime ms = .ok t := required_eq_ok.2 ⟨old, hfind, hold⟩
  have hexpires' : required "expires_at" checkTime (ms.set "expires_at" new) = .ok t' :=
    required_eq_ok.2 ⟨new, Members.find?_set_self _ _ _, hnew⟩
  simp only [Token.check, checkObject, hexpires, hexpires', ne_eq, String.reduceEq, not_false_eq_true,
    required_set_of_ne, optional_set_of_ne]
  cases required "access_token" checkText ms <;>
    cases optional "refresh_token" none (checkNullable checkText) ms <;>
    cases optional "scopes" [] (checkList checkText) ms <;>
    cases optional "token_type" "Bearer" checkText ms <;> rfl

/-- The expiry of a token is the one in its document. -/
theorem TokenRecord.expiresAt_of_check {now : DateTime} {v old : Json WideText} {t : DateTime}
    {record : TokenRecord} (hv : v.expiry? = some old) (hold : checkTime old.narrow = .ok t)
    (h : TokenRecord.check now v.narrow = .ok record) : record.token.expiresAt = t := by
  obtain ⟨ms, token, rfl, htoken, hexpiry⟩ := Json.expiry?_eq_some hv
  obtain ⟨members, hmembers, hfields⟩ := checkObject_eq_ok.1 h
  cases hmembers
  split at hfields
  · rename_i hrequired
    cases hfields
    obtain ⟨w, hw, hcheck⟩ := required_eq_ok.1 hrequired
    rw [find?_narrowMembers, htoken] at hw
    cases hw
    obtain ⟨members, hmembers, htokens⟩ := checkObject_eq_ok.1 hcheck
    cases hmembers
    split at htokens
    · rename_i hexpires _ _
      cases htokens
      obtain ⟨w, hw, hexpires⟩ := required_eq_ok.1 hexpires
      rw [find?_narrowMembers, hexpiry] at hw
      cases hw
      exact Except.ok.inj (hexpires.symm.trans hold)
    · cases htokens
  · cases hfields

/-- **A record whose expiry is written anew** is read as before, but for the expiry. -/
theorem TokenRecord.check_redated (now : DateTime) {v old new : Json WideText} {t t' : DateTime}
    (hv : v.expiry? = some old) (hold : checkTime old.narrow = .ok t)
    (hnew : checkTime new.narrow = .ok t') :
    TokenRecord.check now (v.redated new).narrow =
      (TokenRecord.check now v.narrow).map (TokenRecord.expiringAt t') := by
  obtain ⟨ms, token, rfl, htoken, hexpiry⟩ := Json.expiry?_eq_some hv
  have hfind : Members.find? "token" (narrowMembers ms) = some (.obj (narrowMembers token)) := by
    rw [find?_narrowMembers, htoken]
    rfl
  have hdated : Members.find? "expires_at" (narrowMembers token) = some old.narrow := by
    rw [find?_narrowMembers, hexpiry]
    rfl
  have hcheck := Token.check_set_expiry hdated hold hnew
  have hrequired : required "token" Token.check ((narrowMembers ms).set "token"
      (.obj ((narrowMembers token).set "expires_at" new.narrow))) =
        (required "token" Token.check (narrowMembers ms)).map (Token.expiringAt t') := by
    rw [required, required, Members.find?_set_self, hfind]
    simp only [hcheck]
    cases Token.check (.obj (narrowMembers token)) <;> rfl
  simp only [Json.redated, htoken, narrow, narrowMembers_set, TokenRecord.check, checkObject, ne_eq,
    String.reduceEq, not_false_eq_true, required_set_of_ne, optional_set_of_ne]
  rw [hrequired]
  cases optional "version" 1 checkInt (narrowMembers ms) <;>
    cases required "metadata" (TokenMetadata.check now) (narrowMembers ms) <;>
    cases required "token" Token.check (narrowMembers ms) <;> rfl

/-- Of the expiry only the instant counts. -/
theorem TokenFolder.hasExpired_expiringAt {record : TokenRecord} {t : DateTime}
    (h : t.instant = record.token.expiresAt.instant) (now : DateTime) :
    hasExpired (record.expiringAt t) now = hasExpired record now := by
  have hexpired : (record.expiringAt t).token.isExpired? now expiryMargin =
      record.token.isExpired? now expiryMargin := by
    simp only [Token.isExpired?, TokenRecord.expiringAt, Token.expiringAt, h]
  rw [hasExpired, hasExpired, hexpired]

namespace TokenFolder

variable {folder after : TokenFolder} {ms : Members WideText} {service : WideText}

/-! ## What is told -/

/-- The state of a record is that of its token. -/
theorem status_eq_stateAt {record : TokenRecord} {now : DateTime} (hnow : now.IsClock)
    (h : folder.retrieve service now = .ok (some record)) :
    folder.status service now = record.token.stateAt now := by
  rw [Token.stateAt]
  by_cases hyears : endOfYears ≤ now.instant + expiryMargin
  · rw [if_pos hyears, status_of_late h (Token.isExpired?_of_le hnow hyears _)]
  · have he := Token.isExpired?_of_lt hnow (by decide) (Int.not_le.1 hyears) record.token
    rw [if_neg hyears, status_of_retrieve h (hasExpired_of_isExpired? he)]
    simp only [decide_eq_true_eq]

/-- **What the file has for a service**: nothing, something that is no record, or a token. It is the same at
all readings of the clock. -/
theorem status_cases (h : folder.records = .ok ms) (service : WideText) :
    (∀ now, folder.status service now = .ok .missing) ∨
      (∀ now, folder.status service now = .ok .invalid) ∨
      ∃ token : Token, ∀ now, now.IsClock → folder.status service now = token.stateAt now := by
  cases hfind : ms.find? service with
  | none => exact .inl (status_of_absent h hfind)
  | some v =>
    by_cases hread : ∃ now record, TokenRecord.check now v.narrow = .ok record
    · obtain ⟨first, record, hrecord⟩ := hread
      refine .inr (.inr ⟨record.token, ?_⟩)
      intro now hnow
      obtain ⟨found, hfound, htoken⟩ := TokenRecord.exists_check hrecord now
      rw [← htoken]
      exact status_eq_stateAt hnow (retrieve_of_check h hfind hfound)
    · refine .inr (.inl ?_)
      intro now
      apply status_of_unreadable h hfind
      intro record hrecord
      exact hread ⟨now, record, hrecord⟩

/-- One state that is told after another one. -/
theorem mayBecome_status (h : folder.records = .ok ms) {now later : DateTime} (hnow : now.IsClock)
    (hlater : later.IsClock) (hle : now.instant ≤ later.instant) {s s' : TokenStatus}
    (hs : folder.status service now = .ok s) (hs' : folder.status service later = .ok s') :
    s.MayBecome s' := by
  rcases status_cases h service with hall | hall | ⟨token, hall⟩
  · rw [hall] at hs hs'
    cases hs
    cases hs'
    exact .refl _
  · rw [hall] at hs hs'
    cases hs
    cases hs'
    exact .refl _
  · rw [hall now hnow] at hs
    rw [hall later hlater] at hs'
    exact Token.mayBecome_stateAt hle hs hs'

/-- The states that are told of a service at some readings of the clock, one after another. -/
def told (folder : TokenFolder) (service : WideText) (nows : List DateTime) : List TokenStatus :=
  nows.filterMap fun now => (folder.status service now).toOption

theorem told_cons {now : DateTime} {s : TokenStatus} (h : folder.status service now = .ok s)
    (nows : List DateTime) : folder.told service (now :: nows) = s :: folder.told service nows := by
  rw [told, List.filterMap_cons, h]
  rfl

theorem toOption_eq_some {ε α : Type} {r : Except ε α} {a : α} : r.toOption = some a ↔ r = .ok a := by
  cases r <;> simp [Except.toOption]

theorem pairwise_told (h : folder.records = .ok ms) {nows : List DateTime}
    (hclock : ∀ now ∈ nows, now.IsClock) (hnows : nows.Pairwise fun a b => a.instant ≤ b.instant)
    (service : WideText) : (folder.told service nows).Pairwise TokenStatus.MayBecome := by
  apply List.pairwise_filterMap.2
  apply hnows.imp_of_mem
  intro now later hnow hlater hle s hs s' hs'
  exact mayBecome_status h (hclock now hnow) (hclock later hlater) hle (toOption_eq_some.1 hs)
    (toOption_eq_some.1 hs')

/-! ## Expiries of one instant -/

section

variable {v old new : Json WideText} {t t' : DateTime}

/-- The record of the service is read as before, but for its expiry; the others are as before. -/
theorem retrieve_redated (h : folder.records = .ok ms) (hfind : ms.find? service = some v)
    (hv : v.expiry? = some old) (hold : checkTime old.narrow = .ok t) (hnew : checkTime new.narrow = .ok t')
    (hafter : after.records = .ok (ms.set service (v.redated new))) (other : WideText) (now : DateTime) :
    after.retrieve other now = folder.retrieve other now ∨
      ∃ record, folder.retrieve other now = .ok (some record) ∧ record.token.expiresAt = t ∧
        after.retrieve other now = .ok (some (record.expiringAt t')) := by
  by_cases hother : service = other
  · subst hother
    have hcheck := TokenRecord.check_redated now hv hold hnew
    rw [retrieve, retrieve, h, hafter, ok_bind, ok_bind]
    simp only [Members.find?_set_self, hfind, hcheck, pure_eq_ok]
    cases hrecord : TokenRecord.check now v.narrow with
    | error issues => exact .inl rfl
    | ok record => exact .inr ⟨record, rfl, TokenRecord.expiresAt_of_check hv hold hrecord, rfl⟩
  · refine .inl ?_
    rw [retrieve, retrieve, h, hafter, ok_bind, ok_bind]
    simp only [Members.find?_set_of_ne _ _ hother]

/-- **Of the expiry of a record only the instant counts**, at every time. -/
theorem status_redated (h : folder.records = .ok ms) (hfind : ms.find? service = some v)
    (hv : v.expiry? = some old) (hold : checkTime old.narrow = .ok t) (hnew : checkTime new.narrow = .ok t')
    (hinstant : t'.instant = t.instant) (hafter : after.records = .ok (ms.set service (v.redated new)))
    (other : WideText) (now : DateTime) : after.status other now = folder.status other now := by
  rcases retrieve_redated h hfind hv hold hnew hafter other now with
    hsame | ⟨record, hrecord, rfl, hredated⟩
  · cases hfound : folder.retrieve other now with
    | error fault => rw [status, status, hsame, hfound, error_bind, error_bind]
    | ok found =>
      cases found with
      | some record => simp only [status, hsame, hfound, ok_bind]
      | none =>
        rw [status_of_notFound h hfound, status_of_notFound hafter (hsame.trans hfound)]
        by_cases hother : service = other
        · rw [← hother, Members.find?_set_self, hfind]
          rfl
        · rw [Members.find?_set_of_ne _ _ hother]
  · have hexpired := hasExpired_expiringAt hinstant now
    simp only [status, hrecord, hredated, ok_bind, hexpired]

end

/-- **The states of tokens in the course of time**, for every file with readable records that stays as it is.
At readings of the clock that never go back, the state of a service is the same as before at all times, or
becomes expired after it was valid. It is told but in the last minute of year 9999. And a record whose expiry is
written anew, as any time of the same instant, leaves all states as they are. A time without an offset is
universal time. -/
theorem statuses_neverGoBack (h : folder.records = .ok ms) :
    (∀ service nows, (∀ now ∈ nows, now.IsClock) → (nows.Pairwise fun a b => a.instant ≤ b.instant) →
      (folder.told service nows).Pairwise TokenStatus.MayBecome) ∧
    (∀ service now fault, now.IsClock → (folder.status service now = .error fault ↔
      fault = .timeOutOfRange ∧ endOfYears ≤ now.instant + expiryMargin ∧
        ∃ record, folder.retrieve service now = .ok (some record))) ∧
    ∀ service v old new t t' (after : TokenFolder), ms.find? service = some v → v.expiry? = some old →
      checkTime old.narrow = .ok t → checkTime new.narrow = .ok t' → t'.instant = t.instant →
      after.records = .ok (ms.set service (v.redated new)) →
        ∀ other now, after.status other now = folder.status other now := by
  refine ⟨?_, ?_, ?_⟩
  · intro service nows hclock hnows
    exact pairwise_told h hclock hnows service
  · intro service now fault hnow
    rw [status_eq_error_iff hnow, h]
    simp
  · intro service v old new t t' after hfind hv hold hnew hinstant hafter
    exact status_redated h hfind hv hold hnew hinstant hafter

/-! ### A token for three days -/

/-- A call that stores a token with an expiry. -/
def storeExpiring (expiry : DateTime) : StoreCall :=
  ⟨serviceName, { accessToken := "access", expiresAt := expiry },
    { serviceName := serviceName, createdAt := dayOf2030 1 }⟩

/-- The folder with its record. -/
def expiringFolder (expiry : DateTime) : TokenFolder :=
  save [(serviceName, (storeExpiring expiry).document)] {}

theorem records_expiringFolder (expiry : DateTime) :
    (expiringFolder expiry).records = .ok [(serviceName, (storeExpiring expiry).document)] :=
  (holds_save (isReadable_set_document (isReadable_noMembers {}) (storeExpiring expiry))).records

theorem isWritable_storeExpiring {expiry : DateTime} (h : expiry.IsWritable) :
    (storeExpiring expiry).IsWritable where
  token := h
  metadata := ⟨isWritable_dayOf2030 (by decide), by rintro t ⟨⟩⟩

theorem retrieve_expiringFolder {expiry : DateTime} (h : expiry.IsWritable) (now : DateTime) :
    (expiringFolder expiry).retrieve serviceName now = .ok (some (storeExpiring expiry).record) :=
  retrieve_save_set (isReadable_noMembers {}) (isWritable_storeExpiring h) now

/-- Midnight before the third day of 2030, without an offset. -/
def thirdDay : DateTime := { dayOf2030 3 with offset := none }

/-- The same instant half past five, with the offset of five hours and a half. -/
def thirdMorning : DateTime := ⟨⟨2030, 1, 3⟩, 5, 30, 0, 0, some (19800 * secondMicros)⟩

theorem isWritable_thirdDay : thirdDay.IsWritable := ⟨by decide, by decide, by rintro o ⟨⟩⟩

theorem isWritable_thirdMorning : thirdMorning.IsWritable := by
  refine ⟨by decide, by decide, ?_⟩
  rintro o ⟨rfl⟩
  decide

/-- The token is valid on the second day, and has expired on the fourth. With the other text of its expiry
that is so too. -/
theorem statuses_neverGoBack_thirdDay :
    (expiringFolder thirdDay).records = .ok [(serviceName, (storeExpiring thirdDay).document)] ∧
      (expiringFolder thirdDay).told serviceName [dayOf2030 2, dayOf2030 4] = [.valid, .expired] ∧
      ((expiringFolder thirdDay).told serviceName [dayOf2030 2, dayOf2030 4]).Pairwise
        TokenStatus.MayBecome ∧
      (∀ now, now.IsClock → now.instant + expiryMargin < endOfYears →
        ∀ fault, (expiringFolder thirdDay).status serviceName now ≠ .error fault) ∧
      ∀ now, (expiringFolder thirdMorning).status serviceName now =
        (expiringFolder thirdDay).status serviceName now := by
  have hfound := retrieve_expiringFolder isWritable_thirdDay
  have hclock (now : DateTime) (h : now ∈ [dayOf2030 2, dayOf2030 4]) : now.IsClock := by
    rcases List.mem_pair.1 h with rfl | rfl
    · exact ⟨DateTime.isWall_of_isWritable (isWritable_dayOf2030 (by decide)), rfl⟩
    · exact ⟨DateTime.isWall_of_isWritable (isWritable_dayOf2030 (by decide)), rfl⟩
  obtain ⟨hpairwise, hfaults, hredated⟩ := statuses_neverGoBack (records_expiringFolder thirdDay)
  refine ⟨records_expiringFolder _, ?_, hpairwise _ _ hclock (by decide), ?_, ?_⟩
  · have hsecond : (expiringFolder thirdDay).status serviceName (dayOf2030 2) = .ok .valid := by
      rw [status_eq_stateAt (hclock _ (by decide)) (hfound _), Token.stateAt, if_neg (by decide),
        if_neg (by decide)]
    have hfourth : (expiringFolder thirdDay).status serviceName (dayOf2030 4) = .ok .expired := by
      rw [status_eq_stateAt (hclock _ (by decide)) (hfound _), Token.stateAt, if_neg (by decide),
        if_pos (by decide)]
    rw [told_cons hsecond, told_cons hfourth]
    rfl
  · intro now hnow hyears fault hfault
    obtain ⟨-, hlate, -⟩ := (hfaults _ _ _ hnow).1 hfault
    exact absurd hlate (Int.not_le.2 hyears)
  · intro now
    have hinstant : thirdMorning.instant = thirdDay.instant := by decide
    have hcheck {t : DateTime} (h : t.IsWritable) :
        checkTime (Json.str t.documentText).widen.narrow = .ok t := by
      rw [narrow_widen]
      exact checkTime_documentText h
    have hafter : (expiringFolder thirdMorning).records = .ok (Members.set ↑serviceName
        ((storeExpiring thirdDay).document.redated (Json.str thirdMorning.documentText).widen)
        [(↑serviceName, (storeExpiring thirdDay).document)]) := by
      rw [StoreCall.redated_document, records_expiringFolder]
      simp [Members.set, storeExpiring, Token.expiringAt]
    have hfind : Members.find? ↑serviceName [(↑serviceName, (storeExpiring thirdDay).document)] =
        some (storeExpiring thirdDay).document := by simp [Members.find?]
    exact hredated serviceName _ _ _ _ _ (expiringFolder thirdMorning) hfind
      (storeExpiring thirdDay).expiry?_document (hcheck isWritable_thirdDay) (hcheck isWritable_thirdMorning)
      hinstant hafter serviceName now

end TokenFolder

end WorkspaceTools
