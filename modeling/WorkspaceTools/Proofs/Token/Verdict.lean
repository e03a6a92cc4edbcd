import WorkspaceTools.Proofs.Token.Lifetime

/-!
# The state of a token with its record

`TokenFolder.statusAndRecord` tells the state of a token and hands out its record. The file is read three times for
it, and its verdicts agree.

* Nothing in the file is missing, and has no record (`statusAndRecord_of_absent`).
* A record is handed out with the state of its token (`statusAndRecord_of_record`).
* Something that is no record is invalid, and there is nothing to hand out (`statusAndRecord_of_unreadable`). So a
  record can be lacking where none is missing (`statusAndRecord_lacksRecord_iff`).
-/

namespace WorkspaceTools

open Json Number Time

theorem Token.stateAt_ne_missing {token : Token} {now : DateTime} : token.stateAt now ≠ .ok .missing := by
  unfold Token.stateAt
  split
  · simp
  · split <;> simp

namespace TokenFolder

variable {folder : TokenFolder} {ms : Members WideText} {service : WideText} {now : DateTime} {record : TokenRecord}

theorem statusAndRecord_of_found {status : TokenStatus} {found : Option TokenRecord}
    (hstatus : folder.status service now = .ok status) (hne : status ≠ .missing)
    (hfound : folder.retrieve service now = .ok found) :
    folder.statusAndRecord service now = .ok (status, found) := by
  rw [statusAndRecord, hstatus, ok_bind, if_neg hne, hfound]
  rfl

theorem statusAndRecord_of_missing (hstatus : folder.status service now = .ok .missing) :
    folder.statusAndRecord service now = .ok (.missing, none) := by
  rw [statusAndRecord, hstatus]
  rfl

theorem statusAndRecord_of_absent (h : folder.records = .ok ms) (hfind : ms.find? service = none) :
    folder.statusAndRecord service now = .ok (.missing, none) :=
  statusAndRecord_of_missing (status_of_absent h hfind now)

/-- What is no record is not missing, but none is handed out. -/
theorem statusAndRecord_of_unreadable (h : folder.records = .ok ms) {v : Json WideText} (hfind : ms.find? service = some v)
    (hcheck : ∀ record, TokenRecord.check now v.narrow ≠ .ok record) :
    folder.statusAndRecord service now = .ok (.invalid, none) :=
  statusAndRecord_of_found (status_of_unreadable h hfind hcheck) (by decide) (retrieve_of_unreadable h hfind hcheck)

/-- A record is handed out with the state of its token. -/
theorem statusAndRecord_of_record (hnow : now.IsClock) (hfound : folder.retrieve service now = .ok (some record)) :
    folder.statusAndRecord service now = (record.token.stateAt now).map fun status => (status, some record) := by
  have hstatus := status_eq_stateAt hnow hfound
  cases hstate : record.token.stateAt now with
  | error fault => rw [statusAndRecord, hstatus, hstate, error_bind, map_error]
  | ok status =>
    rw [hstate] at hstatus
    have hne : status ≠ .missing := by
      rintro rfl
      exact Token.stateAt_ne_missing hstate
    rw [statusAndRecord_of_found hstatus hne hfound, map_ok]

/-- A state is that of a record, or it is missing or invalid and there is no record. -/
theorem exists_record_of_statusAndRecord (hnow : now.IsClock) {status : TokenStatus} {found : Option TokenRecord}
    (h : folder.statusAndRecord service now = .ok (status, found)) :
    (found = none ∧ (status = .missing ∨ status = .invalid)) ∨
      ∃ record, folder.retrieve service now = .ok (some record) ∧ found = some record ∧
        record.token.stateAt now = .ok status := by
  cases hretrieve : folder.retrieve service now with
  | error fault =>
    rw [statusAndRecord, status_of_fault (retrieve_eq_error_iff.1 hretrieve), error_bind] at h
    cases h
  | ok read =>
    cases read with
    | some record =>
      rw [statusAndRecord_of_record hnow hretrieve] at h
      obtain ⟨state, hstate, hpair⟩ := map_eq_ok.1 h
      cases hpair
      exact .inr ⟨record, rfl, rfl, hstate⟩
    | none =>
      cases hrecords : folder.records with
      | error fault =>
        rw [retrieve_eq_error_iff.2 hrecords] at hretrieve
        cases hretrieve
      | ok ms =>
        have hstatus := status_of_notFound hrecords hretrieve
        split at hstatus
        · rw [statusAndRecord_of_found hstatus (by decide) hretrieve] at h
          cases h
          exact .inl ⟨rfl, .inr rfl⟩
        · rw [statusAndRecord_of_missing hstatus] at h
          cases h
          exact .inl ⟨rfl, .inl rfl⟩

/-- The file has something for a service, but no record. -/
def HasNoRecord (ms : Members WideText) (service : WideText) (now : DateTime) : Prop :=
  ∃ v, ms.find? service = some v ∧ ∀ record, TokenRecord.check now v.narrow ≠ .ok record

/-- **When a record is lacking**, for every file with readable records and every reading of the clock. Where the file
has nothing for a service, its token is missing. A record is handed out with the state of its token, which is told but
in the last minute of year 9999. What is no record is invalid, and it alone has no record though it is not
missing. -/
theorem statusAndRecord_lacksRecord_iff (h : folder.records = .ok ms) (hnow : now.IsClock) (service : WideText) :
    (ms.find? service = none → folder.statusAndRecord service now = .ok (.missing, none)) ∧
    (∀ v record, ms.find? service = some v → TokenRecord.check now v.narrow = .ok record →
      folder.statusAndRecord service now =
        (record.token.stateAt now).map fun status => (status, some record)) ∧
    (HasNoRecord ms service now → folder.statusAndRecord service now = .ok (.invalid, none)) ∧
    ((∃ status, folder.statusAndRecord service now = .ok (status, none) ∧ status ≠ .missing) ↔
      HasNoRecord ms service now) := by
  have hrecord (v : Json WideText) (record : TokenRecord) (hfind : ms.find? service = some v)
      (hcheck : TokenRecord.check now v.narrow = .ok record) :=
    statusAndRecord_of_record hnow (retrieve_of_check h hfind hcheck)
  have hunreadable : HasNoRecord ms service now → folder.statusAndRecord service now = .ok (.invalid, none) := by
    rintro ⟨v, hfind, hcheck⟩
    exact statusAndRecord_of_unreadable h hfind hcheck
  refine ⟨statusAndRecord_of_absent h, hrecord, hunreadable, ?_, fun hnone => ?_⟩
  · rintro ⟨status, hstatus, hne⟩
    cases hfind : ms.find? service with
    | none =>
      rw [statusAndRecord_of_absent h hfind] at hstatus
      cases hstatus
      exact absurd rfl hne
    | some v =>
      refine ⟨v, hfind, fun record hcheck => ?_⟩
      rw [hrecord v record hfind hcheck] at hstatus
      obtain ⟨_, -, hpair⟩ := map_eq_ok.1 hstatus
      cases hpair
  · exact ⟨.invalid, hunreadable hnone, by decide⟩

/-- A folder with an entry that is no record. -/
def versionFolder : TokenFolder := save [(serviceName, .obj [("version", .int 1)])] {}

theorem records_versionFolder : versionFolder.records = .ok [(serviceName, .obj [("version", .int 1)])] := by
  have hversion : (natDigits (1 : Int).natAbs).length ≤ maxIntDigits :=
    Nat.le_trans (length_natDigits_le Nat.one_pos (by decide)) (by decide)
  have hentry : IsReadable 975 (.obj [("version", .int 1)] : Json WideText) :=
    ⟨by decide, by simp [Members.names], hversion, trivial⟩
  have hread : IsReadable 976 (.obj [(serviceName, .obj [("version", .int 1)])] : Json WideText) :=
    isReadable_set (serviceName : WideText) (isReadable_noMembers {}) hentry
  exact (holds_save hread).records

/-- It is invalid, and has no record to be handed out. -/
theorem statusAndRecord_lacksRecord_iff_version :
    versionFolder.records = .ok [(serviceName, .obj [("version", .int 1)])] ∧ (dayOf2030 2).IsClock ∧
      versionFolder.statusAndRecord serviceName (dayOf2030 2) = .ok (.invalid, none) := by
  refine ⟨records_versionFolder, isClock_dayOf2030, ?_⟩
  obtain ⟨-, -, hinvalid, -⟩ := statusAndRecord_lacksRecord_iff records_versionFolder isClock_dayOf2030 serviceName
  refine hinvalid ⟨_, rfl, ?_⟩
  rintro record ⟨⟩

end TokenFolder

end WorkspaceTools
