import WorkspaceTools.Command.Run
import WorkspaceTools.Proofs.Token.Verdict

/-!
# Whether the program is ready

The doctor reads the stored token and says whether the program is ready; later a token is selected from the
same file.

* `TokenFolder.Diagnosis` lists what the doctor can find (`TokenFolder.diagnosis`).
* `TokenFolder.HasFinal` says that the token has expired and cannot be renewed. No token is selected then
  (`TokenFolder.HasFinal.accessToken`), and where there is a record, no other one has a fault of the token
  itself (`TokenFolder.hasFinal_of_fault`).
* `Command.doctor_misleads_iff`: the doctor says ready of every record that can be read, those included.
-/

namespace WorkspaceTools

open Time

namespace TokenFolder

variable {folder : TokenFolder} {ms : Members WideText} {now : DateTime} {record : TokenRecord}

/-! ## What the doctor finds -/

/-- The states that the doctor can find, with the record that it shows. -/
inductive Diagnosis (folder : TokenFolder) (now : DateTime) :
    Except Fault (TokenStatus × Option TokenRecord) → Prop
  | unusable (status : TokenStatus) (hstatus : Command.isReady status = false)
    (hfound : folder.retrieve serviceName now = .ok none) : Diagnosis folder now (.ok (status, none))
  /-- In the last minute of year 9999 no expiry can be told. -/
  | late (record : TokenRecord) (hfound : folder.retrieve serviceName now = .ok (some record))
    (hyears : endOfYears ≤ now.instant + expiryMargin) : Diagnosis folder now (.error .timeOutOfRange)
  | fresh (record : TokenRecord) (hfound : folder.retrieve serviceName now = .ok (some record))
    (hyears : now.instant + expiryMargin < endOfYears)
    (hfresh : now.instant + expiryMargin < record.token.expiresAt.instant) :
    Diagnosis folder now (.ok (.valid, some record))
  | expired (record : TokenRecord) (hfound : folder.retrieve serviceName now = .ok (some record))
    (hyears : now.instant + expiryMargin < endOfYears)
    (hexpired : record.token.expiresAt.instant ≤ now.instant + expiryMargin) :
    Diagnosis folder now (.ok (.expired, some record))

/-- **What the doctor finds**, in any folder whose file can be read and at every reading of the clock. -/
theorem diagnosis (hrecords : folder.records = .ok ms) (hnow : now.IsClock) :
    folder.Diagnosis now (folder.statusAndRecord serviceName now) := by
  obtain ⟨found, hfound⟩ := retrieve_of_records hrecords serviceName now
  cases found with
  | none =>
    have hstatus := status_of_notFound hrecords hfound
    split at hstatus
    · rw [statusAndRecord_of_found hstatus (by decide) hfound]
      exact .unusable .invalid rfl hfound
    · rw [statusAndRecord_of_missing hstatus]
      exact .unusable .missing rfl hfound
  | some record =>
    by_cases hyears : now.instant + expiryMargin < endOfYears
    · by_cases hfresh : now.instant + expiryMargin < record.token.expiresAt.instant
      · have he := Token.isExpired?_of_fresh hnow hyears hfresh
        have hstatus := status_of_retrieve hfound (hasExpired_of_isExpired? he)
        rw [statusAndRecord_of_found hstatus (by decide) hfound]
        exact .fresh record hfound hyears hfresh
      · have hexpired := Int.not_lt.1 hfresh
        have he := Token.isExpired?_of_expired hnow hyears hexpired
        have hstatus := status_of_retrieve hfound (hasExpired_of_isExpired? he)
        rw [statusAndRecord_of_found hstatus (by decide) hfound]
        exact .expired record hfound hyears hexpired
    · have hlate := Int.not_lt.1 hyears
      have hstatus := status_of_late hfound (Token.isExpired?_of_le hnow hlate _)
      rw [statusAndRecord, hstatus]
      exact .late record hfound hlate

/-! ## Tokens that are final -/

/-- The token of the program has expired and cannot be renewed. -/
structure HasFinal (folder : TokenFolder) (now : DateTime) (record : TokenRecord) : Prop where
  found : folder.retrieve serviceName now = .ok (some record)
  inYears : now.instant + expiryMargin < endOfYears
  expired : record.token.expiresAt.instant ≤ now.instant + expiryMargin
  final : record.token.refreshToken = none

theorem HasFinal.accessToken (h : folder.HasFinal now record) (hnow : now.IsClock) (accounts : Accounts) :
    folder.accessToken accounts now = .error (.token .notRenewable) :=
  accessToken_of_final h.found (Token.isExpired?_of_expired hnow h.inYears h.expired) h.final accounts

theorem hasFinal_opened_iff (folder : TokenFolder) :
    folder.opened.HasFinal now record ↔ folder.HasFinal now record :=
  ⟨fun h => ⟨h.found, h.inYears, h.expired, h.final⟩, fun h => ⟨h.found, h.inYears, h.expired, h.final⟩⟩

/-- A fault of the token itself, where there is a record, is that of a token that is final. -/
theorem hasFinal_of_fault (hrecords : folder.records = .ok ms) (hnow : now.IsClock)
    (hfound : folder.retrieve serviceName now = .ok (some record))
    (hyears : now.instant + expiryMargin < endOfYears) {accounts : Accounts} {fault : TokenFault}
    (h : folder.accessToken accounts now = .error (.token fault)) : folder.HasFinal now record := by
  have hselection := selection_of_record hrecords hnow hfound accounts
  rw [h] at hselection
  cases hselection with
  | absent hfind =>
    obtain ⟨v, hv, -⟩ := retrieve_eq_some hrecords hfound
    cases hfind.symm.trans hv
  | unreadable v hfind hcheck =>
    obtain ⟨w, hw, hread⟩ := retrieve_eq_some hrecords hfound
    cases hfind.symm.trans hw
    exact absurd hread (hcheck record)
  | final other hother hexpired hfinal =>
    cases hfound.symm.trans hother
    exact ⟨hfound, hyears, hexpired, hfinal⟩
  | failed other _ hother hexpired hr he =>
    rcases RenewalRequest.renew_eq_error he with ⟨text, he⟩ | ⟨issues, he⟩ | he <;> cases he

/-- Without a record that can be read no token is selected. -/
theorem accessToken_of_notFound (hrecords : folder.records = .ok ms)
    (hfound : folder.retrieve serviceName now = .ok none) (accounts : Accounts) :
    ∃ fault, folder.accessToken accounts now = .error (.token fault) := by
  have hstatus := status_of_notFound hrecords hfound
  by_cases hfind : (ms.find? ↑serviceName).isSome
  · rw [accessToken, hstatus, if_pos hfind]
    exact ⟨.invalid, rfl⟩
  · rw [accessToken, hstatus, if_neg hfind]
    exact ⟨.missing, rfl⟩

end TokenFolder

/-! ## What the doctor says -/

namespace Command

/-- The last line of a verdict that the program is ready. -/
def readyLine : String := "✓ Ready to use!"

/-- The line that a verdict shows of a token that has expired. -/
def expiredLine : String := "  ⚠️  Token expired (refreshes automatically on use)"

/-- A command succeeds, and says at its end that the program is ready. -/
def Outcome.SaysReady (o : Outcome) : Prop := o.exitCode = 0 ∧ ∃ lines, o.out = ended (lines ++ [readyLine])

theorem ended_append (lines rest : List String) : ended (lines ++ rest) = ended lines ++ ended rest := by
  rw [ended, List.map_append, String.join_append]
  rfl

theorem Outcome.out_saying (lines : List String) (o : Outcome) :
    (o.saying lines).out = ended lines ++ o.out := rfl

variable {s : Setting} {folder : TokenFolder}

/-- What is written where the state of the token is told. -/
theorem out_doctor {status : TokenStatus} {record : Option TokenRecord}
    (h : folder.statusAndRecord serviceName s.now = .ok (status, record)) :
    (doctor s folder).out = ended (doctorHeader ++
      "Authentication:" :: ("  Token file: " ++ s.tokenPath) :: verdictLines status record) := by
  unfold doctor
  rw [h, Outcome.out_saying, ended_append]
  dsimp only
  rw [Outcome.out_saying]
  cases hready : isReady status <;> exact congrArg (ended doctorHeader ++ ·) (String.append_empty)

theorem folder_doctor (s : Setting) (folder : TokenFolder) : (doctor s folder).folder = folder := by
  unfold doctor
  rw [Outcome.folder_saying]
  split
  · rfl
  · rw [Outcome.folder_saying]
    split <;> rfl

theorem exists_verdictLines_eq {status : TokenStatus} (h : isReady status = true)
    (record : Option TokenRecord) : ∃ lines, verdictLines status record = lines ++ [readyLine] := by
  refine ⟨statusLines record status ++ ((record.map fun r => scopeLines r.token).getD [] ++ [""]), ?_⟩
  rw [verdictLines, if_pos h, List.append_assoc, List.append_assoc]
  rfl

theorem saysReady_doctor_iff {status : TokenStatus} {record : Option TokenRecord}
    (h : folder.statusAndRecord serviceName s.now = .ok (status, record)) :
    (doctor s folder).SaysReady ↔ isReady status = true := by
  rw [Outcome.SaysReady, exitCode_doctor h]
  constructor
  · rintro ⟨hcode, -⟩
    by_contra hready
    rw [if_neg hready] at hcode
    cases hcode
  · intro hready
    obtain ⟨lines, hlines⟩ := exists_verdictLines_eq hready record
    refine ⟨if_pos hready,
      doctorHeader ++ "Authentication:" :: ("  Token file: " ++ s.tokenPath) :: lines, ?_⟩
    rw [out_doctor h, hlines, List.append_assoc]
    rfl

theorem not_saysReady_doctor_of_error {e : Fault}
    (h : folder.statusAndRecord serviceName s.now = .error e) : ¬ (doctor s folder).SaysReady := by
  rintro ⟨hcode, -⟩
  unfold doctor at hcode
  rw [h] at hcode
  cases hcode

variable {ms : Members WideText} {record : TokenRecord}

/-- The doctor says ready of every record that can be read, as long as its expiry can be told. -/
theorem saysReady_doctor_iff_found (hrecords : folder.records = .ok ms) (hnow : s.now.IsClock) :
    (doctor s folder).SaysReady ↔
      (∃ record, folder.retrieve serviceName s.now = .ok (some record)) ∧
        s.now.instant + expiryMargin < endOfYears := by
  have hdiagnosis := TokenFolder.diagnosis hrecords hnow
  cases hstatus : folder.statusAndRecord serviceName s.now with
  | error e =>
    rw [hstatus] at hdiagnosis
    cases hdiagnosis with
    | late record hfound hyears =>
      exact iff_of_false (not_saysReady_doctor_of_error hstatus) fun h => absurd h.2 (Int.not_lt.2 hyears)
  | ok verdict =>
    rw [hstatus] at hdiagnosis
    cases hdiagnosis with
    | unusable status hunready hfound =>
      rw [saysReady_doctor_iff hstatus, hunready, hfound]
      simp
    | fresh record hfound hyears hfresh =>
      exact iff_of_true ((saysReady_doctor_iff hstatus).2 rfl) ⟨⟨record, hfound⟩, hyears⟩
    | expired record hfound hyears hexpired =>
      exact iff_of_true ((saysReady_doctor_iff hstatus).2 rfl) ⟨⟨record, hfound⟩, hyears⟩

/-- A token that is final is shown with the promise that it is renewed. -/
theorem exists_out_doctor_eq (hnow : s.now.IsClock)
    (h : folder.HasFinal s.now record) :
    ∃ before after, (doctor s folder).out = ended (before ++ expiredLine :: after) := by
  have he := Token.isExpired?_of_expired hnow h.inYears h.expired
  have hstatus := TokenFolder.status_of_retrieve h.found (TokenFolder.hasExpired_of_isExpired? he)
  have hverdict := TokenFolder.statusAndRecord_of_found hstatus (by decide) h.found
  obtain ⟨after, hlines⟩ : ∃ after, verdictLines .expired (some record) = expiredLine :: after := ⟨_, rfl⟩
  refine ⟨doctorHeader ++ ["Authentication:", "  Token file: " ++ s.tokenPath], after, ?_⟩
  rw [out_doctor hverdict, if_pos rfl, hlines, List.append_assoc]
  rfl

/-- Where the doctor does not say ready, no token is selected. -/
theorem exists_error_of_not_saysReady (hrecords : folder.records = .ok ms) (hnow : s.now.IsClock)
    (h : ¬ (doctor s folder).SaysReady) (accounts : Accounts) :
    ∃ fault, folder.accessToken accounts s.now = .error fault := by
  rw [saysReady_doctor_iff_found hrecords hnow, not_and, Int.not_lt] at h
  obtain ⟨found, hfound⟩ := TokenFolder.retrieve_of_records hrecords serviceName s.now
  cases found with
  | none =>
    obtain ⟨fault, hfault⟩ := TokenFolder.accessToken_of_notFound hrecords hfound accounts
    exact ⟨_, hfault⟩
  | some record =>
    have hlate := Token.isExpired?_of_le hnow (h ⟨record, hfound⟩) record.token
    exact ⟨_, TokenFolder.accessToken_of_late hfound hlate accounts⟩

/-- **What the verdict is worth**, for every file that can be read and every reading of the clock. The doctor
says that the program is ready if and only if there is a record that can be read, and its expiry can be told.
Where it does, a token is selected, or only its renewal fails, but for one case: a token that has expired and
cannot be renewed. The doctor promises that it is renewed, and then it is asked for a new one, whatever the
service that keeps the accounts would grant. Where the doctor does not say ready, no token is selected. -/
theorem doctor_misleads_iff (hrecords : folder.records = .ok ms) (hnow : s.now.IsClock) {o : Outcome}
    (h : runArguments s folder ["doctor"] = o) :
    (o.SaysReady ↔ (∃ record, folder.retrieve serviceName s.now = .ok (some record)) ∧
      s.now.instant + expiryMargin < endOfYears) ∧
    (∀ accounts, (o.SaysReady ∧ ∃ fault, o.folder.accessToken accounts s.now = .error (.token fault)) ↔
      ∃ record, folder.HasFinal s.now record) ∧
    (∀ record, folder.HasFinal s.now record →
      (∃ before after, o.out = ended (before ++ expiredLine :: after)) ∧
        ∀ accounts, o.folder.accessToken accounts s.now = .error (.token .notRenewable)) ∧
    (¬ o.SaysReady → ∀ accounts, ∃ fault, o.folder.accessToken accounts s.now = .error fault) := by
  -- The doctor opens the folder, which changes no record.
  have hopened : folder.opened.records = .ok ms := hrecords
  have hdoctor : doctor s folder.opened = o := h
  subst hdoctor
  rw [folder_doctor]
  simp only [← folder.hasFinal_opened_iff]
  refine ⟨saysReady_doctor_iff_found hopened hnow, fun accounts => ⟨?_, ?_⟩, fun record hfinal => ⟨?_, ?_⟩,
    exists_error_of_not_saysReady hopened hnow⟩
  · rintro ⟨hready, fault, hfault⟩
    obtain ⟨⟨record, hfound⟩, hyears⟩ := (saysReady_doctor_iff_found hopened hnow).1 hready
    have hfound : folder.opened.retrieve serviceName s.now = .ok (some record) := hfound
    exact ⟨record, TokenFolder.hasFinal_of_fault hopened hnow hfound hyears hfault⟩
  · rintro ⟨record, hfinal⟩
    have hready := (saysReady_doctor_iff_found hopened hnow).2 ⟨⟨record, hfinal.found⟩, hfinal.inYears⟩
    exact ⟨hready, _, hfinal.accessToken hnow accounts⟩
  · exact exists_out_doctor_eq hnow hfinal
  · exact hfinal.accessToken hnow

/-! ### A token without one that renews it -/

/-- The program runs at the given time, and nothing happens outside. -/
def quietSetting (now : DateTime) : Setting where
  environment _ := none
  now := now
  typed := []
  tokenPath := "tokens.json"
  surroundings := { pageFor := fun _ => "", arrival := none, exchange := fun _ => .error "" }
  state := ""
  server := .finished

/-- A folder with a token that expires on the first day of 2030 and cannot be renewed. -/
def finalFolder : TokenFolder := TokenFolder.save [(serviceName, (storeUntil serviceName 1).document)] {}

theorem retrieve_finalFolder (now : DateTime) :
    finalFolder.retrieve serviceName now = .ok (some (storeUntil serviceName 1).record) :=
  TokenFolder.retrieve_save_set (TokenFolder.isReadable_noMembers {})
    (isWritable_storeUntil serviceName (by decide)) now

theorem records_finalFolder :
    finalFolder.records = .ok [(serviceName, (storeUntil serviceName 1).document)] :=
  (TokenFolder.holds_save (TokenFolder.isReadable_set_document (TokenFolder.isReadable_noMembers {})
    (storeUntil serviceName 1))).records

/-- On the next day the doctor says ready, but no token is selected, whatever would be granted. -/
theorem doctor_misleads_iff_finalFolder :
    finalFolder.records = .ok [(serviceName, (storeUntil serviceName 1).document)] ∧
      (quietSetting (dayOf2030 2)).now.IsClock ∧
      ∃ o, runArguments (quietSetting (dayOf2030 2)) finalFolder ["doctor"] = o ∧ o.SaysReady ∧
        (∃ before after, o.out = ended (before ++ expiredLine :: after)) ∧
        ∀ accounts, o.folder.accessToken accounts (dayOf2030 2) = .error (.token .notRenewable) := by
  have hfinal : finalFolder.HasFinal (dayOf2030 2) (storeUntil serviceName 1).record :=
    ⟨retrieve_finalFolder _, by decide, by decide, rfl⟩
  obtain ⟨hready, -, hmisled, -⟩ := doctor_misleads_iff (s := quietSetting (dayOf2030 2)) records_finalFolder
    TokenFolder.isClock_dayOf2030 rfl
  obtain ⟨hpromise, hselection⟩ := hmisled _ hfinal
  exact ⟨records_finalFolder, TokenFolder.isClock_dayOf2030, _, rfl,
    hready.2 ⟨⟨_, hfinal.found⟩, hfinal.inYears⟩, hpromise, hselection⟩

end Command

end WorkspaceTools
