import WorkspaceTools.Proofs.Command.Readiness
import WorkspaceTools.Proofs.Time.Universal
import WorkspaceTools.Proofs.Token.Record

/-!
# The expiry that is shown

The doctor says authenticated of a token that is valid, and shows when it expires.

* `Command.exists_saysAuthenticated_doctor_iff`: it says so of valid tokens alone.
* `Command.doctor_misdatesExpiry_iff`: what it shows is called universal time, but it is the time of day where the
  token was dated. So it is the right instant exactly if that is no offset away.
-/

namespace WorkspaceTools

open Time

/-- The expiry of a record that was read can be written in full. -/
theorem TokenFolder.isWritable_of_retrieve {folder : TokenFolder} {service : WideText} {now : DateTime}
    (hnow : now.IsClock) {record : TokenRecord} (hfound : folder.retrieve service now = .ok (some record)) :
    record.token.expiresAt.IsWritable := by
  cases hrecords : folder.records with
  | error fault =>
    rw [TokenFolder.retrieve_eq_error_iff.2 hrecords] at hfound
    cases hfound
  | ok ms =>
    obtain ⟨v, -, hcheck⟩ := TokenFolder.retrieve_eq_some hrecords hfound
    exact (TokenRecord.ensures_check hnow.isWritable v.narrow record hcheck).1

namespace Command

/-! ## Lines of an output -/

theorem ended_cons (line : String) (rest : List String) : ended (line :: rest) = line ++ "\n" ++ ended rest :=
  ended_append [line] rest

theorem ended_cons_inj (line : String) {rest rest' : List String} :
    ended (line :: rest) = ended (line :: rest') ↔ ended rest = ended rest' := by
  rw [ended_cons, ended_cons, String.append_right_inj]

/-- An output begins as its first line does. -/
theorem take_ended_cons {line : String} {n : Nat} (h : n ≤ line.toList.length) (rest : List String) :
    (ended (line :: rest)).toList.take n = line.toList.take n := by
  rw [ended_cons, String.append_assoc, String.toList_append, List.take_append_of_le_length h]

theorem ended_cons_ne_empty (line : String) (rest : List String) : ended (line :: rest) ≠ "" := by
  rw [ended_cons, ← String.toList_inj.ne]
  simp

/-! ## Tokens that are valid -/

/-- The line that is shown of a token that is valid. -/
def authenticatedLine : String := "  ✓ Authenticated"

/-- A command says that a valid token is there, and then goes on with some lines. -/
def Outcome.SaysAuthenticated (s : Setting) (o : Outcome) (after : List String) : Prop :=
  o.out = ended (doctorHeader ++ "Authentication:" :: ("  Token file: " ++ s.tokenPath) :: authenticatedLine :: after)

variable {s : Setting} {folder : TokenFolder}

/-- The first line about a token tells whether it is valid. -/
theorem eq_valid_of_verdictLines {status : TokenStatus} {record : Option TokenRecord} {after : List String}
    (h : ended (verdictLines status record) = ended (authenticatedLine :: after)) : status = .valid := by
  obtain ⟨line, rest, hlines, hlength, hvalid⟩ : ∃ line rest, verdictLines status record = line :: rest ∧
      3 ≤ line.toList.length ∧ (line.toList.take 3 = authenticatedLine.toList.take 3 → status = .valid) := by
    cases status with
    | valid => exact ⟨_, _, rfl, by decide, fun _ => rfl⟩
    | expired => exact ⟨_, _, rfl, by decide, fun h => absurd h (by decide)⟩
    | missing => exact ⟨_, _, rfl, by decide, fun h => absurd h (by decide)⟩
    | invalid => exact ⟨_, _, rfl, by decide, fun h => absurd h (by decide)⟩
  rw [hlines] at h
  apply hvalid
  rw [← take_ended_cons hlength rest, h, take_ended_cons (by decide)]

theorem exists_saysAuthenticated_iff {status : TokenStatus} {record : Option TokenRecord}
    (h : folder.statusAndRecord serviceName s.now = .ok (status, record)) :
    (∃ after, (doctor s folder).SaysAuthenticated s after) ↔ status = .valid := by
  constructor
  · rintro ⟨after, hafter⟩
    rw [Outcome.SaysAuthenticated, out_doctor h, ended_append, ended_append, String.append_right_inj,
      ended_cons_inj, ended_cons_inj] at hafter
    exact eq_valid_of_verdictLines hafter
  · rintro rfl
    exact ⟨_, out_doctor h⟩

theorem not_saysAuthenticated_of_error {e : Fault} (h : folder.statusAndRecord serviceName s.now = .error e)
    (after : List String) : ¬ (doctor s folder).SaysAuthenticated s after := by
  intro hafter
  unfold Outcome.SaysAuthenticated doctor at hafter
  rw [h, Outcome.out_saying, ended_append, String.append_right_inj] at hafter
  exact ended_cons_ne_empty _ _ hafter.symm

/-- **Of which tokens the doctor says authenticated**: of those that are valid. -/
theorem exists_saysAuthenticated_doctor_iff (hnow : s.now.IsClock) :
    (∃ after, (doctor s folder).SaysAuthenticated s after) ↔
      ∃ record, folder.retrieve serviceName s.now = .ok (some record) ∧
        record.token.stateAt s.now = .ok .valid := by
  cases hverdict : folder.statusAndRecord serviceName s.now with
  | error fault =>
    refine iff_of_false ?_ ?_
    · rintro ⟨after, hafter⟩
      exact not_saysAuthenticated_of_error hverdict after hafter
    · rintro ⟨record, hfound, hstate⟩
      rw [TokenFolder.statusAndRecord_of_record hnow hfound, hstate] at hverdict
      cases hverdict
  | ok verdict =>
    obtain ⟨status, found⟩ := verdict
    rw [exists_saysAuthenticated_iff hverdict]
    constructor
    · rintro rfl
      rcases TokenFolder.exists_record_of_statusAndRecord hnow hverdict with ⟨-, h | h⟩ | ⟨record, hfound, -, hstate⟩
      · cases h
      · cases h
      · exact ⟨record, hfound, hstate⟩
    · rintro ⟨record, hfound, hstate⟩
      rw [TokenFolder.statusAndRecord_of_record hnow hfound, hstate] at hverdict
      cases hverdict
      rfl

/-- The expiry of a valid token is shown behind it. -/
theorem exists_saysAuthenticated_of_valid (hnow : s.now.IsClock) {record : TokenRecord}
    (hfound : folder.retrieve serviceName s.now = .ok (some record))
    (hstate : record.token.stateAt s.now = .ok .valid) :
    ∃ after, (doctor s folder).SaysAuthenticated s
      (("  Token expires: " ++ record.token.expiresAt.expiryText) :: after) := by
  have hverdict := TokenFolder.statusAndRecord_of_record hnow hfound
  rw [hstate, map_ok] at hverdict
  exact ⟨_, out_doctor hverdict⟩

/-- **What is shown of an expiry**, for every folder and every reading of the clock. The doctor says authenticated
of a token that is valid, and of no other. The time that it then shows as universal time is that of the expiry up to
the second, but later by the offset that the expiry has. So it is the instant at which the token expires if and only
if there is no offset. -/
theorem doctor_misdatesExpiry_iff (hnow : s.now.IsClock) {o : Outcome}
    (h : runArguments s folder ["doctor"] = o) :
    ((∃ after, o.SaysAuthenticated s after) ↔
      ∃ record, folder.retrieve serviceName s.now = .ok (some record) ∧
        record.token.stateAt s.now = .ok .valid) ∧
    ∀ record, folder.retrieve serviceName s.now = .ok (some record) →
      record.token.stateAt s.now = .ok .valid →
        ∃ shown after u, o.SaysAuthenticated s (("  Token expires: " ++ shown) :: after) ∧
          readUniversal? shown = some u ∧
          u.instant = cutToSecond record.token.expiresAt.instant + record.token.expiresAt.offset.getD 0 ∧
          (u.instant = cutToSecond record.token.expiresAt.instant ↔ record.token.expiresAt.offset.getD 0 = 0) := by
  -- The doctor opens the folder, which changes no record.
  have hdoctor : doctor s folder.opened = o := h
  subst hdoctor
  refine ⟨exists_saysAuthenticated_doctor_iff hnow, fun record hfound hstate => ?_⟩
  have hopened : folder.opened.retrieve serviceName s.now = .ok (some record) := hfound
  obtain ⟨after, hafter⟩ := exists_saysAuthenticated_of_valid hnow hopened hstate
  have hinstant := DateTime.instant_shown (TokenFolder.isWritable_of_retrieve hnow hfound)
  refine ⟨_, after, _, hafter, readUniversal?_expiryText _, hinstant, ?_⟩
  rw [hinstant]
  omega

/-- A token that expires at midnight, by a clock that is five hours and a half ahead, is shown to expire five hours
and a half later than it does. -/
theorem doctor_misdatesExpiry_iff_thirdMorning :
    (quietSetting (dayOf2030 2)).now.IsClock ∧
      ∃ o shown after u,
        runArguments (quietSetting (dayOf2030 2)) (TokenFolder.expiringFolder TokenFolder.thirdMorning) ["doctor"] =
          o ∧
        o.SaysAuthenticated (quietSetting (dayOf2030 2)) (("  Token expires: " ++ shown) :: after) ∧
        readUniversal? shown = some u ∧
        u.instant = cutToSecond TokenFolder.thirdMorning.instant + 19800 * secondMicros ∧
        u.instant ≠ cutToSecond TokenFolder.thirdMorning.instant := by
  have hclock := TokenFolder.isClock_dayOf2030
  have hfound := TokenFolder.retrieve_expiringFolder TokenFolder.isWritable_thirdMorning (dayOf2030 2)
  have hstate : (TokenFolder.storeExpiring TokenFolder.thirdMorning).record.token.stateAt (dayOf2030 2) =
      .ok .valid := by
    rw [Token.stateAt, if_neg (by decide), if_neg (by decide)]
  obtain ⟨-, hshown⟩ := doctor_misdatesExpiry_iff (s := quietSetting (dayOf2030 2)) hclock rfl
  obtain ⟨shown, after, u, hsays, hread, hinstant, hright⟩ := hshown _ hfound hstate
  exact ⟨hclock, _, shown, after, u, rfl, hsays, hread, hinstant, fun h => absurd (hright.1 h) (by decide)⟩

end Command

end WorkspaceTools
