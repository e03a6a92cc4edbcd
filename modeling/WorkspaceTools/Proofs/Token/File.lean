import WorkspaceTools.Proofs.Json.Bounds
import WorkspaceTools.Proofs.Text.Decoding
import WorkspaceTools.Proofs.Token.Selection

/-!
# Files that cannot be read

The file of tokens may come from elsewhere, and then it has any bytes.

* `IsUnreadable` are the bytes that neither hold an object nor count as empty: those of no text, and those of
  a text that is refused for its size (`recordsOf_eq_error_iff`), which depends on how deep it is read.
* Such a text has a long run of digits or many brackets (`exceeds_of_isUnreadable`). An integer of too many
  digits is one, and so are too many brackets in a row (`isUnreadable_digits`, `isUnreadable_brackets`).
* `TokenFolder.readings_fail_iff`: when the records, the record of a service and its state cannot be told.
-/

namespace WorkspaceTools

open Json Number Text Time

/-! ## Bytes of a file -/

/-- Bytes that, read so deep, neither hold an object nor count as empty. -/
inductive IsUnreadable (depth : Nat) (bytes : Bytes) : Prop
  | noText (h : ∀ text, bytes ≠ encodeUtf8 text)
  /-- A text in which an integer has too many digits. -/
  | tooManyDigits (text : String) (e : ReadError) (count : Nat) (hbytes : bytes = encodeUtf8 text)
    (hread : (read? depth text : Except ReadError (Json WideText)) = .error e)
    (hcause : e.cause = .tooManyDigits count)
  /-- A text in which too many lists and objects stand in one another. -/
  | tooDeep (text : String) (e : ReadError) (kind : Kind) (hbytes : bytes = encodeUtf8 text)
    (hread : (read? depth text : Except ReadError (Json WideText)) = .error e)
    (hcause : e.cause = .tooDeep kind)

theorem ReadError.isMalformed_eq_false_iff {e : ReadError} :
    e.isMalformed = false ↔ (∃ count, e.cause = .tooManyDigits count) ∨ ∃ kind, e.cause = .tooDeep kind := by
  unfold ReadError.isMalformed
  cases e.cause <;> simp

/-- A text is unreadable exactly if it is refused, but not as malformed. -/
theorem isUnreadable_encodeUtf8_iff {depth : Nat} {text : String} :
    IsUnreadable depth (encodeUtf8 text) ↔
      ∃ e, (read? depth text : Except ReadError (Json WideText)) = .error e ∧ e.isMalformed = false := by
  constructor
  · rintro (h | ⟨other, e, count, hbytes, hread, hcause⟩ | ⟨other, e, kind, hbytes, hread, hcause⟩)
    · exact absurd rfl (h text)
    · rw [encodeUtf8_injective hbytes]
      exact ⟨e, hread, ReadError.isMalformed_eq_false_iff.2 (.inl ⟨count, hcause⟩)⟩
    · rw [encodeUtf8_injective hbytes]
      exact ⟨e, hread, ReadError.isMalformed_eq_false_iff.2 (.inr ⟨kind, hcause⟩)⟩
  · rintro ⟨e, hread, he⟩
    rcases ReadError.isMalformed_eq_false_iff.1 he with ⟨count, hcause⟩ | ⟨kind, hcause⟩
    · exact .tooManyDigits text e count rfl hread hcause
    · exact .tooDeep text e kind rfl hread hcause

/-- An unreadable text has a long run of digits, or many brackets. -/
theorem exceeds_of_isUnreadable {depth : Nat} {text : String} (h : IsUnreadable depth (encodeUtf8 text)) :
    (∃ run, run <:+: text.toList ∧ maxIntDigits < run.length ∧ ∀ c ∈ run, isAsciiDigit c = true) ∨
      depth < text.toList.countP isOpening := by
  obtain ⟨e, hread, he⟩ := isUnreadable_encodeUtf8_iff.1 h
  have hexceeds := exceeds_of_read? hread
  rcases ReadError.isMalformed_eq_false_iff.1 he with ⟨count, hcause⟩ | ⟨kind, hcause⟩
  · rw [hcause] at hexceeds
    obtain ⟨hcount, run, hrun, rfl, hdigits⟩ := hexceeds
    exact .inl ⟨run, hrun, hcount, hdigits⟩
  · rw [hcause] at hexceeds
    exact .inr hexceeds

/-- An integer of too many digits is unreadable. -/
theorem isUnreadable_digits (depth : Nat) {ds rest : List Char} (hd : IsWhole ds)
    (hlen : maxIntDigits < ds.length) (hr : EndsNumber rest) :
    IsUnreadable depth (encodeUtf8 (String.ofList (ds ++ rest))) :=
  .tooManyDigits _ _ _ rfl (read?_digits (τ := WideText) depth hd hlen hr) rfl

/-- Too many brackets in a row are unreadable. -/
theorem isUnreadable_brackets (depth : Nat) (rest : List Char) :
    IsUnreadable depth (encodeUtf8 (String.ofList ('[' :: (List.replicate depth '[' ++ rest)))) := by
  obtain ⟨position, hread⟩ := read?_brackets (τ := WideText) depth rest
  exact .tooDeep _ _ .arr rfl hread rfl

/-- A byte that begins no character. -/
theorem isUnreadable_strayByte (depth : Nat) : IsUnreadable depth [0xFF] := by
  refine .noText fun text htext => ?_
  cases decodeUtf8?_eq_ok_iff.2 htext

namespace TokenFolder

/-! ## Readings -/

theorem recordsOf_eq_error_iff {depth : Nat} {bytes : Bytes} :
    (∃ fault, recordsOf depth bytes = .error fault) ↔ IsUnreadable depth bytes := by
  cases hdecoded : decodeUtf8? bytes with
  | error e =>
    have hnone : ∀ text, bytes ≠ encodeUtf8 text := by
      intro text htext
      rw [decodeUtf8?_eq_ok_iff.2 htext] at hdecoded
      cases hdecoded
    have hfails : recordsOf depth bytes = .error (.brokenText e) := by simp only [recordsOf, hdecoded]
    exact iff_of_true ⟨_, hfails⟩ (.noText hnone)
  | ok text =>
    obtain rfl := decodeUtf8?_eq_ok_iff.1 hdecoded
    rw [isUnreadable_encodeUtf8_iff]
    cases hread : (read? depth text : Except ReadError (Json WideText)) with
    | ok v => cases v <;> simp [recordsOf, hdecoded, hread]
    | error e => cases he : e.isMalformed <;> simp [recordsOf, hdecoded, hread, he]

variable {folder : TokenFolder} {ms : Members WideText} {now : DateTime} {service : WideText}

theorem records_eq_error_iff :
    (∃ fault, folder.records = .error fault) ↔ ∃ file ∈ folder.file, IsUnreadable folder.depth file.bytes := by
  unfold records
  cases folder.file with
  | none => simp
  | some file => simpa using recordsOf_eq_error_iff

theorem records_eq_ok_iff :
    folder.records = .ok ms ↔
      folder.Holds ms ∨ ms = [] ∧ (¬∃ file ∈ folder.file, IsUnreadable folder.depth file.bytes) ∧
        ∀ others, ¬folder.Holds others := by
  rw [← records_eq_error_iff]
  constructor
  · intro h
    by_cases hholds : ∃ others, folder.Holds others
    · obtain ⟨others, hothers⟩ := hholds
      rw [hothers.records] at h
      cases h
      exact .inl hothers
    · have hnone : ∀ others, ¬folder.Holds others := fun others hothers => hholds ⟨others, hothers⟩
      by_cases hms : ms = []
      · exact .inr ⟨hms, by simp [h], hnone⟩
      · exact absurd (holds_of_records h hms) (hnone ms)
  · rintro (h | ⟨rfl, hfault, hnone⟩)
    · exact h.records
    · cases hrecords : folder.records with
      | error fault => exact absurd ⟨fault, hrecords⟩ hfault
      | ok found =>
        by_cases hfound : found = []
        · rw [hfound]
        · exact absurd (holds_of_records hrecords hfound) (hnone found)

theorem retrieve_eq_error_iff {fault : Fault} :
    folder.retrieve service now = .error fault ↔ folder.records = .error fault := by
  cases hrecords : folder.records with
  | error e =>
    rw [retrieve, hrecords, error_bind, Except.error.injEq, Except.error.injEq]
  | ok ms =>
    obtain ⟨found, hfound⟩ := retrieve_of_records hrecords service now
    rw [hfound]
    simp

theorem status_of_fault {fault : Fault} (h : folder.records = .error fault) (service : WideText)
    (now : DateTime) : folder.status service now = .error fault := by
  rw [status, retrieve_eq_error_iff.2 h, error_bind]

theorem status_of_notFound (h : folder.records = .ok ms) (hfound : folder.retrieve service now = .ok none) :
    folder.status service now = .ok (if (ms.find? service).isSome then .invalid else .missing) := by
  simp only [status, hfound, h, ok_bind, pure_eq_ok]

/-- The state is told unless the file is unreadable, or holds a token whose expiry cannot be told. -/
theorem status_eq_error_iff (hnow : now.IsClock) {fault : Fault} :
    folder.status service now = .error fault ↔ folder.records = .error fault ∨
      fault = .timeOutOfRange ∧ endOfYears ≤ now.instant + expiryMargin ∧
        ∃ record, folder.retrieve service now = .ok (some record) := by
  cases hrecords : folder.records with
  | error e =>
    rw [status_of_fault hrecords, retrieve_eq_error_iff.2 hrecords]
    simp
  | ok ms =>
    obtain ⟨found, hfound⟩ := retrieve_of_records hrecords service now
    cases found with
    | none =>
      rw [status_of_notFound hrecords hfound, hfound]
      simp
    | some record =>
      by_cases hyears : now.instant + expiryMargin < endOfYears
      · have he := Token.isExpired?_of_lt hnow (by decide) hyears record.token
        rw [status_of_retrieve hfound (hasExpired_of_isExpired? he)]
        simp [hyears]
      · have hlate := Int.not_lt.1 hyears
        rw [status_of_late hfound (Token.isExpired?_of_le hnow hlate _), hfound]
        simp [hlate, eq_comm]

/-- **When a file cannot be read**, at every reading of the clock and however deep it is read. Without a file
and for all bytes that are not `IsUnreadable` the records are told: those of the object that the file holds,
and none where it holds no object. A text is unreadable only with a long run of digits or many brackets, and
it is where it begins with an integer of such digits or with such brackets. The record of any service is told
exactly if the records are. So is its state, but in the last minute of year 9999, when the expiry of a token
cannot be told. -/
theorem readings_fail_iff (hnow : now.IsClock) (folder : TokenFolder) :
    ((∃ fault, folder.records = .error fault) ↔ ∃ file ∈ folder.file, IsUnreadable folder.depth file.bytes) ∧
    (∀ text, IsUnreadable folder.depth (encodeUtf8 text) →
      (∃ run, run <:+: text.toList ∧ maxIntDigits < run.length ∧ ∀ c ∈ run, isAsciiDigit c = true) ∨
        folder.depth < text.toList.countP isOpening) ∧
    (∀ ds rest, IsWhole ds → maxIntDigits < ds.length → EndsNumber rest →
      IsUnreadable folder.depth (encodeUtf8 (String.ofList (ds ++ rest)))) ∧
    (∀ rest, IsUnreadable folder.depth
      (encodeUtf8 (String.ofList ('[' :: (List.replicate folder.depth '[' ++ rest))))) ∧
    (∀ ms, folder.records = .ok ms ↔
      folder.Holds ms ∨ ms = [] ∧ (¬∃ file ∈ folder.file, IsUnreadable folder.depth file.bytes) ∧
        ∀ others, ¬folder.Holds others) ∧
    ∀ service fault,
      (folder.retrieve service now = .error fault ↔ folder.records = .error fault) ∧
      (folder.status service now = .error fault ↔ folder.records = .error fault ∨
        fault = .timeOutOfRange ∧ endOfYears ≤ now.instant + expiryMargin ∧
          ∃ record, folder.retrieve service now = .ok (some record)) := by
  refine ⟨records_eq_error_iff, fun text => exceeds_of_isUnreadable, fun ds rest => isUnreadable_digits _,
    isUnreadable_brackets _, fun ms => records_eq_ok_iff, ?_⟩
  intro service fault
  exact ⟨retrieve_eq_error_iff, status_eq_error_iff hnow⟩

/-- A folder whose file has a single byte that begins no character. -/
def strayFolder : TokenFolder := overwrite [0xFF] {}

/-- No service has a record in it, or a state. -/
theorem readings_fail_iff_strayByte :
    (dayOf2030 2).IsClock ∧ (∃ fault, strayFolder.records = .error fault) ∧
      ∀ service, (∃ fault, strayFolder.retrieve service (dayOf2030 2) = .error fault) ∧
        ∃ fault, strayFolder.status service (dayOf2030 2) = .error fault := by
  obtain ⟨hrecords, -, -, -, -, hservice⟩ := readings_fail_iff isClock_dayOf2030 strayFolder
  obtain ⟨fault, hfault⟩ := hrecords.2 ⟨_, rfl, isUnreadable_strayByte _⟩
  refine ⟨isClock_dayOf2030, ⟨fault, hfault⟩, fun service => ?_⟩
  obtain ⟨hretrieve, hstatus⟩ := hservice service fault
  exact ⟨⟨fault, hretrieve.2 hfault⟩, ⟨fault, hstatus.2 (.inl hfault)⟩⟩

end TokenFolder

end WorkspaceTools
