import WorkspaceTools.Proofs.Check.Field
import WorkspaceTools.Proofs.Time.Document
import WorkspaceTools.Proofs.Time.Reading
import WorkspaceTools.Token.Record

/-!
# Records read back

* A record whose times can be written in full reads back from its document, field by field
  (`TokenRecord.check_toJson`).
* The times of a record that was read can be written in full (`TokenRecord.ensures_check`).
-/

namespace WorkspaceTools

open Time

/-! ## Records that can be written -/

/-- The expiry can be written in full. -/
def Token.IsWritable (t : Token) : Prop := t.expiresAt.IsWritable

/-- The times of creation and of the last renewal can be written in full. -/
structure TokenMetadata.IsWritable (m : TokenMetadata) : Prop where
  created : m.createdAt.IsWritable
  refreshed : ∀ t, m.lastRefreshed = some t → t.IsWritable

/-! ## Parts -/

theorem checkNullable_ofText? (s : Option String) :
    checkNullable checkText (.ofText? s) = .ok s := by
  cases s <;> rfl

theorem checkNullable_time {t : Option DateTime} (h : ∀ u, t = some u → u.IsWritable) :
    checkNullable checkTime (.ofText? (t.map DateTime.documentText)) = .ok t := by
  cases t with
  | none => rfl
  | some t =>
    rw [Option.map_some, Json.ofText?, checkNullable_of_ne_null (by simp),
      checkTime_documentText (h t rfl), map_ok]

theorem checkItems_strs (index : Nat) (ss : List String) :
    checkItems checkText index (ss.map .str) = .ok ss := by
  induction ss generalizing index with
  | nil => rfl
  | cons s ss ih => simp [checkItems, ih, checkText, Checked.under]

theorem checkList_ofTexts (ss : List String) : checkList checkText (.ofTexts ss) = .ok ss :=
  checkItems_strs 0 ss

/-! ## Whole records -/

theorem Token.check_toJson {t : Token} (h : t.IsWritable) :
    Token.check (t.toJson DateTime.documentText) = .ok t := by
  have ht := checkTime_documentText h
  simp [Token.check, Token.toJson, checkObject, required, optional, Members.find?, checkText, ht,
    checkNullable_ofText?, checkList_ofTexts, Checked.under]

theorem TokenMetadata.check_toJson (now : DateTime) {m : TokenMetadata} (h : m.IsWritable) :
    TokenMetadata.check now (m.toJson DateTime.documentText) = .ok m := by
  have hc := checkTime_documentText h.created
  have hr := checkNullable_time h.refreshed
  simp [TokenMetadata.check, TokenMetadata.toJson, checkObject, required, optional, Members.find?,
    checkText, hc, hr, Checked.under]

/-- **A record reads back** from its document. -/
theorem TokenRecord.check_toJson (now : DateTime) {r : TokenRecord} (ht : r.token.IsWritable)
    (hm : r.metadata.IsWritable) :
    TokenRecord.check now (r.toJson DateTime.documentText) = .ok r := by
  have ht := Token.check_toJson ht
  have hm := TokenMetadata.check_toJson now hm
  simp [TokenRecord.check, TokenRecord.toJson, checkObject, required, optional, Members.find?, checkInt,
    ht, hm, Checked.under]

/-! ## Records that were read -/

theorem Token.ensures_check : Ensures Token.check Token.IsWritable := by
  intro v t h
  obtain ⟨ms, -, h⟩ := checkObject_eq_ok.1 h
  split at h
  · rename_i hexpires _ _
    cases h
    exact ensures_checkTime.required hexpires
  · cases h

theorem TokenMetadata.ensures_check {now : DateTime} (hnow : now.IsWritable) :
    Ensures (TokenMetadata.check now) TokenMetadata.IsWritable := by
  intro v m h
  obtain ⟨ms, -, h⟩ := checkObject_eq_ok.1 h
  split at h
  · rename_i hcreated hrefreshed
    cases h
    exact ⟨ensures_checkTime.optional hnow hcreated,
      ensures_checkTime.nullable.optional (by rintro t ⟨⟩) hrefreshed⟩
  · cases h

/-- **The times of a record** that was read can be written in full. -/
theorem TokenRecord.ensures_check {now : DateTime} (hnow : now.IsWritable) :
    Ensures (TokenRecord.check now) fun r => r.token.IsWritable ∧ r.metadata.IsWritable := by
  intro v r h
  obtain ⟨ms, -, h⟩ := checkObject_eq_ok.1 h
  split at h
  · rename_i hmetadata htoken
    cases h
    exact ⟨Token.ensures_check.required htoken, (TokenMetadata.ensures_check hnow).required hmetadata⟩
  · cases h

end WorkspaceTools
