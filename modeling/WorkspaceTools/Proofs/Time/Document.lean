import WorkspaceTools.Check.Time
import WorkspaceTools.Proofs.Number.Decimal
import WorkspaceTools.Proofs.Outcome

/-!
# Times in documents

A point in time is written in full if its offset has whole minutes (`DateTime.IsWritable`). Then it
reads back from its text, field by field (`checkTime_documentText`).
-/

namespace WorkspaceTools.Time

open Number Text

/-- A point in time that its text in a document gives in full: its fields are in their bounds, and an
offset has whole minutes. -/
structure DateTime.IsWritable (t : DateTime) : Prop where
  fields : t.fieldFault? = none
  micros : t.microsecond < 1000000
  minutes : ∀ o, t.offset = some o → 60 * secondMicros ∣ o

/-- The bounds of the fields of a point in time. -/
structure DateTime.IsInBounds (t : DateTime) : Prop where
  offset : -dayMicros < t.offset.getD 0 ∧ t.offset.getD 0 < dayMicros
  year : 1 ≤ t.date.year ∧ t.date.year ≤ 9999
  month : 1 ≤ t.date.month ∧ t.date.month ≤ 12
  day : 1 ≤ t.date.day ∧ t.date.day ≤ daysInMonth t.date.year t.date.month
  hour : t.hour < 24
  minute : t.minute < 60
  second : t.second < 60

theorem DateTime.isInBounds_of_fieldFault? {t : DateTime} (h : t.fieldFault? = none) : t.IsInBounds := by
  unfold DateTime.fieldFault? at h
  simp only at h
  split at h
  · cases h
  rename_i ho
  iterate 6
    split at h
    · cases h
  exact ⟨by simpa using ho, by omega, by omega, by omega, by omega, by omega, by omega⟩

theorem daysInMonth_le (year month : Nat) : daysInMonth year month ≤ 31 := by
  unfold daysInMonth
  split <;> (try split) <;> omega

theorem twoDigits?_padded {n : Nat} (h : n < 100) (rest : List Char) :
    twoDigits? ((paddedText 2 n).toList ++ rest) = some (n, rest) :=
  takeNumber?_padded (by decide) h rest

/-! ## Offsets -/

theorem offsetMicros?_padded {hours minutes : Nat} (hh : hours < 24) (hm : minutes < 60) :
    offsetMicros? ((paddedText 2 hours).toList ++ ':' :: (paddedText 2 minutes).toList) =
      some (((hours * 60 + minutes) * 60 : Nat) * secondMicros) := by
  have hmin := twoDigits?_padded (show minutes < 100 by omega) []
  rw [List.append_nil] at hmin
  rw [offsetMicros?, twoDigits?_padded (show hours < 100 by omega)]
  simp only [hmin, hm, hh, and_self, if_true]

theorem strictOffset?_plus (cs : List Char) :
    strictOffset? ("+".toList ++ cs) = (offsetMicros? cs).map some := by
  simp [strictOffset?]

theorem strictOffset?_minus (cs : List Char) :
    strictOffset? ("-".toList ++ cs) = (offsetMicros? cs).map fun o => some (-o) := by
  simp [strictOffset?]

theorem toList_signed (sign a b : String) :
    (sign ++ a ++ ":" ++ b).toList = sign.toList ++ (a.toList ++ ':' :: b.toList) := by
  simp [String.toList_append]

/-- An offset of whole minutes reads back. -/
theorem strictOffset?_documentOffset {o : Int} (hm : 60 * secondMicros ∣ o)
    (hl : -dayMicros < o) (hh : o < dayMicros) :
    strictOffset? (DateTime.documentOffset o).toList = some (some o) := by
  obtain ⟨k, rfl⟩ := hm
  have hdiv : Int.fdiv (60 * secondMicros * k) secondMicros = 60 * k := by
    rw [Int.fdiv_eq_ediv_of_nonneg _ (by decide), Int.mul_comm 60, Int.mul_assoc,
      Int.mul_ediv_cancel_left _ (by decide)]
  simp only [secondMicros, dayMicros] at hl hh
  have habs : (60 * k).natAbs / 60 = k.natAbs := by omega
  unfold DateTime.documentOffset
  simp only [hdiv, habs]
  by_cases hzero : 60 * k = 0
  · obtain rfl : k = 0 := by omega
    rfl
  · rw [if_neg hzero]
    have hread := offsetMicros?_padded (show k.natAbs / 60 < 24 by omega)
      (show k.natAbs % 60 < 60 by omega)
    have hval : (((k.natAbs / 60 * 60 + k.natAbs % 60) * 60 : Nat) : Int) = 60 * k.natAbs := by omega
    by_cases hneg : 60 * k < 0
    · rw [if_pos hneg, toList_signed, strictOffset?_minus, hread, hval, Option.map_some,
        Option.some.injEq, Option.some.injEq, secondMicros]
      omega
    · rw [if_neg hneg, toList_signed, strictOffset?_plus, hread, hval, Option.map_some,
        Option.some.injEq, Option.some.injEq, secondMicros]
      omega

/-- The end of the text of a point in time. -/
def offsetEnding : Option Int → List Char
  | none => []
  | some o => (DateTime.documentOffset o).toList

/-- No fraction stands there. -/
theorem head?_offsetEnding (offset : Option Int) :
    ∀ c ∈ (offsetEnding offset).head?, c = 'Z' ∨ c = '-' ∨ c = '+' := by
  cases offset with
  | none => simp [offsetEnding]
  | some o =>
    unfold offsetEnding DateTime.documentOffset
    dsimp only
    split
    · simp
    · split <;> simp [String.toList_append]

theorem toList_documentText (t : DateTime) :
    t.documentText.toList = t.dateText.toList ++ 'T' :: ((paddedText 2 t.hour).toList ++
      ':' :: ((paddedText 2 t.minute).toList ++ ':' :: ((paddedText 2 t.second).toList ++
        ((DateTime.microText t.microsecond).toList ++ offsetEnding t.offset)))) := by
  obtain ⟨date, hour, minute, second, microsecond, offset⟩ := t
  cases offset <;> simp [DateTime.documentText, DateTime.clockText, DateTime.dateText, offsetEnding]

/-! ## Times of day -/

theorem strictFraction?_padded {micros : Nat} (hm : micros < 1000000) {rest : List Char}
    (hr : NoDigit rest) :
    strictFraction? ((paddedText 6 micros).toList ++ rest) = some (micros, rest) := by
  have hlen : (paddedText 6 micros).toList.length = 6 := length_paddedText (by decide) hm
  have hdigits : ∀ c ∈ (paddedText 6 micros).toList, isAsciiDigit c = true :=
    fun c hc => isAsciiDigit_of_mem_paddedText hc
  have hne : (paddedText 6 micros).toList.isEmpty = false := by
    cases h : (paddedText 6 micros).toList with
    | nil => simp [h] at hlen
    | cons c cs => rfl
  rw [strictFraction?, takeWhile_digits hdigits hr, dropWhile_digits hdigits hr]
  simp only [hne, Bool.false_eq_true, if_false, List.take_of_length_le (Nat.le_of_eq hlen), hlen,
    natOfDigits_paddedText, Nat.sub_self, tenTo_zero, Nat.mul_one]

/-- Seconds and microseconds read back. -/
theorem strictSeconds?_documentText {second micros : Nat} (hs : second < 60) (hm : micros < 1000000)
    {rest : List Char} (hr : ∀ c ∈ rest.head?, c = 'Z' ∨ c = '-' ∨ c = '+') :
    strictSeconds? (':' :: ((paddedText 2 second).toList ++ ((DateTime.microText micros).toList ++ rest))) =
      some (second, micros, rest) := by
  simp only [strictSeconds?, twoDigits?_padded (show second < 100 by omega),
    if_neg (show ¬ 59 < second by omega)]
  by_cases hzero : micros = 0
  · subst hzero
    cases rest with
    | nil => rfl
    | cons c rest =>
      have hc : (c == '.' || c == ',') = false := by
        rcases hr c rfl with rfl | rfl | rfl <;> rfl
      simp [DateTime.microText, hc]
  · have hdigit : NoDigit rest := fun c hc => by
      rcases hr c hc with rfl | rfl | rfl <;> rfl
    have hcs : (DateTime.microText micros).toList ++ rest =
        '.' :: ((paddedText 6 micros).toList ++ rest) := by
      simp [DateTime.microText, hzero]
    rw [hcs]
    simp [strictFraction?_padded hm hdigit]

/-! ## Dates -/

theorem length_le_encodeUtf8Chars (cs : List Char) : cs.length ≤ (encodeUtf8Chars cs).length := by
  induction cs with
  | nil => simp
  | cons c cs ih =>
    rw [encodeUtf8Chars, List.flatMap_cons, List.length_append, List.length_cons,
      String.length_utf8EncodeChar]
    have := c.utf8Size_pos
    change _ ≤ c.utf8Size + (encodeUtf8Chars cs).length
    omega

/-- A date reads back, whatever follows it. -/
theorem leadingDate_dateText {t : DateTime} (h : t.IsInBounds) (rest : List Char) :
    leadingDate (t.dateText.toList ++ rest) = .ok (t.date, rest) := by
  obtain ⟨-, ⟨hy, hy'⟩, ⟨hm, hm'⟩, ⟨hd, hd'⟩, -⟩ := h
  have hmax := daysInMonth_le t.date.year t.date.month
  have hlen : 10 ≤ (encodeUtf8Chars (t.dateText.toList ++ rest)).length := by
    refine Nat.le_trans ?_ (length_le_encodeUtf8Chars _)
    have h₁ : (paddedText 4 t.date.year).toList.length = 4 :=
      length_paddedText (by decide) (show t.date.year < 10000 by omega)
    have h₂ : (paddedText 2 t.date.month).toList.length = 2 :=
      length_paddedText (by decide) (show t.date.month < 100 by omega)
    have h₃ : (paddedText 2 t.date.day).toList.length = 2 :=
      length_paddedText (by decide) (show t.date.day < 100 by omega)
    simp only [DateTime.dateText, String.toList_append, List.length_append, h₁, h₂, h₃]
    simp
  have hcs : t.dateText.toList ++ rest =
      (paddedText 4 t.date.year).toList ++ '-' :: ((paddedText 2 t.date.month).toList ++
        '-' :: ((paddedText 2 t.date.day).toList ++ rest)) := by
    simp [DateTime.dateText, String.toList_append]
  rw [leadingDate, if_neg (by omega), hcs,
    takeNumber?_padded (by decide) (show t.date.year < 10000 by omega)]
  simp only [twoDigits?_padded (show t.date.month < 100 by omega),
    twoDigits?_padded (show t.date.day < 100 by omega)]
  rw [if_neg (by omega), if_neg (by omega)]

/-! ## Points in time -/

theorem strictTime?_documentText {t : DateTime} (h : t.IsWritable) :
    strictTime? t.documentText.toList = some t := by
  have hb := DateTime.isInBounds_of_fieldFault? h.fields
  have hoffset : strictOffset? (offsetEnding t.offset) = some t.offset := by
    cases ho : t.offset with
    | none => rfl
    | some o =>
      have hbounds := hb.offset
      rw [ho, Option.getD_some] at hbounds
      exact strictOffset?_documentOffset (h.minutes o ho) hbounds.1 hbounds.2
  have hhour := hb.hour
  have hminute := hb.minute
  rw [toList_documentText, strictTime?, leadingDate_dateText hb]
  simp only [twoDigits?_padded (show t.hour < 100 by omega), Option.bind_eq_bind, Option.bind_some,
    twoDigits?_padded (show t.minute < 100 by omega),
    strictSeconds?_documentText hb.second h.micros (head?_offsetEnding t.offset), hoffset]
  simp [hhour, hminute]

/-- **A point in time reads back** from its text. -/
theorem checkTime_documentText {t : DateTime} (h : t.IsWritable) :
    checkTime (.str t.documentText) = .ok t := by
  have hyear := (DateTime.isInBounds_of_fieldFault? h.fields).year
  rw [checkTime, timeOfText, strictTime?_documentText h]
  exact if_neg (by omega)

end WorkspaceTools.Time
