import WorkspaceTools.Proofs.Number.Decimal
import WorkspaceTools.Proofs.Time.Document
import WorkspaceTools.Proofs.Web.Address

/-!
# Times that are called universal

* `readUniversal?` reads a date and a time of day that are called universal time. It reads back what
  `DateTime.expiryText` writes (`readUniversal?_expiryText`), which are the fields as they stand.
* `cutToSecond` leaves out the fraction of a second. The time that is read from the text has the instant of the
  written one up to the second, later by its offset (`DateTime.instant_shown`).
-/

namespace WorkspaceTools.Time

open Number Text

/-! ## Reading -/

/-- The number that some digits denote. -/
def readDigits? (cs : List Char) : Option Nat :=
  if cs ≠ [] ∧ cs.all isAsciiDigit then some (natOfDigits cs) else none

/-- The time of a text such as `2030-01-03 05:30:00 UTC`. -/
def readUniversal? (text : String) : Option DateTime :=
  match text.toList.splitOn ' ' with
  | [date, clock, zone] =>
    match (date.splitOn '-').mapM readDigits?, (clock.splitOn ':').mapM readDigits? with
    | some [year, month, day], some [hour, minute, second] =>
      if zone = "UTC".toList then some ⟨⟨year, month, day⟩, hour, minute, second, 0, some 0⟩ else none
    | _, _ => none
  | _ => none

theorem readDigits?_natText (n : Nat) : readDigits? (natText n).toList = some n := by
  rw [natText, String.toList_ofList, readDigits?, natOfDigits_natDigits]
  exact if_pos ⟨natDigits_ne_nil n, List.all_eq_true.2 fun c hc => isAsciiDigit_of_mem_natDigits hc⟩

theorem readDigits?_paddedText (width n : Nat) : readDigits? (paddedText width n).toList = some n := by
  have hne : (paddedText width n).toList ≠ [] := by
    rw [toList_paddedText]
    exact List.append_ne_nil_of_right_ne_nil _ (natDigits_ne_nil n)
  rw [readDigits?, natOfDigits_paddedText]
  exact if_pos ⟨hne, List.all_eq_true.2 fun c hc => isAsciiDigit_of_mem_paddedText hc⟩

/-- What is no digit is not in a numeral. -/
theorem not_mem_of_readDigits? {cs : List Char} {n : Nat} (h : readDigits? cs = some n) {mark : Char}
    (hmark : isAsciiDigit mark = false) : mark ∉ cs := by
  intro hmem
  unfold readDigits? at h
  split at h
  · rename_i hdigits
    rw [List.all_eq_true.1 hdigits.2 mark hmem] at hmark
    cases hmark
  · cases h

section

variable {first second third : List Char} {a b c : Nat}

/-- Three numerals with marks between them. -/
theorem mapM_readDigits?_joined {mark : Char} (hmark : isAsciiDigit mark = false) (ha : readDigits? first = some a)
    (hb : readDigits? second = some b) (hc : readDigits? third = some c) :
    ((joined mark first [second, third]).splitOn mark).mapM readDigits? = some [a, b, c] := by
  have hpieces : ∀ piece ∈ [second, third], mark ∉ piece := by
    simp [not_mem_of_readDigits? hb hmark, not_mem_of_readDigits? hc hmark]
  rw [splitOn_joined_of_not_mem (not_mem_of_readDigits? ha hmark) hpieces]
  simp [ha, hb, hc]

/-- There is no blank in three numerals with another mark between them. -/
theorem blank_not_mem_joined {mark : Char} (hmark : ' ' ≠ mark) (ha : readDigits? first = some a)
    (hb : readDigits? second = some b) (hc : readDigits? third = some c) :
    ' ' ∉ joined mark first [second, third] := by
  rw [not_mem_joined_iff hmark]
  have hblank : isAsciiDigit ' ' = false := by decide
  simp [not_mem_of_readDigits? ha hblank, not_mem_of_readDigits? hb hblank, not_mem_of_readDigits? hc hblank]

end

/-- The text of an expiry in its parts. -/
theorem toList_expiryText (t : DateTime) :
    t.expiryText.toList = joined ' '
      (joined '-' (natText t.date.year).toList
        [(paddedText 2 t.date.month).toList, (paddedText 2 t.date.day).toList])
      [joined ':' (paddedText 2 t.hour).toList [(paddedText 2 t.minute).toList, (paddedText 2 t.second).toList],
        "UTC".toList] := by
  simp [DateTime.expiryText, DateTime.shortDateText, DateTime.clockText, joined]

/-- **The text of an expiry** is read as the fields as they stand, without a fraction of a second. -/
theorem readUniversal?_expiryText (t : DateTime) :
    readUniversal? t.expiryText = some { t with microsecond := 0, offset := some 0 } := by
  have hyear := readDigits?_natText t.date.year
  have hmonth := readDigits?_paddedText 2 t.date.month
  have hday := readDigits?_paddedText 2 t.date.day
  have hhour := readDigits?_paddedText 2 t.hour
  have hminute := readDigits?_paddedText 2 t.minute
  have hsecond := readDigits?_paddedText 2 t.second
  have hdate := blank_not_mem_joined (show ' ' ≠ '-' by decide) hyear hmonth hday
  have hclock := blank_not_mem_joined (show ' ' ≠ ':' by decide) hhour hminute hsecond
  have hparts := splitOn_joined_of_not_mem hdate (List.forall_mem_cons.2 ⟨hclock,
    List.forall_mem_singleton.2 (show ' ' ∉ "UTC".toList by decide)⟩)
  rw [readUniversal?, toList_expiryText, hparts]
  simp only [mapM_readDigits?_joined (show isAsciiDigit '-' = false by decide) hyear hmonth hday,
    mapM_readDigits?_joined (show isAsciiDigit ':' = false by decide) hhour hminute hsecond, if_true]

/-! ## Instants -/

/-- The microseconds up to the last full second. -/
def cutToSecond (micros : Int) : Int := micros - micros % secondMicros

/-- **The instant that is shown** for a time that can be written: that of the time up to the second, later by its
offset. -/
theorem DateTime.instant_shown {t : DateTime} (h : t.IsWritable) :
    ({ t with microsecond := 0, offset := some 0 } : DateTime).instant =
      cutToSecond t.instant + t.offset.getD 0 := by
  have hmicros := h.micros
  have hoffset : secondMicros ∣ t.offset.getD 0 := by
    cases hoffset : t.offset with
    | none => exact Int.dvd_zero _
    | some o => exact Int.dvd_trans (Int.dvd_mul_left _ _) (h.minutes o hoffset)
  obtain ⟨seconds, hseconds⟩ := hoffset
  simp only [secondMicros] at hseconds
  simp only [instant, wallMicros, cutToSecond, secondMicros, Option.getD_some]
  omega

end WorkspaceTools.Time
