import WorkspaceTools.Proofs.Check.Field
import WorkspaceTools.Proofs.Time.Calendar

/-!
# Times that were read

Every point in time that a document gives can be written in full again (`ensures_checkTime`): the
fields are in their bounds, and an offset has whole minutes. One lemma for each form: a date and a time of
day, a count of seconds, a date alone.
-/

namespace WorkspaceTools.Time

open Number Text

/-! ## Parts of a text -/

theorem takeNumber?_lt {width n : Nat} {cs rest : List Char}
    (h : takeNumber? width cs = some (n, rest)) : n < tenTo width := by
  unfold takeNumber? at h
  simp only at h
  split at h
  · rename_i hlen
    cases h
    calc natOfDigits (cs.take width) < tenTo (cs.take width).length := natOfDigits_lt _
      _ = tenTo width := by rw [hlen.1]
  · cases h

/-- Dates are those of the calendar, but for the year 0. -/
theorem isInCalendar_of_leadingDate {cs rest : List Char} {d : Date}
    (h : leadingDate cs = .ok (d, rest)) (hyear : 1 ≤ d.year) : d.IsInCalendar := by
  unfold leadingDate at h
  split at h
  · cases h
  split at h
  · cases h
  · rename_i year more hnumber
    have hfour : year < 10000 := takeNumber?_lt hnumber
    split at h
    · cases h
    · split at h
      · cases h
      · split at h
        · cases h
        · rename_i hmonth
          split at h
          · cases h
          · rename_i hday
            cases h
            rw [not_or, Nat.not_lt, Nat.not_lt] at hmonth hday
            exact ⟨⟨hyear, Nat.le_of_lt_succ hfour⟩, hmonth, hday⟩
    · cases h
  · cases h

theorem strictFraction?_lt {cs rest : List Char} {micros : Nat}
    (h : strictFraction? cs = some (micros, rest)) : micros < 1000000 := by
  unfold strictFraction? at h
  simp only at h
  split at h
  · cases h
  · cases h
    -- six digits at most, and zeros up to the sixth place
    generalize hds : (cs.takeWhile isAsciiDigit).take 6 = ds
    have hlen : ds.length ≤ 6 := hds ▸ List.length_take_le _ _
    have hlt := natOfDigits_lt ds
    calc natOfDigits ds * tenTo (6 - ds.length)
        < tenTo ds.length * tenTo (6 - ds.length) := Nat.mul_lt_mul_of_pos_right hlt (tenTo_pos _)
      _ = tenTo (ds.length + (6 - ds.length)) := (Nat.pow_add 10 _ _).symm
      _ = tenTo 6 := by rw [Nat.add_sub_cancel' hlen]

theorem strictSeconds?_lt {cs rest : List Char} {second micros : Nat}
    (h : strictSeconds? cs = some (second, micros, rest)) : second < 60 ∧ micros < 1000000 := by
  unfold strictSeconds? at h
  split at h
  · split at h
    · cases h
    · split at h
      · cases h
      · rename_i hsecond
        split at h
        · split at h
          · obtain ⟨⟨m, r⟩, hfraction, hm⟩ := Option.map_eq_some_iff.1 h
            cases hm
            exact ⟨by omega, strictFraction?_lt hfraction⟩
          · cases h
            exact ⟨by omega, by decide⟩
        · cases h
          exact ⟨by omega, by decide⟩
  · cases h
    exact ⟨by decide, by decide⟩

/-- An offset that the form of a text admits. -/
def IsOffset (o : Int) : Prop := 60 * secondMicros ∣ o ∧ -dayMicros < o ∧ o < dayMicros

theorem isOffset_zero : IsOffset 0 := ⟨Int.dvd_zero _, by decide, by decide⟩

theorem IsOffset.neg {o : Int} (h : IsOffset o) : IsOffset (-o) := by
  obtain ⟨hm, hl, hh⟩ := h
  exact ⟨Int.dvd_neg.2 hm, by omega, by omega⟩

theorem isOffset_of_offsetMicros? {cs : List Char} {o : Int} (h : offsetMicros? cs = some o) :
    IsOffset o := by
  unfold offsetMicros? at h
  split at h
  · cases h
  simp only at h
  split at h
  · split at h
    · rename_i hours _ _ _ minutes _ hbounds
      cases h
      refine ⟨⟨(hours * 60 + minutes : Nat), ?_⟩, ?_, ?_⟩
      · simp only [secondMicros]
        omega
      · simp only [dayMicros, secondMicros]
        omega
      · simp only [dayMicros, secondMicros]
        omega
    · cases h
  · cases h

theorem isOffset_of_strictOffset? {cs : List Char} {offset : Option Int} {o : Int}
    (h : strictOffset? cs = some offset) (ho : offset = some o) : IsOffset o := by
  subst ho
  unfold strictOffset? at h
  split at h
  · cases h
  · cases h
    exact isOffset_zero
  · cases h
    exact isOffset_zero
  · obtain ⟨p, hp, hpos⟩ := Option.map_eq_some_iff.1 h
    cases hpos
    exact isOffset_of_offsetMicros? hp
  · obtain ⟨p, hp, hneg⟩ := Option.map_eq_some_iff.1 h
    cases hneg
    exact (isOffset_of_offsetMicros? hp).neg
  · obtain ⟨p, hp, hneg⟩ := Option.map_eq_some_iff.1 h
    cases hneg
    exact (isOffset_of_offsetMicros? hp).neg
  · cases h

/-! ## Forms of times -/

namespace DateTime

/-- A time on a day of the calendar, with an offset that a text admits. -/
theorem isWritable_of_isOffset {t : DateTime} (h : t.IsWall) (ho : ∀ o, t.offset = some o → IsOffset o) :
    t.IsWritable := by
  refine isWritable_of_isWall h ?_ fun o h => (ho o h).1
  cases hoffset : t.offset with
  | none => decide
  | some o => exact (ho o hoffset).2

end DateTime

/-- A date and a time of day. -/
theorem isWritable_of_strictTime? {cs : List Char} {t : DateTime} (h : strictTime? cs = some t)
    (hyear : 1 ≤ t.date.year) : t.IsWritable := by
  unfold strictTime? at h
  split at h
  · cases h
  · rename_i date mark rest hdate
    split at h
    · cases h
    · obtain ⟨⟨hour, r₁⟩, -, h⟩ := Option.bind_eq_some_iff.1 h
      dsimp only at h
      split at h
      · obtain ⟨r₂, -, h⟩ := Option.bind_eq_some_iff.1 h
        obtain ⟨⟨minute, r₃⟩, -, h⟩ := Option.bind_eq_some_iff.1 h
        obtain ⟨⟨second, micros, r₄⟩, hseconds, h⟩ := Option.bind_eq_some_iff.1 h
        obtain ⟨offset, hoffset, h⟩ := Option.bind_eq_some_iff.1 h
        split at h
        · rename_i hclock
          cases h
          obtain ⟨hsecond, hmicros⟩ := strictSeconds?_lt hseconds
          exact DateTime.isWritable_of_isOffset
            ⟨isInCalendar_of_leadingDate hdate hyear, hclock.1, hclock.2, hsecond, hmicros⟩
            fun o => isOffset_of_strictOffset? hoffset
        · cases h
      · cases h
  · cases h

/-- A date alone, which is its midnight. -/
theorem isWritable_of_dateFault? {cs : List Char} {d : Date} (h : dateFault? cs = .ok d)
    (hyear : 1 ≤ d.year) : DateTime.IsWritable ⟨d, 0, 0, 0, 0, none⟩ := by
  unfold dateFault? at h
  split at h
  · cases h
  · rename_i date hdate
    cases h
    exact DateTime.isWritable_of_isOffset
      ⟨isInCalendar_of_leadingDate hdate hyear, Nat.succ_pos _, Nat.succ_pos _, Nat.succ_pos _,
        Nat.succ_pos _⟩ (by rintro o ⟨⟩)
  · cases h

theorem isWritable_of_ofUnixMicros {micros : Int} {t : DateTime} (h : ofUnixMicros micros = .ok t) :
    t.IsWritable := by
  unfold ofUnixMicros at h
  simp only at h
  split at h
  · cases h
  split at h
  · cases h
  split at h
  · rename_i hinstant
    cases h
    exact (DateTime.ofInstant?_eq_some hinstant).2.2
  · cases h

/-- A count of seconds with a fraction. -/
theorem isWritable_of_ofUnixFloat {x : Binary64} {t : DateTime} (h : ofUnixFloat x = .ok t) :
    t.IsWritable := by
  cases x with
  | nan => cases h
  | infinite negative => cases h
  | finite negative m e => exact isWritable_of_ofUnixMicros h

/-! ## All times -/

theorem inYears_eq_ok {t u : DateTime} (h : inYears t = .ok u) : u = t ∧ 1 ≤ t.date.year := by
  unfold inYears at h
  split at h
  · cases h
  · cases h
    exact ⟨rfl, by omega⟩

theorem isWritable_of_dateAlone {cs : List Char} {t : DateTime} (h : timeOfText.dateAlone cs = .ok t) :
    t.IsWritable := by
  unfold timeOfText.dateAlone at h
  split at h
  · rename_i hdate
    obtain ⟨rfl, hyear⟩ := inYears_eq_ok h
    exact isWritable_of_dateFault? hdate hyear
  · cases h

theorem isWritable_of_timeOfText {cs : List Char} {t : DateTime} (h : timeOfText cs = .ok t) :
    t.IsWritable := by
  unfold timeOfText at h
  split at h
  · rename_i htime
    obtain ⟨rfl, hyear⟩ := inYears_eq_ok h
    exact isWritable_of_strictTime? htime hyear
  · split at h
    · split at h
      · rename_i hcount
        cases h
        exact isWritable_of_ofUnixMicros hcount
      · cases h
      · cases h
    · split at h
      · rename_i hcount
        cases h
        exact isWritable_of_ofUnixFloat hcount
      · cases h
      · exact isWritable_of_dateAlone h
    · exact isWritable_of_dateAlone h

theorem isWritable_of_number {r : Except CountFault DateTime} {t : DateTime}
    (h : checkTime.number r = .ok t) (hr : r = .ok t → t.IsWritable) : t.IsWritable := by
  cases r with
  | ok u =>
    cases h
    exact hr rfl
  | error fault => cases h

/-- **A time that was read can be written** in full. -/
theorem ensures_checkTime : Ensures checkTime DateTime.IsWritable := by
  intro v t h
  unfold checkTime at h
  split at h
  · exact isWritable_of_timeOfText h
  · split at h
    · exact isWritable_of_number h isWritable_of_ofUnixMicros
    · simp only at h
      split at h
      · exact isWritable_of_number h isWritable_of_ofUnixFloat
      · cases h
  · exact isWritable_of_number h isWritable_of_ofUnixFloat
  · cases h

end WorkspaceTools.Time
