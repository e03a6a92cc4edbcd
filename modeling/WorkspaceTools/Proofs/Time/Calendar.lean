import WorkspaceTools.Proofs.Time.Document

/-!
# Days, instants and the calendar

* `Date.ofDayNumber` finds the day of every number from 1 to `lastDayNumber`: it is a day of the
  calendar, and it has that number (`ofDayNumber_spec`).
* A point in time that was made from an instant has that instant, and its fields are in their bounds
  (`ofInstant?_eq_some`). There is one exactly for the instants from the beginning of year 1 to the
  end of year 9999, `endOfYears` (`ofInstant?_isSome_iff`).
* `DateTime.IsClock` is a reading of a clock; its instant lies in these years.
-/

namespace WorkspaceTools.Time

/-! ## Years -/

/-- The days of a year. -/
def daysInYear (year : Nat) : Nat := if isLeap year then 366 else 365

theorem daysBeforeYear_succ {year : Nat} (h : 1 ≤ year) :
    daysBeforeYear (year + 1) = daysBeforeYear year + daysInYear year := by
  obtain ⟨y, rfl⟩ : ∃ y, year = y + 1 := ⟨year - 1, by omega⟩
  have hcentury : y / 100 ≤ y := Nat.div_le_self _ _
  have hleap : isLeap (y + 1) = true ↔ 4 ∣ y + 1 ∧ (¬ 100 ∣ y + 1 ∨ 400 ∣ y + 1) := by
    simp [isLeap, Nat.dvd_iff_mod_eq_zero]
  simp only [daysBeforeYear, daysInYear, Nat.add_sub_cancel, Nat.succ_div, hleap]
  have h₁ : 400 ∣ y + 1 → 100 ∣ y + 1 := Nat.dvd_trans (by decide)
  have h₂ : 100 ∣ y + 1 → 4 ∣ y + 1 := Nat.dvd_trans (by decide)
  by_cases h4 : 4 ∣ y + 1 <;> by_cases h100 : 100 ∣ y + 1 <;> by_cases h400 : 400 ∣ y + 1 <;>
    simp_all <;> omega

theorem daysBeforeYear_mono {year later : Nat} (h : year ≤ later) :
    daysBeforeYear year ≤ daysBeforeYear later := by
  induction h with
  | refl => exact Nat.le_refl _
  | @step later _ ih =>
    refine Nat.le_trans ih ?_
    rcases Nat.eq_zero_or_pos later with rfl | hpos
    · exact Nat.zero_le _
    · rw [daysBeforeYear_succ hpos]
      exact Nat.le_add_right _ _

/-- The search for a year moves on while the next year begins before the day. -/
theorem searchYear_spec (n guess steps : Nat) :
    let year := (List.range steps).foldl (fun y _ => if daysBeforeYear (y + 1) < n then y + 1 else y) guess
    guess ≤ year ∧ (daysBeforeYear guess < n → daysBeforeYear year < n) ∧
      (year = guess + steps ∨ n ≤ daysBeforeYear (year + 1)) := by
  induction steps with
  | zero => exact ⟨Nat.le_refl _, id, .inl rfl⟩
  | succ steps ih =>
    obtain ⟨hle, hbefore, hafter⟩ := ih
    simp only [List.range_succ, List.foldl_append, List.foldl_cons, List.foldl_nil]
    split
    · rename_i hnext
      refine ⟨by omega, fun _ => hnext, .inl ?_⟩
      rcases hafter with hy | hy <;> omega
    · rename_i hnext
      exact ⟨hle, hbefore, .inr (by omega)⟩

/-- The year of a day begins before it, and the next year does not. -/
theorem yearOfDays_spec {n : Nat} (h : 1 ≤ n) (hn : n ≤ lastDayNumber) :
    1 ≤ yearOfDays n ∧ daysBeforeYear (yearOfDays n) < n ∧ n ≤ daysBeforeYear (yearOfDays n + 1) := by
  unfold lastDayNumber at hn
  obtain ⟨hle, hbefore, hafter⟩ := searchYear_spec n ((n - 1) / 366 + 1) 30
  rw [← yearOfDays] at hle hbefore hafter
  have hguess : daysBeforeYear ((n - 1) / 366 + 1) < n := by
    unfold daysBeforeYear
    simp only
    omega
  refine ⟨by omega, hbefore hguess, ?_⟩
  rcases hafter with hy | hy
  · -- thirty steps are more than the guess is short of
    rw [hy]
    unfold daysBeforeYear
    simp only
    omega
  · exact hy

theorem yearOfDays_le {n : Nat} (h : 1 ≤ n) (hn : n ≤ lastDayNumber) : yearOfDays n ≤ 9999 := by
  have hbefore := (yearOfDays_spec h hn).2.1
  refine Nat.le_of_not_lt fun hlt => ?_
  have hmono := daysBeforeYear_mono (show 10000 ≤ yearOfDays n from hlt)
  have hlast : daysBeforeYear 10000 = lastDayNumber := rfl
  omega

/-! ## Months -/

theorem daysBeforeMonth_succ {month : Nat} (year : Nat) (h : 1 ≤ month) :
    daysBeforeMonth year (month + 1) = daysBeforeMonth year month + daysInMonth year month := by
  obtain ⟨m, rfl⟩ : ∃ m, month = m + 1 := ⟨month - 1, by omega⟩
  simp only [daysBeforeMonth, Nat.add_sub_cancel, List.range_succ, List.map_append, List.map_cons,
    List.map_nil, List.foldl_append, List.foldl_cons, List.foldl_nil]
  rfl

theorem daysBeforeMonth_thirteen (year : Nat) : daysBeforeMonth year 13 = daysInYear year := by
  unfold daysInYear
  cases h : isLeap year <;> simp [daysBeforeMonth, List.range_succ, daysInMonth, h]

theorem daysBeforeMonth_mono {month later : Nat} (year : Nat) (hm : 1 ≤ month) (h : month ≤ later) :
    daysBeforeMonth year month ≤ daysBeforeMonth year later := by
  induction h with
  | refl => exact Nat.le_refl _
  | @step later hle ih =>
    rw [daysBeforeMonth_succ year (Nat.le_trans hm hle)]
    exact Nat.le_trans ih (Nat.le_add_right _ _)

/-- The days up to the end of a month are those of the year at most. -/
theorem daysBeforeMonth_add_le (year : Nat) {month : Nat} (h : 1 ≤ month) (hm : month ≤ 12) :
    daysBeforeMonth year month + daysInMonth year month ≤ daysInYear year := by
  rw [← daysBeforeMonth_succ year h, ← daysBeforeMonth_thirteen]
  exact daysBeforeMonth_mono year (Nat.succ_pos _) (by omega)

/-- The month of a day of the year, found from a month on before which the day does not lie. -/
theorem monthOfDays_spec (year months : Nat) {month days : Nat} (hm : 1 ≤ month) (hd : 1 ≤ days)
    (h : daysBeforeMonth year month + days ≤ daysBeforeMonth year (month + months)) :
    let found := monthOfDays year months month days
    month ≤ found.1 ∧ found.1 < month + months ∧ 1 ≤ found.2 ∧
      found.2 ≤ daysInMonth year found.1 ∧
      daysBeforeMonth year found.1 + found.2 = daysBeforeMonth year month + days := by
  induction months generalizing month days with
  | zero => simp only [Nat.add_zero] at h; omega
  | succ months ih =>
    simp only [monthOfDays]
    split
    · rename_i hle
      exact ⟨Nat.le_refl _, by simp, hd, hle, rfl⟩
    · rename_i hlt
      have hnext := daysBeforeMonth_succ year hm
      rw [show month + (months + 1) = month + 1 + months by omega] at h
      have hdays : 1 ≤ days - daysInMonth year month := by omega
      obtain ⟨h₁, h₂, h₃, h₄, h₅⟩ := ih (show 1 ≤ month + 1 by omega) hdays (by omega)
      exact ⟨by omega, by omega, h₃, h₄, by omega⟩

/-! ## Days -/

/-- A day of the calendar. -/
structure Date.IsInCalendar (d : Date) : Prop where
  year : 1 ≤ d.year ∧ d.year ≤ 9999
  month : 1 ≤ d.month ∧ d.month ≤ 12
  day : 1 ≤ d.day ∧ d.day ≤ daysInMonth d.year d.month

theorem ofDayNumber_spec {n : Nat} (h : 1 ≤ n) (hn : n ≤ lastDayNumber) :
    (Date.ofDayNumber n).IsInCalendar ∧
      dayNumber (Date.ofDayNumber n).year (Date.ofDayNumber n).month (Date.ofDayNumber n).day = n := by
  obtain ⟨hy, hbefore, hafter⟩ := yearOfDays_spec h hn
  rw [daysBeforeYear_succ hy, ← daysBeforeMonth_thirteen] at hafter
  have hone : daysBeforeMonth (yearOfDays n) 1 = 0 := rfl
  have hdays : 1 ≤ n - daysBeforeYear (yearOfDays n) := by omega
  obtain ⟨h₁, h₂, h₃, h₄, h₅⟩ := monthOfDays_spec (yearOfDays n) 12 (Nat.le_refl 1) hdays
    (by rw [show 1 + 12 = 13 from rfl]; omega)
  refine ⟨⟨⟨hy, yearOfDays_le h hn⟩, ⟨h₁, Nat.le_of_lt_succ h₂⟩, ⟨h₃, h₄⟩⟩, ?_⟩
  simp only [Date.ofDayNumber, dayNumber]
  omega

/-- The number of a day of the calendar. -/
theorem dayNumber_bounds {d : Date} (h : d.IsInCalendar) :
    1 ≤ dayNumber d.year d.month d.day ∧ dayNumber d.year d.month d.day ≤ lastDayNumber := by
  obtain ⟨⟨hy, hy'⟩, ⟨hm, hm'⟩, ⟨hd, hd'⟩⟩ := h
  have hyear := daysBeforeYear_succ hy
  have hmono := daysBeforeYear_mono (show d.year + 1 ≤ 10000 by omega)
  have hmonth := daysBeforeMonth_add_le d.year hm hm'
  have hlast : daysBeforeYear 10000 = lastDayNumber := rfl
  unfold dayNumber
  omega

/-! ## Instants -/

/-- The microseconds from the beginning of year 1 to the end of year 9999. -/
def endOfYears : Int := lastDayNumber * dayMicros

namespace DateTime

/-- The fields of a point in time are in their bounds, the offset left out. -/
structure IsWall (t : DateTime) : Prop where
  date : t.date.IsInCalendar
  hour : t.hour < 24
  minute : t.minute < 60
  second : t.second < 60
  micros : t.microsecond < 1000000

theorem isWritable_of_isWall {t : DateTime} (h : t.IsWall)
    (ho : -dayMicros < t.offset.getD 0 ∧ t.offset.getD 0 < dayMicros)
    (hm : ∀ o, t.offset = some o → 60 * secondMicros ∣ o) : t.IsWritable := by
  obtain ⟨⟨⟨hy, hy'⟩, ⟨hmonth, hmonth'⟩, ⟨hd, hd'⟩⟩, hhour, hminute, hsecond, hmicros⟩ := h
  refine ⟨?_, hmicros, hm⟩
  unfold fieldFault?
  simp only
  rw [if_neg (by simpa using ho), if_neg (by omega), if_neg (by omega), if_neg (by omega),
    if_neg (by omega), if_neg (by omega), if_neg (by omega)]

theorem isWall_of_isWritable {t : DateTime} (h : t.IsWritable) : t.IsWall := by
  obtain ⟨-, hy, hm, hd, hhour, hminute, hsecond⟩ := isInBounds_of_fieldFault? h.fields
  exact ⟨⟨hy, hm, hd⟩, hhour, hminute, hsecond, h.micros⟩

/-- The microseconds of the fields lie in the years of the calendar. -/
theorem wallMicros_bounds {t : DateTime} (h : t.IsWall) :
    0 ≤ t.wallMicros ∧ t.wallMicros < endOfYears := by
  obtain ⟨hdate, hhour, hminute, hsecond, hmicros⟩ := h
  have := dayNumber_bounds hdate
  simp only [wallMicros, endOfYears, dayMicros, secondMicros]
  omega

theorem ofWallMicros?_isSome_iff {micros : Int} {offset : Option Int} :
    (ofWallMicros? micros offset).isSome ↔ 0 ≤ micros ∧ micros < endOfYears := by
  have hdiv : Int.fdiv micros dayMicros = micros / dayMicros :=
    Int.fdiv_eq_ediv_of_nonneg _ (by decide)
  have hrange : (0 ≤ micros / dayMicros ∧ micros / dayMicros < lastDayNumber) ↔
      0 ≤ micros ∧ micros < endOfYears := by
    simp only [endOfYears, dayMicros, secondMicros]
    omega
  rw [← hrange, ← hdiv]
  unfold ofWallMicros?
  by_cases h : 0 ≤ Int.fdiv micros dayMicros ∧ Int.fdiv micros dayMicros < lastDayNumber <;> simp [h]

/-- The fields that were found for a count of microseconds have that count. -/
theorem ofWallMicros?_eq_some {micros : Int} {offset : Option Int} {t : DateTime}
    (h : ofWallMicros? micros offset = some t) :
    t.IsWall ∧ t.wallMicros = micros ∧ t.offset = offset := by
  have hdiv : Int.fdiv micros dayMicros = micros / dayMicros :=
    Int.fdiv_eq_ediv_of_nonneg _ (by decide)
  have hmod : Int.fmod micros dayMicros = micros % dayMicros :=
    Int.fmod_eq_emod_of_nonneg _ (by decide)
  unfold ofWallMicros? at h
  simp only [hdiv, hmod] at h
  split at h
  · rename_i hdays
    obtain ⟨hcal, hnum⟩ := ofDayNumber_spec (n := (micros / dayMicros).toNat + 1) (by omega) (by omega)
    obtain rfl := Option.some.inj h
    have hrest : (micros % dayMicros).toNat < 86400000000 := by
      simp only [dayMicros, secondMicros]
      omega
    refine ⟨⟨hcal, ?_, ?_, ?_, ?_⟩, ?_, rfl⟩
    · change (micros % dayMicros).toNat / 1000000 / 3600 < 24
      omega
    · exact Nat.mod_lt _ (by decide)
    · exact Nat.mod_lt _ (by decide)
    · exact Nat.mod_lt _ (by decide)
    · simp only [wallMicros, hnum]
      simp only [dayMicros, secondMicros] at hdays ⊢
      omega
  · cases h

theorem ofInstant?_isSome_iff {micros : Int} :
    (ofInstant? micros).isSome ↔ 0 ≤ micros ∧ micros < endOfYears :=
  ofWallMicros?_isSome_iff

/-- **A point in universal time has the instant that it was made from.** -/
theorem ofInstant?_eq_some {micros : Int} {t : DateTime} (h : ofInstant? micros = some t) :
    t.instant = micros ∧ t.offset = some 0 ∧ t.IsWritable := by
  obtain ⟨hwall, hmicros, hoffset⟩ := ofWallMicros?_eq_some h
  refine ⟨by simp [instant, hmicros, hoffset], hoffset, isWritable_of_isWall hwall ?_ ?_⟩
  · rw [hoffset]
    decide
  · rw [hoffset]
    rintro o ⟨rfl⟩
    exact Int.dvd_zero _

theorem ofInstant?_eq_none {micros : Int} (h : endOfYears ≤ micros) : ofInstant? micros = none := by
  rw [← Option.not_isSome_iff_eq_none, ofInstant?_isSome_iff]
  omega

/-! ## Universal time -/

theorem IsWritable.assumeUtc {t : DateTime} (h : t.IsWritable) : t.assumeUtc.IsWritable := by
  unfold DateTime.assumeUtc
  split
  · -- the bounds of the fields stay
    have hwall := isWall_of_isWritable h
    refine isWritable_of_isWall ⟨hwall.date, hwall.hour, hwall.minute, hwall.second, hwall.micros⟩ ?_ ?_
    · rw [Option.getD_some]
      decide
    · rintro o ⟨rfl⟩
      exact Int.dvd_zero _
  · exact h

theorem offset_assumeUtc (t : DateTime) : t.assumeUtc.offset.isSome := by
  unfold assumeUtc
  split
  · rfl
  · rename_i h
    rw [h]
    rfl

/-! ## Clocks -/

/-- A reading of a clock, in universal time. -/
structure IsClock (t : DateTime) : Prop where
  wall : t.IsWall
  universal : t.offset = some 0

theorem IsClock.isWritable {t : DateTime} (h : t.IsClock) : t.IsWritable := by
  refine isWritable_of_isWall h.wall ?_ ?_
  · rw [h.universal]
    decide
  · rw [h.universal]
    rintro o ⟨rfl⟩
    exact Int.dvd_zero _

theorem IsClock.instant_bounds {t : DateTime} (h : t.IsClock) :
    0 ≤ t.instant ∧ t.instant < endOfYears := by
  rw [instant, h.universal, Option.getD_some, Int.sub_zero]
  exact wallMicros_bounds h.wall

/-- A reading is kept by the change to universal time, as far as its instant goes. -/
theorem IsClock.toUtc?_eq_some {t : DateTime} (h : t.IsClock) :
    ∃ u, t.toUtc? = some u ∧ u.instant = t.instant := by
  obtain ⟨u, hu⟩ := Option.isSome_iff_exists.1 (ofInstant?_isSome_iff.2 h.instant_bounds)
  exact ⟨u, hu, (ofInstant?_eq_some hu).1⟩

/-- The time a span after a reading of a clock, in the years of the calendar. -/
theorem IsClock.exists_later {t : DateTime} (h : t.IsClock) {span : Int} (hs : 0 ≤ span)
    (hlt : t.instant + span < endOfYears) :
    ∃ later, ofInstant? (t.instant + span) = some later ∧ later.instant = t.instant + span ∧
      later.offset = some 0 ∧ later.IsWritable := by
  have hbegin := h.instant_bounds.1
  obtain ⟨later, hlater⟩ :=
    Option.isSome_iff_exists.1 (ofInstant?_isSome_iff.2 ⟨Int.add_nonneg hbegin hs, hlt⟩)
  exact ⟨later, hlater, ofInstant?_eq_some hlater⟩

end DateTime

end WorkspaceTools.Time
