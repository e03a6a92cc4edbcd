import WorkspaceTools.Proofs.Json.RoundTrip
import WorkspaceTools.Proofs.Outcome

/-!
# Documents that are out of bounds

A reader refuses some texts for their size and not for their form.

* What is left of a text after one of its parts has been read is an end of that text
  (`suffix_of_readValue`).
* `Exceeds depth cs cause`: the characters give reason for a failure with that cause. There is a run of as
  many digits as were refused, or there are more brackets than the depth admits. No reader fails for size
  without that reason (`exceeds_of_readValue`, `exceeds_of_read?`).
* `read?_digits` and `read?_brackets`: too many digits, and too many brackets in a row, are refused.
-/

namespace WorkspaceTools.Json

open Number Text

/-! ## What is left -/

theorem suffix_skipBlanks (cs : List Char) : skipBlanks cs <:+ cs := List.dropWhile_suffix _

theorem suffix_of_skipBlanks {c : Char} {cs rest : List Char} (h : skipBlanks cs = c :: rest) :
    rest <:+ cs :=
  (List.suffix_cons c rest).trans (h ▸ suffix_skipBlanks cs)

theorem suffix_behind {c : Char} {cs rest : List Char} (h : skipBlanks cs = c :: rest) :
    skipBlanks rest <:+ cs :=
  (suffix_skipBlanks rest).trans (suffix_of_skipBlanks h)

theorem suffix_of_readUnits {opening cs rest : List Char} {acc us : List UInt16}
    (h : readUnits opening acc cs = .ok (us, rest)) : rest <:+ cs := by
  fun_induction readUnits opening acc cs
  case case2 =>
    cases h
    exact List.suffix_cons _ _
  case case4 ih => exact (ih h).trans ⟨[_, _, _, _, _, _], rfl⟩
  case case7 ih => exact (ih h).trans ⟨[_, _], rfl⟩
  case case10 ih => exact (ih h).trans (List.suffix_cons _ _)
  all_goals cases h

theorem suffix_of_splitFraction {cs ds rest : List Char} (h : splitFraction cs = some (ds, rest)) :
    rest <:+ cs := by
  unfold splitFraction at h
  split at h
  · dsimp only at h
    split at h
    · cases h
    · cases h
      exact (List.dropWhile_suffix _).trans (List.suffix_cons _ _)
  · cases h

theorem suffix_of_splitExponent {cs rest : List Char} {e : Int} (h : splitExponent cs = some (e, rest)) :
    rest <:+ cs := by
  unfold splitExponent at h
  split at h
  · split at h
    · dsimp only at h
      split at h <;> split at h <;> cases h
      · exact (List.dropWhile_suffix _).trans ⟨[_, _], rfl⟩
      · exact (List.dropWhile_suffix _).trans ⟨[_, _], rfl⟩
      · exact (List.dropWhile_suffix _).trans (List.suffix_cons _ _)
    · cases h
  · cases h

section Readings

variable {τ : Type}

theorem suffix_of_readNumber {negative : Bool} {start cs rest : List Char} {v : Json τ}
    (h : readNumber negative start cs = .ok (v, rest)) : rest <:+ cs := by
  rw [readNumber_eq] at h
  refine List.IsSuffix.trans ?_ (List.drop_suffix (wholeOf cs).length cs)
  generalize cs.drop (wholeOf cs).length = left at h ⊢
  unfold readParts at h
  split at h
  · cases h
  cases hs : splitFraction left with
  | some part =>
    have hfraction := suffix_of_splitFraction hs
    simp only [hs] at h
    split at h
    · rename_i he
      cases h
      exact (suffix_of_splitExponent he).trans hfraction
    · cases h
      exact hfraction
    · contradiction
  | none =>
    simp only [hs] at h
    split at h
    · rename_i he
      cases h
      exact suffix_of_splitExponent he
    · contradiction
    · split at h
      · cases h
      · cases h
        exact List.suffix_rfl

variable [UnitText τ]

theorem suffix_of_readText {opening cs rest : List Char} {t : τ}
    (h : readText opening cs = .ok (t, rest)) : rest <:+ cs := by
  obtain ⟨⟨us, r⟩, hread, h⟩ := map_eq_ok.1 h
  cases h
  exact suffix_of_readUnits hread

/-- What stands behind a name and its colon. -/
theorem suffix_behind_name {name : τ} {cs left rest : List Char}
    (hname : readText ('"' :: cs) cs = .ok (name, left)) (hcolon : skipBlanks left = ':' :: rest) :
    skipBlanks rest <:+ '"' :: cs :=
  (suffix_behind hcolon).trans ((suffix_of_readText hname).trans (List.suffix_cons _ _))

variable [DecidableEq τ]

mutual

/-- What is left behind a value is an end of the text; the fuel carries the induction. -/
theorem suffix_of_readValue {fuel depth : Nat} {cs rest : List Char} {v : Json τ}
    (h : readValue fuel depth cs = .ok (v, rest)) : rest <:+ cs := by
  cases fuel with
  | zero => cases h
  | succ fuel =>
    rw [readValue.eq_def] at h
    dsimp only at h
    split at h
    case h_1 =>
      obtain ⟨⟨s, r⟩, hs, h⟩ := map_eq_ok.1 h
      cases h
      exact (suffix_of_readText hs).trans (List.suffix_cons _ _)
    case h_2 =>
      split at h
      · cases h
      · rename_i hclosing
        cases h
        exact (suffix_of_skipBlanks hclosing).trans (List.suffix_cons _ _)
      · exact (suffix_of_readItems h).trans ((suffix_skipBlanks _).trans (List.suffix_cons _ _))
    case h_3 =>
      split at h
      · cases h
      · rename_i hclosing
        cases h
        exact (suffix_of_skipBlanks hclosing).trans (List.suffix_cons _ _)
      · exact (suffix_of_readMembers h).trans ((suffix_skipBlanks _).trans (List.suffix_cons _ _))
    case h_4 | h_5 =>
      cases h
      exact ⟨[_, _, _, _], rfl⟩
    case h_6 =>
      cases h
      exact ⟨[_, _, _, _, _], rfl⟩
    case h_7 =>
      cases h
      exact ⟨[_, _, _], rfl⟩
    case h_8 =>
      cases h
      exact ⟨[_, _, _, _, _, _, _, _], rfl⟩
    case h_9 =>
      cases h
      exact ⟨[_, _, _, _, _, _, _, _, _], rfl⟩
    case h_10 => exact (suffix_of_readNumber h).trans (List.suffix_cons _ _)
    case h_11 => exact suffix_of_readNumber h

theorem suffix_of_readItems {fuel depth : Nat} {acc : List (Json τ)} {cs rest : List Char} {v : Json τ}
    (h : readItems fuel depth acc cs = .ok (v, rest)) : rest <:+ cs := by
  cases fuel with
  | zero => cases h
  | succ fuel =>
    rw [readItems] at h
    split at h
    · cases h
    · rename_i w r hw
      have hitem := suffix_of_readValue hw
      split at h
      · rename_i hclosing
        cases h
        exact (suffix_of_skipBlanks hclosing).trans hitem
      · rename_i hcomma
        exact (suffix_of_readItems h).trans ((suffix_behind hcomma).trans hitem)
      · cases h

theorem suffix_of_readMembers {fuel depth : Nat} {acc : Members τ} {cs rest : List Char} {v : Json τ}
    (h : readMembers fuel depth acc cs = .ok (v, rest)) : rest <:+ cs := by
  cases fuel with
  | zero => cases h
  | succ fuel =>
    rw [readMembers.eq_def] at h
    dsimp only at h
    split at h
    · split at h
      · cases h
      · rename_i hname
        split at h
        · rename_i hcolon
          split at h
          · cases h
          · rename_i hw
            have hmember := (suffix_of_readValue hw).trans (suffix_behind_name hname hcolon)
            split at h
            · rename_i hclosing
              cases h
              exact (suffix_of_skipBlanks hclosing).trans hmember
            · rename_i hcomma
              exact (suffix_of_readMembers h).trans ((suffix_behind hcomma).trans hmember)
            · cases h
        · cases h
    · cases h

end

end Readings

/-! ## Failures for size -/

/-- A character that opens a list or an object. -/
def isOpening (c : Char) : Bool := c == '[' || c == '\x7b'

/-- The characters give reason for a failure with the given cause, if that is one for size. -/
def Exceeds (depth : Nat) (cs : List Char) : ReadCause → Prop
  | .tooManyDigits count => maxIntDigits < count ∧
    ∃ run, run <:+: cs ∧ run.length = count ∧ ∀ c ∈ run, isAsciiDigit c = true
  | .tooDeep _ => depth < cs.countP isOpening
  | _ => True

theorem Exceeds.mono {depth : Nat} {cs ds : List Char} {cause : ReadCause} (h : Exceeds depth cs cause)
    (hs : cs <:+ ds) : Exceeds depth ds cause := by
  unfold Exceeds at h ⊢
  split at h
  · obtain ⟨hcount, run, hrun, hlen, hdigits⟩ := h
    exact ⟨hcount, run, hrun.trans hs.isInfix, hlen, hdigits⟩
  · exact Nat.lt_of_lt_of_le h (hs.sublist.countP_le)
  · trivial

/-- What stands behind a bracket has one level less to go. -/
theorem Exceeds.inside {depth : Nat} {c : Char} {cs ds : List Char} {cause : ReadCause}
    (h : Exceeds depth cs cause) (hs : cs <:+ ds) (hc : isOpening c = true) :
    Exceeds (depth + 1) (c :: ds) cause := by
  have hall := h.mono hs
  unfold Exceeds at hall ⊢
  split at hall
  · obtain ⟨hcount, run, hrun, hlen, hdigits⟩ := hall
    exact ⟨hcount, run, hrun.trans (List.suffix_cons c ds).isInfix, hlen, hdigits⟩
  · rw [List.countP_cons_of_pos hc]
    exact Nat.succ_lt_succ hall
  · trivial

/-- A bracket where no level is left. -/
theorem exceeds_at_bracket {c : Char} {cs : List Char} {kind : Kind} (hc : isOpening c = true) :
    Exceeds 0 (c :: cs) (.tooDeep kind) := by
  rw [Exceeds, List.countP_cons_of_pos hc]
  exact Nat.succ_pos _

theorem exceeds_of_readUnits {opening cs : List Char} {acc : List UInt16} {f : ReadFailure}
    (h : readUnits opening acc cs = .error f) (depth : Nat) (ds : List Char) : Exceeds depth ds f.cause := by
  fun_induction readUnits opening acc cs
  case case2 => cases h
  case case4 ih | case7 ih | case10 ih => exact ih h
  all_goals
    cases h
    trivial

theorem digits_wholeOf (cs : List Char) : ∀ c ∈ wholeOf cs, isAsciiDigit c = true := by
  unfold wholeOf
  split
  · exact isWhole_zero.digits
  · exact fun c hc => List.all_eq_true.1 List.all_takeWhile c hc

theorem prefix_wholeOf (cs : List Char) : wholeOf cs <+: cs := by
  unfold wholeOf
  split
  · exact ⟨_, rfl⟩
  · exact List.takeWhile_prefix _

section Readings

variable {τ : Type}

/-- The digits before the point are a run of the text. -/
theorem exceeds_of_readNumber {negative : Bool} {start cs : List Char} {f : ReadFailure}
    (h : (readNumber negative start cs : Reading (Json τ)) = .error f) (depth : Nat) : Exceeds depth cs f.cause := by
  rw [readNumber_eq, readParts] at h
  split at h
  · cases h
    trivial
  · simp only at h
    split at h
    · cases h
    · cases h
    · split at h
      · rename_i hlen
        cases h
        exact ⟨hlen, _, (prefix_wholeOf cs).isInfix, rfl, digits_wholeOf cs⟩
      · cases h

variable [UnitText τ]

/-- A text that is not closed, or has a wrong character, is malformed at any size. -/
theorem exceeds_of_readText {opening cs : List Char} {f : ReadFailure}
    (h : (readText opening cs : Reading τ) = .error f) (depth : Nat) (ds : List Char) :
    Exceeds depth ds f.cause :=
  exceeds_of_readUnits (map_eq_error.1 h) depth ds

variable [DecidableEq τ]

mutual

/-- A value that is refused for its size has reason for it. A failure inside of a list or an object was met
with one level less, which its bracket makes up for (`Exceeds.inside`). -/
theorem exceeds_of_readValue {fuel depth : Nat} {cs : List Char} {f : ReadFailure}
    (h : (readValue fuel depth cs : Reading (Json τ)) = .error f) : Exceeds depth cs f.cause := by
  cases fuel with
  | zero =>
    cases h
    trivial
  | succ fuel =>
    rw [readValue.eq_def] at h
    dsimp only at h
    split at h
    case h_1 => exact exceeds_of_readText (map_eq_error.1 h) _ _
    case h_2 =>
      split at h
      · cases h
        exact exceeds_at_bracket rfl
      · cases h
      · exact (exceeds_of_readItems h).inside (suffix_skipBlanks _) rfl
    case h_3 =>
      split at h
      · cases h
        exact exceeds_at_bracket rfl
      · cases h
      · exact (exceeds_of_readMembers h).inside (suffix_skipBlanks _) rfl
    case h_10 => exact (exceeds_of_readNumber h _).mono (List.suffix_cons _ _)
    case h_11 => exact exceeds_of_readNumber h _
    all_goals cases h

theorem exceeds_of_readItems {fuel depth : Nat} {acc : List (Json τ)} {cs : List Char} {f : ReadFailure}
    (h : readItems fuel depth acc cs = .error f) : Exceeds depth cs f.cause := by
  cases fuel with
  | zero =>
    cases h
    trivial
  | succ fuel =>
    rw [readItems] at h
    split at h
    · rename_i hw
      cases h
      exact exceeds_of_readValue hw
    · rename_i hw
      split at h
      · cases h
      · rename_i hcomma
        exact (exceeds_of_readItems h).mono ((suffix_behind hcomma).trans (suffix_of_readValue hw))
      · cases h
        trivial

theorem exceeds_of_readMembers {fuel depth : Nat} {acc : Members τ} {cs : List Char} {f : ReadFailure}
    (h : readMembers fuel depth acc cs = .error f) : Exceeds depth cs f.cause := by
  cases fuel with
  | zero =>
    cases h
    trivial
  | succ fuel =>
    rw [readMembers.eq_def] at h
    dsimp only at h
    split at h
    · split at h
      · rename_i hname
        cases h
        exact exceeds_of_readText hname _ _
      · rename_i hname
        split at h
        · rename_i hcolon
          have hvalue := suffix_behind_name hname hcolon
          split at h
          · rename_i hw
            cases h
            exact (exceeds_of_readValue hw).mono hvalue
          · rename_i hw
            split at h
            · cases h
            · rename_i hcomma
              exact (exceeds_of_readMembers h).mono
                ((suffix_behind hcomma).trans ((suffix_of_readValue hw).trans hvalue))
            · cases h
              trivial
        · cases h
          trivial
    · cases h
      trivial

end

/-- **No document is refused for its size without reason.** -/
theorem exceeds_of_read? {depth : Nat} {s : String} {e : ReadError}
    (h : (read? depth s : Except ReadError (Json τ)) = .error e) : Exceeds depth s.toList e.cause := by
  unfold read? at h
  split at h
  · cases h
    trivial
  · unfold readWhole at h
    split at h
    · cases h
    · rename_i hf
      cases h
      unfold readChars at hf
      split at hf
      · rename_i hvalue
        cases hf
        exact (exceeds_of_readValue hvalue).mono (suffix_skipBlanks _)
      · split at hf
        · cases hf
        · cases hf
          trivial

/-! ## Texts that are refused -/

/-- A value that is refused at the first character of a text that begins with no blank and no mark. -/
theorem read?_of_readValue {depth : Nat} {c : Char} {cs : List Char} {f : ReadFailure}
    (hc : beginsValue c = true)
    (h : (readValue (2 * (c :: cs).length + 2) depth (c :: cs) : Reading (Json τ)) = .error f) :
    (read? depth (String.ofList (c :: cs)) : Except ReadError (Json τ)) =
      .error ⟨f.cause, c :: cs, (c :: cs).length - f.remaining⟩ := by
  obtain ⟨hblank, -, hmark⟩ := beginsValue_iff.1 hc
  rw [read?, String.toList_ofList]
  split
  · rename_i heq
    exact absurd (List.cons.inj heq).1 hmark
  · rw [readWhole, readChars, skipBlanks_of_head hblank, h]

/-- An integer with too many digits is refused, whatever follows it. -/
theorem read?_digits (depth : Nat) {ds rest : List Char} (hd : IsWhole ds)
    (hlen : maxIntDigits < ds.length) (hr : EndsNumber rest) :
    (read? depth (String.ofList (ds ++ rest)) : Except ReadError (Json τ)) =
      .error ⟨.tooManyDigits ds.length, ds ++ rest, 0⟩ := by
  obtain ⟨c, hhead, hc⟩ := hd.head_digit
  obtain ⟨more, rfl⟩ := List.head?_eq_some_iff.1 hhead
  have hread := readNumber_append (τ := τ) false (c :: (more ++ rest)) hd hr.noDigit
  have hf := splitFraction_eq_none fun c hc => (hr c hc).2.1
  have he := splitExponent_eq_none fun c hc => (hr c hc).2.2
  rw [readParts, if_neg (by simp)] at hread
  simp only [hf, he, if_pos hlen] at hread
  rw [List.cons_append, read?_of_readValue (beginsValue_digit hc)
    ((readValue_digit _ _ hc _).trans hread), Nat.sub_self]

theorem readValue_brackets {fuel depth : Nat} (hfuel : 2 * depth < fuel) (rest : List Char) :
    ∃ remaining, (readValue fuel depth ('[' :: (List.replicate depth '[' ++ rest)) : Reading (Json τ)) =
      .error ⟨.tooDeep .arr, remaining⟩ := by
  induction depth generalizing fuel with
  | zero =>
    obtain ⟨fuel, rfl⟩ := Nat.exists_eq_add_of_lt hfuel
    exact ⟨_, rfl⟩
  | succ depth ih =>
    obtain ⟨fuel, rfl⟩ : ∃ more, fuel = more + 2 := ⟨fuel - 2, by omega⟩
    have hless : 2 * depth < fuel := by omega
    obtain ⟨remaining, hremaining⟩ := ih hless
    refine ⟨remaining, ?_⟩
    rw [List.replicate_succ, List.cons_append,
      readValue_list (fuel + 1) depth (skipBlanks_of_head rfl _) (by decide), readItems, hremaining]

/-- More brackets in a row than lists may stand in one another are refused, whatever follows them. -/
theorem read?_brackets (depth : Nat) (rest : List Char) :
    ∃ position,
      (read? depth (String.ofList ('[' :: (List.replicate depth '[' ++ rest))) : Except ReadError (Json τ)) =
        .error ⟨.tooDeep .arr, '[' :: (List.replicate depth '[' ++ rest), position⟩ := by
  have hfuel : 2 * depth < 2 * ('[' :: (List.replicate depth '[' ++ rest)).length + 2 := by
    rw [List.length_cons, List.length_append, List.length_replicate]
    omega
  obtain ⟨remaining, hread⟩ := readValue_brackets (τ := τ) hfuel rest
  exact ⟨_, read?_of_readValue rfl hread⟩

end Readings

end WorkspaceTools.Json
