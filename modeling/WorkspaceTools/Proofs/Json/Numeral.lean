import WorkspaceTools.Json.Printer
import WorkspaceTools.Json.Reader
import WorkspaceTools.Proofs.Number.Decimal
import WorkspaceTools.Proofs.Number.Shortest

/-!
# Numbers in documents read back

* `readNumber_int`, `readNumber_fraction` and `readNumber_exponent` say what a numeral denotes by its
  parts.
* `readsRounded_positional` and `readsRounded_scientific`: significant digits are read as the number
  that they denote, before it is rounded.
* `readValue_int` and `readValue_float`: integers of not too many digits and numbers of double precision
  read back from their texts.
-/

namespace WorkspaceTools.Json

open Number Text

/-! ## Parts of a numeral -/

/-- Nothing stands in front that a number could go on with. -/
def EndsNumber (cs : List Char) : Prop :=
  ∀ c ∈ cs.head?, isAsciiDigit c = false ∧ c ≠ '.' ∧ c ≠ 'e' ∧ c ≠ 'E'

theorem EndsNumber.noDigit {cs : List Char} (h : EndsNumber cs) : NoDigit cs := fun c hc => (h c hc).1

/-- Digits before the point: a single zero, or no zero in front. -/
structure IsWhole (ds : List Char) : Prop where
  digits : ∀ c ∈ ds, isAsciiDigit c = true
  ne_nil : ds ≠ []
  head : ds = ['0'] ∨ ds.head? ≠ some '0'

/-- The digits before the point at the head of a text. -/
def wholeOf (cs : List Char) : List Char :=
  match cs with
  | '0' :: _ => ['0']
  | cs => cs.takeWhile isAsciiDigit

theorem wholeOf_append {ds rest : List Char} (h : IsWhole ds) (hr : NoDigit rest) :
    wholeOf (ds ++ rest) = ds := by
  rcases h.head with rfl | hh
  · rfl
  · cases ds with
    | nil => exact absurd rfl h.ne_nil
    | cons c ds =>
      have hc : c ≠ '0' := fun e => hh (by rw [e]; rfl)
      rw [wholeOf]
      · exact takeWhile_digits h.digits hr
      · intro _ e
        exact hc (List.cons.inj e).1

theorem splitFraction_digits {fs rest : List Char} (hf : ∀ c ∈ fs, isAsciiDigit c = true)
    (hne : fs ≠ []) (hr : NoDigit rest) : splitFraction ('.' :: (fs ++ rest)) = some (fs, rest) := by
  rw [splitFraction, takeWhile_digits hf hr, dropWhile_digits hf hr]
  exact if_neg (by simpa using hne)

theorem splitFraction_eq_none {cs : List Char} (h : ∀ c ∈ cs.head?, c ≠ '.') :
    splitFraction cs = none := by
  cases cs with
  | nil => rfl
  | cons c cs =>
    have hc := h c rfl
    unfold splitFraction
    split
    · rename_i heq
      exact absurd (List.cons.inj heq).1 hc
    · rfl

theorem splitExponent_eq_none {cs : List Char} (h : ∀ c ∈ cs.head?, c ≠ 'e' ∧ c ≠ 'E') :
    splitExponent cs = none := by
  cases cs with
  | nil => rfl
  | cons c cs =>
    have hc := h c rfl
    simp [splitExponent, hc.1, hc.2]

/-- The mark of a signed exponent. -/
def signMark (negative : Bool) : Char := if negative then '-' else '+'

theorem splitExponent_digits (negative : Bool) {es rest : List Char}
    (he : ∀ c ∈ es, isAsciiDigit c = true) (hne : es ≠ []) (hr : NoDigit rest) :
    splitExponent ('e' :: signMark negative :: (es ++ rest)) =
      some (if negative then -(natOfDigits es : Int) else natOfDigits es, rest) := by
  cases negative <;>
    simp [splitExponent, signMark, takeWhile_digits he hr, dropWhile_digits he hr, hne]

/-! ## Whole numerals -/

section Numerals

variable {τ : Type} (negative : Bool) (start : List Char) {ds fs es rest : List Char}

/-- What digits before the point and the text after them are read as. -/
def readParts (whole rest : List Char) : Reading (Json τ) :=
  if whole.isEmpty then failAt .expectingValue start
  else
    let (fraction, rest', hasFraction) := match splitFraction rest with
      | some (ds, r) => (ds, r, true)
      | none => ([], rest, false)
    match splitExponent rest', hasFraction with
    | some (e, r), _ =>
      .ok (.float (.ofDecimal negative (natOfDigits (whole ++ fraction)) (e - fraction.length)), r)
    | none, true =>
      .ok (.float (.ofDecimal negative (natOfDigits (whole ++ fraction)) (-fraction.length)), rest')
    | none, false =>
      if maxIntDigits < whole.length then failAt (.tooManyDigits whole.length) start
      else
        let n : Int := natOfDigits whole
        .ok (.int (if negative then -n else n), rest')

theorem readNumber_eq (cs : List Char) :
    (readNumber negative start cs : Reading (Json τ)) =
      readParts negative start (wholeOf cs) (cs.drop (wholeOf cs).length) := rfl

theorem readNumber_append (hd : IsWhole ds) (hr : NoDigit rest) :
    (readNumber negative start (ds ++ rest) : Reading (Json τ)) = readParts negative start ds rest := by
  rw [readNumber_eq, wholeOf_append hd hr, List.drop_left]

/-- Digits alone are an integer. -/
theorem readNumber_int (hd : IsWhole ds) (hr : EndsNumber rest) (hlen : ds.length ≤ maxIntDigits) :
    (readNumber negative start (ds ++ rest) : Reading (Json τ)) =
      .ok (.int (if negative then -(natOfDigits ds : Int) else natOfDigits ds), rest) := by
  have hf := splitFraction_eq_none fun c hc => (hr c hc).2.1
  have he := splitExponent_eq_none fun c hc => (hr c hc).2.2
  rw [readNumber_append negative start hd hr.noDigit, readParts, if_neg (by simpa using hd.ne_nil)]
  simp only [hf, he, if_neg (Nat.not_lt.2 hlen)]

/-- Digits with a fraction. -/
theorem readNumber_fraction (hd : IsWhole ds) (hf : ∀ c ∈ fs, isAsciiDigit c = true) (hne : fs ≠ [])
    (hr : EndsNumber rest) :
    (readNumber negative start (ds ++ '.' :: (fs ++ rest)) : Reading (Json τ)) =
      .ok (.float (.ofDecimal negative (natOfDigits (ds ++ fs)) (-fs.length)), rest) := by
  have hpoint : NoDigit ('.' :: (fs ++ rest)) := fun c hc => by cases hc; rfl
  have he := splitExponent_eq_none fun c hc => (hr c hc).2.2
  rw [readNumber_append negative start hd hpoint, readParts, if_neg (by simpa using hd.ne_nil)]
  simp only [splitFraction_digits hf hne hr.noDigit, he]

/-- A fraction, unless it has no digits. -/
def fractionChars (fs : List Char) : List Char := if fs.isEmpty then [] else '.' :: fs

/-- Digits with an exponent, and perhaps with a fraction. -/
theorem readNumber_exponent (exponentNegative : Bool) (hd : IsWhole ds)
    (hf : ∀ c ∈ fs, isAsciiDigit c = true) (he : ∀ c ∈ es, isAsciiDigit c = true) (hne : es ≠ [])
    (hr : NoDigit rest) :
    (readNumber negative start
        (ds ++ (fractionChars fs ++ 'e' :: signMark exponentNegative :: (es ++ rest))) : Reading (Json τ)) =
      .ok (.float (.ofDecimal negative (natOfDigits (ds ++ fs))
        ((if exponentNegative then -(natOfDigits es : Int) else natOfDigits es) - fs.length)), rest) := by
  have hexp := splitExponent_digits exponentNegative he hne hr
  have hmark : NoDigit ('e' :: signMark exponentNegative :: (es ++ rest)) := fun c hc => by
    cases hc
    rfl
  by_cases hfs : fs = []
  · subst hfs
    have hnone : splitFraction ('e' :: signMark exponentNegative :: (es ++ rest)) = none :=
      splitFraction_eq_none fun c hc => by
        cases hc
        decide
    rw [fractionChars, List.isEmpty_nil, if_pos rfl, List.nil_append,
      readNumber_append negative start hd hmark, readParts, if_neg (by simpa using hd.ne_nil)]
    simp only [hnone, hexp]
  · have hpoint : NoDigit ('.' :: (fs ++ 'e' :: signMark exponentNegative :: (es ++ rest))) :=
      fun c hc => by
        cases hc
        rfl
    rw [fractionChars, if_neg (by simpa using hfs), List.cons_append,
      readNumber_append negative start hd hpoint, readParts, if_neg (by simpa using hd.ne_nil)]
    simp only [splitFraction_digits hf hfs hmark, hexp]

end Numerals

/-! ## Significant digits -/

/-- The digits of a positive number, the first of them at the given place. -/
structure IsSignificant (ds : List Char) (place : Int) (x : ℚ) : Prop where
  digits : ∀ c ∈ ds, isAsciiDigit c = true
  ne_nil : ds ≠ []
  head : ds.head? ≠ some '0'
  value : decimalValue (natOfDigits ds) (place + 1 - ds.length) = x

theorem dropTrailingZeros_append (cs : List Char) :
    ∃ z, cs = dropTrailingZeros cs ++ List.replicate z '0' := by
  refine ⟨(cs.reverse.takeWhile (· == '0')).length, ?_⟩
  have hzeros : cs.reverse.takeWhile (· == '0') =
      List.replicate (cs.reverse.takeWhile (· == '0')).length '0' :=
    List.eq_replicate_of_mem fun c hc => by
      simpa using List.all_eq_true.1 (List.all_takeWhile (l := cs.reverse)) c hc
  have hsplit := List.takeWhile_append_dropWhile (p := (· == '0')) (l := cs.reverse)
  rw [dropTrailingZeros, ← List.reverse_replicate, ← hzeros, ← List.reverse_append, hsplit,
    List.reverse_reverse]

theorem decimalValue_mul_tenTo (n : Nat) (g : Int) (z : Nat) :
    decimalValue (n * tenTo z) g = decimalValue n (g + z) := by
  rw [decimalValue, decimalValue, Nat.cast_mul, cast_tenTo, zpow_add₀ (by norm_num), zpow_natCast]
  ring

theorem isSignificant_digits {d : Decimal} (h : 0 < d.coefficient) :
    IsSignificant d.digits.1 d.digits.2 (decimalValue d.coefficient d.exponent) := by
  obtain ⟨z, hz⟩ := dropTrailingZeros_append (natDigits d.coefficient)
  have hvalue := natOfDigits_natDigits d.coefficient
  have hlen := congrArg List.length hz
  rw [hz, natOfDigits_append_zeros] at hvalue
  rw [List.length_append, List.length_replicate] at hlen
  have hne : dropTrailingZeros (natDigits d.coefficient) ≠ [] := fun hnil => by
    rw [hnil, natOfDigits_nil, Nat.zero_mul] at hvalue
    omega
  refine ⟨fun c hc => ?_, hne, ?_, ?_⟩
  · exact isAsciiDigit_of_mem_natDigits (by rw [hz]; exact List.mem_append_left _ hc)
  · have hhead := head_natDigits h
    rw [hz, List.head?_append] at hhead
    change (dropTrailingZeros (natDigits d.coefficient)).head? ≠ some '0'
    cases hc : (dropTrailingZeros (natDigits d.coefficient)).head? with
    | none => exact absurd (List.head?_eq_none_iff.1 hc) hne
    | some c => rwa [hc] at hhead
  · rw [← hvalue, decimalValue_mul_tenTo]
    congr 1
    simp only [Decimal.digits]
    omega

section Texts

variable (negative : Bool) (start : List Char) {ds rest : List Char} {place : Int} {x : ℚ}

theorem IsSignificant.isWhole_append_zeros (h : IsSignificant ds place x) (k : Nat) :
    IsWhole (ds ++ List.replicate k '0') := by
  refine ⟨fun c hc => ?_, by simp [h.ne_nil], .inr ?_⟩
  · rcases List.mem_append.1 hc with hc | hc
    · exact h.digits c hc
    · rw [List.eq_of_mem_replicate hc]
      rfl
  · have hhead := h.head
    rw [List.head?_append]
    cases hc : ds.head? with
    | none => exact absurd (List.head?_eq_none_iff.1 hc) h.ne_nil
    | some c => rwa [hc] at hhead

theorem isWhole_zero : IsWhole ['0'] :=
  ⟨fun c hc => by rw [List.mem_singleton.1 hc]; rfl, by simp, .inl rfl⟩

/-- The text is read as a number that is rounded from `x`. -/
def ReadsRounded (cs rest : List Char) (x : ℚ) : Prop :=
  ∃ n k, (∀ τ : Type, (readNumber negative start (cs ++ rest) : Reading (Json τ)) =
      .ok (.float (.ofDecimal negative n k), rest)) ∧ decimalValue n k = x

/-- Digits below the point. -/
theorem readsRounded_positional_neg (h : IsSignificant ds place x) (hr : EndsNumber rest)
    (hp : place < 0) : ReadsRounded negative start (positional ds place) rest x := by
  have hfs : ∀ c ∈ List.replicate (-place - 1).toNat '0' ++ ds, isAsciiDigit c = true := by
    intro c hc
    rcases List.mem_append.1 hc with hc | hc
    · rw [List.eq_of_mem_replicate hc]
      rfl
    · exact h.digits c hc
  have hcs : positional ds place ++ rest =
      ['0'] ++ '.' :: ((List.replicate (-place - 1).toNat '0' ++ ds) ++ rest) := by
    rw [positional, if_pos hp]
    rfl
  rw [ReadsRounded, hcs]
  refine ⟨_, _, fun _ => readNumber_fraction negative start isWhole_zero hfs (by simp [h.ne_nil]) hr, ?_⟩
  rw [← List.append_assoc, natOfDigits_append, ← h.value]
  have hzero : natOfDigits (['0'] ++ List.replicate (-place - 1).toNat '0') = 0 := by
    rw [natOfDigits_append, natOfDigits_replicate_zero]
    simp [show natOfDigits ['0'] = 0 from rfl]
  rw [hzero, Nat.zero_mul, Nat.zero_add]
  congr 1
  rw [List.length_append, List.length_replicate]
  omega

/-- Digits that end above the point. -/
theorem readsRounded_positional_whole (h : IsSignificant ds place x) (hr : EndsNumber rest)
    (hp : 0 ≤ place) (hlen : ds.length ≤ place.toNat + 1) :
    ReadsRounded negative start (positional ds place) rest x := by
  have hcs : positional ds place ++ rest =
      (ds ++ List.replicate (place.toNat + 1 - ds.length) '0') ++ '.' :: (['0'] ++ rest) := by
    simp [positional, not_lt.2 hp, List.take_of_length_le hlen, List.drop_eq_nil_of_le hlen]
  rw [ReadsRounded, hcs]
  refine ⟨_, _, fun _ => readNumber_fraction negative start (h.isWhole_append_zeros _) isWhole_zero.digits
    (by simp) hr, ?_⟩
  rw [show ['0'] = List.replicate 1 '0' from rfl, natOfDigits_append_zeros, natOfDigits_append_zeros,
    decimalValue_mul_tenTo, decimalValue_mul_tenTo, ← h.value]
  congr 1
  rw [List.length_replicate]
  omega

/-- Digits on both sides of the point. -/
theorem readsRounded_positional_split (h : IsSignificant ds place x) (hr : EndsNumber rest)
    (hp : 0 ≤ place) (hlen : place.toNat + 1 < ds.length) :
    ReadsRounded negative start (positional ds place) rest x := by
  have hne : ds.drop (place.toNat + 1) ≠ [] := by
    rw [Ne, List.drop_eq_nil_iff]
    omega
  have hcs : positional ds place ++ rest =
      ds.take (place.toNat + 1) ++ '.' :: (ds.drop (place.toNat + 1) ++ rest) := by
    have hpad : place.toNat + 1 - ds.length = 0 := by omega
    simp [positional, not_lt.2 hp, hpad, hlen]
  have hwhole : IsWhole (ds.take (place.toNat + 1)) := by
    refine ⟨fun c hc => h.digits c (List.mem_of_mem_take hc), ?_, .inr ?_⟩
    · rw [Ne, List.take_eq_nil_iff]
      simp [h.ne_nil]
    · rw [List.head?_take]
      simpa using h.head
  rw [ReadsRounded, hcs]
  refine ⟨_, _, fun _ => readNumber_fraction negative start hwhole
    (fun c hc => h.digits c (List.mem_of_mem_drop hc)) hne hr, ?_⟩
  rw [List.take_append_drop, ← h.value, List.length_drop]
  congr 1
  omega

theorem readsRounded_positional (h : IsSignificant ds place x) (hr : EndsNumber rest) :
    ReadsRounded negative start (positional ds place) rest x := by
  rcases lt_or_ge place 0 with hp | hp
  · exact readsRounded_positional_neg negative start h hr hp
  · rcases Nat.lt_or_ge (place.toNat + 1) ds.length with hlen | hlen
    · exact readsRounded_positional_split negative start h hr hp hlen
    · exact readsRounded_positional_whole negative start h hr hp hlen

theorem readsRounded_scientific (width : Nat) (h : IsSignificant ds place x) (hr : NoDigit rest) :
    ReadsRounded negative start (scientific width ds place) rest x := by
  obtain ⟨d, more, rfl⟩ : ∃ d more, ds = d :: more := by
    cases ds with
    | nil => exact absurd rfl h.ne_nil
    | cons d more => exact ⟨d, more, rfl⟩
  have hcs : scientific width (d :: more) place ++ rest =
      [d] ++ (fractionChars more ++ 'e' :: signMark (decide (place < 0)) ::
        ((paddedText width place.natAbs).toList ++ rest)) := by
    cases more <;> simp [scientific, fractionChars, signMark]
  have hwhole : IsWhole [d] :=
    ⟨fun c hc => h.digits c (List.mem_of_mem_head? (by simpa using (List.mem_singleton.1 hc).symm)),
      by simp, .inr h.head⟩
  have hpad : (paddedText width place.natAbs).toList ≠ [] := by
    simp [toList_paddedText, natDigits_ne_nil]
  rw [ReadsRounded, hcs]
  refine ⟨_, _, fun _ => readNumber_exponent negative start (decide (place < 0)) hwhole
    (fun c hc => h.digits c (List.mem_cons_of_mem _ hc))
    (fun c hc => isAsciiDigit_of_mem_paddedText hc) hpad hr, ?_⟩
  rw [List.singleton_append, ← h.value, natOfDigits_paddedText, List.length_cons]
  congr 1
  by_cases hp : place < 0
  · simp only [hp, decide_true, if_true]
    omega
  · simp only [hp, decide_false, Bool.false_eq_true, if_false]
    omega

end Texts

/-! ## Numbers of double precision -/

/-- The text of m · 2^e. -/
def floatBody (layout : FloatLayout) (m : Nat) (e : Int) : List Char :=
  if m = 0 then "0.0".toList
  else
    let (ds, place) := (shortest m e).digits
    if layout.firstPositional ≤ place ∧ place < layout.firstScientific then positional ds place
    else scientific layout.exponentDigits ds place

theorem toList_floatText (layout : FloatLayout) (negative : Bool) (m : Nat) (e : Int) :
    (floatText layout (.finite negative m e)).toList =
      if negative then '-' :: floatBody layout m e else floatBody layout m e := by
  rw [floatText, String.toList_ofList]
  rfl

theorem isSignificant_shortest {negative : Bool} {m : Nat} {e : Int} (hm : 0 < m)
    (hc : (Binary64.finite negative m e).IsCanonical) :
    IsSignificant (shortest m e).digits.1 (shortest m e).digits.2
      (decimalValue (shortest m e).coefficient (shortest m e).exponent) := by
  refine isSignificant_digits (Nat.pos_of_ne_zero fun hzero => ?_)
  have := (roundsTo_shortest hm hc).pos hm
  rw [hzero, decimalValue, Nat.cast_zero, zero_mul] at this
  exact lt_irrefl _ this

/-- A finite number reads back from its text. -/
theorem readNumber_floatBody {τ : Type} (layout : FloatLayout) {negative : Bool} (start : List Char) {m : Nat}
    {e : Int} (hc : (Binary64.finite negative m e).IsCanonical) {rest : List Char}
    (hr : EndsNumber rest) :
    (readNumber negative start (floatBody layout m e ++ rest) : Reading (Json τ)) =
      .ok (.float (.finite negative m e), rest) := by
  unfold floatBody
  split
  · subst_vars
    obtain rfl : e = Binary64.minExponent := hc.2.2.2.resolve_left (by decide)
    exact readNumber_fraction negative start isWhole_zero isWhole_zero.digits (by simp) hr
  · rename_i hm
    have hm : 0 < m := Nat.pos_of_ne_zero hm
    have hround := roundsTo_shortest hm hc
    have hsig := isSignificant_shortest hm hc
    have hread : ReadsRounded negative start (if layout.firstPositional ≤ (shortest m e).digits.2 ∧
          (shortest m e).digits.2 < layout.firstScientific
        then positional (shortest m e).digits.1 (shortest m e).digits.2
        else scientific layout.exponentDigits (shortest m e).digits.1 (shortest m e).digits.2) rest
        (decimalValue (shortest m e).coefficient (shortest m e).exponent) := by
      split
      · exact readsRounded_positional negative start hsig hr
      · exact readsRounded_scientific negative start _ hsig hr.noDigit
    obtain ⟨n, k, hread, hvalue⟩ := hread
    rw [← hvalue] at hround
    rw [ofDecimal_of_roundsTo negative hm hc hround] at hread
    exact hread τ

/-! ## Values that are numbers -/

section Values

variable {τ : Type} [UnitText τ] [DecidableEq τ] (fuel depth : Nat)

/-- A digit begins a number. -/
theorem readValue_digit {c : Char} (hc : isAsciiDigit c = true) (cs : List Char) :
    (readValue (fuel + 1) depth (c :: cs) : Reading (Json τ)) = readNumber false (c :: cs) (c :: cs) := by
  unfold readValue
  dsimp only
  split <;> rename_i heq
  all_goals first
    | rfl
    | cases heq; exact absurd hc (by decide)

/-- A digit after a minus sign begins a negative number. -/
theorem readValue_minus {c : Char} (hc : isAsciiDigit c = true) (cs : List Char) :
    (readValue (fuel + 1) depth ('-' :: c :: cs) : Reading (Json τ)) =
      readNumber true ('-' :: c :: cs) (c :: cs) := by
  rw [readValue]
  rintro r ⟨⟩
  exact absurd hc (by decide)

/-- A text that begins with a digit, after a minus sign where it is negative. -/
theorem readValue_signed (negative : Bool) {body : List Char}
    (hb : ∃ c ∈ body.head?, isAsciiDigit c = true) (rest : List Char) :
    (readValue (fuel + 1) depth ((if negative then '-' :: body else body) ++ rest) : Reading (Json τ)) =
      readNumber negative ((if negative then '-' :: body else body) ++ rest) (body ++ rest) := by
  obtain ⟨c, hc, hd⟩ := hb
  cases body with
  | nil => cases hc
  | cons c' cs =>
    cases hc
    cases negative
    · exact readValue_digit fuel depth hd _
    · exact readValue_minus fuel depth hd _

theorem isWhole_natDigits (n : Nat) : IsWhole (natDigits n) := by
  refine ⟨fun c hc => isAsciiDigit_of_mem_natDigits hc, natDigits_ne_nil n, ?_⟩
  rcases Nat.eq_zero_or_pos n with rfl | hn
  · exact .inl (natDigits_of_lt (by decide))
  · exact .inr (head_natDigits hn)

theorem IsWhole.head_digit {ds : List Char} (h : IsWhole ds) :
    ∃ c ∈ ds.head?, isAsciiDigit c = true := by
  cases ds with
  | nil => exact absurd rfl h.ne_nil
  | cons c ds => exact ⟨c, rfl, h.digits c (List.mem_cons_self ..)⟩

theorem intDigits_eq (i : Int) :
    intDigits i = if decide (i < 0) then '-' :: natDigits i.natAbs else natDigits i.natAbs := by
  cases i with
  | ofNat n => rfl
  | negSucc n =>
    rw [if_pos (by simp)]
    rfl

/-- **An integer reads back** from its digits, unless there are too many. -/
theorem readValue_int {i : Int} (hi : (natDigits i.natAbs).length ≤ maxIntDigits) {rest : List Char}
    (hr : EndsNumber rest) :
    (readValue (fuel + 1) depth (intDigits i ++ rest) : Reading (Json τ)) = .ok (.int i, rest) := by
  have hw := isWhole_natDigits i.natAbs
  rw [intDigits_eq, readValue_signed fuel depth _ hw.head_digit, readNumber_int _ _ hw hr hi,
    natOfDigits_natDigits]
  congr 3
  by_cases h : i < 0
  · simp only [h, decide_true, if_true]
    omega
  · simp only [h, decide_false, Bool.false_eq_true, if_false]
    omega

theorem IsSignificant.head_digit {ds : List Char} {place : Int} {x : ℚ} (h : IsSignificant ds place x) :
    ∃ d more, ds = d :: more ∧ isAsciiDigit d = true := by
  cases ds with
  | nil => exact absurd rfl h.ne_nil
  | cons d more => exact ⟨d, more, rfl, h.digits d (List.mem_cons_self ..)⟩

theorem head_positional {ds : List Char} {place : Int} {x : ℚ} (h : IsSignificant ds place x) :
    ∃ c ∈ (positional ds place).head?, isAsciiDigit c = true := by
  obtain ⟨d, more, rfl, hd⟩ := h.head_digit
  unfold positional
  split
  · exact ⟨'0', rfl, rfl⟩
  · exact ⟨d, rfl, hd⟩

theorem head_scientific (width : Nat) {ds : List Char} {place : Int} {x : ℚ}
    (h : IsSignificant ds place x) : ∃ c ∈ (scientific width ds place).head?, isAsciiDigit c = true := by
  obtain ⟨d, more, rfl, hd⟩ := h.head_digit
  cases more <;> exact ⟨d, rfl, hd⟩

theorem head_floatBody (layout : FloatLayout) {negative : Bool} {m : Nat} {e : Int}
    (hc : (Binary64.finite negative m e).IsCanonical) :
    ∃ c ∈ (floatBody layout m e).head?, isAsciiDigit c = true := by
  unfold floatBody
  split
  · exact ⟨'0', rfl, rfl⟩
  · rename_i hm
    have hsig := isSignificant_shortest (Nat.pos_of_ne_zero hm) hc
    dsimp only
    split
    · exact head_positional hsig
    · exact head_scientific _ hsig

/-- **A number of double precision reads back** from its text. -/
theorem readValue_float {x : Binary64} (hx : x.IsCanonical) {rest : List Char} (hr : EndsNumber rest) :
    (readValue (fuel + 1) depth ((floatText documentFloat x).toList ++ rest) : Reading (Json τ)) =
      .ok (.float x, rest) := by
  cases x with
  | nan => rfl
  | infinite negative => cases negative <;> rfl
  | finite negative m e =>
    rw [toList_floatText, readValue_signed fuel depth negative (head_floatBody documentFloat hx),
      readNumber_floatBody documentFloat _ hx hr]

end Values

end WorkspaceTools.Json
