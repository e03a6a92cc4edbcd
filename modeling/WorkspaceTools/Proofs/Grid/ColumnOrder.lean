import Mathlib.Data.List.Shortlex
import Mathlib.Tactic.Linarith
import Mathlib.Tactic.Ring
import WorkspaceTools.Proofs.Grid.Column

/-!
# Columns in the order of their letters

Column letters are numerals in base 26 without a zero, so more letters are a larger number
(`lettersValue_bounds`), and of two numerals of one length the first letter that differs decides.

* `lettersValue_lt_iff`: letters denote a smaller number exactly if they are shorter, or as long and
  earlier in the alphabet. Capitals and small letters are the same digits.
* `columnLetters_eq_map_toUpper`: letters are those of their index, in capitals.
* `column_correspondence`: indices and names of columns correspond one to one and in order.
-/

namespace WorkspaceTools

open Text

/-! ## Digits -/

/-- A letter counts from the capital A. -/
theorem letterValue_eq_toUpper {c : Char} (h : isAsciiLetter c = true) :
    letterValue c = (c.toUpper.toNat : Int) - 64 := by
  have hall : ∀ n : Fin 128, isAsciiLetter (Char.ofNat n.val) = true →
      letterValue (Char.ofNat n.val) = ((Char.ofNat n.val).toUpper.toNat : Int) - 64 := by decide
  have hlt : c.toNat < 128 := by
    simp only [isAsciiLetter, Bool.or_eq_true, Bool.and_eq_true, decide_eq_true_eq, Char.le_def,
      UInt32.le_iff_toNat_le, Char.toNat_val] at h
    have hZ : 'Z'.toNat = 90 := rfl
    have hz : 'z'.toNat = 122 := rfl
    omega
  have hc := hall ⟨c.toNat, hlt⟩
  rw [Char.ofNat_toNat] at hc
  exact hc h

theorem letterValue_lt_iff {c d : Char} (hc : isAsciiLetter c = true) (hd : isAsciiLetter d = true) :
    letterValue c < letterValue d ↔ c.toUpper < d.toUpper := by
  rw [letterValue_eq_toUpper hc, letterValue_eq_toUpper hd, Char.lt_def, UInt32.lt_iff_toNat_lt]
  simp only [Char.toNat_val]
  omega

/-! ## Numerals -/

theorem foldl_letterValue (cs : List Char) (n : Int) :
    cs.foldl (fun n c => n * 26 + letterValue c) n = n * 26 ^ cs.length + lettersValue cs := by
  induction cs generalizing n with
  | nil => simp [lettersValue]
  | cons c cs ih =>
    rw [lettersValue, List.foldl_cons, List.foldl_cons, ih, ih, List.length_cons, Int.pow_succ]
    ring

theorem lettersValue_cons (c : Char) (cs : List Char) :
    lettersValue (c :: cs) = letterValue c * 26 ^ cs.length + lettersValue cs := by
  rw [lettersValue, List.foldl_cons, foldl_letterValue, zero_mul, zero_add]

/-- The numbers of a given count of letters lie between those of as many A and as many Z. -/
theorem lettersValue_bounds {cs : List Char} (h : ∀ c ∈ cs, isAsciiLetter c = true) :
    26 ^ cs.length ≤ 25 * lettersValue cs + 1 ∧ 25 * lettersValue cs + 26 ≤ 26 * 26 ^ cs.length := by
  induction cs with
  | nil => decide
  | cons c cs ih =>
    obtain ⟨hlow, hhigh⟩ := ih fun d hd => h d (by simp [hd])
    obtain ⟨hone, hlast⟩ := letterValue_bounds (h c (by simp))
    have hpow : (0 : Int) ≤ 26 ^ cs.length := by positivity
    have hfirst := mul_le_mul_of_nonneg_right hone hpow
    have hfinal := mul_le_mul_of_nonneg_right hlast hpow
    rw [lettersValue_cons, List.length_cons, Int.pow_succ]
    constructor <;> linarith

/-- More letters are a larger number. -/
theorem lettersValue_lt_of_length_lt {cs ds : List Char} (hcs : ∀ c ∈ cs, isAsciiLetter c = true)
    (hds : ∀ c ∈ ds, isAsciiLetter c = true) (h : cs.length < ds.length) :
    lettersValue cs < lettersValue ds := by
  have hhigh := (lettersValue_bounds hcs).2
  have hlow := (lettersValue_bounds hds).1
  have hpow : (26 : Int) ^ (cs.length + 1) ≤ 26 ^ ds.length := pow_le_pow_right₀ (by decide) h
  rw [Int.pow_succ] at hpow
  linarith

/-- Of two numerals of one length the first letter that differs decides. -/
theorem lettersValue_lt_of_lex {cs ds : List Char} (hcs : ∀ c ∈ cs, isAsciiLetter c = true)
    (hds : ∀ c ∈ ds, isAsciiLetter c = true) (hlen : cs.length = ds.length)
    (h : List.Lex (· < ·) (cs.map Char.toUpper) (ds.map Char.toUpper)) :
    lettersValue cs < lettersValue ds := by
  induction cs generalizing ds with
  | nil =>
    cases List.length_eq_zero_iff.1 hlen.symm
    cases h
  | cons c cs ih =>
    cases ds with
    | nil => cases hlen
    | cons d ds =>
      have hc := hcs c (by simp)
      have hd := hds d (by simp)
      have hcs' : ∀ c ∈ cs, isAsciiLetter c = true := fun e he => hcs e (by simp [he])
      have hds' : ∀ d ∈ ds, isAsciiLetter d = true := fun e he => hds e (by simp [he])
      have hlen' : cs.length = ds.length := Nat.succ.inj hlen
      rw [lettersValue_cons, lettersValue_cons, hlen']
      rcases List.cons_lex_cons_iff.1 h with hlt | ⟨heq, hlex⟩
      · have hnext : letterValue c + 1 ≤ letterValue d := (letterValue_lt_iff hc hd).2 hlt
        have hpow : (0 : Int) ≤ 26 ^ ds.length := by positivity
        have hstep := mul_le_mul_of_nonneg_right hnext hpow
        have hhigh := (lettersValue_bounds hcs').2
        have hlow := (lettersValue_bounds hds').1
        rw [hlen'] at hhigh
        linarith
      · have hdigit : letterValue c = letterValue d := by
          rw [letterValue_eq_toUpper hc, letterValue_eq_toUpper hd, heq]
        have hrest := ih hcs' hds' hlen' hlex
        rw [hdigit]
        linarith

theorem lettersValue_lt_of_shortlex {cs ds : List Char} (hcs : ∀ c ∈ cs, isAsciiLetter c = true)
    (hds : ∀ c ∈ ds, isAsciiLetter c = true)
    (h : List.Shortlex (· < ·) (cs.map Char.toUpper) (ds.map Char.toUpper)) :
    lettersValue cs < lettersValue ds := by
  rcases List.shortlex_def.1 h with hlt | ⟨heq, hlex⟩
  · exact lettersValue_lt_of_length_lt hcs hds (by simpa using hlt)
  · exact lettersValue_lt_of_lex hcs hds (by simpa using heq) hlex

/-- Letters that are the same in capitals denote one number. -/
theorem lettersValue_eq_of_map_toUpper {cs ds : List Char} (hcs : ∀ c ∈ cs, isAsciiLetter c = true)
    (hds : ∀ c ∈ ds, isAsciiLetter c = true) (h : cs.map Char.toUpper = ds.map Char.toUpper) :
    lettersValue cs = lettersValue ds := by
  have hcapital {es : List Char} (hes : ∀ c ∈ es, isAsciiLetter c = true) : lettersValue es =
      (es.map Char.toUpper).foldl (fun n c => n * 26 + ((c.toNat : Int) - 64)) 0 := by
    rw [lettersValue, List.foldl_map]
    refine List.foldl_ext _ _ _ fun n c hc => ?_
    rw [letterValue_eq_toUpper (hes c hc)]
  rw [hcapital hcs, hcapital hds, h]

/-- **Letters denote numbers in their order**: shorter ones come first, and those of one length in
the order of the alphabet. -/
theorem lettersValue_lt_iff {cs ds : List Char} (hcs : ∀ c ∈ cs, isAsciiLetter c = true)
    (hds : ∀ c ∈ ds, isAsciiLetter c = true) :
    lettersValue cs < lettersValue ds ↔
      List.Shortlex (· < ·) (cs.map Char.toUpper) (ds.map Char.toUpper) := by
  refine ⟨fun h => ?_, lettersValue_lt_of_shortlex hcs hds⟩
  rcases trichotomous_of (List.Shortlex fun c d : Char => c < d) (cs.map Char.toUpper)
    (ds.map Char.toUpper) with hlt | heq | hgt
  · exact hlt
  · exact absurd (lettersValue_eq_of_map_toUpper hcs hds heq) h.ne
  · exact absurd (lettersValue_lt_of_shortlex hds hcs hgt) h.not_gt

/-- Letters denote one number exactly if they are the same in capitals. -/
theorem lettersValue_eq_iff {cs ds : List Char} (hcs : ∀ c ∈ cs, isAsciiLetter c = true)
    (hds : ∀ c ∈ ds, isAsciiLetter c = true) :
    lettersValue cs = lettersValue ds ↔ cs.map Char.toUpper = ds.map Char.toUpper := by
  refine ⟨fun h => ?_, lettersValue_eq_of_map_toUpper hcs hds⟩
  rcases trichotomous_of (List.Shortlex fun c d : Char => c < d) (cs.map Char.toUpper)
    (ds.map Char.toUpper) with hlt | heq | hgt
  · exact absurd h ((lettersValue_lt_iff hcs hds).2 hlt).ne
  · exact heq
  · exact absurd h ((lettersValue_lt_iff hds hcs).2 hgt).ne'

/-! ## Names -/

/-- The letters of an index are capitals. -/
theorem isUpper_of_mem_columnLetters {index : Nat} {c : Char} (h : c ∈ columnLetters index) :
    c.isUpper = true ∧ c.toUpper = c := by
  have hall : ∀ n : Fin 26, (Char.ofNat ('A'.toNat + n.val)).isUpper = true ∧
      (Char.ofNat ('A'.toNat + n.val)).toUpper = Char.ofNat ('A'.toNat + n.val) := by decide
  obtain ⟨n, rfl⟩ := exists_remainder_of_mem_columnLetters h
  exact hall ⟨n % 26, Nat.mod_lt _ (by decide)⟩

/-- The letters of the index of letters are these letters in capitals. -/
theorem columnLetters_eq_map_toUpper {cs : List Char} (h : ∀ c ∈ cs, isAsciiLetter c = true)
    {index : Nat} (hindex : lettersValue cs = index + 1) :
    columnLetters index = cs.map Char.toUpper := by
  have hletters : ∀ c ∈ columnLetters index, isAsciiLetter c = true :=
    fun c hc => isAsciiLetter_of_mem_columnLetters hc
  have hcapitals : (columnLetters index).map Char.toUpper = columnLetters index :=
    (List.map_congr_left fun c hc => (isUpper_of_mem_columnLetters hc).2).trans (List.map_id _)
  rw [← hcapitals, ← lettersValue_eq_iff hletters h, lettersValue_columnLetters, hindex]

/-- The name of an index is in capitals, and the index is found for it. -/
theorem exists_columnName (index : Nat) :
    ∃ name, columnName? (.int index) = .ok name ∧ name ≠ "" ∧
      (∀ c ∈ name.toList, c.isUpper = true) ∧ columnIndex? (.str name) = .ok (index : Int) := by
  have hmem {c : Char} (hc : c ∈ (String.ofList (columnLetters index)).toList) :
      c ∈ columnLetters index := by rwa [String.toList_ofList] at hc
  have hne : String.ofList (columnLetters index) ≠ "" := fun hempty =>
    columnLetters_ne_nil index (String.ofList_eq_empty_iff.1 hempty)
  refine ⟨String.ofList (columnLetters index), rfl, hne, ?_, ?_⟩
  · exact fun c hc => (isUpper_of_mem_columnLetters (hmem hc)).1
  · rw [columnIndex?_eq_lettersValue hne fun c hc => isAsciiLetter_of_mem_columnLetters (hmem hc),
      String.toList_ofList, lettersValue_columnLetters, Int.add_sub_cancel]

/-- A name has an index, and the index has this name in capitals. -/
theorem exists_columnIndex {s : String} (h : IsColumn (.str s)) :
    ∃ index : Nat, lettersValue s.toList = index + 1 ∧ columnIndex? (.str s) = .ok (index : Int) ∧
      columnName? (.int index) = .ok s.toUpper := by
  obtain ⟨hne, hletters⟩ := h
  obtain ⟨index, hindex⟩ := columnIndex?_of_letters hne hletters
  have hvalue : lettersValue s.toList = index + 1 := by
    rw [columnIndex?_eq_lettersValue hne hletters, Except.ok.injEq] at hindex
    omega
  refine ⟨index, hvalue, hindex, ?_⟩
  change Except.ok (String.ofList (columnLetters index)) = _
  rw [columnLetters_eq_map_toUpper hletters hvalue, String.toUpper, ← String.toList_map,
    String.ofList_toList]

/-- **Indices and names of columns correspond** one to one and in order. Every index has a name in
capitals, whose index it is. Letters, capitals or not, have an index, whose name they are in capitals. One
name has a smaller index than another exactly if it is shorter, or as long and earlier in the alphabet. -/
theorem column_correspondence (n : Nat) {s t : String} (hs : IsColumn (.str s))
    (ht : IsColumn (.str t)) :
    (∃ name, columnName? (.int n) = .ok name ∧ name ≠ "" ∧ (∀ c ∈ name.toList, c.isUpper = true) ∧
      columnIndex? (.str name) = .ok (n : Int)) ∧
    ∃ i j : Nat, columnIndex? (.str s) = .ok (i : Int) ∧ columnName? (.int i) = .ok s.toUpper ∧
      columnIndex? (.str t) = .ok (j : Int) ∧ columnName? (.int j) = .ok t.toUpper ∧
      (i < j ↔ List.Shortlex (· < ·) s.toUpper.toList t.toUpper.toList) := by
  obtain ⟨i, hi, hindex, hname⟩ := exists_columnIndex hs
  obtain ⟨j, hj, hindex', hname'⟩ := exists_columnIndex ht
  refine ⟨exists_columnName n, i, j, hindex, hname, hindex', hname', ?_⟩
  rw [String.toUpper, String.toUpper, String.toList_map, String.toList_map,
    ← lettersValue_lt_iff hs.2 ht.2, hi, hj]
  omega

/-- `zz` stands before `AAA`, though it is later in the alphabet. -/
theorem column_correspondence_zz :
    IsColumn (.str "zz") ∧ IsColumn (.str "AAA") ∧
      ∃ i j : Nat, columnIndex? (.str "zz") = .ok (i : Int) ∧ columnName? (.int i) = .ok "ZZ" ∧
        columnIndex? (.str "AAA") = .ok (j : Int) ∧ i < j := by
  have hz : IsColumn (.str "zz") := by simp [IsColumn, isAsciiLetter]
  have ha : IsColumn (.str "AAA") := by simp [IsColumn, isAsciiLetter]
  obtain ⟨-, i, j, hi, hname, hj, -, horder⟩ := column_correspondence 701 hz ha
  have hupper : "zz".toUpper = "ZZ" := by
    rw [← String.toList_inj, String.toUpper, String.toList_map]
    rfl
  have hlength : "zz".toUpper.toList.length < "AAA".toUpper.toList.length := by
    rw [String.toUpper, String.toUpper, String.toList_map, String.toList_map]
    decide
  rw [hupper] at hname
  exact ⟨hz, ha, i, j, hi, hname, hj, horder.2 (.of_length_lt hlength)⟩

end WorkspaceTools
