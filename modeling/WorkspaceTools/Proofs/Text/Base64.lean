import Mathlib.Data.List.DropRight
import Mathlib.Data.List.Forall2
import WorkspaceTools.Proofs.Text.Decoding
import WorkspaceTools.Text.Base64

/-!
# Reading base64 back

Three bytes are written as four data of six bits (`sextetsOf`), and padding stands for the data that the last
group lacks (`base64With_eq`).

* The characters of data are read as these data (`sextets_append`), and the data regroup to the bytes
  (`regroup_sextetsOf`).
* Missing padding is brought back (`padToFour_base64`), so bytes read back with all of it and with none
  (`decodeBase64Url?_eq_ok`).
-/

namespace WorkspaceTools.Text

/-! ## Data -/

/-- The data of six bits that bytes are written as. -/
def sextetsOf : Bytes → List Nat
  | [] => []
  | [a] => [a.toNat * 16 / 64, a.toNat * 16 % 64]
  | [a, b] =>
    let n := (a.toNat * 256 + b.toNat) * 4
    [n / 4096, n / 64 % 64, n % 64]
  | a :: b :: c :: rest =>
    let n := (a.toNat * 256 + b.toNat) * 256 + c.toNat
    n / 262144 :: n / 4096 % 64 :: n / 64 % 64 :: n % 64 :: sextetsOf rest

/-- The count of data that the last group lacks. -/
def paddingOf (bs : Bytes) : Nat := (3 - bs.length % 3) % 3

theorem paddingOf_cons (a b c : UInt8) (rest : Bytes) : paddingOf (a :: b :: c :: rest) = paddingOf rest := by
  simp only [paddingOf, List.length_cons]
  omega

/-- Bytes are written as the characters of their data, and padding. -/
theorem base64With_eq (plus slash : Char) (bs : Bytes) :
    base64With plus slash bs =
      (sextetsOf bs).map (base64Char plus slash) ++ List.replicate (paddingOf bs) '=' := by
  fun_induction sextetsOf bs with
  | case1 => rfl
  | case2 a => rfl
  | case3 a b n => rfl
  | case4 a b c rest n ih => rw [base64With, ih, paddingOf_cons]; rfl

theorem lt_of_mem_sextetsOf {bs : Bytes} {n : Nat} (h : n ∈ sextetsOf bs) : n < 64 := by
  fun_induction sextetsOf bs with
  | case1 => cases h
  | case2 a =>
    have ha := a.toNat_lt
    simp only [List.mem_cons, List.not_mem_nil, or_false] at h
    omega
  | case3 a b k =>
    have ha := a.toNat_lt
    have hb := b.toNat_lt
    simp only [List.mem_cons, List.not_mem_nil, or_false] at h
    omega
  | case4 a b c rest k ih =>
    have ha := a.toNat_lt
    have hb := b.toNat_lt
    have hc := c.toNat_lt
    simp only [List.mem_cons] at h
    rcases h with h | h | h | h | h
    · omega
    · omega
    · omega
    · omega
    · exact ih h

/-- Data and padding fill groups of four. -/
theorem length_sextetsOf (bs : Bytes) :
    (sextetsOf bs).length + paddingOf bs = 4 * ((bs.length + 2) / 3) := by
  fun_induction sextetsOf bs with
  | case1 => rfl
  | case2 a => simp [paddingOf]
  | case3 a b n => simp [paddingOf]
  | case4 a b c rest n ih =>
    rw [paddingOf_cons]
    simp only [List.length_cons]
    omega

/-- **The data of bytes regroup to the bytes.** -/
theorem regroup_sextetsOf (bs : Bytes) : regroup (sextetsOf bs) = (bs, (sextetsOf bs).length % 4) := by
  fun_induction sextetsOf bs with
  | case1 => rfl
  | case2 a =>
    have ha := a.toNat_lt
    simp only [regroup, List.length_cons, List.length_nil]
    rw [ofNat_eq_of_toNat (b := a) (by omega)]
  | case3 a b n =>
    have ha := a.toNat_lt
    have hb := b.toNat_lt
    simp only [regroup, List.length_cons, List.length_nil]
    rw [ofNat_eq_of_toNat (b := a) (by omega), ofNat_eq_of_toNat (b := b) (by omega)]
  | case4 a b c rest n ih =>
    have ha := a.toNat_lt
    have hb := b.toNat_lt
    have hc := c.toNat_lt
    simp only [regroup, ih, List.length_cons]
    rw [ofNat_eq_of_toNat (b := a) (by omega), ofNat_eq_of_toNat (b := b) (by omega),
      ofNat_eq_of_toNat (b := c) (by omega)]
    congr 1
    omega

/-! ## Characters -/

/-- The characters of an alphabet read as their data. -/
theorem sextet?_base64Char {plus slash : Char} (hplus : sextet? plus = some 62)
    (hslash : sextet? slash = some 63) {n : Nat} (h : n < 64) :
    sextet? (base64Char plus slash n) = some n := by
  have hcommon : ∀ m : Fin 62, sextet? (base64Char '+' '/' m.val) = some m.val := by decide
  by_cases hlow : n < 62
  · have hsame : base64Char plus slash n = base64Char '+' '/' n := by
      simp only [base64Char, hlow, if_true]
    rw [hsame]
    exact hcommon ⟨n, hlow⟩
  · obtain rfl | rfl : n = 62 ∨ n = 63 := by omega
    · exact hplus
    · exact hslash

theorem toNat_lt_of_sextet? {c : Char} {n : Nat} (h : sextet? c = some n) : c.toNat < 0x80 := by
  by_contra hc
  have hz : 'z'.val.toNat = 122 := rfl
  have hZ : 'Z'.val.toNat = 90 := rfl
  have hnine : '9'.val.toNat = 57 := rfl
  have hval : c.val.toNat = c.toNat := rfl
  have hne (d : Char) (hd : d.toNat < 0x80) : (c == d) = false := by
    rw [beq_eq_false_iff_ne]
    rintro rfl
    exact hc hd
  unfold sextet? at h
  rw [if_neg (by simp [Char.le_def, UInt32.le_iff_toNat_le]; omega),
    if_neg (by simp [Char.le_def, UInt32.le_iff_toNat_le]; omega),
    if_neg (by simp [isAsciiDigit, Char.le_def, UInt32.le_iff_toNat_le]; omega),
    hne '+' (by decide), hne '-' (by decide), hne '/' (by decide), hne '_' (by decide)] at h
  cases h

theorem ne_padding_of_sextet? {c : Char} {n : Nat} (h : sextet? c = some n) : (c == '=') = false := by
  rw [beq_eq_false_iff_ne]
  rintro rfl
  cases h

/-- Characters of data are read as these data, whatever follows them. -/
theorem sextets_append {cs : List Char} {ns : List Nat} (h : List.Forall₂ (fun c n => sextet? c = some n) cs ns)
    {place : Nat} (hplace : place < 4) (rest : List Char) :
    sextets place 0 (cs ++ rest) =
      (ns ++ (sextets ((place + ns.length) % 4) 0 rest).1, (sextets ((place + ns.length) % 4) 0 rest).2) := by
  induction h generalizing place with
  | nil => rw [List.length_nil, Nat.add_zero, Nat.mod_eq_of_lt hplace]; rfl
  | @cons c n cs ns hc _ ih =>
    have hnext : ((place + 1) % 4 + ns.length) % 4 = (place + (n :: ns).length) % 4 := by
      rw [List.length_cons]
      omega
    rw [List.cons_append, sextets, ne_padding_of_sextet? hc, hc]
    simp only [Bool.false_eq_true, if_false]
    rw [ih (Nat.mod_lt _ (by decide)), hnext]
    rfl

/-- Padding completes a group that has begun, and nothing behind it is read. -/
theorem sextets_padding {place k : Nat} (h : place + k = 4) (hk : 1 ≤ k) (hk' : k ≤ 2) (rest : List Char) :
    sextets place 0 (List.replicate k '=' ++ rest) = ([], true) := by
  obtain ⟨rfl, rfl⟩ | ⟨rfl, rfl⟩ : place = 3 ∧ k = 1 ∨ place = 2 ∧ k = 2 := by omega
  · rfl
  · rfl

/-- The data of bytes are read from their characters. What stands behind these is read as well, unless their padding
completes the last group. -/
theorem sextets_base64With_append {plus slash : Char} (hplus : sextet? plus = some 62)
    (hslash : sextet? slash = some 63) (bs : Bytes) (rest : List Char) :
    sextets 0 0 (base64With plus slash bs ++ rest) =
      if paddingOf bs = 0 then (sextetsOf bs ++ (sextets 0 0 rest).1, (sextets 0 0 rest).2)
      else (sextetsOf bs, true) := by
  have hchars : List.Forall₂ (fun c n => sextet? c = some n)
      ((sextetsOf bs).map (base64Char plus slash)) (sextetsOf bs) := by
    rw [List.forall₂_map_left_iff, List.forall₂_same]
    intro n hn
    exact sextet?_base64Char hplus hslash (lt_of_mem_sextetsOf hn)
  have hlength := length_sextetsOf bs
  have hpadding : paddingOf bs ≤ 2 := by
    rw [paddingOf]
    omega
  rw [base64With_eq, List.append_assoc, sextets_append hchars (by decide), Nat.zero_add]
  split
  · rename_i hnone
    have hplace : (sextetsOf bs).length % 4 = 0 := by omega
    rw [hnone, hplace, List.replicate_zero, List.nil_append]
  · rename_i hsome
    have hplace : (sextetsOf bs).length % 4 + paddingOf bs = 4 := by omega
    rw [sextets_padding hplace (Nat.one_le_iff_ne_zero.2 hsome) hpadding, List.append_nil]

theorem toNat_lt_of_mem_base64With {plus slash : Char} (hplus : sextet? plus = some 62)
    (hslash : sextet? slash = some 63) {bs : Bytes} {c : Char} (h : c ∈ base64With plus slash bs) :
    c.toNat < 0x80 := by
  rw [base64With_eq, List.mem_append] at h
  rcases h with h | h
  · obtain ⟨n, hn, rfl⟩ := List.mem_map.1 h
    exact toNat_lt_of_sextet? (sextet?_base64Char hplus hslash (lt_of_mem_sextetsOf hn))
  · rw [List.eq_of_mem_replicate h]
    decide

/-! ## Texts -/

/-- Bytes are read from a text in which their data are found, with the padding that they need. -/
theorem decodeBase64?_of_sextets {cs : List Char} {bs : Bytes} (hascii : ∀ c ∈ cs, c.toNat < 0x80)
    (h : sextets 0 0 cs = (sextetsOf bs, paddingOf bs != 0)) : decodeBase64? cs = .ok bs := by
  have hascii' : (cs.any fun c => 0x80 ≤ c.toNat) = false := by
    rw [List.any_eq_false]
    intro c hc
    simpa using hascii c hc
  have hlength := length_sextetsOf bs
  have hwhole : (paddingOf bs != 0 || (sextetsOf bs).length % 4 == 0) = true := by
    rw [Bool.or_eq_true, bne_iff_ne, beq_iff_eq]
    omega
  rw [decodeBase64?, hascii', h]
  simp only [Bool.false_eq_true, if_false, regroup_sextetsOf, hwhole, if_true]

/-- **Bytes read back** from either alphabet. -/
theorem decodeBase64?_base64With {plus slash : Char} (hplus : sextet? plus = some 62)
    (hslash : sextet? slash = some 63) (bs : Bytes) : decodeBase64? (base64With plus slash bs) = .ok bs := by
  refine decodeBase64?_of_sextets (fun _ hc => toNat_lt_of_mem_base64With hplus hslash hc) ?_
  have hread := sextets_base64With_append hplus hslash bs []
  rw [List.append_nil] at hread
  rw [hread]
  by_cases hnone : paddingOf bs = 0
  · rw [if_pos hnone, hnone]
    simp [sextets]
  · rw [if_neg hnone, bne_iff_ne.2 hnone]

/-- A text with any part of its padding is brought to all of it. -/
theorem padToFour_base64 (plus slash : Char) {bs : Bytes} {k : Nat} (h : k ≤ paddingOf bs) :
    padToFour ((sextetsOf bs).map (base64Char plus slash) ++ List.replicate k '=') =
      base64With plus slash bs := by
  have hlength := length_sextetsOf bs
  have hpadding : paddingOf bs ≤ 2 := by
    rw [paddingOf]
    omega
  have hmissing : k + (4 - ((sextetsOf bs).length + k) % 4) % 4 = paddingOf bs := by omega
  rw [base64With_eq, padToFour, List.append_assoc, List.length_append, List.length_map,
    List.length_replicate, List.replicate_append_replicate, hmissing]

/-- The characters in front of the padding at the end. -/
def withoutPadding (cs : List Char) : List Char := cs.rdropWhile (· == '=')

theorem withoutPadding_base64With {plus slash : Char} (hplus : sextet? plus = some 62)
    (hslash : sextet? slash = some 63) (bs : Bytes) :
    withoutPadding (base64With plus slash bs) = (sextetsOf bs).map (base64Char plus slash) := by
  have hpads : ∀ c ∈ List.replicate (paddingOf bs) '=', (c == '=') = true := by
    intro c hc
    rw [List.eq_of_mem_replicate hc, beq_self_eq_true]
  have hdata : ∀ c ∈ ((sextetsOf bs).map (base64Char plus slash)).reverse, (c == '=') = false := by
    intro c hc
    obtain ⟨n, hn, rfl⟩ := List.mem_map.1 (List.mem_reverse.1 hc)
    exact ne_padding_of_sextet? (sextet?_base64Char hplus hslash (lt_of_mem_sextetsOf hn))
  have hkept : ((sextetsOf bs).map (base64Char plus slash)).reverse.dropWhile (· == '=') =
      ((sextetsOf bs).map (base64Char plus slash)).reverse := by
    rw [List.dropWhile_eq_self_iff]
    intro hne
    rw [hdata _ (List.getElem_mem hne)]
    exact Bool.false_ne_true
  rw [base64With_eq, withoutPadding, List.rdropWhile, List.reverse_append, List.reverse_replicate,
    List.dropWhile_append_of_pos hpads, hkept, List.reverse_reverse]

/-- The bytes of a text in base64, with its padding or without. -/
theorem decodeBase64Url?_eq_ok {s : String} {bs : Bytes}
    (h : s.toList = base64Url bs ∨ s.toList = withoutPadding (base64Url bs)) : decodeBase64Url? s = .ok bs := by
  have hplus : sextet? '-' = some 62 := rfl
  have hslash : sextet? '_' = some 63 := rfl
  have hpadded : padToFour s.toList = base64Url bs := by
    rcases h with h | h
    · rw [h, base64Url, base64With_eq, padToFour_base64 _ _ (Nat.le_refl _), base64With_eq]
    · rw [h, base64Url, withoutPadding_base64With hplus hslash, ← padToFour_base64 _ _ (Nat.zero_le _),
        List.replicate_zero, List.append_nil]
  rw [decodeBase64Url?, hpadded, base64Url, decodeBase64?_base64With hplus hslash]

end WorkspaceTools.Text
