import Mathlib.Tactic.IntervalCases
import WorkspaceTools.Proofs.Text.Utf8
import WorkspaceTools.Text.Percent

/-!
# Escapes undone

A text that was escaped reads back, whatever characters were left as they are besides the unreserved ones:
each byte is written as itself or as an escape, and both are read as that byte (`percentBytes_percentByte`),
so that the bytes of the text come back (`percentDecode_percentEncode`). Characters that are not kept do not
occur in what is written (`not_mem_percentEncode`): it is made of kept characters and of whole escapes
(`isEscaped_percentEncode`). A text of kept characters is its own escaped text (`percentEncode_of_isKept`), and
different texts have different ones (`percentEncode_inj`). What is not empty does not become empty when its
escapes are undone (`percentDecode_ne_nil`).
-/

namespace WorkspaceTools.Text

/-! ## Bytes of escaped texts -/

theorem hexValue?_upperHexDigit {n : Nat} (h : n < 16) : hexValue? (upperHexDigit n) = some n := by
  interval_cases n <;> decide

theorem toNat_upperHexDigit_lt {n : Nat} (h : n < 16) : (upperHexDigit n).toNat < 0x80 := by
  interval_cases n <;> decide

theorem isUnreserved_upperHexDigit {n : Nat} (h : n < 16) : isUnreserved (upperHexDigit n) = true := by
  interval_cases n <;> decide

/-- A character other than a percent sign is read as itself. -/
theorem percentBytes_cons_of_ne {c : Char} (h : c ≠ '%') (rest : List Char) :
    percentBytes (c :: rest) = UInt8.ofNat c.toNat :: percentBytes rest := by
  rw [percentBytes]
  rintro a b tail rfl
  exact absurd rfl h

theorem percentBytes_escape {a b : Char} {x y : Nat} (hx : hexValue? a = some x)
    (hy : hexValue? b = some y) (rest : List Char) :
    percentBytes ('%' :: a :: b :: rest) = UInt8.ofNat (x * 16 + y) :: percentBytes rest := by
  rw [percentBytes, hx, hy]

/-- A byte that is a character from ASCII. -/
theorem toNat_ofNat_of_byte {b : UInt8} (h : b.toNat < 0x80) : (Char.ofNat b.toNat).toNat = b.toNat :=
  toNat_ofNat_of_valid (.inl (by omega))

/-- A byte is read back from what is written for it. -/
theorem percentBytes_percentByte {safe : List Char} (hsafe : '%' ∉ safe) (b : UInt8) (rest : List Char) :
    percentBytes (percentByte safe b ++ rest) = b :: percentBytes rest := by
  have hb : b.toNat < 256 := b.toNat_lt
  unfold percentByte
  dsimp only
  split
  · rename_i hkept
    rw [Bool.and_eq_true, Bool.or_eq_true, decide_eq_true_eq, List.contains_iff_mem] at hkept
    have hne : Char.ofNat b.toNat ≠ '%' := by
      intro hpercent
      rw [hpercent] at hkept
      rcases hkept.2 with h | h
      · exact absurd h (by decide)
      · exact hsafe h
    rw [List.singleton_append, percentBytes_cons_of_ne hne, toNat_ofNat_of_byte hkept.1, UInt8.ofNat_toNat]
  · have hhigh := hexValue?_upperHexDigit (show b.toNat / 16 < 16 by omega)
    have hlow := hexValue?_upperHexDigit (show b.toNat % 16 < 16 by omega)
    rw [List.cons_append, List.cons_append, List.singleton_append, percentBytes_escape hhigh hlow,
      Nat.div_add_mod', UInt8.ofNat_toNat]

theorem percentBytes_percentEncodeBytes {safe : List Char} (hsafe : '%' ∉ safe) (bs : Bytes) :
    percentBytes (percentEncodeBytes safe bs) = bs := by
  induction bs with
  | nil => rfl
  | cons b bs ih =>
    rw [percentEncodeBytes, List.flatMap_cons, percentBytes_percentByte hsafe]
    exact congrArg (b :: ·) ih

/-! ## Characters of escaped texts -/

/-- A character that is written for a byte comes from ASCII: it is one that is kept, or part of an
escape. -/
theorem mem_percentByte {safe : List Char} {b : UInt8} {c : Char} (h : c ∈ percentByte safe b) :
    c.toNat < 0x80 ∧ (c = '%' ∨ isUnreserved c = true ∨ c ∈ safe) := by
  have hb : b.toNat < 256 := b.toNat_lt
  unfold percentByte at h
  dsimp only at h
  split at h
  · rename_i hkept
    rw [Bool.and_eq_true, Bool.or_eq_true, decide_eq_true_eq, List.contains_iff_mem] at hkept
    rw [List.mem_singleton.1 h, toNat_ofNat_of_byte hkept.1]
    exact ⟨hkept.1, .inr hkept.2⟩
  · have hhigh : b.toNat / 16 < 16 := by omega
    have hlow : b.toNat % 16 < 16 := by omega
    simp only [List.mem_cons, List.not_mem_nil, or_false] at h
    rcases h with rfl | rfl | rfl
    · exact ⟨by decide, .inl rfl⟩
    · exact ⟨toNat_upperHexDigit_lt hhigh, .inr (.inl (isUnreserved_upperHexDigit hhigh))⟩
    · exact ⟨toNat_upperHexDigit_lt hlow, .inr (.inl (isUnreserved_upperHexDigit hlow))⟩

theorem mem_percentEncode {safe s : String} {c : Char} (h : c ∈ (percentEncode safe s).toList) :
    c.toNat < 0x80 ∧ (c = '%' ∨ isUnreserved c = true ∨ c ∈ safe.toList) := by
  rw [percentEncode, String.toList_ofList] at h
  obtain ⟨b, -, hc⟩ := List.mem_flatMap.1 h
  exact mem_percentByte hc

/-- **What is not kept does not occur** in an escaped text. -/
theorem not_mem_percentEncode {safe : String} {c : Char} (hpercent : c ≠ '%')
    (hreserved : isUnreserved c = false) (hsafe : c ∉ safe.toList) (s : String) :
    c ∉ (percentEncode safe s).toList := by
  intro h
  rcases (mem_percentEncode h).2 with hc | hc | hc
  · exact hpercent hc
  · rw [hreserved] at hc
    cases hc
  · exact hsafe hc

/-- A text of kept characters and whole escapes. -/
inductive IsEscaped (kept : Char → Prop) : List Char → Prop
  | nil : IsEscaped kept []
  | keep {c : Char} {cs : List Char} (hc : kept c) (h : IsEscaped kept cs) : IsEscaped kept (c :: cs)
  | escape {a b : Char} {cs : List Char} (ha : (hexValue? a).isSome) (hb : (hexValue? b).isSome)
      (h : IsEscaped kept cs) : IsEscaped kept ('%' :: a :: b :: cs)

theorem IsEscaped.mono {kept kept' : Char → Prop} {cs : List Char} (h : IsEscaped kept cs)
    (himp : ∀ c, kept c → kept' c) : IsEscaped kept' cs := by
  induction h with
  | nil => exact .nil
  | keep hc _ ih => exact .keep (himp _ hc) ih
  | escape ha hb _ ih => exact .escape ha hb ih

/-- What is written for a byte is one kept character or one escape. -/
theorem isEscaped_percentByte_append {safe : List Char} (b : UInt8) {cs : List Char}
    (h : IsEscaped (fun c => isUnreserved c = true ∨ c ∈ safe) cs) :
    IsEscaped (fun c => isUnreserved c = true ∨ c ∈ safe) (percentByte safe b ++ cs) := by
  have hb : b.toNat < 256 := b.toNat_lt
  unfold percentByte
  dsimp only
  split
  · rename_i hkept
    rw [Bool.and_eq_true, Bool.or_eq_true, List.contains_iff_mem] at hkept
    exact .keep hkept.2 h
  · have hhigh := hexValue?_upperHexDigit (show b.toNat / 16 < 16 by omega)
    have hlow := hexValue?_upperHexDigit (show b.toNat % 16 < 16 by omega)
    exact .escape (Option.isSome_of_eq_some hhigh) (Option.isSome_of_eq_some hlow) h

/-- **An escaped text** is made of kept characters and whole escapes. -/
theorem isEscaped_percentEncode (safe s : String) :
    IsEscaped (fun c => isUnreserved c = true ∨ c ∈ safe.toList) (percentEncode safe s).toList := by
  rw [percentEncode, String.toList_ofList, percentEncodeBytes]
  induction encodeUtf8 s with
  | nil => exact .nil
  | cons b bs ih => exact isEscaped_percentByte_append b ih

theorem percentEncode_append (safe s t : String) :
    percentEncode safe (s ++ t) = percentEncode safe s ++ percentEncode safe t := by
  rw [← String.toList_inj]
  simp only [percentEncode, percentEncodeBytes, encodeUtf8, encodeUtf8Chars, String.toList_append,
    String.toList_ofList, List.flatMap_append]

/-! ## Reading back -/

theorem utf8EncodeChar_of_ascii {c : Char} (h : c.toNat < 0x80) :
    String.utf8EncodeChar c = [UInt8.ofNat c.toNat] := by
  unfold String.utf8EncodeChar
  dsimp only
  exact if_pos (show c.toNat ≤ 127 by omega)

theorem percentByte_of_kept {safe : List Char} {c : Char} (hascii : c.toNat < 0x80)
    (hkept : isUnreserved c = true ∨ c ∈ safe) : percentByte safe (UInt8.ofNat c.toNat) = [c] := by
  have hbyte : (UInt8.ofNat c.toNat).toNat = c.toNat := toNat_ofNat_of_lt (by omega)
  rw [percentByte, hbyte, Char.ofNat_toNat]
  refine if_pos ?_
  rw [Bool.and_eq_true, Bool.or_eq_true, decide_eq_true_eq, List.contains_iff_mem]
  exact ⟨hascii, hkept⟩

/-- All characters of a text are kept. -/
def IsKept (safe s : String) : Prop := ∀ c ∈ s.toList, c.toNat < 0x80 ∧ (isUnreserved c = true ∨ c ∈ safe.toList)

/-- A text of kept characters is left as it is. -/
theorem percentEncode_of_isKept {safe s : String} (h : IsKept safe s) : percentEncode safe s = s := by
  unfold IsKept at h
  rw [← String.toList_inj, percentEncode, String.toList_ofList, encodeUtf8]
  generalize s.toList = cs at h ⊢
  induction cs with
  | nil => rfl
  | cons c cs ih =>
    obtain ⟨⟨hascii, hkept⟩, hcs⟩ := List.forall_mem_cons.1 h
    rw [encodeUtf8Chars, List.flatMap_cons, utf8EncodeChar_of_ascii hascii, List.singleton_append,
      percentEncodeBytes, List.flatMap_cons, percentByte_of_kept hascii hkept]
    exact congrArg (c :: ·) (ih hcs)

/-- Characters from ASCII without a percent sign are read as their own bytes. -/
theorem percentBytes_of_not_mem {cs : List Char} (hascii : ∀ c ∈ cs, c.toNat < 0x80) (h : '%' ∉ cs) :
    percentBytes cs = encodeUtf8Chars cs := by
  induction cs with
  | nil => rfl
  | cons c cs ih =>
    obtain ⟨hc, hcs⟩ := List.forall_mem_cons.1 hascii
    rw [List.mem_cons, not_or] at h
    rw [percentBytes_cons_of_ne (Ne.symm h.1), ih hcs h.2, encodeUtf8Chars, encodeUtf8Chars,
      List.flatMap_cons, utf8EncodeChar_of_ascii hc, List.singleton_append]

/-- Characters from ASCII are one run. -/
theorem percentDecodeFrom_of_ascii {cs : List Char} (hascii : ∀ c ∈ cs, c.toNat < 0x80)
    (run : List Char) :
    percentDecodeFrom run cs = (decodeLossy (percentBytes (run.reverse ++ cs))).toList := by
  induction cs generalizing run with
  | nil => rw [percentDecodeFrom, List.append_nil]
  | cons c cs ih =>
    obtain ⟨hc, hcs⟩ := List.forall_mem_cons.1 hascii
    rw [percentDecodeFrom, if_pos hc, ih hcs, List.reverse_cons, List.append_assoc, List.singleton_append]

theorem percentDecode_of_ascii {cs : List Char} (hascii : ∀ c ∈ cs, c.toNat < 0x80) :
    percentDecode cs = (decodeLossy (percentBytes cs)).toList := by
  unfold percentDecode
  split
  · exact percentDecodeFrom_of_ascii hascii []
  · rename_i h
    rw [List.contains_iff_mem] at h
    rw [percentBytes_of_not_mem hascii h, toList_decodeLossy_encodeUtf8Chars]

/-- **An escaped text reads back**, if percent signs are not among what is left as it is. -/
theorem percentDecode_percentEncode {safe : String} (hsafe : '%' ∉ safe.toList) (s : String) :
    percentDecode (percentEncode safe s).toList = s.toList := by
  have hascii : ∀ c ∈ (percentEncode safe s).toList, c.toNat < 0x80 := fun c hc => (mem_percentEncode hc).1
  rw [percentDecode_of_ascii hascii, percentEncode, String.toList_ofList,
    percentBytes_percentEncodeBytes hsafe, encodeUtf8, toList_decodeLossy_encodeUtf8Chars]

/-- The bytes of an escaped text are those of the text. -/
theorem decodeUtf8?_percentBytes_percentEncode {safe : String} (hsafe : '%' ∉ safe.toList) (s : String) :
    decodeUtf8? (percentBytes (percentEncode safe s).toList) = .ok s := by
  rw [percentEncode, String.toList_ofList, percentBytes_percentEncodeBytes hsafe, decodeUtf8?_encodeUtf8]

/-- Different texts have different escaped texts. -/
theorem percentEncode_inj {safe : String} (hsafe : '%' ∉ safe.toList) {s t : String} :
    percentEncode safe s = percentEncode safe t ↔ s = t := by
  refine ⟨fun h => ?_, congrArg _⟩
  rw [← String.toList_inj, ← percentDecode_percentEncode hsafe s, h, percentDecode_percentEncode hsafe]

/-! ## What is not empty -/

/-- Bytes, or a character that has begun, give some piece. -/
theorem piecesFrom_ne_nil {begun : Option Begun} {bs : Bytes} (h : begun.isSome ∨ bs ≠ []) :
    piecesFrom begun bs ≠ [] := by
  fun_induction piecesFrom begun bs with
  | case1 => simp at h
  | case2 => exact List.cons_ne_nil _ _
  | case3 => exact List.cons_ne_nil _ _
  | case4 b rest s hs ih => exact ih (.inl rfl)
  | case5 => exact List.cons_ne_nil _ _
  | case6 s b rest hb code hm ih => exact ih (.inl rfl)
  | case7 => exact List.cons_ne_nil _ _

theorem toList_decodeLossy_ne_nil {bs : Bytes} (h : bs ≠ []) : (decodeLossy bs).toList ≠ [] := by
  rw [decodeLossy, String.toList_ofList, Ne, List.map_eq_nil_iff]
  exact piecesFrom_ne_nil (.inr h)

theorem percentBytes_ne_nil {cs : List Char} (h : cs ≠ []) : percentBytes cs ≠ [] := by
  fun_cases percentBytes cs with
  | case1 => exact List.cons_ne_nil _ _
  | case2 => exact List.cons_ne_nil _ _
  | case3 => exact List.cons_ne_nil _ _
  | case4 => exact absurd rfl h

theorem percentDecodeFrom_ne_nil {run cs : List Char} (h : run ≠ [] ∨ cs ≠ []) :
    percentDecodeFrom run cs ≠ [] := by
  induction cs generalizing run with
  | nil =>
    have hrun : run.reverse ≠ [] := by
      rw [Ne, List.reverse_eq_nil_iff]
      exact h.resolve_right (not_not_intro rfl)
    rw [percentDecodeFrom]
    exact toList_decodeLossy_ne_nil (percentBytes_ne_nil hrun)
  | cons c cs ih =>
    rw [percentDecodeFrom]
    split
    · exact ih (.inl (List.cons_ne_nil _ _))
    · exact List.append_ne_nil_of_right_ne_nil _ (List.cons_ne_nil _ _)

/-- What is not empty is not empty without its escapes. -/
theorem percentDecode_ne_nil {cs : List Char} (h : cs ≠ []) : percentDecode cs ≠ [] := by
  unfold percentDecode
  split
  · exact percentDecodeFrom_ne_nil (.inr h)
  · exact h

end WorkspaceTools.Text
