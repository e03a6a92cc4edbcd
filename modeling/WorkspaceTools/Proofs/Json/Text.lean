import WorkspaceTools.Json.Printer
import WorkspaceTools.Json.Reader

/-!
# Texts in documents read back

Every unit of a text is written as the character that it is, as a short escape, or in hexadecimal digits.
`readUnits_escapeUnit` reads one of them, and `readText_stringChars` a whole text.
-/

namespace WorkspaceTools.Json

open Text

/-! ## Hexadecimal digits -/

theorem hexValue?_hexDigit {n : Nat} (h : n < 16) : hexValue? (hexDigit n) = some n := by
  have hall : ∀ m : Fin 16, hexValue? (hexDigit m.val) = some m.val := by decide
  exact hall ⟨n, h⟩

theorem hexPadded_four (n : Nat) :
    hexPadded 4 n = [hexDigit (n / 4096 % 16), hexDigit (n / 256 % 16), hexDigit (n / 16 % 16),
      hexDigit (n % 16)] := by
  simp [hexPadded, Nat.div_div_eq_div_mul]

theorem hexQuad?_hexPadded {n : Nat} (h : n < 0x10000) :
    hexQuad? (hexDigit (n / 4096 % 16)) (hexDigit (n / 256 % 16)) (hexDigit (n / 16 % 16))
      (hexDigit (n % 16)) = some (.ofNat n) := by
  have hmod : ∀ k, k % 16 < 16 := fun k => Nat.mod_lt k (by decide)
  have hn : ((n / 4096 % 16 * 16 + n / 256 % 16) * 16 + n / 16 % 16) * 16 + n % 16 = n := by omega
  simp only [hexQuad?, hexValue?_hexDigit (hmod _), Option.bind_eq_bind, Option.bind_some, hn]

/-! ## Units -/

variable {opening rest : List Char} {acc : List UInt16}

/-- A unit in hexadecimal digits. Something follows it, and be it the closing quote. -/
theorem readUnits_unicodeEscape (u : UInt16) (e : Char) :
    readUnits opening acc (unicodeEscape u ++ e :: rest) = readUnits opening (u :: acc) (e :: rest) := by
  rw [unicodeEscape, hexPadded_four]
  simp only [List.cons_append, List.nil_append]
  rw [readUnits, hexQuad?_hexPadded u.toNat_lt, UInt16.ofNat_toNat]

/-- A short escape. -/
theorem readUnits_simple {c x : Char} (hc : c ≠ 'u') (hx : simpleEscape? c = some x) :
    readUnits opening acc ('\\' :: c :: rest) = readUnits opening ((charUnits x).reverse ++ acc) rest := by
  rw [readUnits]
  · simp only [hx]
  · exact fun _ _ _ _ _ _ hu => absurd hu hc
  · exact hc

/-- A character that stands for itself. -/
theorem readUnits_plain {c : Char} (hq : c ≠ '"') (hb : c ≠ '\\') (hc : 0x20 ≤ c.toNat) :
    readUnits opening acc (c :: rest) = readUnits opening ((charUnits c).reverse ++ acc) rest := by
  rw [readUnits]
  · rw [if_neg (by omega)]
  · exact hq
  · exact fun hslash => absurd hslash hb
  · exact fun _ _ _ _ _ _ hslash => absurd hslash hb
  · exact fun _ hslash => absurd hslash hb
  · exact fun _ _ hslash => absurd hslash hb

theorem mem_shortEscapes {u : UInt16} {c : Char} (h : shortEscapes.lookup u = some c) :
    (u, c) ∈ shortEscapes := by
  obtain ⟨before, after, htable, -⟩ := List.lookup_eq_some_iff.1 h
  simp [htable]

/-- A letter stands for its unit. -/
theorem readUnits_letter {u : UInt16} {c : Char} (h : shortEscapes.lookup u = some c) :
    readUnits opening acc ('\\' :: c :: rest) = readUnits opening (u :: acc) rest := by
  have hall : ∀ e ∈ shortEscapes, e.2 ≠ 'u' ∧ (simpleEscape? e.2).map charUnits = some [e.1] := by decide
  obtain ⟨hc, hx⟩ := hall (u, c) (mem_shortEscapes h)
  obtain ⟨x, hx, hunits⟩ := Option.map_eq_some_iff.1 hx
  rw [readUnits_simple hc hx, hunits]
  rfl

/-- A unit that is written as the character that it is: a printable one that ends no text. -/
structure IsPlainUnit (u : UInt16) : Prop where
  toNat_char : (Char.ofNat u.toNat).toNat = u.toNat
  printable : 0x20 ≤ u.toNat ∧ u.toNat ≤ 0x7E
  ne_quote : Char.ofNat u.toNat ≠ '"'
  ne_slash : Char.ofNat u.toNat ≠ '\\'

theorem isPlainUnit_of_lookup {u : UInt16} (h : shortEscapes.lookup u = none)
    (hu : 0x20 ≤ u.toNat ∧ u.toNat ≤ 0x7E) : IsPlainUnit u := by
  have hnat : (Char.ofNat u.toNat).toNat = u.toNat := toNat_ofNat_of_valid (.inl (by omega))
  have hne (e : UInt16 × Char) (he : e ∈ shortEscapes) : (Char.ofNat u.toNat).toNat ≠ e.1.toNat := by
    have hkey : u ≠ e.1 := bne_iff_ne.1 (List.lookup_eq_none_iff.1 h e he)
    rw [hnat]
    exact fun heq => hkey (UInt16.toNat_inj.1 heq)
  refine ⟨hnat, hu, fun hquote => ?_, fun hslash => ?_⟩
  · exact hne (0x22, '"') (by decide) (by rw [hquote]; rfl)
  · exact hne (0x5C, '\\') (by decide) (by rw [hslash]; rfl)

/-- A plain unit stands for itself. -/
theorem IsPlainUnit.readUnits {u : UInt16} (h : IsPlainUnit u) :
    Json.readUnits opening acc (Char.ofNat u.toNat :: rest) = Json.readUnits opening (u :: acc) rest := by
  have hlow := h.printable
  have hunits : charUnits (Char.ofNat u.toNat) = [u] := by
    rw [charUnits, h.toNat_char, if_pos (by omega), UInt16.ofNat_toNat]
  rw [readUnits_plain h.ne_quote h.ne_slash (by rw [h.toNat_char]; exact hlow.1), hunits]
  rfl

/-- A written unit reads back. -/
theorem readUnits_escapeUnit (u : UInt16) (e : Char) :
    readUnits opening acc (escapeUnit u ++ e :: rest) = readUnits opening (u :: acc) (e :: rest) := by
  unfold escapeUnit
  split
  · rename_i c hc
    exact readUnits_letter hc
  · rename_i hnone
    split
    · rename_i hprintable
      rw [Bool.and_eq_true, decide_eq_true_eq, decide_eq_true_eq] at hprintable
      exact (isPlainUnit_of_lookup hnone hprintable).readUnits
    · exact readUnits_unicodeEscape u e

/-! ## Whole texts -/

theorem readUnits_escaped (us acc : List UInt16) (rest : List Char) :
    readUnits opening acc (us.flatMap escapeUnit ++ '"' :: rest) = .ok (acc.reverse ++ us, rest) := by
  induction us generalizing acc with
  | nil => rw [List.flatMap_nil, List.nil_append, readUnits, List.append_nil]
  | cons u us ih =>
    obtain ⟨e, tail, htail⟩ : ∃ e tail, us.flatMap escapeUnit ++ '"' :: rest = e :: tail := by
      cases h : us.flatMap escapeUnit with
      | nil => exact ⟨_, _, rfl⟩
      | cons e tail => exact ⟨_, _, rfl⟩
    rw [List.flatMap_cons, List.append_assoc, htail, readUnits_escapeUnit, ← htail, ih]
    simp

/-- **A text reads back** from its characters between quotes. -/
theorem readText_stringChars {τ : Type} [UnitText τ] (t : τ) (rest : List Char) :
    readText opening ((UnitText.units t).flatMap escapeUnit ++ '"' :: rest) = .ok (t, rest) := by
  rw [readText, readUnits_escaped, List.reverse_nil, List.nil_append]
  exact congrArg (fun t => Except.ok (t, rest)) (UnitText.ofUnits_units t)

end WorkspaceTools.Json
