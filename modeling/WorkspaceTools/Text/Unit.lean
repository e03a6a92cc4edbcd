/-!
# Code units of sixteen bits

* A text is written in code units: a character up to U+FFFF is one unit, and one beyond is a pair, a high
  unit and a low one (`charUnits`). `charsOfUnits` reads a sequence of units. Half a pair that stands alone
  is no character, and becomes the replacement character.
* A `UnitText` is a type of texts that are known by their units. A `String` holds characters only, so that
  half a pair is lost in it; a `WideText` holds any units.
-/

namespace WorkspaceTools

namespace Text

/-- The first unit of a pair. -/
def isHighUnit (u : UInt16) : Bool := 0xD800 ≤ u.toNat && u.toNat ≤ 0xDBFF

/-- The second unit of a pair. -/
def isLowUnit (u : UInt16) : Bool := 0xDC00 ≤ u.toNat && u.toNat ≤ 0xDFFF

/-- The units of a character. -/
def charUnits (c : Char) : List UInt16 :=
  if c.toNat < 0x10000 then [.ofNat c.toNat]
  else
    let n := c.toNat - 0x10000
    [.ofNat (0xD800 + n / 0x400), .ofNat (0xDC00 + n % 0x400)]

/-- The character of a pair. -/
def pairChar (high low : UInt16) : Char :=
  Char.ofNat (0x10000 + (high.toNat - 0xD800) * 0x400 + (low.toNat - 0xDC00))

/-- The character of a unit, or the replacement character. -/
def unitChar (u : UInt16) : Char :=
  if isHighUnit u || isLowUnit u then Char.ofNat 0xFFFD else Char.ofNat u.toNat

/-- The characters of a sequence of units. -/
def charsOfUnits : List UInt16 → List Char
  | high :: low :: rest =>
    if isHighUnit high && isLowUnit low then pairChar high low :: charsOfUnits rest
    else unitChar high :: charsOfUnits (low :: rest)
  | [u] => [unitChar u]
  | [] => []

/-! ## Characters read back -/

/-- The surrogates are no characters, and the last character is U+10FFFF. -/
theorem toNat_bounds (c : Char) : c.toNat < 0xD800 ∨ 0xDFFF < c.toNat ∧ c.toNat < 0x110000 := c.valid

theorem toNat_ofNat_of_valid {n : Nat} (h : n < 0xD800 ∨ 0xDFFF < n ∧ n < 0x110000) :
    (Char.ofNat n).val.toNat = n := by
  rw [Char.ofNat, dif_pos (show n.isValidChar from h)]
  rfl

theorem toNat_unit {n : Nat} (h : n < 0x10000) : (UInt16.ofNat n).toNat = n := by
  rw [UInt16.toNat_ofNat', Nat.mod_eq_of_lt h]

/-- A unit that begins no pair is a character of its own. -/
theorem charsOfUnits_cons {u : UInt16} (h : isHighUnit u = false) (us : List UInt16) :
    charsOfUnits (u :: us) = unitChar u :: charsOfUnits us := by
  cases us with
  | nil => rfl
  | cons v us =>
    rw [charsOfUnits, h]
    rfl

theorem charsOfUnits_pair {high low : UInt16} (hh : isHighUnit high = true)
    (hl : isLowUnit low = true) (rest : List UInt16) :
    charsOfUnits (high :: low :: rest) = pairChar high low :: charsOfUnits rest := by
  rw [charsOfUnits, hh, hl]
  rfl

theorem charsOfUnits_charUnits (c : Char) (us : List UInt16) :
    charsOfUnits (charUnits c ++ us) = c :: charsOfUnits us := by
  have hbounds := toNat_bounds c
  unfold charUnits
  split
  · rename_i hc
    have hu := toNat_unit hc
    have hhigh : isHighUnit (.ofNat c.toNat) = false := by
      simp only [isHighUnit, hu, Bool.and_eq_false_imp, decide_eq_true_eq, decide_eq_false_iff_not]
      omega
    have hlow : isLowUnit (.ofNat c.toNat) = false := by
      simp only [isLowUnit, hu, Bool.and_eq_false_imp, decide_eq_true_eq, decide_eq_false_iff_not]
      omega
    rw [List.singleton_append, charsOfUnits_cons hhigh, unitChar, hhigh, hlow, hu, Char.ofNat_toNat]
    rfl
  · have hu := toNat_unit (show 0xD800 + (c.toNat - 0x10000) / 0x400 < 0x10000 by omega)
    have hv := toNat_unit (show 0xDC00 + (c.toNat - 0x10000) % 0x400 < 0x10000 by omega)
    have hhigh : isHighUnit (.ofNat (0xD800 + (c.toNat - 0x10000) / 0x400)) = true := by
      simp only [isHighUnit, hu, Bool.and_eq_true, decide_eq_true_eq]
      omega
    have hlow : isLowUnit (.ofNat (0xDC00 + (c.toNat - 0x10000) % 0x400)) = true := by
      simp only [isLowUnit, hv, Bool.and_eq_true, decide_eq_true_eq]
      omega
    have hcode : 0x10000 + (0xD800 + (c.toNat - 0x10000) / 0x400 - 0xD800) * 0x400 +
        (0xDC00 + (c.toNat - 0x10000) % 0x400 - 0xDC00) = c.toNat := by omega
    rw [List.cons_append, List.singleton_append, charsOfUnits_pair hhigh hlow, pairChar, hu, hv, hcode,
      Char.ofNat_toNat]

theorem charsOfUnits_flatMap_charUnits (cs : List Char) :
    charsOfUnits (cs.flatMap charUnits) = cs := by
  induction cs with
  | nil => rfl
  | cons c cs ih => rw [List.flatMap_cons, charsOfUnits_charUnits, ih]

end Text

open Text

/-! ## Types of texts -/

/-- Texts of a type are written in units, and come back from them. -/
class UnitText (τ : Type) where
  units : τ → List UInt16
  ofUnits : List UInt16 → τ
  ofUnits_units (t : τ) : ofUnits (units t) = t

/-- A text of characters. -/
instance : UnitText String where
  units s := s.toList.flatMap charUnits
  ofUnits us := String.ofList (charsOfUnits us)
  ofUnits_units s := by rw [charsOfUnits_flatMap_charUnits, String.ofList_toList]

/-- A text of any units: half a pair may stand alone in it. Two halves that follow one another are a
character, as they are in documents, so that no two of these texts stand for the same one. -/
structure WideText where
  units : List UInt16
  deriving DecidableEq, Inhabited

/-- A text of any units. -/
instance : UnitText WideText where
  units := WideText.units
  ofUnits := WideText.mk
  ofUnits_units _ := rfl

namespace WideText

/-- A text of characters. -/
def ofString (s : String) : WideText := ⟨UnitText.units s⟩

instance : Coe String WideText := ⟨ofString⟩

/-- The characters of a text in which no half of a pair stands alone. -/
def string? (t : WideText) : Option String :=
  let s : String := UnitText.ofUnits t.units
  if ofString s = t then some s else none

theorem string?_ofString (s : String) : (ofString s).string? = some s := by
  have hback : (UnitText.ofUnits (ofString s).units : String) = s := UnitText.ofUnits_units s
  simp only [string?, hback, if_true]

theorem ofString_inj {s t : String} : ofString s = ofString t ↔ s = t := by
  refine ⟨fun h => ?_, fun h => h ▸ rfl⟩
  rw [← Option.some_inj, ← string?_ofString s, h, string?_ofString]

/-- A text of characters is written as those characters. -/
theorem string?_eq_some {t : WideText} {s : String} : t.string? = some s ↔ t = ofString s := by
  refine ⟨fun h => ?_, fun h => h ▸ string?_ofString s⟩
  unfold string? at h
  dsimp only at h
  split at h
  · rename_i hs
    rw [← hs, Option.some.inj h]
  · cases h

end WideText

end WorkspaceTools
