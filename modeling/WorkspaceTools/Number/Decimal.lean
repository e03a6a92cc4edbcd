import WorkspaceTools.Text.Digit

/-!
# Decimal numerals

* `natDigits n` lists the decimal digits of a natural number, most significant first and without
  leading zeros; `natOfDigits_natDigits` says that they read back.
* `natText` and `intText` are the numerals as texts.
-/

namespace WorkspaceTools.Number

open WorkspaceTools.Text

/-- The character of a decimal digit. -/
def digitChar (n : Nat) : Char := Char.ofNat ('0'.toNat + n % 10)

/-- The decimal digits of a number in front of a list of characters. -/
def natDigitsOnto (n : Nat) (rest : List Char) : List Char :=
  if n < 10 then digitChar n :: rest
  else natDigitsOnto (n / 10) (digitChar n :: rest)
termination_by n

/-- The decimal digits of a number, without leading zeros. -/
def natDigits (n : Nat) : List Char := natDigitsOnto n []

/-- The numeral of a natural number. -/
def natText (n : Nat) : String := String.ofList (natDigits n)

/-- The numeral of an integer: a minus sign stands before the digits of a negative one. -/
def intDigits : Int → List Char
  | .ofNat n => natDigits n
  | .negSucc n => '-' :: natDigits (n + 1)

/-- The numeral of an integer. -/
def intText (i : Int) : String := String.ofList (intDigits i)

/-- A number with leading zeros up to the given count of digits. -/
def paddedText (width n : Nat) : String :=
  let ds := natDigits n
  String.ofList (List.replicate (width - ds.length) '0' ++ ds)

/-! ## Reading back -/

theorem digitValue?_digitChar {n : Nat} (h : n < 10) : digitValue? (digitChar n) = some n := by
  have : ∀ m : Fin 10, digitValue? (digitChar m.val) = some m.val := by decide +kernel
  exact this ⟨n, h⟩

theorem natDigitsOnto_eq_append (n : Nat) (rest : List Char) :
    natDigitsOnto n rest = natDigitsOnto n [] ++ rest := by
  induction n using Nat.strongRecOn generalizing rest with
  | _ n ih =>
    unfold natDigitsOnto
    split
    · rfl
    · rw [ih (n / 10) (by omega) (digitChar n :: rest), ih (n / 10) (by omega) [digitChar n]]
      simp

theorem natDigits_of_lt {n : Nat} (h : n < 10) : natDigits n = [digitChar n] := by
  rw [natDigits, natDigitsOnto, if_pos h]

theorem natDigits_of_ge {n : Nat} (h : 10 ≤ n) :
    natDigits n = natDigits (n / 10) ++ [digitChar n] := by
  rw [natDigits, natDigitsOnto, if_neg (by omega), natDigitsOnto_eq_append]
  rfl

theorem digitChar_mod (n : Nat) : digitChar (n % 10) = digitChar n := by
  simp [digitChar]

theorem natOfDigits_natDigits (n : Nat) : natOfDigits (natDigits n) = n := by
  induction n using Nat.strongRecOn with
  | _ n ih =>
    by_cases h : n < 10
    · simp [natDigits_of_lt h, natOfDigits, digitValue?_digitChar h]
    · have hd : digitValue? (digitChar n) = some (n % 10) := by
        rw [← digitChar_mod]; exact digitValue?_digitChar (by omega)
      have := ih (n / 10) (by omega)
      rw [natDigits_of_ge (by omega)]
      simp only [natOfDigits] at this
      simp only [natOfDigits, List.foldl_append, this, List.foldl_cons, List.foldl_nil, hd,
        Option.getD_some]
      omega

end WorkspaceTools.Number
