import WorkspaceTools.Number.Binary64
import WorkspaceTools.Number.Decimal

/-!
# Texts of double-precision numbers

* `shortest m e` gives the fewest decimal digits that read back as m · 2^e, and of those digits the
  nearest.
* `FloatLayout` says where positional notation ends and how the infinities are called; `floatText`
  writes a number by such a layout.
* `fixedText` writes a number with a fixed count of decimal places, a half going to the even digit.
-/

namespace WorkspaceTools.Number

/-- A decimal `coefficient · 10^exponent`. -/
structure Decimal where
  coefficient : Nat
  exponent : Int
  deriving DecidableEq, Inhabited

/-- Compare `c · 10^g` with `w · 2^q`. -/
def compareScaled (c : Nat) (g : Int) (w : Nat) (q : Int) : Ordering :=
  compare (c * tenTo g.toNat * twoTo (-q).toNat) (w * twoTo q.toNat * tenTo (-g).toNat)

/-- The decimal places of the leading digit of `m · 2^e`: the k with 10^k ≤ m · 2^e < 10^(k+1). -/
def leadingPlace (m : Nat) (e : Int) : Int :=
  let k := ((m.log2 : Int) + e) * 30103 / 100000
  if compareScaled 1 k m e == .gt then k - 1
  else if compareScaled 1 (k + 1) m e != .gt then k + 1
  else k

/-- The whole part of `(m · 2^e) / 10^g`. -/
def floorOnGrid (m : Nat) (e g : Int) : Nat :=
  (m * twoTo e.toNat * tenTo (-g).toNat) / (tenTo g.toNat * twoTo (-e).toNat)

/-- The decimals that read back as `m · 2^e` lie between the midpoints to the two neighbours; the
midpoints themselves belong to the number with an even mantissa. -/
def readsBack (m : Nat) (e : Int) (c : Nat) (g : Int) : Bool :=
  let down := if m = twoTo 52 ∧ Binary64.minExponent < e then 1 else 2
  let low := compareScaled c g (4 * m - down) (e - 2)
  let high := compareScaled c g (4 * m + 2) (e - 2)
  if m % 2 = 0 then low != .lt && high != .gt else low == .gt && high == .lt

/-- The nearer of two neighbours on a grid that reads back, if one does. -/
def nearestOnGrid (m : Nat) (e g : Int) : Option Nat :=
  let c := floorOnGrid m e g
  match readsBack m e c g, readsBack m e (c + 1) g with
  | true, true =>
    match compareScaled (2 * c + 1) g (2 * m) e with
    | .gt => some c
    | .lt => some (c + 1)
    | .eq => some (if c % 2 = 0 then c else c + 1)
  | true, false => some c
  | false, true => some (c + 1)
  | false, false => none

/-- Try grids of more and more digits below the leading place. -/
def shortestFrom (m : Nat) (e place : Int) : (more : Nat) → (used : Nat) → Decimal
  | 0, used =>
    let g := place - used
    ⟨floorOnGrid m e g, g⟩
  | more + 1, used =>
    let g := place - used
    match nearestOnGrid m e g with
    | some c => ⟨c, g⟩
    | none => shortestFrom m e place more (used + 1)

/-- The fewest decimal digits that read back as `m · 2^e`, the nearest of those. -/
def shortest (m : Nat) (e : Int) : Decimal :=
  shortestFrom m e (leadingPlace m e) 17 0

/-- Conventions for the text of a number. -/
structure FloatLayout where
  /-- Least decimal exponent that is written positionally. -/
  firstPositional : Int
  /-- Least decimal exponent above those. -/
  firstScientific : Int
  /-- Least count of digits of a written exponent. -/
  exponentDigits : Nat
  /-- Name of infinity. -/
  infinity : String
  /-- Name of what is no number. -/
  notANumber : String

/-- Numbers in running text: positional from 10^-4 up to 10^16. -/
def plainFloat : FloatLayout := ⟨-4, 16, 2, "inf", "nan"⟩

/-- Numbers in documents: the same, with the names that documents use. -/
def documentFloat : FloatLayout := { plainFloat with infinity := "Infinity", notANumber := "NaN" }

/-- Digits without the zeros at their end. -/
def dropTrailingZeros (cs : List Char) : List Char :=
  (cs.reverse.dropWhile (· == '0')).reverse

/-- The digits of a decimal without trailing zeros, and the place of the first of them. -/
def Decimal.digits (d : Decimal) : List Char × Int :=
  let ds := natDigits d.coefficient
  (dropTrailingZeros ds, d.exponent + (ds.length : Int) - 1)

/-- Digits whose first stands at the given place, in positional notation. -/
def positional (ds : List Char) (place : Int) : List Char :=
  if place < 0 then
    '0' :: '.' :: (List.replicate (-place - 1).toNat '0' ++ ds)
  else
    let n := place.toNat + 1
    let whole := ds.take n ++ List.replicate (n - ds.length) '0'
    let fraction := ds.drop n
    whole ++ '.' :: (if fraction.isEmpty then ['0'] else fraction)

/-- Digits whose first stands at the given place, with an exponent. -/
def scientific (exponentDigits : Nat) (ds : List Char) (place : Int) : List Char :=
  let mark := if place < 0 then '-' else '+'
  let head := match ds with
    | [] => ['0']
    | [d] => [d]
    | d :: more => d :: '.' :: more
  head ++ 'e' :: mark :: (paddedText exponentDigits place.natAbs).toList

/-- The text of a number. -/
def floatText (layout : FloatLayout) : Binary64 → String
  | .nan => layout.notANumber
  | .infinite negative => if negative then "-" ++ layout.infinity else layout.infinity
  | .finite negative m e =>
    let body :=
      if m = 0 then "0.0".toList
      else
        let (ds, place) := (shortest m e).digits
        if layout.firstPositional ≤ place ∧ place < layout.firstScientific then positional ds place
        else scientific layout.exponentDigits ds place
    String.ofList (if negative then '-' :: body else body)

/-- A number with a fixed count of decimal places. -/
def fixedText (places : Nat) : Binary64 → String
  | .nan => plainFloat.notANumber
  | .infinite negative => if negative then "-" ++ plainFloat.infinity else plainFloat.infinity
  | .finite negative m e =>
    let (num, den) := Binary64.ratio m e
    let scaled := roundHalfEven (num * tenTo places) den
    let ds := (paddedText (places + 1) scaled).toList
    let cut := ds.length - places
    let body := ds.take cut ++ (if places = 0 then [] else '.' :: ds.drop cut)
    String.ofList (if negative then '-' :: body else body)

end WorkspaceTools.Number
