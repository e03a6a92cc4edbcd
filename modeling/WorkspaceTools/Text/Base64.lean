import WorkspaceTools.Text.Utf8

/-!
# Base64

* `base64` and `base64Url` write bytes in the two alphabets, padded with `=`.
* `decodeBase64?` reads either alphabet and passes over every other character. Padding is read from
  the second character of a group on, and a complete group with its padding ends the text.
* `decodeBase64Url?` first brings the length of a text to a multiple of four, so that a text without
  its padding is read as well.
-/

namespace WorkspaceTools.Text

/-! ## Writing -/

/-- The character of six bits; the last two characters depend on the alphabet. -/
def base64Char (plus slash : Char) (n : Nat) : Char :=
  if n < 26 then Char.ofNat ('A'.toNat + n)
  else if n < 52 then Char.ofNat ('a'.toNat + (n - 26))
  else if n < 62 then Char.ofNat ('0'.toNat + (n - 52))
  else if n = 62 then plus
  else slash

/-- Bytes in groups of three, four characters a group. -/
def base64With (plus slash : Char) : Bytes → List Char
  | [] => []
  | [a] =>
    let n := a.toNat * 16
    [base64Char plus slash (n / 64), base64Char plus slash (n % 64), '=', '=']
  | [a, b] =>
    let n := (a.toNat * 256 + b.toNat) * 4
    [base64Char plus slash (n / 4096), base64Char plus slash (n / 64 % 64),
      base64Char plus slash (n % 64), '=']
  | a :: b :: c :: rest =>
    let n := (a.toNat * 256 + b.toNat) * 256 + c.toNat
    base64Char plus slash (n / 262144) :: base64Char plus slash (n / 4096 % 64) ::
      base64Char plus slash (n / 64 % 64) :: base64Char plus slash (n % 64) ::
      base64With plus slash rest

/-- Bytes in the standard alphabet. -/
def base64 (bs : Bytes) : List Char := base64With '+' '/' bs

/-- Bytes in the alphabet for addresses. -/
def base64Url (bs : Bytes) : List Char := base64With '-' '_' bs

/-! ## Reading -/

/-- Why a text cannot be read. -/
inductive Base64Error where
  /-- A character outside ASCII. -/
  | notAscii
  /-- One character is left in the last group; the count of all data characters. -/
  | oneMore (count : Nat)
  /-- Two or three characters are left in the last group. -/
  | incorrectPadding
  deriving DecidableEq

/-- The wording of an error. -/
def Base64Error.message : Base64Error → String
  | .notAscii => "string argument should contain only ASCII characters"
  | .oneMore count =>
    "Invalid base64-encoded string: number of data characters (" ++ Number.natText count
      ++ ") cannot be 1 more than a multiple of 4"
  | .incorrectPadding => "Incorrect padding"

/-- The six bits of a character of either alphabet. -/
def sextet? (c : Char) : Option Nat :=
  if 'A' ≤ c && c ≤ 'Z' then some (c.toNat - 'A'.toNat)
  else if 'a' ≤ c && c ≤ 'z' then some (c.toNat - 'a'.toNat + 26)
  else if isAsciiDigit c then some (c.toNat - '0'.toNat + 52)
  else if c == '+' || c == '-' then some 62
  else if c == '/' || c == '_' then some 63
  else none

/-- The data of a text up to a complete padding, and whether one came. `place` is the place in the
group of four, `pads` the padding seen since the last data. -/
def sextets : (place pads : Nat) → List Char → List Nat × Bool
  | _, _, [] => ([], false)
  | place, pads, c :: rest =>
    if c == '=' then
      if 2 ≤ place then
        if 4 ≤ place + (pads + 1) then ([], true) else sextets place (pads + 1) rest
      else sextets place pads rest
    else
      match sextet? c with
      | none => sextets place pads rest
      | some n =>
        let (more, complete) := sextets ((place + 1) % 4) 0 rest
        (n :: more, complete)

/-- The bytes of groups of four, and the count of data in the last, incomplete group. -/
def regroup : List Nat → Bytes × Nat
  | [] => ([], 0)
  | [_] => ([], 1)
  | [a, b] => ([UInt8.ofNat (a * 4 + b / 16)], 2)
  | [a, b, c] => ([UInt8.ofNat (a * 4 + b / 16), UInt8.ofNat (b % 16 * 16 + c / 4)], 3)
  | a :: b :: c :: d :: rest =>
    let (bytes, left) := regroup rest
    (UInt8.ofNat (a * 4 + b / 16) :: UInt8.ofNat (b % 16 * 16 + c / 4) ::
      UInt8.ofNat (c % 4 * 64 + d) :: bytes, left)

/-- The bytes of a text. -/
def decodeBase64? (cs : List Char) : Except Base64Error Bytes :=
  if cs.any fun c => 0x80 ≤ c.toNat then .error .notAscii
  else
    let (data, complete) := sextets 0 0 cs
    let (bytes, left) := regroup data
    if complete || left == 0 then .ok bytes
    else if left == 1 then .error (.oneMore data.length)
    else .error .incorrectPadding

/-- A text with padding up to a multiple of four characters. -/
def padToFour (cs : List Char) : List Char :=
  cs ++ List.replicate ((4 - cs.length % 4) % 4) '='

/-- The bytes of a text whose padding may be missing. -/
def decodeBase64Url? (s : String) : Except Base64Error Bytes :=
  decodeBase64? (padToFour s.toList)

end WorkspaceTools.Text
