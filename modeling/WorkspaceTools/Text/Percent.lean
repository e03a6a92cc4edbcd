import WorkspaceTools.Text.Utf8

/-!
# Percent escapes

* `percentEncode safe s` writes the bytes of a text: letters, digits, `_`, `.`, `-`, `~` and the
  characters of `safe` as themselves, every other byte as an escape.
* `percentDecode s` undoes the escapes; bytes that are no text become replacement characters.
-/

namespace WorkspaceTools.Text

/-- Bytes that are written as themselves everywhere. -/
def isUnreserved (c : Char) : Bool :=
  isAsciiLetter c || isAsciiDigit c || c == '_' || c == '.' || c == '-' || c == '~'

/-- An upper-case hexadecimal digit. -/
def upperHexDigit (n : Nat) : Char :=
  if n < 10 then Char.ofNat ('0'.toNat + n) else Char.ofNat ('A'.toNat + (n - 10))

/-- One byte of an encoded text. -/
def percentByte (safe : List Char) (b : UInt8) : List Char :=
  let c := Char.ofNat b.toNat
  if b.toNat < 0x80 && (isUnreserved c || safe.contains c) then [c]
  else ['%', upperHexDigit (b.toNat / 16), upperHexDigit (b.toNat % 16)]

/-- The characters of an encoded text. -/
def percentEncodeBytes (safe : List Char) (bs : Bytes) : List Char := bs.flatMap (percentByte safe)

/-- A text with escapes for all bytes but the unreserved and the safe ones. -/
def percentEncode (safe s : String) : String :=
  String.ofList (percentEncodeBytes safe.toList (encodeUtf8 s))

/-- The bytes of an ASCII text with its escapes undone; a percent sign without two hexadecimal digits
stands for itself. -/
def percentBytes : List Char → Bytes
  | '%' :: a :: b :: rest =>
    match hexValue? a, hexValue? b with
    | some x, some y => UInt8.ofNat (x * 16 + y) :: percentBytes rest
    | _, _ => UInt8.ofNat '%'.toNat :: percentBytes (a :: b :: rest)
  | c :: rest => UInt8.ofNat c.toNat :: percentBytes rest
  | [] => []

/-- Runs of ASCII characters are decoded each by itself; `run` holds the present one, last character
first. -/
def percentDecodeFrom (run : List Char) : List Char → List Char
  | [] => (decodeLossy (percentBytes run.reverse)).toList
  | c :: rest =>
    if c.toNat < 0x80 then percentDecodeFrom (c :: run) rest
    else (decodeLossy (percentBytes run.reverse)).toList ++ c :: percentDecodeFrom [] rest

/-- A text with its escapes undone. -/
def percentDecode (cs : List Char) : List Char :=
  if cs.contains '%' then percentDecodeFrom [] cs else cs

end WorkspaceTools.Text
