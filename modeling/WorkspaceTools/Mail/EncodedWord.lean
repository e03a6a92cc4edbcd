import WorkspaceTools.Text.Base64

/-!
# Encoded words

A header with characters outside ASCII is written in encoded words: the bytes of its text either in
base64 or with an escape for every byte but letters, digits and a few signs. `shorterEncoding`
chooses, and `encodedLines` spreads a text over words that fit on lines, never cutting a character.
-/

namespace WorkspaceTools.Mail

open Text

/-- How the bytes of a word are written. -/
inductive WordEncoding where
  | base64
  | quoted
  deriving DecidableEq

/-- A byte that a quoted word holds as it is. -/
def isPlainInWord (c : Char) : Bool :=
  isAsciiLetter c || isAsciiDigit c || c == '-' || c == '!' || c == '*' || c == '+' || c == '/'

/-- A byte of a quoted word. -/
def quotedByte (b : UInt8) : List Char :=
  let c := Char.ofNat b.toNat
  if isPlainInWord c then [c]
  else if c == ' ' then ['_']
  else ['=', upperHexDigit (b.toNat / 16), upperHexDigit (b.toNat % 16)]
where
  /-- An upper-case hexadecimal digit. -/
  upperHexDigit (n : Nat) : Char :=
    if n < 10 then Char.ofNat ('0'.toNat + n) else Char.ofNat ('A'.toNat + (n - 10))

/-- The characters for some bytes. -/
def WordEncoding.chars : WordEncoding → Bytes → List Char
  | .base64, bs => Text.base64 bs
  | .quoted, bs => bs.flatMap quotedByte

/-- The letter that names an encoding. -/
def WordEncoding.letter : WordEncoding → Char
  | .base64 => 'b'
  | .quoted => 'q'

/-- The encoding that makes some bytes shorter; a tie goes to quoting. -/
def shorterEncoding (bs : Bytes) : WordEncoding :=
  if (WordEncoding.chars .base64 bs).length < (WordEncoding.chars .quoted bs).length then .base64
  else .quoted

/-- The word for a text; there is none for the empty one. -/
def encodedWord (encoding : WordEncoding) (cs : List Char) : List Char :=
  if cs.isEmpty then []
  else "=?utf-8?".toList ++ encoding.letter :: '?' ::
    (encoding.chars (encodeUtf8Chars cs) ++ ['?', '='])

/-- How many characters of a word are not its text. -/
def wordFrame : Int := 12

/-- The words of a text whose first ones must be at most `room` characters long inside their frame and
whose further ones at most `later`. `begun` holds the characters of the present word, last one first.
The first word is missing where no character fits on the line. -/
def encodedLinesFrom (encoding : WordEncoding) (later : Int) (room : Int) (isFirst : Bool)
    (begun : List Char) : List Char → List (Option (List Char))
  | [] => [some (encodedWord encoding begun.reverse)]
  | c :: rest =>
    if (encoding.chars (encodeUtf8Chars (c :: begun).reverse)).length ≤ room then
      encodedLinesFrom encoding later room isFirst (c :: begun) rest
    else
      (if isFirst && begun.isEmpty then none else some (encodedWord encoding begun.reverse)) ::
        encodedLinesFrom encoding later later false [c] rest

/-- The words of a text for a first line and further lines with the given room. -/
def encodedLines (first later : Int) (cs : List Char) : List (Option (List Char)) :=
  encodedLinesFrom (shorterEncoding (encodeUtf8Chars cs)) (later - wordFrame) (first - wordFrame) true []
    cs

end WorkspaceTools.Mail
