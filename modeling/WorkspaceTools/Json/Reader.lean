import WorkspaceTools.Json.Value
import WorkspaceTools.Text.Unit

/-!
# Reading documents

* `Json.read?` reads the text of a document, into texts of any type that is known by its code units: an
  escape of four digits is a unit, whether or not it is half of a pair. Blanks may stand between tokens; a
  member that comes twice keeps its first place and its last value; a number with a point or an exponent
  is read to the nearest double-precision number, and `NaN`, `Infinity` and `-Infinity` are numbers too.
* How deep lists and objects may stand in one another depends on who reads, and is given with the text.
* `ReadError` says what stood in the way and where; `ReadError.message` words it with line, column
  and place. `ReadError.isMalformed` tells a text that is no document from one with an integer of too
  many digits or with too many lists and objects in one another.
-/

namespace WorkspaceTools

open Number Text

/-- What stands in the way of reading a document. -/
inductive ReadCause where
  | expectingValue
  | expectingName
  | expectingColon
  | expectingComma
  | unterminatedString
  | controlCharacter
  | badEscape
  | badUnicodeEscape
  | extraData
  | byteOrderMark
  /-- An integer with more digits than are read. -/
  | tooManyDigits (count : Nat)
  /-- A list or an object inside of more others than are read. -/
  | tooDeep (kind : Kind)
  deriving DecidableEq

/-- A cause and the count of characters that were left at its place. -/
structure ReadFailure where
  cause : ReadCause
  remaining : Nat
  deriving DecidableEq

/-- A cause with the text in which it arose and its place there. -/
structure ReadError where
  cause : ReadCause
  text : List Char
  position : Nat
  deriving DecidableEq

/-- The most digits that an integer may have. -/
def maxIntDigits : Nat := 4300

/-- The complaint about a list or an object inside of too many others. -/
def tooDeepText (kind : Kind) : String :=
  "maximum recursion depth exceeded while decoding a JSON "
    ++ (if kind = .arr then "array" else "object") ++ " from a unicode string"

/-- The complaint about an integer with too many digits. -/
def tooManyDigitsText (count : Nat) : String :=
  "Exceeds the limit (4300 digits) for integer string conversion: value has " ++ natText count
    ++ " digits; use sys.set_int_max_str_digits() to increase the limit"

/-- The wording of a cause. -/
def ReadCause.text : ReadCause → String
  | .expectingValue => "Expecting value"
  | .expectingName => "Expecting property name enclosed in double quotes"
  | .expectingColon => "Expecting ':' delimiter"
  | .expectingComma => "Expecting ',' delimiter"
  | .unterminatedString => "Unterminated string starting at"
  | .controlCharacter => "Invalid control character at"
  | .badEscape => "Invalid \\escape"
  | .badUnicodeEscape => "Invalid \\uXXXX escape"
  | .extraData => "Extra data"
  | .byteOrderMark => "Unexpected UTF-8 BOM (decode using utf-8-sig)"
  | .tooManyDigits count => tooManyDigitsText count
  | .tooDeep kind => tooDeepText kind

/-- The text is no document, rather than one that is out of bounds. -/
def ReadError.isMalformed (e : ReadError) : Bool :=
  match e.cause with
  | .tooManyDigits _ => false
  | .tooDeep _ => false
  | _ => true

/-- The wording of an error: cause, line, column and place. -/
def ReadError.message (e : ReadError) : String :=
  match e.cause with
  | .tooManyDigits count => tooManyDigitsText count
  | .tooDeep kind => tooDeepText kind
  | cause =>
    let before := e.text.take e.position
    let line := before.count '\n' + 1
    let column := (before.reverse.takeWhile (· != '\n')).length + 1
    cause.text ++ ": line " ++ natText line ++ " column " ++ natText column ++ " (char "
      ++ natText e.position ++ ")"

namespace Json

/-- The result of reading a part: what was read, and the rest. -/
abbrev Reading (α : Type) := Except ReadFailure (α × List Char)

/-- A failure at the place where the given characters are left. -/
def failAt {α : Type} (cause : ReadCause) (rest : List Char) : Reading α :=
  .error ⟨cause, rest.length⟩

/-- Blanks between tokens. -/
def isSeparator (c : Char) : Bool := c == ' ' || c == '\t' || c == '\n' || c == '\r'

/-- Without leading blanks. -/
def skipBlanks (cs : List Char) : List Char := cs.dropWhile isSeparator

/-! ## Texts -/

/-- The unit of four hexadecimal digits. -/
def hexQuad? (a b c d : Char) : Option UInt16 := do
  let a ← hexValue? a
  let b ← hexValue? b
  let c ← hexValue? c
  let d ← hexValue? d
  some (.ofNat (((a * 16 + b) * 16 + c) * 16 + d))

/-- The character that a one-letter escape stands for. -/
def simpleEscape? : Char → Option Char
  | '"' => some '"'
  | '\\' => some '\\'
  | '/' => some '/'
  | 'b' => some '\x08'
  | 'f' => some '\x0c'
  | 'n' => some '\n'
  | 'r' => some '\r'
  | 't' => some '\t'
  | _ => none

variable {τ : Type} [UnitText τ]

/-- The units of a text up to its closing quote. `opening` holds the characters from the opening quote on,
`acc` what was read, last unit first. -/
def readUnits (opening : List Char) (acc : List UInt16) : List Char → Reading (List UInt16)
  | [] => failAt .unterminatedString opening
  | '"' :: rest => .ok (acc.reverse, rest)
  | ['\\'] => failAt .unterminatedString opening
  | '\\' :: 'u' :: a :: b :: c :: d :: e :: rest =>
    match hexQuad? a b c d with
    | some u => readUnits opening (u :: acc) (e :: rest)
    | none => failAt .badUnicodeEscape ('u' :: a :: b :: c :: d :: e :: rest)
  | '\\' :: 'u' :: rest => failAt .badUnicodeEscape ('u' :: rest)
  | '\\' :: c :: rest =>
    match simpleEscape? c with
    | some x => readUnits opening ((charUnits x).reverse ++ acc) rest
    | none => failAt .badEscape ('\\' :: c :: rest)
  | c :: rest =>
    if c.toNat < 0x20 then failAt .controlCharacter (c :: rest)
    else readUnits opening ((charUnits c).reverse ++ acc) rest
termination_by cs => cs.length

/-- A text up to its closing quote. -/
def readText (opening cs : List Char) : Reading τ :=
  (readUnits opening [] cs).map fun (us, rest) => (UnitText.ofUnits us, rest)

/-! ## Numbers -/

/-- An exponent mark, a sign and digits; nothing is read unless a digit is there. -/
def splitExponent (cs : List Char) : Option (Int × List Char) :=
  match cs with
  | c :: rest =>
    if c == 'e' || c == 'E' then
      let (negative, rest) := match rest with
        | '-' :: r => (true, r)
        | '+' :: r => (false, r)
        | r => (false, r)
      let ds := rest.takeWhile isAsciiDigit
      if ds.isEmpty then none
      else
        let n := natOfDigits ds
        some (if negative then -(n : Int) else n, rest.dropWhile isAsciiDigit)
    else none
  | [] => none

/-- A point with at least one digit after it. -/
def splitFraction (cs : List Char) : Option (List Char × List Char) :=
  match cs with
  | '.' :: rest =>
    let ds := rest.takeWhile isAsciiDigit
    if ds.isEmpty then none else some (ds, rest.dropWhile isAsciiDigit)
  | _ => none

/-- A number without its sign: an integer if it has neither fraction nor exponent. -/
def readNumber {τ : Type} (negative : Bool) (start cs : List Char) : Reading (Json τ) :=
  let whole := match cs with
    | '0' :: _ => ['0']
    | cs => cs.takeWhile isAsciiDigit
  if whole.isEmpty then failAt .expectingValue start
  else
    let rest := cs.drop whole.length
    let (fraction, rest', hasFraction) := match splitFraction rest with
      | some (ds, r) => (ds, r, true)
      | none => ([], rest, false)
    match splitExponent rest', hasFraction with
    | some (e, r), _ =>
      .ok (.float (.ofDecimal negative (natOfDigits (whole ++ fraction)) (e - fraction.length)), r)
    | none, true =>
      .ok (.float (.ofDecimal negative (natOfDigits (whole ++ fraction)) (-fraction.length)), rest')
    | none, false =>
      if maxIntDigits < whole.length then failAt (.tooManyDigits whole.length) start
      else
        let n : Int := natOfDigits whole
        .ok (.int (if negative then -n else n), rest')

/-! ## Values -/

variable [DecidableEq τ]

mutual

/-- A document at the head of a text, inside of which as many lists and objects may stand in one another
as `depth` says. Every call hands on less fuel; twice the length of the text is enough. -/
def readValue : (fuel depth : Nat) → List Char → Reading (Json τ)
  | 0, _, cs => failAt .expectingValue cs
  | fuel + 1, depth, cs =>
    match cs with
    | '"' :: rest => (readText cs rest).map fun (s, r) => (.str s, r)
    | '[' :: rest =>
      match depth, skipBlanks rest with
      | 0, _ => failAt (.tooDeep .arr) cs
      | _, ']' :: r => .ok (.arr [], r)
      | depth + 1, r => readItems fuel depth [] r
    | '\x7b' :: rest =>
      match depth, skipBlanks rest with
      | 0, _ => failAt (.tooDeep .obj) cs
      | _, '\x7d' :: r => .ok (.obj [], r)
      | depth + 1, r => readMembers fuel depth [] r
    | 'n' :: 'u' :: 'l' :: 'l' :: r => .ok (.null, r)
    | 't' :: 'r' :: 'u' :: 'e' :: r => .ok (.bool true, r)
    | 'f' :: 'a' :: 'l' :: 's' :: 'e' :: r => .ok (.bool false, r)
    | 'N' :: 'a' :: 'N' :: r => .ok (.float .nan, r)
    | 'I' :: 'n' :: 'f' :: 'i' :: 'n' :: 'i' :: 't' :: 'y' :: r => .ok (.float (.infinite false), r)
    | '-' :: 'I' :: 'n' :: 'f' :: 'i' :: 'n' :: 'i' :: 't' :: 'y' :: r =>
      .ok (.float (.infinite true), r)
    | '-' :: r => readNumber true cs r
    | _ => readNumber false cs cs

/-- The items of a list from the next one on; `acc` holds the earlier ones, last first. -/
def readItems : (fuel depth : Nat) → (acc : List (Json τ)) → List Char → Reading (Json τ)
  | 0, _, _, cs => failAt .expectingValue cs
  | fuel + 1, depth, acc, cs =>
    match readValue fuel depth cs with
    | .error e => .error e
    | .ok (v, rest) =>
      match skipBlanks rest with
      | ']' :: r => .ok (.arr (v :: acc).reverse, r)
      | ',' :: r => readItems fuel depth (v :: acc) (skipBlanks r)
      | r => failAt .expectingComma r

/-- The members of an object from the next one on; `acc` holds the earlier ones. -/
def readMembers : (fuel depth : Nat) → (acc : Members τ) → List Char → Reading (Json τ)
  | 0, _, _, cs => failAt .expectingName cs
  | fuel + 1, depth, acc, cs =>
    match cs with
    | '"' :: rest =>
      match readText cs rest with
      | .error e => .error e
      | .ok (k, rest) =>
        match skipBlanks rest with
        | ':' :: rest =>
          match readValue fuel depth (skipBlanks rest) with
          | .error e => .error e
          | .ok (v, rest) =>
            match skipBlanks rest with
            | '\x7d' :: r => .ok (.obj (acc.set k v), r)
            | ',' :: r => readMembers fuel depth (acc.set k v) (skipBlanks r)
            | r => failAt .expectingComma r
        | r => failAt .expectingColon r
    | cs => failAt .expectingName cs

end

/-- The characters of one document of a bounded depth, with nothing but blanks around it. -/
def readChars (depth : Nat) (cs : List Char) : Except ReadFailure (Json τ) :=
  match readValue (2 * cs.length + 2) depth (skipBlanks cs) with
  | .error e => .error e
  | .ok (v, rest) =>
    match skipBlanks rest with
    | [] => .ok v
    | r => .error ⟨.extraData, r.length⟩

/-- The document of a bounded depth that characters hold; a failure tells its place. -/
def readWhole (depth : Nat) (cs : List Char) : Except ReadError (Json τ) :=
  match readChars depth cs with
  | .ok v => .ok v
  | .error e => .error ⟨e.cause, cs, cs.length - e.remaining⟩

/-- The document that a text holds, for a reader that goes so deep. -/
def read? (depth : Nat) (s : String) : Except ReadError (Json τ) :=
  match s.toList with
  | '\uFEFF' :: rest => .error ⟨.byteOrderMark, '\uFEFF' :: rest, 0⟩
  | cs => readWhole depth cs

end Json

end WorkspaceTools
