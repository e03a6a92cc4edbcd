import WorkspaceTools.Number.Decimal

/-!
# UTF-8

* `encodeUtf8` gives the bytes of a text.
* `pieces` cuts any bytes into characters and broken sequences; a broken sequence is as long as some
  well-formed character begins with it.
* `decodeLossy` puts the replacement character for every broken sequence; `decodeUtf8?` fails at the
  first one with a `BrokenText`, which `BrokenText.message` words.
-/

namespace WorkspaceTools.Text

/-- A sequence of bytes. -/
abbrev Bytes := List UInt8

/-- The bytes of a text. -/
def encodeUtf8Chars (cs : List Char) : Bytes := cs.flatMap String.utf8EncodeChar

/-- The bytes of a text. -/
def encodeUtf8 (s : String) : Bytes := encodeUtf8Chars s.toList

/-- Why a sequence is broken. -/
inductive BrokenCause where
  | invalidStart
  | invalidContinuation
  | unexpectedEnd
  /-- Fewer bytes than one unit of the encoding has. -/
  | truncated
  /-- A unit that is beyond the last character. -/
  | noCodePoint
  deriving DecidableEq

/-- A character, or bytes that belong to none. -/
inductive Piece where
  | char (c : Char)
  | broken (bytes : Bytes) (cause : BrokenCause)

/-- A character that has begun: bytes so far (last one first), continuation bytes still missing, code
so far, and the bounds of the next byte. -/
structure Begun where
  bytes : Bytes
  missing : Nat
  code : Nat
  low : Nat
  high : Nat

/-- The first byte of a character: the whole character, one that has begun, or a broken piece. -/
def firstByte (b : UInt8) : Piece ⊕ Begun :=
  let n := b.toNat
  if n < 0x80 then .inl (.char (Char.ofNat n))
  else if n < 0xC2 then .inl (.broken [b] .invalidStart)
  else if n < 0xE0 then .inr ⟨[b], 1, n - 0xC0, 0x80, 0xBF⟩
  else if n < 0xF0 then
    .inr ⟨[b], 2, n - 0xE0, if n = 0xE0 then 0xA0 else 0x80, if n = 0xED then 0x9F else 0xBF⟩
  else if n < 0xF5 then
    .inr ⟨[b], 3, n - 0xF0, if n = 0xF0 then 0x90 else 0x80, if n = 0xF4 then 0x8F else 0xBF⟩
  else .inl (.broken [b] .invalidStart)

/-- The pieces of some bytes, given a character that has begun before them. -/
def piecesFrom : Option Begun → Bytes → List Piece
  | none, [] => []
  | some s, [] => [.broken s.bytes.reverse .unexpectedEnd]
  | none, b :: rest =>
    match firstByte b with
    | .inl p => p :: piecesFrom none rest
    | .inr s => piecesFrom (some s) rest
  | some s, b :: rest =>
    if s.low ≤ b.toNat ∧ b.toNat ≤ s.high then
      let code := s.code * 64 + (b.toNat - 0x80)
      if s.missing = 1 then .char (Char.ofNat code) :: piecesFrom none rest
      else piecesFrom (some ⟨b :: s.bytes, s.missing - 1, code, 0x80, 0xBF⟩) rest
    else
      .broken s.bytes.reverse .invalidContinuation ::
        match firstByte b with
        | .inl p => p :: piecesFrom none rest
        | .inr s => piecesFrom (some s) rest

/-- The characters and the broken sequences of some bytes. -/
def pieces (bs : Bytes) : List Piece := piecesFrom none bs

/-- A piece with the replacement character for what is broken. -/
def Piece.lossy : Piece → Char
  | .char c => c
  | .broken .. => Char.ofNat 0xFFFD

/-- The text of some bytes, with one replacement character for every broken sequence. -/
def decodeLossy (bs : Bytes) : String := String.ofList ((pieces bs).map Piece.lossy)

/-- A broken sequence and its place. -/
structure BrokenText where
  position : Nat
  bytes : Bytes
  cause : BrokenCause
  /-- The name of the encoding. -/
  encoding : String := "utf-8"

/-- The characters of pieces that stand at the given place, or the first broken one. -/
def wholeChars : (position : Nat) → (acc : List Char) → List Piece → Except BrokenText (List Char)
  | _, acc, [] => .ok acc.reverse
  | position, acc, .char c :: rest => wholeChars (position + c.utf8Size) (c :: acc) rest
  | position, _, .broken bytes cause :: _ => .error { position, bytes, cause }

/-- The text of some bytes, if they are well formed. -/
def decodeUtf8? (bs : Bytes) : Except BrokenText String :=
  (wholeChars 0 [] (pieces bs)).map String.ofList

/-- The wording of a cause. -/
def BrokenCause.text : BrokenCause → String
  | .invalidStart => "invalid start byte"
  | .invalidContinuation => "invalid continuation byte"
  | .unexpectedEnd => "unexpected end of data"
  | .truncated => "truncated data"
  | .noCodePoint => "code point not in range(0x110000)"

/-- The wording of a failure: the byte, or the places of several bytes, and the cause. -/
def BrokenText.message (e : BrokenText) : String :=
  let place := match e.bytes with
    | [b] =>
      "byte 0x" ++ String.ofList (hexPadded 2 b.toNat) ++ " in position " ++
        Number.natText e.position
    | bs =>
      "bytes in position " ++ Number.natText e.position ++ "-" ++
        Number.natText (e.position + bs.length - 1)
  "'" ++ e.encoding ++ "' codec can't decode " ++ place ++ ": " ++ e.cause.text

end WorkspaceTools.Text
