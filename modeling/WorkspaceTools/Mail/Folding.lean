import WorkspaceTools.Mail.EncodedWord
import WorkspaceTools.Text.Blank

/-!
# Folded headers

`foldHeader` writes the value of a header over lines of at most 78 characters where it can. A plain
value is folded before white space, if possible behind a semicolon, else behind a comma, else at any
space; a value with other characters is written in encoded words. The line breaks that a value has
already are kept.
-/

namespace WorkspaceTools.Mail

open Text

/-- The most characters of a line. -/
def lineLimit : Nat := 78

/-- A word of a header and the blanks before it. -/
structure Chunk where
  blanks : List Char
  word : List Char
  deriving DecidableEq

/-- The characters of a chunk. -/
def Chunk.chars (c : Chunk) : List Char := c.blanks ++ c.word

/-- The lines that are complete, last one first, and the one that has begun. `taken` is the room that
the name of the header takes on the first line. -/
structure Folding where
  lines : List (List Char) := []
  taken : Nat
  chunks : List Chunk := []

namespace Folding

/-- The characters of the present line. -/
def line (f : Folding) : List Char := f.chunks.flatMap Chunk.chars

/-- The length of the present line. -/
def length (f : Folding) : Nat := f.taken + f.line.length

/-- A chunk at the end of the present line. -/
def push (blanks word : List Char) (f : Folding) : Folding :=
  { f with chunks := f.chunks ++ [⟨blanks, word⟩] }

/-- The mark that ends a value. -/
def endMark : Chunk := ⟨[' '], []⟩

/-- Without an end mark at the end of the line. -/
def dropEndMark (chunks : List Chunk) : List Chunk :=
  if chunks.getLast? == some endMark then chunks.dropLast else chunks

/-- The present line is complete. White space alone belongs to the line before it. -/
def newLine (f : Folding) : Folding :=
  let f := { f with chunks := dropEndMark f.chunks }
  let line := f.line
  let lines :=
    if f.length = 0 then f.lines
    else
      match f.lines with
      | before :: rest =>
        if f.taken = 0 && line.all isBlank then (before ++ line) :: rest else line :: f.lines
      | [] => [line]
  ⟨lines, 0, []⟩

/-- The characters to break behind, best ones first; blanks stand for breaks before them. -/
def breakChars : List Char := [';', ',', ' ', '\t']

/-- A line can be broken before a chunk. -/
def breaksBefore (mark : Char) (previous chunk : Chunk) : Bool :=
  (isBlank mark && chunk.blanks.head? == some mark) || previous.word.getLast? == some mark

/-- The last place where a line can be broken for a mark: the chunks before it and from it on. -/
def lastBreak? (mark : Char) : List Chunk → Option (List Chunk × List Chunk)
  | previous :: chunk :: rest =>
    match lastBreak? mark (chunk :: rest) with
    | some (before, after) => some (previous :: before, after)
    | none =>
      if breaksBefore mark previous chunk then some ([previous], chunk :: rest) else none
  | _ => none

/-- The best place where a line can be broken. -/
def bestBreak? (chunks : List Chunk) : Option (List Chunk × List Chunk) :=
  breakChars.findSome? fun mark => lastBreak? mark chunks

/-- A chunk at the end of the present line, which is broken if it becomes too long. Where it cannot be
broken the chunk goes on a line of its own behind the name of the header. -/
def append (blanks word : List Char) (f : Folding) : Folding :=
  let g := f.push blanks word
  if g.length ≤ lineLimit then g
  else
    match bestBreak? g.chunks with
    | some (before, after) => ⟨before.flatMap Chunk.chars :: g.lines, 0, after⟩
    | none =>
      if 0 < f.taken then f.newLine.push (if blanks.isEmpty then [' '] else blanks) word
      else g

/-- The blanks that a plain line can be folded at. -/
def isFoldingBlank (c : Char) : Bool := c == ' ' || c == '\t'

/-- A plain line as chunks; a chunk has begun with its blanks and, last one first, the characters of
its word. -/
def chunksFrom (blanks word : List Char) : List Char → List Chunk
  | [] => if blanks.isEmpty && word.isEmpty then [] else [⟨blanks.reverse, word.reverse⟩]
  | c :: rest =>
    if isFoldingBlank c then
      if word.isEmpty then chunksFrom (c :: blanks) [] rest
      else ⟨blanks.reverse, word.reverse⟩ :: chunksFrom [c] [] rest
    else chunksFrom blanks (c :: word) rest

/-- A plain line. -/
def appendPlain (cs : List Char) (f : Folding) : Folding :=
  (chunksFrom [] [] cs).foldl (fun f c => f.append c.blanks c.word) f

/-- A line in encoded words, the first one behind the given blanks. -/
def appendEncoded (blanks cs : List Char) (f : Folding) : Folding :=
  match encodedLines ((lineLimit : Int) - f.length) ((lineLimit : Int) - 1) cs with
  | [] => f
  | first :: rest =>
    let f := match first with
      | some word => f.append blanks word
      | none => f
    match rest.getLast? with
    | none => f
    | some last =>
      let f := f.newLine.push [' '] (last.getD [])
      { f with lines := (rest.dropLast.map fun w => ' ' :: w.getD []).reverse ++ f.lines }

end Folding

/-! ## Values -/

/-- The characters that end a line of a value. -/
def endsLine (c : Char) : Bool :=
  let n := c.toNat
  (10 ≤ n && n ≤ 13) || (0x1C ≤ n && n ≤ 0x1E) || n == 0x85 || n == 0x2028 || n == 0x2029

/-- The lines of a value; `line` is the one that has begun, last character first. -/
def valueLinesFrom (line : List Char) : List Char → List (List Char)
  | [] => if line.isEmpty then [] else [line.reverse]
  | '\r' :: '\n' :: rest => line.reverse :: valueLinesFrom [] rest
  | c :: rest => if endsLine c then line.reverse :: valueLinesFrom [] rest else valueLinesFrom (c :: line) rest

/-- The lines of a value. -/
def valueLines (cs : List Char) : List (List Char) := valueLinesFrom [] cs

/-- The value is written as it is. -/
def isPlain (cs : List Char) : Bool := cs.all fun c => c.toNat < 0x80

/-- The first line of a value. -/
def feedFirst (plain : Bool) (cs : List Char) (f : Folding) : Folding :=
  if plain then f.appendPlain cs else f.appendEncoded [] cs

/-- A further line of a value; in encoded words it begins with one space. -/
def feedNext (plain : Bool) (f : Folding) (cs : List Char) : Folding :=
  let f := f.newLine
  if plain then f.appendPlain cs else f.appendEncoded [' '] (' ' :: cs.dropWhile isBlank)

/-- The lines of a folded value whose header has a name of the given length. -/
def foldedLines (nameLength : Nat) (cs : List Char) : List (List Char) :=
  let plain := isPlain cs
  let start : Folding := { taken := nameLength + 2 }
  let lines := valueLines cs
  let fed := (lines.drop 1).foldl (feedNext plain) (feedFirst plain (lines.head?.getD []) start)
  let fed := if 1 < lines.length then fed.newLine else fed
  (fed.push [' '] []).newLine.lines.reverse

/-- A line break, then no blank up to a colon that does not follow it at once: what looks like a header
of its own. -/
def holdsHeader : List Char → Bool
  | [] => false
  | c :: rest =>
    (c == '\n' && ((rest.drop 1).takeWhile fun d => d != ' ' && d != '\t').contains ':'
      && !(rest.head?.any fun d => d == ' ' || d == '\t')) || holdsHeader rest

/-- The folded value of a header, or the value in which another header is hidden. -/
def foldHeader (name value : String) : Except String String :=
  let folded := ['\n'].intercalate (foldedLines name.length value.toList)
  if holdsHeader folded then .error (String.ofList folded) else .ok (String.ofList folded)

end WorkspaceTools.Mail
