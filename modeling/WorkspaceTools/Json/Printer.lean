import WorkspaceTools.Json.Value
import WorkspaceTools.Text.Unit

/-!
# Document text

* `Json.renderAt` writes a document on one line, or with one member or item a line; `Json.pretty` indents
  the lines by two blanks a level. Texts are written unit by unit: a unit outside printable ASCII is an
  escape, so that a character beyond U+FFFF is two.
-/

namespace WorkspaceTools.Json

open Number Text

/-- A four-digit escape. -/
def unicodeEscape (u : UInt16) : List Char := '\\' :: 'u' :: hexPadded 4 u.toNat

/-- The units with an escape of one letter, and the letter. -/
def shortEscapes : List (UInt16 × Char) :=
  [(0x22, '"'), (0x5C, '\\'), (0x0A, 'n'), (0x0D, 'r'), (0x09, 't'), (0x08, 'b'), (0x0C, 'f')]

/-- One unit of a written text. -/
def escapeUnit (u : UInt16) : List Char :=
  match shortEscapes.lookup u with
  | some c => ['\\', c]
  | none => if 0x20 ≤ u.toNat && u.toNat ≤ 0x7E then [Char.ofNat u.toNat] else unicodeEscape u

variable {τ : Type} [UnitText τ]

/-- A text between double quotes. -/
def stringChars (t : τ) : List Char :=
  '"' :: ((UnitText.units t).flatMap escapeUnit ++ ['"'])

/-- The break before an item at a level, or nothing when all stands on one line. -/
def lineBreak (indent : Option Nat) (level : Nat) : List Char :=
  match indent with
  | none => []
  | some n => '\n' :: List.replicate (n * level) ' '

/-- What stands between two items. -/
def itemSeparator (indent : Option Nat) (level : Nat) : List Char :=
  match indent with
  | none => [',', ' ']
  | some n => ',' :: '\n' :: List.replicate (n * level) ' '

mutual

/-- A document written at a level of indentation. -/
def renderAt (indent : Option Nat) (level : Nat) : Json τ → List Char
  | .null => ['n', 'u', 'l', 'l']
  | .bool b => if b then ['t', 'r', 'u', 'e'] else ['f', 'a', 'l', 's', 'e']
  | .int i => intDigits i
  | .float x => (floatText documentFloat x).toList
  | .str s => stringChars s
  | .arr [] => ['[', ']']
  | .arr (x :: xs) =>
    '[' :: (lineBreak indent (level + 1) ++ (renderAt indent (level + 1) x
      ++ renderItems indent level xs))
  | .obj [] => ['\x7b', '\x7d']
  | .obj ((k, v) :: ms) =>
    '\x7b' :: (lineBreak indent (level + 1) ++ (stringChars k ++ ':' :: ' ' ::
      (renderAt indent (level + 1) v ++ renderMembers indent level ms)))

/-- The items after the first and the closing bracket of a list at a level. -/
def renderItems (indent : Option Nat) (level : Nat) : List (Json τ) → List Char
  | [] => lineBreak indent level ++ [']']
  | x :: xs =>
    itemSeparator indent (level + 1) ++ (renderAt indent (level + 1) x
      ++ renderItems indent level xs)

/-- The members after the first and the closing brace of an object at a level. -/
def renderMembers (indent : Option Nat) (level : Nat) : List (τ × Json τ) → List Char
  | [] => lineBreak indent level ++ ['\x7d']
  | (k, v) :: ms =>
    itemSeparator indent (level + 1) ++ (stringChars k ++ ':' :: ' ' ::
      (renderAt indent (level + 1) v ++ renderMembers indent level ms))

end

/-- A document over several lines. -/
def pretty (v : Json τ) : String := String.ofList (renderAt (some 2) 0 v)

end WorkspaceTools.Json
