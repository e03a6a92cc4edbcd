import WorkspaceTools.Number.Shortest
import WorkspaceTools.Text.Quoted

/-!
# Documents

* `Json τ` is a document with texts of type `τ`: integers of any size and double-precision numbers are
  different values, and an object keeps its members in order. Where nothing else is said its texts are of
  characters: `Json` is `Json String`.
* `Json.member?` and `Json.setMember` look up and replace a member; replacing keeps its place, and a
  new member goes to the end.
* `Json.quoted` shows a document on one line, with texts in quotes; `Json.display` shows a text as
  itself and anything else quoted.
* `Json.isTruthy` fails for null, false, zero and everything empty.
-/

namespace WorkspaceTools

open Number

/-- A document. -/
inductive Json (τ : Type := String) where
  | null
  | bool (value : Bool)
  | int (value : Int)
  | float (value : Binary64)
  | str (value : τ)
  | arr (items : List (Json τ))
  | obj (members : List (τ × Json τ))
  deriving Inhabited

/-- Members of an object. -/
abbrev Members (τ : Type := String) := List (τ × Json τ)

/-- The kinds of document, told apart in messages. -/
inductive Kind where
  | null | bool | int | float | str | arr | obj
  deriving DecidableEq

/-- The name of a kind in messages. -/
def Kind.name : Kind → String
  | .null => "NoneType"
  | .bool => "bool"
  | .int => "int"
  | .float => "float"
  | .str => "str"
  | .arr => "list"
  | .obj => "dict"

namespace Json

/-- The kind of a document. -/
def kind {τ : Type} : Json τ → Kind
  | .null => .null
  | .bool _ => .bool
  | .int _ => .int
  | .float _ => .float
  | .str _ => .str
  | .arr _ => .arr
  | .obj _ => .obj

/-- Everything but null, false, zero and what is empty. -/
def isTruthy : Json → Bool
  | .null => false
  | .bool b => b
  | .int i => i != 0
  | .float x => x.isNonzero
  | .str s => s != ""
  | .arr xs => !xs.isEmpty
  | .obj ms => !ms.isEmpty

/-- The document is the given text. -/
def isText (s : String) : Json → Bool
  | .str t => t == s
  | _ => false

end Json

/-! ## Members -/

namespace Members

variable {τ : Type} [DecidableEq τ]

/-- The first member of a name. -/
def find? (name : τ) : Members τ → Option (Json τ)
  | [] => none
  | (k, v) :: rest => if k == name then some v else find? name rest

/-- The members with one replaced, or added at the end. -/
def set (name : τ) (value : Json τ) : Members τ → Members τ
  | [] => [(name, value)]
  | (k, v) :: rest => if k == name then (k, value) :: rest else (k, v) :: set name value rest

/-- The names in order. -/
def names {τ : Type} (ms : Members τ) : List τ := ms.map Prod.fst

@[simp] theorem find?_nil (name : τ) : find? name [] = none := rfl

theorem find?_set_self (name : τ) (value : Json τ) (ms : Members τ) :
    (ms.set name value).find? name = some value := by
  induction ms with
  | nil => simp [set, find?]
  | cons m rest ih =>
    by_cases h : m.1 == name <;> simp [set, find?, h, ih]

theorem find?_set_of_ne {name other : τ} (value : Json τ) (ms : Members τ) (h : name ≠ other) :
    (ms.set name value).find? other = ms.find? other := by
  induction ms with
  | nil => simp [set, find?, h]
  | cons m rest ih =>
    by_cases hk : m.1 = name
    · have : m.1 ≠ other := fun e => h (hk ▸ e)
      simp [set, find?, hk, h]
    · simp [set, find?, hk, ih]

end Members

namespace Json

/-- A member of an object; other documents have none. -/
def member? (name : String) : Json → Option Json
  | .obj ms => Members.find? name ms
  | _ => none

/-! ## Documents on one line -/

mutual

/-- A document on one line, texts in quotes. -/
def quotedChars : Json → List Char
  | .null => ['N', 'o', 'n', 'e']
  | .bool b => if b then ['T', 'r', 'u', 'e'] else ['F', 'a', 'l', 's', 'e']
  | .int i => intDigits i
  | .float x => (floatText plainFloat x).toList
  | .str s => Text.quotedChars s.toList
  | .arr [] => ['[', ']']
  | .arr (x :: xs) => '[' :: (quotedChars x ++ quotedItems xs)
  | .obj [] => ['\x7b', '\x7d']
  | .obj ((k, v) :: ms) =>
    '\x7b' :: (Text.quotedChars k.toList ++ ':' :: ' ' :: (quotedChars v ++ quotedMembers ms))

/-- Further items and the closing bracket. -/
def quotedItems : List Json → List Char
  | [] => [']']
  | x :: xs => ',' :: ' ' :: (quotedChars x ++ quotedItems xs)

/-- Further members and the closing brace. -/
def quotedMembers : List (String × Json) → List Char
  | [] => ['\x7d']
  | (k, v) :: ms =>
    ',' :: ' ' :: (Text.quotedChars k.toList ++ ':' :: ' ' :: (quotedChars v ++ quotedMembers ms))

end

/-- A document on one line, texts in quotes. -/
def quoted (v : Json) : String := String.ofList v.quotedChars

/-- A text as itself, anything else on one line. -/
def display : Json → String
  | .str s => s
  | v => v.quoted

/-- A text or null. -/
def ofText? : Option String → Json
  | some s => .str s
  | none => .null

/-- A natural number. -/
def ofNat (n : Nat) : Json := .int n

/-- A list of texts. -/
def ofTexts (ss : List String) : Json := .arr (ss.map .str)

end Json

end WorkspaceTools
