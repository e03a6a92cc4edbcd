import WorkspaceTools.Json.Reader
import WorkspaceTools.Text.LowerCase

/-!
# Access to documents of unknown shape

* `ShapeFault` says what a document was asked for that its kind does not have, and
  `ShapeFault.message` words it.
* `Json.lookup` and `Json.item` find a member, `Json.first` and `Json.last` an item; `Json.elements`
  lists the items of a list, the characters of a text or the names of an object; `Json.size` counts
  them, and `Json.joined` puts texts together.
* On objects and lists of the expected shape none of these fails.
-/

namespace WorkspaceTools

open Number Text

/-- What a document was asked for in vain. -/
inductive ShapeFault where
  /-- An operation that documents of the kind do not have. -/
  | noOperation (kind : Kind) (name : String)
  /-- No member of the name, or of the number. -/
  | noMember (key : Json)
  | outOfRange (kind : Kind)
  | noItems (kind : Kind)
  | noSize (kind : Kind)
  | noParts (kind : Kind)
  /-- A name where a number is wanted. -/
  | nameAsIndex (kind : Kind)
  | noMembership (kind : Kind)
  | notJoinable
  /-- An item of a list of texts is none. -/
  | itemNotText (index : Nat) (kind : Kind)
  | notDivisible (kind : Kind)
  | quotientTooLarge
  | notAppendable (kind : Kind)
  | notOrdered (left right : Kind)
  | notAName (kind : String)
  | notBytes
  | notAFileName (kind : Kind)
  | notATimeText
  | notMatchable (kind : Kind)
  /-- A document that could not be read for the lists and objects in one another. -/
  | tooDeep (kind : Kind)
  deriving Inhabited

/-- The name of a kind between quotes. -/
def Kind.quotedName (k : Kind) : String := "'" ++ k.name ++ "'"

/-- The wording of a fault. -/
def ShapeFault.message : ShapeFault → String
  | .noOperation kind name => kind.quotedName ++ " object has no attribute '" ++ name ++ "'"
  | .noMember key => key.quoted
  | .outOfRange .str => "string index out of range"
  | .outOfRange kind => kind.name ++ " index out of range"
  | .noItems kind => kind.quotedName ++ " object is not iterable"
  | .noSize kind => "object of type " ++ kind.quotedName ++ " has no len()"
  | .noParts kind => kind.quotedName ++ " object is not subscriptable"
  | .nameAsIndex .str => "string indices must be integers, not 'str'"
  | .nameAsIndex kind => kind.name ++ " indices must be integers or slices, not str"
  | .noMembership kind => "argument of type " ++ kind.quotedName ++ " is not iterable"
  | .notJoinable => "can only join an iterable"
  | .itemNotText index kind =>
    "sequence item " ++ natText index ++ ": expected str instance, " ++ kind.name ++ " found"
  | .notDivisible kind => "unsupported operand type(s) for /: " ++ kind.quotedName ++ " and 'int'"
  | .quotientTooLarge => "integer division result too large for a float"
  | .notAppendable .arr => "can only concatenate list (not \"str\") to list"
  | .notAppendable kind => "unsupported operand type(s) for +: " ++ kind.quotedName ++ " and 'str'"
  | .notOrdered left right =>
    "'<' not supported between instances of " ++ left.quotedName ++ " and " ++ right.quotedName
  | .notAName kind => "unhashable type: '" ++ kind ++ "'"
  | .notBytes => "quote_from_bytes() expected bytes"
  | .notAFileName kind => "expected str, bytes or os.PathLike object, not " ++ kind.name
  | .notATimeText => "fromisoformat: argument must be str"
  | .notMatchable kind => "expected string or bytes-like object, got " ++ kind.quotedName
  | .tooDeep kind => tooDeepText kind

/-- A value, or the fault of a document on the way to it. -/
abbrev Shaped (α : Type) := Except ShapeFault α

namespace Json

/-- The document, or another one when it is null, false, zero or empty. -/
def orElse (v other : Json) : Json := if v.isTruthy then v else other

/-! ## Members -/

/-- The members of an object; the name of the operation tells which access failed. -/
def membersFor (operation : String) : Json → Shaped Members
  | .obj ms => .ok ms
  | v => .error (.noOperation v.kind operation)

/-- A member that may be missing. -/
def lookup? (name : String) (v : Json) : Shaped (Option Json) :=
  (v.membersFor "get").map (Members.find? name)

/-- A member, or a default where it is missing. -/
def lookup (v : Json) (name : String) (default : Json) : Shaped Json :=
  (v.lookup? name).map (·.getD default)

/-- A member, or null where it is missing. -/
def field (name : String) (v : Json) : Shaped Json := v.lookup name .null

/-- A member that has to be there. -/
def item (name : String) : Json → Shaped Json
  | .obj ms =>
    match Members.find? name ms with
    | some v => .ok v
    | none => .error (.noMember (.str name))
  | .str _ => .error (.nameAsIndex .str)
  | .arr _ => .error (.nameAsIndex .arr)
  | v => .error (.noParts v.kind)

/-- The names and values of an object in order. -/
def entries (v : Json) : Shaped Members := v.membersFor "items"

/-- A name is among the members of an object, the parts of a text or the items of a list. -/
def hasName (name : String) : Json → Shaped Bool
  | .obj ms => .ok (Members.find? name ms).isSome
  | .arr xs => .ok (xs.any (·.isText name))
  | .str s => .ok (isInfixOf name.toList s.toList)
  | v => .error (.noMembership v.kind)
where
  /-- The characters stand side by side in a text. -/
  isInfixOf (part : List Char) : List Char → Bool
    | [] => part.isEmpty
    | c :: rest => part.isPrefixOf (c :: rest) || isInfixOf part rest

/-! ## Items -/

/-- A text of one character. -/
def ofChar (c : Char) : Json := .str (String.singleton c)

/-- The items of a list, the characters of a text or the names of an object. -/
def elements? : Json → Option (List Json)
  | .arr xs => some xs
  | .str s => some (s.toList.map ofChar)
  | .obj ms => some (ms.map fun m => .str m.1)
  | _ => none

/-- The items of a list, the characters of a text or the names of an object. -/
def elements (v : Json) : Shaped (List Json) :=
  match v.elements? with
  | some xs => .ok xs
  | none => .error (.noItems v.kind)

/-- What a function gives for each item. -/
def mapItems {α : Type} (f : Json → Shaped α) (v : Json) : Shaped (List α) := do
  (← v.elements).mapM f

/-- How many items there are. -/
def size (v : Json) : Shaped Nat :=
  match v.elements? with
  | some xs => .ok xs.length
  | none => .error (.noSize v.kind)

/-- One end of a list or of a text; an object has no such member. -/
def endItem (pick : List Json → Option Json) (index : Int) : Json → Shaped Json
  | .obj _ => .error (.noMember (.int index))
  | v =>
    match v.elements? with
    | some xs =>
      match pick xs with
      | some x => .ok x
      | none => .error (.outOfRange v.kind)
    | none => .error (.noParts v.kind)

/-- The first item. -/
def first (v : Json) : Shaped Json := v.endItem List.head? 0

/-- The last item. -/
def last (v : Json) : Shaped Json := v.endItem List.getLast? (-1)

/-! ## Texts -/

/-- The texts of a list, the first of which has the given index. -/
def textsFrom : (index : Nat) → List Json → Shaped (List String)
  | _, [] => .ok []
  | index, .str s :: rest => (textsFrom (index + 1) rest).map (s :: ·)
  | index, v :: _ => .error (.itemNotText index v.kind)

/-- Texts put together with a separator. -/
def joinItems (separator : String) (items : List Json) : Shaped String :=
  (textsFrom 0 items).map separator.intercalate

/-- The texts of a document put together with a separator. -/
def joined (separator : String) (v : Json) : Shaped String :=
  match v.elements? with
  | some xs => joinItems separator xs
  | none => .error .notJoinable

/-- A text in lower case. -/
def lowerText : Json → Shaped String
  | .str s => .ok (lowerCase s)
  | v => .error (.noOperation v.kind "lower")

/-! ## Small laws -/

@[simp] theorem lookup?_obj (name : String) (ms : Members) :
    lookup? name (.obj ms) = .ok (ms.find? name) := rfl

@[simp] theorem lookup_obj (name : String) (default : Json) (ms : Members) :
    lookup (.obj ms) name default = .ok ((ms.find? name).getD default) := rfl

@[simp] theorem field_obj (name : String) (ms : Members) :
    field name (.obj ms) = .ok ((ms.find? name).getD .null) := rfl

@[simp] theorem entries_obj (ms : Members) : entries (.obj ms) = .ok ms := rfl

@[simp] theorem elements_arr (xs : List Json) : elements (.arr xs) = .ok xs := rfl

@[simp] theorem size_arr (xs : List Json) : size (.arr xs) = .ok xs.length := rfl

theorem textsFrom_map_str (index : Nat) (ss : List String) :
    textsFrom index (ss.map .str) = .ok ss := by
  induction ss generalizing index with
  | nil => rfl
  | cons s rest ih => simp [textsFrom, ih, Except.map]

theorem joinItems_map_str (separator : String) (ss : List String) :
    joinItems separator (ss.map .str) = .ok (separator.intercalate ss) := by
  simp [joinItems, textsFrom_map_str, Except.map]

end Json

end WorkspaceTools
