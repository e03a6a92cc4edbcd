import WorkspaceTools.Grid.Column
import WorkspaceTools.Json.Value

/-!
# Schemas

* A `Schema` describes documents by a list of keywords; their order decides in which order they are
  checked.
* `Schema.toJson` writes a schema as a document.
* A reference to a definition holds the definition itself, so that schemas are trees; its name is what is
  written.
-/

namespace WorkspaceTools

/-- The types of a schema. -/
inductive TypeName where
  | object | array | string | integer | number | boolean | null
  deriving DecidableEq, Inhabited

/-- The name of a type. -/
def TypeName.text : TypeName → String
  | .object => "object"
  | .array => "array"
  | .string => "string"
  | .integer => "integer"
  | .number => "number"
  | .boolean => "boolean"
  | .null => "null"

/-- The type of documents of a kind; integers and other numbers are told apart. -/
def TypeName.admits (v : Json) : TypeName → Bool
  | .object => v.kind = .obj
  | .array => v.kind = .arr
  | .string => v.kind = .str
  | .boolean => v.kind = .bool
  | .null => v.kind = .null
  | .number => v.kind = .int ∨ v.kind = .float
  | .integer =>
    match v with
    | .int _ => true
    | .float x => x.toInt?.isSome
    | _ => false

/-- A keyword of a schema. -/
inductive Keyword where
  /-- One of some types. -/
  | type (names : List TypeName)
  /-- Schemas for the members of an object. -/
  | properties (members : List (String × List Keyword))
  /-- Members that an object has to have. -/
  | required (names : List String)
  /-- No members of an object besides those with schemas. -/
  | closed
  /-- A schema for the items of a list. -/
  | items (schema : List Keyword)
  /-- At least one of some schemas. -/
  | anyOf (schemas : List (List Keyword))
  /-- The definition of the given name. -/
  | ref (name : String) (schema : List Keyword)
  /-- Definitions; by themselves they demand nothing. -/
  | definitions (schemas : List (String × List Keyword))
  /-- One of some texts. -/
  | enum (names : List String)
  /-- A text of column letters. -/
  | columnLetters
  | minItems (count : Nat)
  | minLength (count : Nat)
  | maxLength (count : Nat)
  | minimum (bound : Int)
  | maximum (bound : Int)
  | exclusiveMinimum (bound : Int)
  /-- Something said of a document that demands nothing. -/
  | note (name : String) (value : Json)

/-- A schema. -/
abbrev Schema := List Keyword

namespace Schema

/-! ## Notes -/

/-- A description. -/
def about (text : String) : Keyword := .note "description" (.str text)

/-- A title. -/
def titled (text : String) : Keyword := .note "title" (.str text)

/-- What a missing member stands for. -/
def default (value : Json) : Keyword := .note "default" value

/-! ## Schemas as documents -/

/-- The document of a list of types. -/
def typesJson : List TypeName → Json
  | [name] => .str name.text
  | names => .ofTexts (names.map TypeName.text)

mutual

/-- A keyword as a member of an object. -/
def keywordMember : Keyword → String × Json
  | .type names => ("type", typesJson names)
  | .properties members => ("properties", .obj (namedMembers members))
  | .required names => ("required", .ofTexts names)
  | .closed => ("additionalProperties", .bool false)
  | .items schema => ("items", .obj (keywordMembers schema))
  | .anyOf schemas => ("anyOf", .arr (schemaItems schemas))
  | .ref name _ => ("$ref", .str ("#/$defs/" ++ name))
  | .definitions schemas => ("$defs", .obj (namedMembers schemas))
  | .enum names => ("enum", .ofTexts names)
  | .columnLetters => ("pattern", .str columnPattern)
  | .minItems count => ("minItems", .ofNat count)
  | .minLength count => ("minLength", .ofNat count)
  | .maxLength count => ("maxLength", .ofNat count)
  | .minimum bound => ("minimum", .int bound)
  | .maximum bound => ("maximum", .int bound)
  | .exclusiveMinimum bound => ("exclusiveMinimum", .int bound)
  | .note name value => (name, value)

/-- Keywords as members of an object. -/
def keywordMembers : List Keyword → Members
  | [] => []
  | k :: ks => keywordMember k :: keywordMembers ks

/-- Named schemas as members of an object. -/
def namedMembers : List (String × List Keyword) → Members
  | [] => []
  | (name, schema) :: rest => (name, .obj (keywordMembers schema)) :: namedMembers rest

/-- Schemas as items of a list. -/
def schemaItems : List (List Keyword) → List Json
  | [] => []
  | schema :: rest => .obj (keywordMembers schema) :: schemaItems rest

end

/-- A schema as a document. -/
def toJson (schema : Schema) : Json := .obj (keywordMembers schema)

end Schema

end WorkspaceTools
