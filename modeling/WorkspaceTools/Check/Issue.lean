import WorkspaceTools.Json.Value

/-!
# Issues with a document

* `Issue` is something wrong at a place of a document; `IssueCause` says what, with `code` and
  `message`.
* `Checked α` is a checked value or the list of all issues, in the order in which the parts are
  checked.
* `describeIssues` words a list of issues on one line.
-/

namespace WorkspaceTools

open Number

/-- What can be wrong with a part of a document. -/
inductive IssueCause where
  | missing
  | extraForbidden
  /-- Not an object, where one of the named model is wanted. -/
  | notModel (model : String)
  | notText
  | textTooShort (least : Nat)
  | patternMismatch (pattern : String)
  | notInt
  | intUnreadable
  | intTooLong
  | intFromFraction
  | notFinite
  | lessThan (bound : Int)
  | notGreaterThan (bound : Int)
  | notFloat
  | floatUnreadable
  | notBool
  | boolUnreadable
  | notList
  | listTooShort (least actual : Nat)
  /-- None of the names of an enumeration. -/
  | notMember (names : List String)
  | notTime
  | timeUnreadable (reason : String)
  | dateUnreadable (reason : String)
  /-- A rule that ties several parts together. -/
  | rule (text : String)
  deriving DecidableEq, Inhabited

namespace IssueCause

/-- The code of a cause. -/
def code : IssueCause → String
  | .missing => "missing"
  | .extraForbidden => "extra_forbidden"
  | .notModel _ => "model_type"
  | .notText => "string_type"
  | .textTooShort _ => "string_too_short"
  | .patternMismatch _ => "string_pattern_mismatch"
  | .notInt => "int_type"
  | .intUnreadable => "int_parsing"
  | .intTooLong => "int_parsing_size"
  | .intFromFraction => "int_from_float"
  | .notFinite => "finite_number"
  | .lessThan _ => "greater_than_equal"
  | .notGreaterThan _ => "greater_than"
  | .notFloat => "float_type"
  | .floatUnreadable => "float_parsing"
  | .notBool => "bool_type"
  | .boolUnreadable => "bool_parsing"
  | .notList => "list_type"
  | .listTooShort .. => "too_short"
  | .notMember _ => "enum"
  | .notTime => "datetime_type"
  | .timeUnreadable _ => "datetime_parsing"
  | .dateUnreadable _ => "datetime_from_date_parsing"
  | .rule _ => "value_error"

/-- A count with its noun, which takes an s unless the count is one. -/
def counted (n : Nat) (noun : String) : String :=
  natText n ++ " " ++ noun ++ (if n = 1 then "" else "s")

/-- Quoted names with commas, and with "or" before the last one. -/
def alternatives : List String → String
  | [] => ""
  | [a] => "'" ++ a ++ "'"
  | [a, b] => "'" ++ a ++ "' or '" ++ b ++ "'"
  | a :: rest => "'" ++ a ++ "', " ++ alternatives rest

/-- The wording of a cause. -/
def message : IssueCause → String
  | .missing => "Field required"
  | .extraForbidden => "Extra inputs are not permitted"
  | .notModel model => "Input should be a valid dictionary or instance of " ++ model
  | .notText => "Input should be a valid string"
  | .textTooShort least => "String should have at least " ++ counted least "character"
  | .patternMismatch pattern => "String should match pattern '" ++ pattern ++ "'"
  | .notInt => "Input should be a valid integer"
  | .intUnreadable => "Input should be a valid integer, unable to parse string as an integer"
  | .intTooLong => "Unable to parse input string as an integer, exceeded maximum size"
  | .intFromFraction => "Input should be a valid integer, got a number with a fractional part"
  | .notFinite => "Input should be a finite number"
  | .lessThan bound => "Input should be greater than or equal to " ++ intText bound
  | .notGreaterThan bound => "Input should be greater than " ++ intText bound
  | .notFloat => "Input should be a valid number"
  | .floatUnreadable => "Input should be a valid number, unable to parse string as a number"
  | .notBool => "Input should be a valid boolean"
  | .boolUnreadable => "Input should be a valid boolean, unable to interpret input"
  | .notList => "Input should be a valid list"
  | .listTooShort least actual =>
    "List should have at least " ++ counted least "item" ++ " after validation, not "
      ++ natText actual
  | .notMember names => "Input should be " ++ alternatives names
  | .notTime => "Input should be a valid datetime"
  | .timeUnreadable reason => "Input should be a valid datetime, " ++ reason
  | .dateUnreadable reason => "Input should be a valid datetime or date, " ++ reason
  | .rule text => "Value error, " ++ text

end IssueCause

/-- A step on the way to a part of a document. -/
inductive PathStep where
  | member (name : String)
  | item (index : Nat)
  deriving DecidableEq, Inhabited

/-- Something wrong at a place of a document. -/
structure Issue where
  path : List PathStep
  cause : IssueCause
  deriving DecidableEq, Inhabited

/-- A step in words. -/
def PathStep.text : PathStep → String
  | .member name => name
  | .item index => natText index

/-- The place and the wording of an issue. -/
def Issue.text (issue : Issue) : String :=
  let place := ".".intercalate (issue.path.map PathStep.text)
  (if place = "" then "(root)" else place) ++ ": " ++ issue.cause.message

/-- Issues on one line. -/
def describeIssues (issues : List Issue) : String :=
  "Invalid arguments: " ++ "; ".intercalate (issues.map Issue.text)

/-! ## Checked values -/

/-- A checked value, or all issues. -/
abbrev Checked (α : Type) := Except (List Issue) α

/-- One issue with the document itself. -/
def issueHere {α : Type} (cause : IssueCause) : Checked α := .error [⟨[], cause⟩]

namespace Checked

/-- The issues; there are none with a value. -/
def issues {α : Type} : Checked α → List Issue
  | .ok _ => []
  | .error es => es

/-- The same result for a part that one more step leads to. -/
def under {α : Type} (step : PathStep) : Checked α → Checked α
  | .ok a => .ok a
  | .error es => .error (es.map fun e => { e with path := step :: e.path })

/-- A value that also meets a rule. -/
def ensure {α : Type} (p : α → Bool) (cause : IssueCause) : Checked α → Checked α
  | .ok a => if p a then .ok a else issueHere cause
  | .error es => .error es

/-- The first of several alternatives that succeeds, or the issues of all of them. -/
def firstOf {α : Type} : List (Checked α) → Checked α
  | [] => .error []
  | .ok a :: _ => .ok a
  | .error es :: rest =>
    match firstOf rest with
    | .ok a => .ok a
    | .error more => .error (es ++ more)

end Checked

end WorkspaceTools
