import WorkspaceTools.Check.Issue
import WorkspaceTools.Text.Utf8

/-!
# Rejected documents

* A `Rejection` is a document that is no value of its model, with its issues.
* `Rejection.report` words it over several lines: how many issues there are, and for each one its place,
  what it says, the value it is about, and where more is said of its kind.
* `shortened` leaves out the middle of a long text.
-/

namespace WorkspaceTools

open Number Text

/-- A document that is no value of a model. -/
structure Rejection where
  model : String
  document : Json
  issues : List Issue

/-! ## Values in reports -/

/-- As many characters from the head of a text as have at most the given count of bytes. -/
def takeBytes : (bytes : Nat) → List Char → List Char
  | _, [] => []
  | bytes, c :: rest => if c.utf8Size ≤ bytes then c :: takeBytes (bytes - c.utf8Size) rest else []

/-- As many characters from the end of a text as have at most the given count of bytes. -/
def takeEndBytes (bytes : Nat) (cs : List Char) : List Char := (takeBytes bytes cs.reverse).reverse

/-- A text with points in the place of its middle, if it has more than 50 bytes. -/
def shortened (cs : List Char) : List Char :=
  if (encodeUtf8Chars cs).length ≤ 50 then cs
  else takeBytes 25 cs ++ ['.', '.', '.'] ++ takeEndBytes 24 cs

/-- The part of a document that one step leads to. -/
def Json.after? (v : Json) (step : PathStep) : Option Json :=
  match v, step with
  | .obj ms, .member name => Members.find? name ms
  | .arr vs, .item index => vs[index]?
  | _, _ => none

/-- The part of a document at a place, or the last part on the way to it that is there. -/
def Json.nearest (v : Json) : List PathStep → Json
  | [] => v
  | step :: rest =>
    match v.after? step with
    | some part => part.nearest rest
    | none => v

/-! ## Reports -/

/-- The edition of the catalogue of issues. -/
def catalogueEdition : String := "2.14"

/-- Where more is said of a kind of issue. -/
def IssueCause.catalogueAddress (cause : IssueCause) : String :=
  "https:" ++ "//errors.pydantic.dev/" ++ catalogueEdition ++ "/v/" ++ cause.code

/-- The lines of a report on one issue. -/
def Rejection.issueLines (r : Rejection) (issue : Issue) : List String :=
  let value := r.document.nearest issue.path
  [".".intercalate (issue.path.map PathStep.text),
    "  " ++ issue.cause.message ++ " [type=" ++ issue.cause.code ++ ", input_value="
      ++ String.ofList (shortened value.quotedChars) ++ ", input_type=" ++ value.kind.name ++ "]",
    "    For further information visit " ++ issue.cause.catalogueAddress]

/-- A rejection over several lines. -/
def Rejection.report (r : Rejection) : String :=
  "\n".intercalate
    ((IssueCause.counted r.issues.length "validation error" ++ " for " ++ r.model)
      :: r.issues.flatMap r.issueLines)

/-! ## Small laws -/

@[simp] theorem nearest_nil (v : Json) : v.nearest [] = v := rfl

theorem shortened_of_le {cs : List Char} (h : (encodeUtf8Chars cs).length ≤ 50) : shortened cs = cs := by
  rw [shortened, if_pos h]

end WorkspaceTools
