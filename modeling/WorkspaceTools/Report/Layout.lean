import WorkspaceTools.Json.Access
import WorkspaceTools.Json.Reader

/-!
# Layout of reports

* A report is Markdown text, made of lines that `unlines` puts together.
* `truncate` cuts a text that is too long and says so.
* `shownField` shows a member of a document, and `shownOr` a default where it is null, false, zero or
  empty.
* `kilobytes` shows a size in units of 1024 with one decimal place.
-/

namespace WorkspaceTools.Report

open Number Text

/-- Lines of a report as one text. -/
def unlines (lines : List String) : String := "\n".intercalate lines

/-- The most characters of a report. -/
def characterLimit : Int := 25000

/-- What follows a text that was cut. -/
def truncationNotice : String := "\n\n[Data truncated...]"

/-- The characters that are kept of a text of a given length; a negative limit counts from the end. -/
def keptLength (length : Nat) (limit : Int) : Nat :=
  if limit < 0 then (length + limit).toNat else limit.toNat

/-- A text cut at a limit, with a notice where something was cut. -/
def truncateAt (limit : Int) (text : String) : String :=
  let cs := text.toList
  if (cs.length : Int) ≤ limit then text
  else String.ofList (cs.take (keptLength cs.length limit)) ++ truncationNotice

/-- A text cut at the usual limit. -/
def truncate (text : String) : String := truncateAt characterLimit text

/-- A text set as code. -/
def inCode (s : String) : String := "\x60" ++ s ++ "\x60"

/-- A line of a list that names what it shows. -/
def labelled (label text : String) : String := "- **" ++ label ++ "**: " ++ text

/-- A line that names what it shows. -/
def entitled (label text : String) : String := "**" ++ label ++ "**: " ++ text

/-- A member as it is shown. -/
def shownField (name : String) (v : Json) : Shaped String := (v.field name).map Json.display

/-- A member as it is shown, with a default for what is missing. -/
def shownFieldOr (name : String) (default : Json) (v : Json) : Shaped String :=
  (v.lookup name default).map Json.display

/-- A member as it is shown, or a default text where it is null, false, zero or empty. -/
def shownOr (name default : String) (v : Json) : Shaped String :=
  (v.field name).map fun x => (x.orElse (.str default)).display

/-- A member that has to be there, as it is shown. -/
def shownItem (name : String) (v : Json) : Shaped String := (v.item name).map Json.display

/-- Lines for a member unless it is null, false, zero or empty. -/
def ifTruthy (name : String) (v : Json) (lines : Json → Shaped (List String)) :
    Shaped (List String) := do
  let x ← v.field name
  if x.isTruthy then lines x else return []

/-- A size in units of 1024, to one decimal place. -/
def kilobytes (size : Json) : Shaped String :=
  let ofWhole (i : Int) : Shaped String :=
    match Binary64.ofRatio (decide (i < 0)) i.natAbs 1024 with
    | .infinite _ => .error .quotientTooLarge
    | x => .ok (fixedText 1 x)
  match size.orElse (.int 0) with
  | .bool b => ofWhole (if b then 1 else 0)
  | .int i => ofWhole i
  | .float x => .ok (fixedText 1 (x.divNat 1024))
  | v => .error (.notDivisible v.kind)

/-! ## Pages -/

/-- A remark on a list that goes on. -/
def moreAvailable (result : Json) : Shaped String := do
  let token ← result.field "next_page_token"
  return if token.isTruthy then " (more available)" else ""

/-- How to get the rest of a list. -/
def pageHint (result : Json) (noun : String) : Shaped (List String) := do
  let token ← result.field "next_page_token"
  return if token.isTruthy then
    ["*Use page_token=\"" ++ token.display ++ "\" to load more " ++ noun ++ ".*"] else []

/-- A count in words. -/
def found (count : Nat) (noun : String) (more : String) : String :=
  "Found " ++ natText count ++ " " ++ noun ++ "(s)" ++ more ++ "."

end WorkspaceTools.Report
