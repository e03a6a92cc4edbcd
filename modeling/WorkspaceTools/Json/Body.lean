import WorkspaceTools.Json.Reader
import WorkspaceTools.Text.Utf8

/-!
# Bodies of answers

* `BodyFault` says why the body of an answer holds no document: the bytes are no text, or the text is no
  document.
-/

namespace WorkspaceTools

open Text

/-- What stands in the way of reading a body. -/
inductive BodyFault where
  | brokenText (error : BrokenText)
  | reading (error : ReadError)

/-- The wording of a fault. -/
def BodyFault.message : BodyFault → String
  | .brokenText error => error.message
  | .reading error => error.message

/-- The kind of what stands inside of too many others in a body. -/
def BodyFault.depthFault? : BodyFault → Option Kind
  | .reading ⟨.tooDeep kind, _, _⟩ => some kind
  | _ => none

end WorkspaceTools
