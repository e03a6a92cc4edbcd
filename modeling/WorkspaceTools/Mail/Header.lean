import WorkspaceTools.Json.Access

/-!
# Headers of messages

`findHeader` looks up a header by its name, in any case of letters.
-/

namespace WorkspaceTools.Mail

open Text

/-- The value of the first header of a name in lower case. -/
def findLowered (name : String) : List Json → Shaped Json
  | [] => .ok .null
  | header :: rest => do
    let found ← (← header.lookup "name" (.str "")).lowerText
    if found = name then header.field "value" else findLowered name rest

/-- The value of the first header of a name, or null. -/
def findHeader (headers : Json) (name : String) : Shaped Json := do
  findLowered (lowerCase name) (← (headers.orElse (.arr [])).elements)

end WorkspaceTools.Mail
