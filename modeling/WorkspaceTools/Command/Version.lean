/-!
# Version

The version of the program, as its command line shows it.
-/

namespace WorkspaceTools

/-- The version of the program. -/
def version : String := "0.1.0"

end WorkspaceTools
