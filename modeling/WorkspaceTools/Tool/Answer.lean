import WorkspaceTools.Schema.Mismatch
import WorkspaceTools.Tool.Call
import WorkspaceTools.Tool.Catalog

/-!
# Calls of clients

A client of the server calls a tool by its name. `checkArguments` compares the arguments with the schema of
the tool first; a name without a tool has no schema. `Session.answer` is what the client gets: a text,
and whether it reports a failed call.
-/

namespace WorkspaceTools

/-- What a client gets for a call. -/
structure Answer where
  isError : Bool
  text : String
  deriving DecidableEq, Inhabited

/-- What is wrong with the arguments of a call. -/
def checkArguments (name : String) (args : Members) : Option String :=
  (Tool.ofName? name).bind fun tool => tool.schema.objection? (.obj args)

/-- What the client gets for a call, and the session after it. -/
def Session.answer (name : String) (args : Members) (s : Session) : Answer × Session :=
  match checkArguments name args with
  | some objection => (⟨true, "Input validation error: " ++ objection⟩, s)
  | none =>
    let (outcome, s) := s.call name args
    match outcome with
    | .ok text => (⟨false, text⟩, s)
    | .error fault => (⟨true, fault.message⟩, s)

end WorkspaceTools
