import WorkspaceTools.Web.Address

/-!
# The callback after consent

When the user has decided, the browser comes back with a request at the callback path.

* `Notice` is what such a request says, and `Notice.ofQuery` reads it from the fields of its query: an
  error counts more than a code.
* `Callback.receive` takes a request in: it gives the page that answers it, and notes what it says.
  Requests at other paths say nothing.
-/

namespace WorkspaceTools.Consent

open Text

/-- What a request at the callback path says. -/
inductive Notice where
  | refused (error : String)
  | granted (code : String)
  | silent
  deriving DecidableEq, Inhabited

/-- What the fields of a query say. -/
def Notice.ofQuery (fields : List (String × String)) : Notice :=
  match queryValue? "error" fields with
  | some error => .refused error
  | none =>
    match queryValue? "code" fields with
    | some code => .granted code
    | none => .silent

/-- An answer to the browser. -/
structure Page where
  status : Nat
  headers : List (String × String)
  body : String
  deriving DecidableEq, Inhabited

/-- A page with a title and a line of text. -/
def Page.titled (status : Nat) (title detail : String) : Page :=
  ⟨status, [("Content-type", "text/html")],
    "<html><body><h1>" ++ title ++ "</h1><p>" ++ detail ++ "</p></body></html>"⟩

/-- The page for all other paths. -/
def Page.notFound : Page := ⟨404, [], "Not Found"⟩

/-- The page that answers a request at the callback path. -/
def Notice.page : Notice → Page
  | .refused _ => .titled 400 "Authentication Failed" "Close this window and try again."
  | .granted _ =>
    .titled 200 "Authentication Successful!" "You can close this window and return to the terminal."
  | .silent => .titled 400 "Authentication Failed" "No authorization code received."

/-- What the requests so far have brought: the last code, and the last error. -/
structure Callback where
  code : Option String := none
  error : Option String := none
  deriving DecidableEq, Inhabited

namespace Callback

/-- What is known after one more notice. -/
def note (c : Callback) : Notice → Callback
  | .refused error => { c with error := some error }
  | .granted code => { c with code := some code }
  | .silent => c

/-- What a request says that has the given target; at another path than the callback path it says
nothing. -/
def notice? (path target : String) : Except AddressError (Option Notice) := do
  let address ← Address.read? target
  if address.path = path.toList then return some (.ofQuery (queryFields address.query))
  else return none

/-- The page that answers a request, and what is known after it. -/
def receive (path target : String) (c : Callback) : Except AddressError (Page × Callback) := do
  match ← notice? path target with
  | some notice => return (notice.page, c.note notice)
  | none => return (.notFound, c)

/-- What is known once no more requests come: an error counts more than a code. -/
def outcome (c : Callback) : Notice :=
  match c.error, c.code with
  | some error, _ => .refused error
  | none, some code => .granted code
  | none, none => .silent

end Callback

/-! ## Small laws -/

theorem Notice.page_status_eq_200_iff (n : Notice) : n.page.status = 200 ↔ ∃ code, n = .granted code := by
  cases n <;> simp [Notice.page, Page.titled]

@[simp] theorem Callback.outcome_note_new (n : Notice) : (Callback.note {} n).outcome = n := by
  cases n <;> rfl

end WorkspaceTools.Consent
