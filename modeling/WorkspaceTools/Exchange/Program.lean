import WorkspaceTools.Fault
import WorkspaceTools.Time.DateTime

/-!
# Exchanges with the services

* `Program α` is a computation that asks for things on the way to a value: it sends requests, saves
  files, and looks at the clock. What it does next depends on what it is told.
* `Program.get` and the like send one request and fail where it fails; `Program.attempt` goes on with
  either outcome.
-/

namespace WorkspaceTools

open Text Time

/-- What a request does. -/
inductive Method where
  | get | post | put
  deriving DecidableEq, Inhabited

/-- The name of a method. -/
def Method.name : Method → String
  | .get => "GET"
  | .post => "POST"
  | .put => "PUT"

/-- A request to a service. -/
structure Request where
  method : Method
  address : String
  params : Option Members := none
  body : Option Json := none

/-- A computation that may send requests, save files and look at the clock. -/
inductive Program (α : Type) where
  | done (value : α)
  | fail (fault : Fault)
  | send (request : Request) (next : Except Fault Json → Program α)
  | save (start ending : String) (content : Bytes) (next : String → Program α)
  | clock (next : DateTime → Program α)

namespace Program

/-- A computation followed by another one. -/
def bind {α β : Type} : Program α → (α → Program β) → Program β
  | .done a, f => f a
  | .fail e, _ => .fail e
  | .send r next, f => .send r fun x => (next x).bind f
  | .save start ending content next, f => .save start ending content fun x => (next x).bind f
  | .clock next, f => .clock fun x => (next x).bind f

instance : Monad Program where
  pure := .done
  bind := bind

/-- A result without requests. -/
def ofExcept {α : Type} : Except Fault α → Program α
  | .ok a => .done a
  | .error e => .fail e

instance : MonadLift (Except Fault) Program := ⟨ofExcept⟩

instance : MonadLift (Except ShapeFault) Program := ⟨fun r => ofExcept (r.mapError Fault.shape)⟩

/-- The outcome of a request. -/
def attempt (request : Request) : Program (Except Fault Json) := .send request .done

/-- The answer to a request. -/
def ask (request : Request) : Program Json := .send request ofExcept

/-- The answer to a request for a document. -/
def get (address : String) (params : Option Members) : Program Json :=
  ask ⟨.get, address, params, none⟩

/-- The answer to a request that carries a document. -/
def post (address : String) (body : Json) (params : Option Members) : Program Json :=
  ask ⟨.post, address, params, some body⟩

/-- The answer to a request that replaces a document. -/
def put (address : String) (body : Json) (params : Option Members) : Program Json :=
  ask ⟨.put, address, params, some body⟩

/-- The present time. -/
def present : Program DateTime := .clock .done

/-- The path of a file with the given content, saved under a fresh name that begins and ends as
given. -/
def saveFile (start ending : String) (content : Bytes) : Program String :=
  .save start ending content .done

/-! ## Laws -/

@[simp] theorem bind_done {α β : Type} (a : α) (f : α → Program β) : (Program.done a).bind f = f a := rfl

@[simp] theorem bind_fail {α β : Type} (e : Fault) (f : α → Program β) :
    (Program.fail e).bind f = .fail e := rfl

@[simp] theorem bind_send {α β : Type} (r : Request) (next : Except Fault Json → Program α)
    (f : α → Program β) : (Program.send r next).bind f = .send r fun x => (next x).bind f := rfl

theorem bind_assoc {α β γ : Type} (p : Program α) (f : α → Program β) (g : β → Program γ) :
    (p.bind f).bind g = p.bind fun a => (f a).bind g := by
  induction p with
  | done a => rfl
  | fail e => rfl
  | send r next ih => simp only [bind]; congr 1; funext x; exact ih x
  | save start ending content next ih => simp only [bind]; congr 1; funext x; exact ih x
  | clock next ih => simp only [bind]; congr 1; funext x; exact ih x

theorem bind_pure {α : Type} (p : Program α) : p.bind Program.done = p := by
  induction p with
  | done a => rfl
  | fail e => rfl
  | send r next ih => simp only [bind]; congr 1; funext x; exact ih x
  | save start ending content next ih => simp only [bind]; congr 1; funext x; exact ih x
  | clock next ih => simp only [bind]; congr 1; funext x; exact ih x

end Program

end WorkspaceTools
