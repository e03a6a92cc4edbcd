import WorkspaceTools.Check.Issue
import WorkspaceTools.Grid.Column
import WorkspaceTools.Json.Order
import WorkspaceTools.Schema.Keyword

/-!
# Documents that do not match a schema

* `Schema.mismatches` lists what is wrong with a document, keyword by keyword.
* `Mismatch.compare` tells which one counts more: one that is nearer to the root, and of those at one depth
  the one that is further on.
* A choice among schemas that fails shows what is wrong with the alternative that comes closest, if one
  does so alone.
* `Schema.objection?` is what is said of a document that does not match; it is none if nothing is wrong.
-/

namespace WorkspaceTools

open Number Text

/-- What a document fails to be. -/
inductive MismatchCause where
  | notOfType (names : List TypeName)
  | missing (name : String)
  | unexpected (names : List String)
  | notOneOf (names : List String)
  | notColumnLetters
  /-- Shorter than some length. -/
  | tooShort (least : Nat)
  /-- Longer than some length. -/
  | tooLong (most : Nat)
  | below (bound : Int)
  | above (bound : Int)
  | notAbove (bound : Int)
  | noAlternative
  deriving DecidableEq, Inhabited

/-- The wording of a cause for a document. -/
def MismatchCause.message (v : Json) : MismatchCause → String
  | .notOfType names =>
    v.quoted ++ " is not of type " ++ ", ".intercalate (names.map fun n => quoted n.text)
  | .missing name => quoted name ++ " is a required property"
  | .unexpected names =>
    "Additional properties are not allowed (" ++ ", ".intercalate (names.map quoted)
      ++ (if names.length = 1 then " was" else " were") ++ " unexpected)"
  | .notOneOf names => v.quoted ++ " is not one of " ++ (Json.ofTexts names).quoted
  | .notColumnLetters => v.quoted ++ " does not match " ++ quoted columnPattern
  | .tooShort least => v.quoted ++ (if least = 1 then " should be non-empty" else " is too short")
  | .tooLong most => v.quoted ++ (if most = 0 then " is expected to be empty" else " is too long")
  | .below bound => v.quoted ++ " is less than the minimum of " ++ intText bound
  | .above bound => v.quoted ++ " is greater than the maximum of " ++ intText bound
  | .notAbove bound => v.quoted ++ " is less than or equal to the minimum of " ++ intText bound
  | .noAlternative => v.quoted ++ " is not valid under any of the given schemas"

/-- Something wrong at a place of a document. -/
structure Mismatch where
  path : List PathStep
  /-- No alternative of a choice fits. -/
  isChoice : Bool
  /-- The document has the type that the schema there names. -/
  typeFits : Bool
  text : String
  deriving DecidableEq, Inhabited

/-! ## Which mismatch counts -/

/-- The order of steps; members come by their names. -/
def PathStep.compare : PathStep → PathStep → Ordering
  | .member a, .member b => Ord.compare a b
  | .item a, .item b => Ord.compare a b
  | .member _, .item _ => .gt
  | .item _, .member _ => .lt

/-- The order of paths: the first difference decides. -/
def comparePaths : List PathStep → List PathStep → Ordering
  | [], [] => .eq
  | [], _ :: _ => .lt
  | _ :: _, [] => .gt
  | a :: as, b :: bs => (a.compare b).then (comparePaths as bs)

namespace Mismatch

/-- The order in which mismatches count: the shorter path counts more, then the later path, then what
is no choice, then a document of another type. -/
def compare (a b : Mismatch) : Ordering :=
  (Ord.compare b.path.length a.path.length).then
    ((comparePaths a.path b.path).then
      ((Ord.compare b.isChoice a.isChoice).then (Ord.compare b.typeFits a.typeFits)))

/-- The first one of those that count most. -/
def most? : List Mismatch → Option Mismatch
  | [] => none
  | m :: rest => some (rest.foldl (fun best x => if x.compare best = .gt then x else best) m)

/-- The first one of those that count least. -/
def least? : List Mismatch → Option Mismatch
  | [] => none
  | m :: rest => some (rest.foldl (fun best x => if x.compare best = .lt then x else best) m)

/-- The text of the one that counts least, if no other one counts as little. -/
def closestText (otherwise : String) (ms : List Mismatch) : String :=
  match least? ms with
  | none => otherwise
  | some m => if (ms.filter fun x => x.compare m = .eq).length = 1 then m.text else otherwise

/-- The same mismatch for a part that one more step leads to. -/
def under (step : PathStep) (m : Mismatch) : Mismatch := { m with path := step :: m.path }

end Mismatch

/-! ## Checking a document -/

namespace Schema

/-- The types that a schema names. -/
def types? (schema : Schema) : Option (List TypeName) :=
  schema.findSome? fun
    | .type names => some names
    | _ => none

/-- The members for which an object schema has schemas. -/
def memberNames (schema : Schema) : List String :=
  schema.flatMap fun
    | .properties members => members.map Prod.fst
    | _ => []

/-- The document has one of the types that a schema names. -/
def typeFits (schema : Schema) (v : Json) : Bool :=
  match schema.types? with
  | some names => names.any (·.admits v)
  | none => false

/-- A mismatch of a document with a schema. -/
def mismatch (schema : Schema) (v : Json) (cause : MismatchCause) : Mismatch :=
  ⟨[], false, schema.typeFits v, cause.message v⟩

/-- One mismatch unless a condition holds. -/
def demand (schema : Schema) (v : Json) (holds : Bool) (cause : MismatchCause) : List Mismatch :=
  if holds then [] else [schema.mismatch v cause]

/-- A number stands in one of some orders to a bound; anything else does so too. -/
def comparesTo (v : Json) (bound : Int) (orders : List Ordering) : Bool :=
  match v with
  | .bool _ => true
  | v => (Json.compareNumbers? v (.int bound)).all orders.contains

/-- The members of an object, and none of another document. -/
def membersOf : Json → Members
  | .obj ms => ms
  | _ => []

/-- The items of a list, and none of another document. -/
def itemsOf : Json → List Json
  | .arr xs => xs
  | _ => []

/-- The length of a text. -/
def textLength? : Json → Option Nat
  | .str s => some s.length
  | _ => none

/-- The length of a list. -/
def listLength? : Json → Option Nat
  | .arr xs => some xs.length
  | _ => none

/-- The names of members that are missing, none for a document that is no object. -/
def missingNames (names : List String) : Json → List String
  | .obj ms => names.filter fun name => (Members.find? name ms).isNone
  | _ => []

/-- The names of members without schemas, in the order of their characters. -/
def extraNames (schema : Schema) (v : Json) : List String :=
  ((membersOf v).names.filter fun name => !schema.memberNames.contains name).mergeSort

mutual

/-- What is wrong with a document by the keywords of a schema. -/
def keywordsMismatches (schema : Schema) (v : Json) : List Keyword → List Mismatch
  | [] => []
  | k :: ks => keywordMismatches schema v k ++ keywordsMismatches schema v ks

/-- What is wrong with a document by a keyword of a schema. -/
def keywordMismatches (schema : Schema) (v : Json) : Keyword → List Mismatch
  | .type names => schema.demand v (names.any (·.admits v)) (.notOfType names)
  | .properties members => memberMismatches (membersOf v) members
  | .required names => (missingNames names v).map fun name => schema.mismatch v (.missing name)
  | .closed =>
    let extras := schema.extraNames v
    schema.demand v extras.isEmpty (.unexpected extras)
  | .items inner =>
    (itemsOf v).zipIdx.flatMap fun (x, i) =>
      (keywordsMismatches inner x inner).map (.under (.item i))
  | .anyOf schemas =>
    match alternativeMismatches v schemas with
    | none => []
    | some found =>
      [{ schema.mismatch v .noAlternative with
          isChoice := true, text := Mismatch.closestText (MismatchCause.noAlternative.message v) found }]
  | .ref _ inner => keywordsMismatches inner v inner
  | .enum names => schema.demand v (names.any fun name => v.isText name) (.notOneOf names)
  | .columnLetters =>
    match v with
    | .str s => schema.demand v (isColumnText s.toList) .notColumnLetters
    | _ => []
  | .minItems count => schema.demand v ((listLength? v).all (count ≤ ·)) (.tooShort count)
  | .minLength count => schema.demand v ((textLength? v).all (count ≤ ·)) (.tooShort count)
  | .maxLength count => schema.demand v ((textLength? v).all (· ≤ count)) (.tooLong count)
  | .minimum bound => schema.demand v (comparesTo v bound [.eq, .gt]) (.below bound)
  | .maximum bound => schema.demand v (comparesTo v bound [.eq, .lt]) (.above bound)
  | .exclusiveMinimum bound => schema.demand v (comparesTo v bound [.gt]) (.notAbove bound)
  | .definitions _ => []
  | .note _ _ => []

/-- What is wrong with the members of an object that have schemas. -/
def memberMismatches (ms : Members) : List (String × List Keyword) → List Mismatch
  | [] => []
  | (name, inner) :: rest =>
    (match Members.find? name ms with
      | some v => (keywordsMismatches inner v inner).map (.under (.member name))
      | none => []) ++ memberMismatches ms rest

/-- What is wrong with a document by all of some schemas; nothing if one of them fits. -/
def alternativeMismatches (v : Json) : List (List Keyword) → Option (List Mismatch)
  | [] => some []
  | inner :: rest =>
    match keywordsMismatches inner v inner with
    | [] => none
    | found => (alternativeMismatches v rest).map (found ++ ·)

end

/-- What is wrong with a document. -/
def mismatches (schema : Schema) (v : Json) : List Mismatch := keywordsMismatches schema v schema

/-- What is said of a document that does not match. -/
def objection? (schema : Schema) (v : Json) : Option String :=
  (Mismatch.most? (schema.mismatches v)).map Mismatch.text

/-! ## Small laws -/

theorem objection?_eq_none_iff (schema : Schema) (v : Json) :
    schema.objection? v = none ↔ schema.mismatches v = [] := by
  unfold objection?
  cases schema.mismatches v <;> simp [Mismatch.most?]

end Schema

end WorkspaceTools
