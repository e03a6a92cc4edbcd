import WorkspaceTools.Json.Access
import WorkspaceTools.Sorting.Runs

/-!
# Order of documents

* `Json.before` compares two documents: numbers by value, texts by their characters, lists item by
  item. Other kinds, and different ones, have no order.
* `sortByKey` sorts by a key, stably. Of keys that are not all texts the first pair without an order that
  is compared ends the sorting.
-/

namespace WorkspaceTools

open Number

namespace Json

/-- A number as a signed ratio with a positive denominator. -/
def ratio? : Json → Option (Int × Nat)
  | .bool b => some (if b then 1 else 0, 1)
  | .int i => some (i, 1)
  | .float (.finite negative m e) =>
    let (num, den) := Binary64.ratio m e
    some (if negative then -(num : Int) else num, den)
  | _ => none

/-- How two numbers compare; `none` where one of them is not comparable. -/
def compareNumbers? (a b : Json) : Option Ordering :=
  match a, b with
  | .float (.infinite p), .float (.infinite q) =>
    some (compare (if p then 0 else 1 : Nat) (if q then 0 else 1))
  | .float (.infinite p), b => (ratio? b).map fun _ => if p then .lt else .gt
  | a, .float (.infinite q) => (ratio? a).map fun _ => if q then .gt else .lt
  | a, b =>
    match ratio? a, ratio? b with
    | some (n, d), some (m, e) => some (compare (n * e) (m * d))
    | _, _ => none

/-- The document is a number or a truth value. -/
def isNumeric : Json → Bool
  | .bool _ => true
  | .int _ => true
  | .float _ => true
  | _ => false

mutual

/-- Equality by value: numbers of different kinds can be equal, the order of members does not count, and
what is no number equals itself. -/
def same : Json → Json → Bool
  | .arr xs, .arr ys => sameItems xs ys
  | .obj ms, .obj ns => ms.length == ns.length && sameMembers ms ns
  | .str s, .str t => s == t
  | .null, .null => true
  | .float .nan, .float .nan => true
  | a, b => a.isNumeric && b.isNumeric && compareNumbers? a b == some .eq

/-- Equality item by item. -/
def sameItems : List Json → List Json → Bool
  | [], [] => true
  | x :: xs, y :: ys => same x y && sameItems xs ys
  | _, _ => false

/-- Every member has an equal one of the same name. -/
def sameMembers : List (String × Json) → List (String × Json) → Bool
  | [], _ => true
  | (k, v) :: ms, ns =>
    (match Members.find? k ns with
      | some w => same v w
      | none => false) && sameMembers ms ns

end

mutual

/-- The first document stands before the second one. -/
def before : Json → Json → Shaped Bool
  | .str s, .str t => .ok (s < t)
  | .arr xs, .arr ys => itemsBefore xs ys
  | a, b =>
    if a.isNumeric && b.isNumeric then .ok (compareNumbers? a b == some .lt)
    else .error (.notOrdered a.kind b.kind)

/-- The first difference decides, and a list stands before its extensions. -/
def itemsBefore : List Json → List Json → Shaped Bool
  | _, [] => .ok false
  | [], _ :: _ => .ok true
  | x :: xs, y :: ys => if same x y then itemsBefore xs ys else before x y

end

end Json

/-! ## Sorting by keys without a common order -/

/-- An entry to be sorted: its key and its value. -/
abbrev Keyed (α : Type) := Json × α

/-- The key of every entry, if all keys are texts. -/
def textKeys? {α : Type} : List (Keyed α) → Option (List (String × α))
  | [] => some []
  | (.str s, a) :: rest => (textKeys? rest).map ((s, a) :: ·)
  | _ => none

/-- Entries in the order of their text keys, equal keys in the given order. -/
def sortByText {α : Type} (xs : List (String × α)) : List (String × α) :=
  xs.mergeSort fun a b => decide (a.1 ≤ b.1)

/-- Values in the order of their keys, equal keys in the given order. -/
def sortByKey {α : Type} (xs : List (Keyed α)) : Shaped (List α) :=
  match textKeys? xs with
  | some ys => .ok ((sortByText ys).map Prod.snd)
  | none => (Sorting.sorted (fun a b => a.1.before b.1) xs).map (·.map Prod.snd)

end WorkspaceTools
