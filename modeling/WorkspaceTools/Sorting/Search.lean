/-!
# Searching with a test that may fail

* `boundary` finds by bisection the place up to which a test holds.
* `holding` counts the entries at the head of a list that pass a test: it looks at the first entry, then
  at those 1, 3, 7 … places further on, and bisects where the test ceases to hold.

On a list whose first entries pass a test and whose other ones do not, both find where it ceases to hold.
-/

namespace WorkspaceTools.Sorting

/-- The half of a count of places that are left, rounded down, or up for a list that is read from its
end. -/
def middle (fromEnd : Bool) (width : Nat) : Nat := if fromEnd then (width - 1) / 2 else width / 2

theorem middle_lt (fromEnd : Bool) {width : Nat} (h : width ≠ 0) : middle fromEnd width < width := by
  unfold middle
  split <;> omega

/-- The first place at which a test does not hold, if it holds before `low` and fails `width` places after
that at the latest. -/
def boundary {ε : Type} (holds : Nat → Except ε Bool) (fromEnd : Bool) (low width : Nat) : Except ε Nat :=
  if _h : width = 0 then .ok low
  else
    match holds (low + middle fromEnd width) with
    | .error e => .error e
    | .ok true =>
      boundary holds fromEnd (low + middle fromEnd width + 1) (width - middle fromEnd width - 1)
    | .ok false => boundary holds fromEnd low (middle fromEnd width)
termination_by width
decreasing_by
  · omega
  · exact middle_lt fromEnd _h

/-- The last place at which a test holds and the first one at which it does not, among the next ones at
growing distances; at the limit it does not hold. -/
def leap {ε : Type} (holds : Nat → Except ε Bool) (limit last next : Nat) : Except ε (Nat × Nat) :=
  if next < limit then
    match holds next with
    | .error e => .error e
    | .ok true => leap holds limit next (2 * next + 1)
    | .ok false => .ok (last, next)
  else .ok (last, limit)
termination_by limit - next

/-- A test of the entry at a place. Behind the last entry it does not hold. -/
def testAt {ε α : Type} (test : α → Except ε Bool) (entries : Array α) (i : Nat) : Except ε Bool :=
  match entries[i]? with
  | some x => test x
  | none => .ok false

/-- How many entries at the head of a list pass a test. -/
def holding {ε α : Type} (test : α → Except ε Bool) (fromEnd : Bool) (xs : List α) : Except ε Nat := do
  let holds := testAt test xs.toArray
  if ← holds 0 then
    let (last, next) ← leap holds xs.length 0 1
    boundary holds fromEnd (last + 1) (next - last - 1)
  else return 0

end WorkspaceTools.Sorting
