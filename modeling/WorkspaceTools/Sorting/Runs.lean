import WorkspaceTools.Sorting.Search

/-!
# Sorting with a comparison that may fail

* `sorted` sorts a list, equal entries in the given order. A comparison may fail, and then the first one
  that does ends the sorting; so it is fixed which entries are compared, and when.
* The list is cut into runs (`nextRun`): ascending ones, descending ones that are turned around, and short
  ones that are filled up by insertion (`insertAll`).
* Neighbouring runs are merged (`mergeRuns`). A boundary between runs has a power, which tells how early
  the halves of the list are told apart there (`boundaryPower`); boundaries of greater power go first.
* While one run wins again and again, a merge leaps over entries (`Pace`). How often that must happen is
  its patience, which grows and shrinks with the use of leaping.
-/

namespace WorkspaceTools.Sorting

/-- A comparison that may fail: the first entry stands before the second one. -/
abbrev Before (ε α : Type) := α → α → Except ε Bool

/-! ## Runs -/

/-- The entries of the first ascending run after a first one, and the rest. -/
def ascendingRun {ε α : Type} (before : Before ε α) (previous : α) :
    List α → Except ε (List α × List α)
  | [] => .ok ([], [])
  | x :: rest => do
    if ← before x previous then return ([], x :: rest)
    else
      let (run, more) ← ascendingRun before x rest
      return (x :: run, more)

/-- The entries of the first strictly descending run after a first one, and the rest. -/
def descendingRun {ε α : Type} (before : Before ε α) (previous : α) :
    List α → Except ε (List α × List α)
  | [] => .ok ([], [])
  | x :: rest => do
    if ← before x previous then
      let (run, more) ← descendingRun before x rest
      return (x :: run, more)
    else return ([], x :: rest)

/-- The first run in ascending order, and the rest. -/
def firstRun {ε α : Type} (before : Before ε α) : List α → Except ε (List α × List α)
  | x :: y :: rest => do
    if ← before y x then
      let (run, more) ← descendingRun before y rest
      return ((x :: y :: run).reverse, more)
    else
      let (run, more) ← ascendingRun before y rest
      return (x :: y :: run, more)
  | xs => .ok (xs, [])

/-- Entries inserted one after the other into a sorted list, each behind those that it does not stand
before. -/
def insertAll {ε α : Type} (before : Before ε α) (sorted : List α) : List α → Except ε (List α)
  | [] => .ok sorted
  | x :: rest => do
    let place ← boundary (testAt (fun y => (before x y).map (!·)) sorted.toArray) false 0 sorted.length
    insertAll before (sorted.take place ++ x :: sorted.drop place) rest

/-- The first run, filled up to a least length, and the rest. -/
def nextRun {ε α : Type} (before : Before ε α) (least : Nat) (xs : List α) :
    Except ε (List α × List α) := do
  let (run, rest) ← firstRun before xs
  let filled ← insertAll before run (rest.take (least - run.length))
  return (filled, rest.drop (least - run.length))

/-- Lists below this length are one run. -/
def oneRunBound : Nat := 64

/-- The least length of a run in a list: its length halved until it is below the bound, and one more if
anything was lost on the way. -/
def leastRun (length : Nat) (odd : Nat) : Nat :=
  if length < oneRunBound then length + odd else leastRun (length / 2) (max odd (length % 2))
termination_by length
decreasing_by simp only [oneRunBound] at *; omega

/-! ## Merging -/

/-- How a merge goes on: entry by entry, with the wins in a row of either run, or by leaps, with the wins of
the other run if that has leapt already in this round. -/
inductive Pace where
  | single (xWins yWins : Nat)
  | leaping (other : Option Nat)

/-- As many wins by one leap as make a further round of leaps worth while. -/
def steadyWins : Nat := 7

/-- After a leap: the second run leaps, or a new round begins, or the merge goes on entry by entry. -/
def Pace.afterLeap (patience wins : Nat) : Option Nat → Nat × Pace
  | none => (patience, .leaping (some wins))
  | some others =>
    if steadyWins ≤ others ∨ steadyWins ≤ wins then (patience - if 1 < patience then 1 else 0, .leaping none)
    else (patience + 1, .single 0 0)

/-- Two runs merged, and the patience afterwards. `yFirst x y` tells that an entry `y` of the second run
goes before an entry `x` of the first one. The second run ends the merge when it is used up, the first
one when one entry is left. For runs that are given from their ends the second run leaps first. Every
call uses up an entry, so the length of both runs is enough `fuel`. -/
def mergeFrom {ε α : Type} (yFirst : α → α → Except ε Bool) (fromEnd : Bool) :
    (fuel patience : Nat) → Pace → (xs ys : List α) → Except ε (List α × Nat)
  | 0, patience, _, xs, ys => .ok (xs ++ ys, patience)
  | _ + 1, patience, _, xs, [] => .ok (xs, patience)
  | _ + 1, patience, _, [], ys => .ok (ys, patience)
  | _ + 1, patience, _, [x], ys => .ok (ys ++ [x], patience)
  | fuel + 1, patience, .single xWins yWins, x :: xs, y :: ys => do
    if ← yFirst x y then
      let pace := if patience ≤ yWins + 1 then .leaping none else .single 0 (yWins + 1)
      let (merged, patience) ← mergeFrom yFirst fromEnd fuel patience pace (x :: xs) ys
      return (y :: merged, patience)
    else
      let pace := if patience ≤ xWins + 1 then .leaping none else .single (xWins + 1) 0
      let (merged, patience) ← mergeFrom yFirst fromEnd fuel patience pace xs (y :: ys)
      return (x :: merged, patience)
  | fuel + 1, patience, .leaping other, x :: xs, y :: ys => do
    if other.isNone != fromEnd then
      let wins ← holding (fun a => (yFirst a y).map (!·)) fromEnd (x :: xs)
      let won := (x :: xs).take wins
      match (x :: xs).drop wins with
      | [] => return (won ++ y :: ys, patience)
      | [last] => return (won ++ y :: ys ++ [last], patience)
      | rest =>
        let (patience, pace) := Pace.afterLeap patience wins other
        let (merged, patience) ← mergeFrom yFirst fromEnd fuel patience pace rest ys
        return (won ++ y :: merged, patience)
    else
      let wins ← holding (fun a => yFirst x a) fromEnd (y :: ys)
      let won := (y :: ys).take wins
      match (y :: ys).drop wins with
      | [] => return (won ++ x :: xs, patience)
      | rest =>
        let (patience, pace) := Pace.afterLeap patience wins other
        let (merged, patience) ← mergeFrom yFirst fromEnd fuel patience pace xs rest
        return (won ++ x :: merged, patience)

/-- Two neighbouring runs merged, and the patience afterwards. What stands in its place already at either
end is left alone; the rest is merged from the side of the shorter run. -/
def mergeRuns {ε α : Type} (before : Before ε α) (patience : Nat) (as bs : List α) :
    Except ε (List α × Nat) := do
  match bs with
  | [] => return (as, patience)
  | b :: _ =>
    let front ← holding (fun a => (before b a).map (!·)) false as
    let head := as.take front
    let as := as.drop front
    match as.getLast? with
    | none => return (head ++ bs, patience)
    | some a =>
      let behind ← holding (fun y => (before y a).map (!·)) true bs.reverse
      let tail := bs.drop (bs.length - behind)
      let bs := bs.take (bs.length - behind)
      let fuel := as.length + bs.length
      if bs.isEmpty then return (head ++ as ++ tail, patience)
      else if as.length ≤ bs.length then
        let (merged, patience) ←
          mergeFrom (fun x y => before y x) false fuel patience (.single 0 0) as (bs.drop 1)
        return (head ++ b :: merged ++ tail, patience)
      else
        let (merged, patience) ←
          mergeFrom before true fuel patience (.single 0 0) bs.reverse (as.reverse.drop 1)
        return (head ++ (a :: merged).reverse ++ tail, patience)

/-! ## The order of the merges -/

/-- The first binary place at which two fractions of a total differ. -/
def firstDifference : (fuel left right total : Nat) → Nat
  | 0, _, _, _ => 0
  | fuel + 1, left, right, total =>
    if total ≤ left then 1 + firstDifference fuel (2 * (left - total)) (2 * (right - total)) total
    else if total ≤ right then 1
    else 1 + firstDifference fuel (2 * left) (2 * right) total

/-- The power of the boundary between two runs: the first binary place at which their middles, as
fractions of the length of the whole list, differ. -/
def boundaryPower (start left right total : Nat) : Nat :=
  firstDifference total (2 * start + left) (2 * start + left + left + right) total

/-- A run that waits: its entries, its place in the list, and the power of the boundary after it. -/
structure Waiting (α : Type) where
  entries : List α
  start : Nat
  power : Nat := 0

/-- The patience of a merge at the beginning. -/
def firstPatience : Nat := 7

/-- Runs that wait, last one first, and the patience of the next merge. -/
structure Pile (α : Type) where
  runs : List (Waiting α) := []
  patience : Nat := firstPatience

namespace Pile

variable {ε α : Type} (before : Before ε α)

/-- Two neighbouring runs merged into one. -/
def join (patience : Nat) (left right : Waiting α) : Except ε (Waiting α × Nat) := do
  let (entries, patience) ← mergeRuns before patience left.entries right.entries
  return ({ left with entries }, patience)

/-- The pile after the last two runs were merged, again and again, while the boundary between them is of
greater power. -/
def settle (power patience : Nat) (last : Waiting α) :
    List (Waiting α) → Except ε (Pile α)
  | [] => .ok ⟨[{ last with power }], patience⟩
  | left :: rest => do
    if power < left.power then
      let (joined, patience) ← join before patience left last
      settle power patience joined rest
    else return ⟨{ last with power } :: left :: rest, patience⟩

/-- The pile with one more run. -/
def push (total : Nat) (run : List α) (pile : Pile α) : Except ε (Pile α) := do
  match pile.runs with
  | [] => return { pile with runs := [⟨run, 0, 0⟩] }
  | last :: rest =>
    let power := boundaryPower last.start last.entries.length run.length total
    let settled ← settle before power pile.patience last rest
    return { settled with runs := ⟨run, last.start + last.entries.length, 0⟩ :: settled.runs }

/-- All runs of a pile merged into one. Of three last runs the first two are merged if the first one is
shorter than the last. Every call leaves one run less, so their count is enough `fuel`. -/
def collapse : (fuel : Nat) → Pile α → Except ε (List α)
  | 0, pile => .ok (pile.runs.reverse.flatMap Waiting.entries)
  | fuel + 1, ⟨last :: middle :: first :: rest, patience⟩ => do
    if first.entries.length < last.entries.length then
      let (joined, patience) ← join before patience first middle
      collapse fuel ⟨last :: joined :: rest, patience⟩
    else
      let (joined, patience) ← join before patience middle last
      collapse fuel ⟨joined :: first :: rest, patience⟩
  | fuel + 1, ⟨[last, first], patience⟩ => do
    let (joined, patience) ← join before patience first last
    collapse fuel ⟨[joined], patience⟩
  | _ + 1, pile => .ok (pile.runs.flatMap Waiting.entries)

/-- All runs of a list on a pile. Every run has an entry, so the length of the list is enough `fuel`. -/
def fill (total least : Nat) : (fuel : Nat) → Pile α → List α → Except ε (Pile α)
  | 0, pile, _ => .ok pile
  | _ + 1, pile, [] => .ok pile
  | fuel + 1, pile, xs => do
    let (run, rest) ← nextRun before least xs
    fill total least fuel (← pile.push before total run) rest

end Pile

/-- The entries of a list in order, equal ones in the given order. -/
def sorted {ε α : Type} (before : Before ε α) (xs : List α) : Except ε (List α) := do
  let pile ← Pile.fill before xs.length (leastRun xs.length 0) xs.length {} xs
  pile.collapse before pile.runs.length

end WorkspaceTools.Sorting
