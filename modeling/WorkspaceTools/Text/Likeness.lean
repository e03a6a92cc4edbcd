/-!
# Likeness of texts

* `longestBlock a b` is the longest block of characters that stands in both of two texts.
* `likeness a b` counts the characters in common blocks: those of the longest one, and those of what
  stands before it and after it.
* `isLike a b` holds when at least three fifths of the characters of both texts are in common blocks.
-/

namespace WorkspaceTools.Text

/-- How many characters two texts begin with in common. -/
def commonStart : List Char → List Char → Nat
  | a :: as, b :: bs => if a = b then commonStart as bs + 1 else 0
  | _, _ => 0

/-- A block that stands in two texts: where it begins in each of them, and its length. -/
structure Block where
  left : Nat
  right : Nat
  size : Nat
  deriving DecidableEq, Inhabited

/-- The longer one of two blocks, and the first one if they are of one length. -/
def Block.max (x y : Block) : Block := if x.size < y.size then y else x

/-- The block that begins at two places. -/
def blockAt (a b : List Char) (left right : Nat) : Block :=
  ⟨left, right, commonStart (a.drop left) (b.drop right)⟩

/-- The longest block that stands in both texts; of several the first one in the first text, then the
first one in the second text. -/
def longestBlock (a b : List Char) : Block :=
  ((List.range a.length).flatMap fun left => (List.range b.length).map (blockAt a b left)).foldl
    Block.max ⟨0, 0, 0⟩

/-- How many characters stand in common blocks. -/
def likeness (a b : List Char) : Nat :=
  match longestBlock a b with
  | ⟨left, right, size⟩ =>
    if _h : 0 < size ∧ left < a.length then
      size + likeness (a.take left) (b.take right)
        + likeness (a.drop (left + size)) (b.drop (right + size))
    else 0
termination_by a.length
decreasing_by all_goals simp only [List.length_take, List.length_drop]; omega

/-- At least three fifths of the characters of both texts stand in common blocks. -/
def isLike (a b : List Char) : Bool := 3 * (a.length + b.length) ≤ 10 * likeness a b

/-! ## Small laws -/

theorem commonStart_le_left (a b : List Char) : commonStart a b ≤ a.length := by
  induction a generalizing b with
  | nil => simp [commonStart]
  | cons x as ih =>
    cases b with
    | nil => simp [commonStart]
    | cons y bs =>
      have := ih bs
      by_cases h : x = y
      · simp [commonStart, h]; omega
      · simp [commonStart, h]

@[simp] theorem commonStart_self (a : List Char) : commonStart a a = a.length := by
  induction a with
  | nil => rfl
  | cons x as ih => simp [commonStart, ih]

end WorkspaceTools.Text
