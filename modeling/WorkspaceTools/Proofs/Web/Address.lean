import Mathlib.Algebra.BigOperators.Group.List.Basic
import WorkspaceTools.Proofs.Grid.Range
import WorkspaceTools.Proofs.Text.Percent
import WorkspaceTools.Web.Address

/-!
# Pieces of addresses

* A text is split at all occurrences of a character (`splitAt_eq_splitOn`). Pieces that are joined and split
  again are the same ones exactly if that character is in none of them (`splitOn_joined`,
  `length_flatMap_splitOn_eq_iff`, `flatMap_splitOn_eq`).
* `HasField` says that a query has a field which is not blank. Exactly then there is a value for its name
  (`isSome_queryValue?_iff`), and that value is not empty (`ne_empty_of_queryValue?`).
-/

namespace WorkspaceTools

open Text

/-! ## Splitting -/

section

variable {mark : Char} {cs : List Char}

theorem splitFrom_eq_splitOnPPrepend (mark : Char) (piece cs : List Char) :
    splitFrom mark piece cs = List.splitOnPPrepend (· == mark) cs piece := by
  induction cs generalizing piece with
  | nil => rfl
  | cons c cs ih =>
    rw [splitFrom, ih, ih, List.splitOnPPrepend_nil_right, List.splitOnPPrepend_cons_eq_if]

theorem splitAt_eq_splitOn (mark : Char) (cs : List Char) : splitAt mark cs = cs.splitOn mark :=
  splitFrom_eq_splitOnPPrepend mark [] cs

theorem length_splitOn_eq_one_iff : (cs.splitOn mark).length = 1 ↔ mark ∉ cs := by
  constructor
  · intro hlength hmem
    obtain ⟨before, rest, rfl⟩ := List.append_of_mem hmem
    have hbefore := List.length_pos_of_ne_nil (List.splitOn_ne_nil mark before)
    have hrest := List.length_pos_of_ne_nil (List.splitOn_ne_nil mark rest)
    rw [List.splitOn_append_cons_self, List.length_append] at hlength
    omega
  · intro hmem
    rw [List.splitOn_eq_singleton hmem, List.length_singleton]

/-- A text with pieces behind it, a mark in front of each. -/
def joined (mark : Char) (cs : List Char) (pieces : List (List Char)) : List Char :=
  cs ++ pieces.flatMap (mark :: ·)

theorem joined_cons (mark : Char) (cs piece : List Char) (pieces : List (List Char)) :
    joined mark cs (piece :: pieces) = cs ++ mark :: joined mark piece pieces := by
  rw [joined, joined, List.flatMap_cons, List.cons_append]

/-- What does not mark the pieces occurs where the pieces have it. -/
theorem not_mem_joined_iff {c : Char} (h : c ≠ mark) {pieces : List (List Char)} :
    c ∉ joined mark cs pieces ↔ c ∉ cs ∧ ∀ piece ∈ pieces, c ∉ piece := by
  simp [joined, h]

theorem splitOn_joined (mark : Char) (cs : List Char) (pieces : List (List Char)) :
    (joined mark cs pieces).splitOn mark = cs.splitOn mark ++ pieces.flatMap (List.splitOn mark) := by
  induction pieces generalizing cs with
  | nil => rw [joined, List.flatMap_nil, List.append_nil, List.flatMap_nil, List.append_nil]
  | cons piece pieces ih => rw [joined_cons, List.splitOn_append_cons_self, ih, List.flatMap_cons]

/-- There are as many pieces as were joined exactly if the mark is in none of them. -/
theorem length_flatMap_splitOn_eq_iff {pieces : List (List Char)} :
    (pieces.flatMap (List.splitOn mark)).length = pieces.length ↔ ∀ piece ∈ pieces, mark ∉ piece := by
  induction pieces with
  | nil => simp
  | cons piece pieces ih =>
    have hpiece := List.length_pos_of_ne_nil (List.splitOn_ne_nil mark piece)
    have hpieces : pieces.length ≤ (pieces.flatMap (List.splitOn mark)).length := by
      rw [List.length_flatMap, ← List.length_map (f := fun p => (List.splitOn mark p).length)]
      refine List.length_le_sum_of_one_le _ fun n hn => ?_
      obtain ⟨p, -, rfl⟩ := List.mem_map.1 hn
      exact List.length_pos_of_ne_nil (List.splitOn_ne_nil mark p)
    rw [List.flatMap_cons, List.length_append, List.length_cons, List.forall_mem_cons, ← ih,
      ← length_splitOn_eq_one_iff]
    omega

/-- **Pieces that are joined** and split again are the same pieces, if the mark is in none of them. -/
theorem flatMap_splitOn_eq {pieces : List (List Char)} (h : ∀ piece ∈ pieces, mark ∉ piece) :
    pieces.flatMap (List.splitOn mark) = pieces := by
  induction pieces with
  | nil => rfl
  | cons piece pieces ih =>
    obtain ⟨hpiece, hpieces⟩ := List.forall_mem_cons.1 h
    rw [List.flatMap_cons, List.splitOn_eq_singleton hpiece, ih hpieces, List.singleton_append]

theorem splitOn_joined_of_not_mem {pieces : List (List Char)} (hfirst : mark ∉ cs)
    (hpieces : ∀ piece ∈ pieces, mark ∉ piece) : (joined mark cs pieces).splitOn mark = cs :: pieces := by
  rw [splitOn_joined, List.splitOn_eq_singleton hfirst, flatMap_splitOn_eq hpieces, List.singleton_append]

end

/-! ## Fields of queries -/

/-- What is not empty is not empty in a query. -/
theorem queryText_ne_empty {cs : List Char} (h : cs ≠ []) : queryText cs ≠ "" := by
  intro hempty
  have hnil : percentDecode (cs.map fun c => if c == '+' then ' ' else c) = [] := by
    rw [← String.toList_ofList (l := percentDecode _), ← queryText, hempty]
    rfl
  exact percentDecode_ne_nil (List.map_eq_nil_iff.not.2 h) hnil

theorem queryField?_eq_some_iff {piece : List Char} {field : String × String} :
    queryField? piece = some field ↔
      ∃ name value, value ≠ [] ∧ '=' ∉ name ∧ piece = name ++ '=' :: value ∧
        field = (queryText name, queryText value) := by
  unfold queryField?
  constructor
  · intro h
    split at h
    · rename_i name c value hcut
      obtain ⟨hname, hpiece⟩ := cutAt_eq_some_iff.1 hcut
      exact ⟨name, c :: value, List.cons_ne_nil _ _, hname, hpiece, (Option.some.inj h).symm⟩
    · cases h
  · rintro ⟨name, value, hvalue, hname, rfl, rfl⟩
    obtain ⟨c, value, rfl⟩ := List.exists_cons_of_ne_nil hvalue
    rw [cutAt_append hname]

/-- A query has a field of the given name that is not blank: something stands after its equals sign. -/
def HasField (name : String) (query : List Char) : Prop :=
  ∃ written value, value ≠ [] ∧ '=' ∉ written ∧ queryText written = name ∧
    written ++ '=' :: value ∈ query.splitOn '&'

/-- There is a value exactly if the query has the field. -/
theorem isSome_queryValue?_iff {name : String} {query : List Char} :
    (queryValue? name (queryFields query)).isSome ↔ HasField name query := by
  rw [queryValue?, Option.isSome_map, List.find?_isSome, queryFields, splitAt_eq_splitOn]
  constructor
  · rintro ⟨field, hfield, hname⟩
    obtain ⟨piece, hpiece, hread⟩ := List.mem_filterMap.1 hfield
    obtain ⟨written, value, hvalue, hwritten, rfl, rfl⟩ := queryField?_eq_some_iff.1 hread
    exact ⟨written, value, hvalue, hwritten, eq_of_beq hname, hpiece⟩
  · rintro ⟨written, value, hvalue, hwritten, rfl, hpiece⟩
    have hread := queryField?_eq_some_iff.2 ⟨written, value, hvalue, hwritten, rfl, rfl⟩
    exact ⟨_, List.mem_filterMap.2 ⟨_, hpiece, hread⟩, BEq.rfl⟩

/-- The value of a field is not empty. -/
theorem ne_empty_of_queryValue? {name value : String} {query : List Char}
    (h : queryValue? name (queryFields query) = some value) : value ≠ "" := by
  obtain ⟨field, hfield, rfl⟩ := Option.map_eq_some_iff.1 h
  obtain ⟨piece, -, hread⟩ := List.mem_filterMap.1 (List.mem_of_find?_eq_some hfield)
  obtain ⟨written, value, hvalue, -, -, rfl⟩ := queryField?_eq_some_iff.1 hread
  exact queryText_ne_empty hvalue

end WorkspaceTools
