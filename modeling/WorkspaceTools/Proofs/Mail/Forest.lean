import Mathlib.Data.List.Lex
import Mathlib.Data.Set.Card
import WorkspaceTools.Proofs.Mail.Attachment

/-!
# Attachments of a forest of parts

The parts of a message are a forest: each may have parts of its own inside. A part of the forest is found at a
position, which numbers the parts on the way to it from the outside inwards.

* Positions in lexicographic order are in document order: a position comes before its extensions, and these before
  the positions of later neighbours. `ListsInOrder` is the list of the positions with a property in this order, each
  once.
* `Preorder.exists_positions`: the parts of some trees stand in the order of their positions.
* `IsForest` asks of the part at every position, however deep, that it is a message part.
* `attachments_inDocumentOrder`: just the forests have a list of attachments. It has those at the positions that hold
  one, in document order and each once, and the lists of two forests side by side are put together.
-/

namespace WorkspaceTools.Mail

open Json

/-! ## Positions -/

/-- The number of a tree in a forest, then that of a part inside of the tree, and so on. -/
abbrev Position := List Nat

/-- The parts inside of a part. A part without a list of them has none. -/
def partsInside (part : Json) : List Json :=
  match ((part.member? "parts").getD .null).orElse (.arr []) with
  | .arr inner => inner
  | _ => []

/-- The part at the end of a way that starts at a part. -/
def partAlong? (part : Json) : (way : List Nat) → Option Json
  | [] => some part
  | i :: way => (partsInside part)[i]?.bind (partAlong? · way)

/-- The part at a position of a forest. -/
def partAt? (forest : List Json) : Position → Option Json
  | [] => none
  | i :: way => forest[i]?.bind (partAlong? · way)

/-- There is a part at the position. -/
def IsPosition (forest : List Json) (position : Position) : Prop := (partAt? forest position).isSome

/-- The list has the positions with the property in document order, each once. -/
structure ListsInOrder (P : Position → Prop) (positions : List Position) : Prop where
  sorted : positions.Pairwise (· < ·)
  mem_iff (position : Position) : position ∈ positions ↔ P position

variable {ms : Members} {inner rest forest nodes : List Json} {positions : List Position}

theorem partsInside_eq (h : Encloses ms inner) : partsInside (.obj ms) = inner := by
  have hparts : ((member? "parts" (.obj ms)).getD .null).orElse (.arr []) = .arr inner := h
  rw [partsInside, hparts]

theorem partAt?_nil (position : Position) : partAt? [] position = none := by
  cases position <;> rfl

@[simp] theorem partAt?_zero (part : Json) (rest : List Json) : partAt? (part :: rest) [0] = some part := rfl

theorem partAt?_cons_zero (part : Json) (rest : List Json) {way : List Nat} (hway : way ≠ []) :
    partAt? (part :: rest) (0 :: way) = partAt? (partsInside part) way := by
  obtain ⟨i, way, rfl⟩ := List.exists_cons_of_ne_nil hway
  rfl

theorem partAt?_modifyHead (part : Json) (rest : List Json) (position : Position) :
    partAt? (part :: rest) (position.modifyHead (· + 1)) = partAt? rest position := by
  cases position <;> rfl

theorem IsPosition.ne_nil {position : Position} (h : IsPosition forest position) : position ≠ [] := by
  rintro rfl
  cases h

theorem ListsInOrder.ne_nil (h : ListsInOrder (IsPosition forest) positions) :
    ∀ position ∈ positions, position ≠ [] :=
  fun position hmem => ((h.mem_iff position).1 hmem).ne_nil

theorem ListsInOrder.filter {P Q : Position → Prop} {q : Position → Bool} (h : ListsInOrder P positions)
    (hq : ∀ position, Q position ↔ P position ∧ q position) : ListsInOrder Q (positions.filter q) where
  sorted := h.sorted.filter q
  mem_iff position := by rw [List.mem_filter, h.mem_iff, hq]

theorem ListsInOrder.length_eq_ncard {P : Position → Prop} (h : ListsInOrder P positions) :
    positions.length = {position | P position}.ncard := by
  have hset : {position | P position} = positions.toFinset := by
    ext position
    simp [h.mem_iff]
  rw [hset, Set.ncard_coe_finset, List.toFinset_card_of_nodup h.sorted.nodup]

/-! ## Document order -/

/-- The positions of a tree, of the parts inside of it and of the later trees, from the positions that these have
among themselves. -/
def treePositions (inside beside : List Position) : List Position :=
  [0] :: (inside.map (0 :: ·) ++ beside.map (List.modifyHead (· + 1)))

section

variable {inside beside : List Position}

theorem zero_mem_treePositions {way : List Nat} (hpositions : ∀ position ∈ beside, position ≠ []) :
    0 :: way ∈ treePositions inside beside ↔ way = [] ∨ way ∈ inside := by
  have hlater : 0 :: way ∉ beside.map (List.modifyHead (· + 1)) := by
    intro hmem
    obtain ⟨position, hposition, heq⟩ := List.mem_map.1 hmem
    obtain ⟨i, later, rfl⟩ := List.exists_cons_of_ne_nil (hpositions position hposition)
    cases heq
  simp [treePositions, hlater]

theorem succ_mem_treePositions {i : Nat} {way : List Nat} (hpositions : ∀ position ∈ beside, position ≠ []) :
    (i + 1) :: way ∈ treePositions inside beside ↔ i :: way ∈ beside := by
  have hlater : (i + 1) :: way ∈ beside.map (List.modifyHead (· + 1)) ↔ i :: way ∈ beside := by
    constructor
    · intro hmem
      obtain ⟨position, hposition, heq⟩ := List.mem_map.1 hmem
      obtain ⟨j, later, rfl⟩ := List.exists_cons_of_ne_nil (hpositions position hposition)
      cases heq
      exact hposition
    · exact List.mem_map_of_mem
  simp [treePositions, hlater]

theorem ne_nil_of_mem_treePositions (hpositions : ∀ position ∈ beside, position ≠ []) {position : Position}
    (h : position ∈ treePositions inside beside) : position ≠ [] := by
  rintro rfl
  have hnil : [] ∈ beside := by simpa [treePositions] using h
  exact hpositions [] hnil rfl

/-- A tree comes before the parts inside of it, and these before the later trees. -/
theorem pairwise_treePositions (hinside : inside.Pairwise (· < ·)) (hbeside : beside.Pairwise (· < ·))
    (hways : ∀ way ∈ inside, way ≠ []) (hpositions : ∀ position ∈ beside, position ≠ []) :
    (treePositions inside beside).Pairwise (· < ·) := by
  have hbefore : ∀ (way : List Nat), ∀ position ∈ beside, 0 :: way < position.modifyHead (· + 1) := by
    intro way position hposition
    obtain ⟨i, later, rfl⟩ := List.exists_cons_of_ne_nil (hpositions position hposition)
    exact List.cons_lt_cons_iff.2 (.inl (Nat.succ_pos i))
  rw [treePositions, List.pairwise_cons, List.pairwise_append, List.pairwise_map, List.pairwise_map]
  refine ⟨?_, ?_, ?_, ?_⟩
  · intro position hposition
    rcases List.mem_append.1 hposition with hmem | hmem
    · obtain ⟨way, hway, rfl⟩ := List.mem_map.1 hmem
      obtain ⟨i, way, rfl⟩ := List.exists_cons_of_ne_nil (hways way hway)
      exact List.cons_lt_cons_iff.2 (.inr ⟨rfl, List.nil_lt_cons i way⟩)
    · obtain ⟨later, hlater, rfl⟩ := List.mem_map.1 hmem
      exact hbefore [] later hlater
  · exact hinside.imp fun hlt => List.cons_lt_cons_iff.2 (.inr ⟨rfl, hlt⟩)
  · refine hbeside.imp_of_mem ?_
    intro position other hposition hother hlt
    obtain ⟨i, way, rfl⟩ := List.exists_cons_of_ne_nil (hpositions position hposition)
    obtain ⟨j, later, rfl⟩ := List.exists_cons_of_ne_nil (hpositions other hother)
    simpa [List.cons_lt_cons_iff] using hlt
  · intro position hposition other hother
    obtain ⟨way, -, rfl⟩ := List.mem_map.1 hposition
    obtain ⟨later, hlater, rfl⟩ := List.mem_map.1 hother
    exact hbefore way later hlater

variable {part : Json}

theorem isPosition_cons_zero_iff {way : List Nat} :
    IsPosition (part :: rest) (0 :: way) ↔ way = [] ∨ IsPosition (partsInside part) way := by
  by_cases hway : way = []
  · simp [IsPosition, hway]
  · simp [IsPosition, hway, partAt?_cons_zero]

theorem listsInOrder_treePositions (hinside : ListsInOrder (IsPosition (partsInside part)) inside)
    (hbeside : ListsInOrder (IsPosition rest) beside) :
    ListsInOrder (IsPosition (part :: rest)) (treePositions inside beside) where
  sorted := pairwise_treePositions hinside.sorted hbeside.sorted hinside.ne_nil hbeside.ne_nil
  mem_iff position := by
    match position with
    | [] => exact iff_of_false (fun h => ne_nil_of_mem_treePositions hbeside.ne_nil h rfl) fun h => h.ne_nil rfl
    | 0 :: way => rw [zero_mem_treePositions hbeside.ne_nil, isPosition_cons_zero_iff, hinside.mem_iff]
    | (i + 1) :: way =>
      rw [succ_mem_treePositions hbeside.ne_nil, hbeside.mem_iff]
      rfl

theorem filterMap_treePositions (hways : ∀ way ∈ inside, way ≠ []) :
    (treePositions inside beside).filterMap (partAt? (part :: rest)) =
      part :: (inside.filterMap (partAt? (partsInside part)) ++ beside.filterMap (partAt? rest)) := by
  have hinside : inside.filterMap (partAt? (part :: rest) ∘ (0 :: ·)) =
      inside.filterMap (partAt? (partsInside part)) :=
    List.filterMap_congr fun way hway => partAt?_cons_zero part rest (hways way hway)
  have hbeside : beside.filterMap (partAt? (part :: rest) ∘ List.modifyHead (· + 1)) =
      beside.filterMap (partAt? rest) :=
    List.filterMap_congr fun position _ => partAt?_modifyHead part rest position
  rw [treePositions, List.filterMap_cons, partAt?_zero, List.filterMap_append, List.filterMap_map,
    List.filterMap_map, hinside, hbeside]

end

/-- **Document order is the order of the positions.** The parts of some trees in document order are those at all
positions of the trees, in their order. -/
theorem Preorder.exists_positions (h : Preorder forest nodes) :
    ∃ positions, ListsInOrder (IsPosition forest) positions ∧ nodes = positions.filterMap (partAt? forest) := by
  induction h with
  | nil =>
    refine ⟨[], ⟨.nil, ?_⟩, rfl⟩
    intro position
    simp [IsPosition, partAt?_nil]
  | cons hinner _ _ ihnodes ihrest =>
    obtain ⟨inside, hinside, rfl⟩ := ihnodes
    obtain ⟨beside, hbeside, rfl⟩ := ihrest
    rw [← partsInside_eq hinner] at hinside ⊢
    exact ⟨_, listsInOrder_treePositions hinside hbeside, (filterMap_treePositions hinside.ne_nil).symm⟩

/-! ## Forests -/

/-- A message part is an object. Its parts, if it names any, are a list, and its body is an object if it names a
file. -/
structure IsMessagePart (part : Json) : Prop where
  encloses : ∃ (ms : Members) (inner : List Json), part = .obj ms ∧ Encloses ms inner
  hasPlainBody : HasPlainBody part

/-- There is a message part at every position. -/
def IsForest (forest : List Json) : Prop :=
  ∀ (position : Position) (part : Json), partAt? forest position = some part → IsMessagePart part

theorem isForest_nil : IsForest [] := by
  intro position part hpart
  rw [partAt?_nil] at hpart
  cases hpart

theorem isForest_cons_iff {part : Json} : IsForest (part :: rest) ↔
    ∃ (ms : Members) (inner : List Json), part = .obj ms ∧ Encloses ms inner ∧ HasPlainBody part ∧
      IsForest inner ∧ IsForest rest := by
  constructor
  · intro h
    obtain ⟨⟨ms, inner, rfl, hinner⟩, hbody⟩ := h [0] part rfl
    refine ⟨ms, inner, rfl, hinner, hbody, ?_, ?_⟩
    · intro position node hnode
      have hne := IsPosition.ne_nil (Option.isSome_of_eq_some hnode)
      exact h (0 :: position) node (by rw [partAt?_cons_zero _ _ hne, partsInside_eq hinner, hnode])
    · intro position node hnode
      exact h (position.modifyHead (· + 1)) node (by rw [partAt?_modifyHead, hnode])
  · rintro ⟨ms, inner, rfl, hinner, hbody, hinside, hrest⟩ (_ | ⟨_ | i, way⟩) node hnode
    · cases hnode
    · by_cases hway : way = []
      · cases hway
        cases hnode
        exact ⟨⟨ms, inner, rfl, hinner⟩, hbody⟩
      · rw [partAt?_cons_zero _ _ hway, partsInside_eq hinner] at hnode
        exact hinside way node hnode
    · exact hrest (i :: way) node hnode

theorem sizeOf_lt_of_find? {name : String} {v : Json} (h : ms.find? name = some v) : sizeOf v < sizeOf ms := by
  induction ms with
  | nil => cases h
  | cons m rest ih =>
    obtain ⟨key, w⟩ := m
    rw [Members.find?] at h
    rw [List.cons.sizeOf_spec, Prod.mk.sizeOf_spec]
    split at h
    · cases h
      omega
    · have hrest := ih h
      omega

/-- The parts inside of a part are smaller than it, so that every way into a forest ends. -/
theorem Encloses.sizeOf_lt (h : Encloses ms inner) : sizeOf inner < sizeOf (Json.obj ms) := by
  rw [Encloses, orElse] at h
  rw [obj.sizeOf_spec]
  split at h
  · rename_i htruthy
    cases hfind : ms.find? "parts" with
    | none =>
      rw [hfind] at htruthy
      cases htruthy
    | some v =>
      rw [hfind] at h
      cases h
      have hv := sizeOf_lt_of_find? hfind
      rw [arr.sizeOf_spec] at hv
      omega
  · cases h
    rw [List.nil.sizeOf_spec]
    have : 0 < sizeOf ms := by cases ms <;> simp
    omega

/-- The parts of a forest stand in document order. -/
theorem IsForest.exists_preorder : {forest : List Json} → IsForest forest → ∃ nodes, Preorder forest nodes
  | [], _ => ⟨[], .nil⟩
  | part :: rest, h => by
    obtain ⟨ms, inner, rfl, hinner, -, hinside, hrest⟩ := isForest_cons_iff.1 h
    have hsize := hinner.sizeOf_lt
    obtain ⟨nodes, hnodes⟩ := exists_preorder hinside
    obtain ⟨others, hothers⟩ := exists_preorder hrest
    exact ⟨_, .cons hinner hnodes hothers⟩
termination_by forest => sizeOf forest

/-! ## The attachments -/

/-- A part with a file name and an attachment id. -/
def IsAttachment (part : Json) : Prop :=
  ((part.member? "filename").getD .null).isTruthy = true ∧
    ((((part.member? "body").getD (.obj [])).member? "attachmentId").getD .null).isTruthy = true

/-- There is an attachment at the position. -/
def HoldsAttachment (forest : List Json) (position : Position) : Prop :=
  ∃ part, partAt? forest position = some part ∧ IsAttachment part

/-- What is listed for the part at a position, if it is an attachment. -/
def attachmentAt? (forest : List Json) (position : Position) : Option Json :=
  (partAt? forest position).bind attachment?

theorem isSome_attachment?_iff {part : Json} : (attachment? part).isSome ↔ IsAttachment part := by
  rw [attachment?, IsAttachment, ← Bool.and_eq_true]
  split <;> simp_all

theorem holdsAttachment_iff (forest : List Json) (position : Position) :
    HoldsAttachment forest position ↔
      IsPosition forest position ∧ (attachmentAt? forest position).isSome := by
  rw [attachmentAt?, HoldsAttachment, IsPosition]
  cases partAt? forest position with
  | none => simp
  | some part => simp [isSome_attachment?_iff]

theorem IsForest.exists_positions (h : IsForest forest) :
    ∃ positions, ListsInOrder (IsPosition forest) positions ∧
      attachmentsOf forest = .ok (positions.filterMap (attachmentAt? forest)) := by
  obtain ⟨nodes, hnodes⟩ := h.exists_preorder
  obtain ⟨positions, hpositions, rfl⟩ := hnodes.exists_positions
  have hbody : ∀ part ∈ positions.filterMap (partAt? forest), HasPlainBody part := by
    intro part hpart
    obtain ⟨position, -, hfound⟩ := List.mem_filterMap.1 hpart
    exact (h position part hfound).hasPlainBody
  refine ⟨positions, hpositions, ?_⟩
  rw [attachmentsOf_eq hnodes hbody, List.filterMap_filterMap]
  rfl

theorem attachmentsOf_append (forest others : List Json) :
    attachmentsOf (forest ++ others) = do return (← attachmentsOf forest) ++ (← attachmentsOf others) := by
  induction forest with
  | nil =>
    rw [List.nil_append, attachmentsOf, ok_bind]
    cases attachmentsOf others <;> rfl
  | cons part rest ih =>
    rw [List.cons_append, attachmentsOf, attachmentsOf, ih]
    cases attachmentsIn part with
    | error fault => rfl
    | ok first =>
      cases attachmentsOf rest with
      | error fault => rfl
      | ok items => cases attachmentsOf others <;> simp

/-! ## What is no forest -/

theorem exists_ownAttachment_iff : (∃ own, ownAttachment (.obj ms) = .ok own) ↔ HasPlainBody (.obj ms) := by
  constructor
  · rintro ⟨own, hown⟩ hname
    have hname : ((ms.find? "filename").getD .null).isTruthy = true := hname
    simp only [ownAttachment, lookup_obj, field_obj, ok_bind, hname, Bool.not_true, Bool.false_eq_true,
      if_false] at hown
    obtain ⟨id, hid, -⟩ := bind_eq_ok.1 hown
    rw [member?]
    cases hbody : (ms.find? "body").getD (.obj []) with
    | obj body => exact ⟨body, rfl⟩
    | _ =>
      rw [hbody] at hid
      cases hid
  · exact fun h => ⟨_, ownAttachment_eq h⟩

/-- Characters and names have no attachments, and the rest has no items. -/
theorem exists_eq_arr_of_attachments {v : Json} {items : List Json} (htruthy : v.isTruthy = true)
    (h : attachments v = .ok items) : ∃ parts, v = .arr parts := by
  cases v with
  | arr parts => exact ⟨parts, rfl⟩
  | str s =>
    have hs : s.toList ≠ [] := by simpa [isTruthy] using htruthy
    obtain ⟨c, cs, hs⟩ := List.exists_cons_of_ne_nil hs
    simp [attachments, htruthy, elements?, hs] at h
  | obj ms =>
    have hms : ms ≠ [] := by simpa [isTruthy] using htruthy
    obtain ⟨m, ms, rfl⟩ := List.exists_cons_of_ne_nil hms
    simp [attachments, htruthy, elements?] at h
  | _ => simp [attachments, htruthy, elements?] at h

theorem exists_attachments_iff_attachmentsOf {v : Json} : (∃ items, attachments v = .ok items) ↔
    ∃ inner, v.orElse (.arr []) = .arr inner ∧ ∃ items, attachmentsOf inner = .ok items := by
  constructor
  · rintro ⟨items, hitems⟩
    rw [orElse]
    split
    · rename_i htruthy
      obtain ⟨parts, rfl⟩ := exists_eq_arr_of_attachments htruthy hitems
      exact ⟨parts, rfl, items, hitems⟩
    · exact ⟨[], rfl, [], rfl⟩
  · rintro ⟨inner, hinner, hitems⟩
    rwa [attachments_eq hinner]

theorem exists_innerAttachments_iff : (∃ items, innerAttachments ms = .ok items) ↔
    ∃ inner, Encloses ms inner ∧ ∃ items, attachmentsOf inner = .ok items := by
  induction ms with
  | nil => exact ⟨fun h => ⟨[], rfl, h⟩, fun ⟨_, _, _⟩ => ⟨[], rfl⟩⟩
  | cons m rest ih =>
    obtain ⟨name, v⟩ := m
    rw [innerAttachments]
    simp only [Encloses, Members.find?]
    split
    · exact exists_attachments_iff_attachmentsOf
    · exact ih

theorem exists_attachmentsIn_iff {part : Json} : (∃ items, attachmentsIn part = .ok items) ↔
    IsMessagePart part ∧ ∃ items, attachmentsOf (partsInside part) = .ok items := by
  cases part with
  | obj ms =>
    simp only [attachmentsIn, exists_bind_eq_ok, pure_eq_ok]
    constructor
    · rintro ⟨own, hown, inside, hinside, -⟩
      obtain ⟨inner, hinner, hitems⟩ := exists_innerAttachments_iff.1 ⟨inside, hinside⟩
      rw [partsInside_eq hinner]
      exact ⟨⟨⟨ms, inner, rfl, hinner⟩, exists_ownAttachment_iff.1 ⟨own, hown⟩⟩, hitems⟩
    · rintro ⟨⟨⟨_, inner, ⟨⟩, hinner⟩, hbody⟩, hitems⟩
      rw [partsInside_eq hinner] at hitems
      obtain ⟨own, hown⟩ := exists_ownAttachment_iff.2 hbody
      obtain ⟨inside, hinside⟩ := exists_innerAttachments_iff.2 ⟨inner, hinner, hitems⟩
      exact ⟨own, hown, inside, hinside, _, rfl⟩
  | _ =>
    constructor
    · rintro ⟨items, hitems⟩
      cases hitems
    · rintro ⟨⟨⟨ms, inner, hobj, -⟩, -⟩, -⟩
      cases hobj

theorem exists_attachmentsOf_iff_forall : (∃ items, attachmentsOf forest = .ok items) ↔
    ∀ part ∈ forest, ∃ items, attachmentsIn part = .ok items := by
  induction forest with
  | nil => simp [attachmentsOf]
  | cons part rest ih => simp [attachmentsOf, exists_bind_eq_ok, ih]

/-- The attachments are listed only if there is a message part along every way. -/
theorem isMessagePart_of_partAlong? {part node : Json} {way : List Nat} (hnode : partAlong? part way = some node)
    (hitems : ∃ items, attachmentsIn part = .ok items) : IsMessagePart node := by
  induction way generalizing part with
  | nil =>
    cases hnode
    exact (exists_attachmentsIn_iff.1 hitems).1
  | cons i way ih =>
    obtain ⟨child, hchild, hnode⟩ := Option.bind_eq_some_iff.1 hnode
    have hinside := exists_attachmentsOf_iff_forall.1 (exists_attachmentsIn_iff.1 hitems).2
    exact ih hnode (hinside child (List.mem_of_getElem? hchild))

/-- The attachments of some trees are listed exactly if the trees are a forest. -/
theorem exists_attachmentsOf_iff_isForest : (∃ items, attachmentsOf forest = .ok items) ↔ IsForest forest := by
  constructor
  · rintro hitems (_ | ⟨i, way⟩) node hnode
    · cases hnode
    · obtain ⟨part, hpart, hnode⟩ := Option.bind_eq_some_iff.1 hnode
      have htree := exists_attachmentsOf_iff_forall.1 hitems part (List.mem_of_getElem? hpart)
      exact isMessagePart_of_partAlong? hnode htree
  · intro h
    obtain ⟨positions, -, hitems⟩ := h.exists_positions
    exact ⟨_, hitems⟩

/-! ## The attachments of a forest -/

/-- **The attachments of a forest.** Every forest has a list of attachments, and nothing else has one. They are
those at the positions that hold one, at any depth, each once and in document order: the attachment of a part comes
before those inside of it, and these before those of its later neighbours. So they are as many as there are such
positions. The attachments of trees that stand side by side are those of the former and then those of the latter;
none of either is lost or moved. -/
theorem attachments_inDocumentOrder (forest others : List Json) :
    (IsForest forest ↔
        ∃ (positions : List Position) (items : List Json),
          ListsInOrder (HoldsAttachment forest) positions ∧ attachments (.arr forest) = .ok items ∧
            items.map some = positions.map (attachmentAt? forest) ∧
            items.length = {position | HoldsAttachment forest position}.ncard) ∧
      attachments (.arr (forest ++ others)) = do
        return (← attachments (.arr forest)) ++ (← attachments (.arr others)) := by
  refine ⟨⟨?_, ?_⟩, attachmentsOf_append forest others⟩
  · intro h
    obtain ⟨positions, hpositions, hitems⟩ := h.exists_positions
    have hholding := hpositions.filter (holdsAttachment_iff forest)
    have hmap : (positions.filterMap (attachmentAt? forest)).map some =
        (positions.filter fun position => (attachmentAt? forest position).isSome).map (attachmentAt? forest) := by
      rw [List.map_filterMap_some_eq_filter_map_isSome, List.filter_map]
      rfl
    refine ⟨_, _, hholding, hitems, hmap, ?_⟩
    have hlength := congrArg List.length hmap
    rwa [List.length_map, List.length_map, hholding.length_eq_ncard] at hlength
  · rintro ⟨-, items, -, hitems, -⟩
    exact exists_attachmentsOf_iff_isForest.1 ⟨items, hitems⟩

/-- A file with another file two levels inside of it, and a file beside it. -/
theorem attachments_inDocumentOrder_forwarded :
    IsForest [Tool.forwardedMail] ∧ HoldsAttachment [Tool.forwardedMail] [0, 0, 0] ∧
      {position | HoldsAttachment [Tool.forwardedMail] position}.ncard = 2 ∧
      attachments (.arr ([Tool.forwardedMail] ++ [Tool.reportFile])) =
        .ok ([Tool.forwardedMail, Tool.reportFile, Tool.reportFile].filterMap attachment?) := by
  have hreport : IsForest [Tool.reportFile] :=
    isForest_cons_iff.2 ⟨_, _, rfl, rfl, fun _ => ⟨_, rfl⟩, isForest_nil, isForest_nil⟩
  have hmultipart : IsForest [.obj [("parts", .arr [Tool.reportFile])]] :=
    isForest_cons_iff.2 ⟨_, _, rfl, rfl, fun h => absurd h (by decide), hreport, isForest_nil⟩
  have hforest : IsForest [Tool.forwardedMail] :=
    isForest_cons_iff.2 ⟨_, _, rfl, rfl, fun _ => ⟨_, rfl⟩, hmultipart, isForest_nil⟩
  obtain ⟨hlisted, happend⟩ := attachments_inDocumentOrder [Tool.forwardedMail] [Tool.reportFile]
  obtain ⟨positions, items, -, hitems, -, hlength⟩ := hlisted.1 hforest
  cases hitems
  exact ⟨hforest, ⟨_, rfl, rfl, rfl⟩, hlength.symm, happend⟩

end WorkspaceTools.Mail
