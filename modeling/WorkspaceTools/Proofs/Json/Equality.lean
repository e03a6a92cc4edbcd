import Mathlib.Data.List.Forall2
import Mathlib.Data.List.Nodup
import Mathlib.Data.List.Perm.Subperm
import WorkspaceTools.Json.Order

/-!
# Equal documents

Documents are compared as they are, or by their values (`Json.same`): then numbers of different kinds can be
equal, and the order of members is of no account.

* `Members.find?_append`, `Members.isSome_find?_iff`, `Members.find?_present`: which names are found among
  members.
* `Json.IsEquality` holds what both comparisons have in common: equal objects have equal members under the same
  names, equal lists have equal items, and equal texts, truth values and integers are the same ones
  (`Json.isEquality_eq`, `Json.isEquality_sameValue`).
-/

namespace WorkspaceTools

/-! ## Members -/

namespace Members

variable {name : String} {ms ns : Members}

theorem find?_append (name : String) (ms ns : Members) :
    Members.find? name (ms ++ ns) = (ms.find? name).or (ns.find? name) := by
  induction ms with
  | nil => rfl
  | cons m ms ih =>
    rw [List.cons_append, find?, find?, ih]
    split <;> rfl

theorem mem_of_find? {v : Json} (h : ms.find? name = some v) : (name, v) ∈ ms := by
  induction ms with
  | nil => cases h
  | cons m ms ih =>
    rw [find?] at h
    split at h
    · rename_i hname
      obtain rfl : m.2 = v := Option.some.inj h
      exact List.mem_cons.2 (.inl (by rw [← beq_iff_eq.1 hname]))
    · exact List.mem_cons_of_mem _ (ih h)

theorem isSome_find?_iff : (ms.find? name).isSome = true ↔ name ∈ ms.names := by
  induction ms with
  | nil => simp [names]
  | cons m ms ih =>
    rw [find?, names, List.map_cons, List.mem_cons]
    split
    · rename_i hname
      exact iff_of_true rfl (.inl (beq_iff_eq.1 hname).symm)
    · rename_i hname
      rw [ih, names, or_iff_right]
      rintro rfl
      exact hname (beq_self_eq_true _)

theorem find?_eq_none_iff : ms.find? name = none ↔ name ∉ ms.names := by
  rw [← isSome_find?_iff, Bool.not_eq_true, Option.isSome_eq_false_iff, Option.isNone_iff_eq_none]

/-! ### Members that may be missing -/

/-- The members that are there, of names that have a value or none. -/
def present (fields : List (String × Option Json)) : Members :=
  fields.filterMap fun field => field.2.map fun v => (field.1, v)

theorem present_nil : present [] = [] := rfl

theorem present_cons_some (name : String) (v : Json) (fields : List (String × Option Json)) :
    present ((name, some v) :: fields) = (name, v) :: present fields := rfl

theorem present_cons (name : String) (o : Option Json) (fields : List (String × Option Json)) :
    present ((name, o) :: fields) = (o.map fun v => (name, v)).toList ++ present fields := by
  cases o <;> rfl

theorem names_present_sublist (fields : List (String × Option Json)) :
    (present fields).names.Sublist (fields.map Prod.fst) := by
  induction fields with
  | nil => exact .refl _
  | cons field fields ih =>
    rw [present_cons]
    cases field.2 with
    | none => exact ih.cons _
    | some v => exact ih.cons_cons _

variable {fields : List (String × Option Json)}

theorem find?_present (h : (fields.map Prod.fst).Nodup) {o : Option Json} (hmem : (name, o) ∈ fields) :
    (present fields).find? name = o := by
  induction fields with
  | nil => cases hmem
  | cons field fields ih =>
    obtain ⟨hfirst, hrest⟩ := List.nodup_cons.1 h
    rw [present_cons, find?_append]
    rcases List.mem_cons.1 hmem with rfl | hmem
    · -- the name is that of no later member
      have hlater : (present fields).find? name = none :=
        find?_eq_none_iff.2 fun hname => hfirst ((names_present_sublist fields).subset hname)
      rw [hlater]
      cases o <;> simp [find?]
    · have hne : field.1 ≠ name := by
        rintro rfl
        exact hfirst (List.mem_map.2 ⟨_, hmem, rfl⟩)
      rw [ih hrest hmem]
      cases field.2 <;> simp [find?, hne]

end Members

namespace Json

/-! ## Equalities -/

/-- A comparison of documents that tells texts, truth values and integers apart, and lists and objects by their
parts. -/
structure IsEquality (R : Json → Json → Prop) : Prop where
  members : ∀ {ms ns : Members}, ms.names.Nodup → R (.obj ms) (.obj ns) →
    ∀ name, Option.Rel R (ms.find? name) (ns.find? name)
  items : ∀ {xs ys : List Json}, R (.arr xs) (.arr ys) → List.Forall₂ R xs ys
  str : ∀ {s t : String}, R (.str s) (.str t) → s = t
  bool : ∀ {b c : Bool}, R (.bool b) (.bool c) → b = c
  int : ∀ {i j : Int}, R (.int i) (.int j) → i = j

/-- Objects of one member each. -/
theorem IsEquality.only {R : Json → Json → Prop} (hR : IsEquality R) {name name' : String} {v w : Json}
    (h : R (.obj [(name, v)]) (.obj [(name', w)])) : name = name' ∧ R v w := by
  have hnames : (Members.names [(name, v)]).Nodup := List.nodup_singleton name
  have hrel := hR.members hnames h name
  by_cases hname : name' = name
  · simp only [Members.find?, hname, beq_self_eq_true, if_true] at hrel
    cases hrel with
    | some hvw => exact ⟨hname.symm, hvw⟩
  · simp only [Members.find?, beq_self_eq_true, if_true, beq_eq_false_iff_ne.2 hname, Bool.false_eq_true,
      if_false] at hrel
    cases hrel

/-- Objects with the same names, each of which may be missing: the one has the members that the other has. -/
theorem IsEquality.present {R : Json → Json → Prop} (hR : IsEquality R) {names : List String}
    (hnodup : names.Nodup) {fields fields' : List (String × Option Json)} (hnames : fields.map Prod.fst = names)
    (hnames' : fields'.map Prod.fst = names)
    (h : R (.obj (Members.present fields)) (.obj (Members.present fields'))) :
    List.Forall₂ (fun field field' => Option.Rel R field.2 field'.2) fields fields' := by
  subst hnames
  have hmembers := hR.members (hnodup.sublist (Members.names_present_sublist fields)) h
  have hlength : fields.length = fields'.length := by
    rw [← List.length_map Prod.fst, ← hnames', List.length_map]
  rw [List.forall₂_iff_get]
  refine ⟨hlength, ?_⟩
  intro i hi hi'
  have hname : (fields'.get ⟨i, hi'⟩).1 = (fields.get ⟨i, hi⟩).1 := by
    have hat := congrArg (fun names : List String => names[i]?) hnames'
    simpa [hi, hi'] using hat
  have hrel := hmembers (fields.get ⟨i, hi⟩).1
  rw [Members.find?_present hnodup (List.get_mem _ _), ← hname,
    Members.find?_present (hnames' ▸ hnodup) (List.get_mem _ _)] at hrel
  exact hrel

/-- The same documents. -/
theorem isEquality_eq : IsEquality Eq where
  members := by
    rintro ms ns - ⟨⟩ name
    cases ms.find? name with
    | none => exact .none
    | some v => exact .some rfl
  items := by
    rintro xs ys ⟨⟩
    exact List.forall₂_refl xs
  str := Json.str.inj
  bool := Json.bool.inj
  int := Json.int.inj

/-! ## Equality by value -/

/-- Documents that are equal by value. -/
def SameValue (v w : Json) : Prop := v.same w = true

theorem sameMembers_iff {ms ns : Members} :
    sameMembers ms ns = true ↔ ∀ m ∈ ms, ∃ w, ns.find? m.1 = some w ∧ SameValue m.2 w := by
  induction ms with
  | nil => simp [sameMembers]
  | cons m ms ih =>
    rw [sameMembers, Bool.and_eq_true, ih, List.forall_mem_cons]
    refine and_congr_left fun _ => ?_
    cases ns.find? m.1 with
    | none => simp
    | some w => simp [SameValue]

theorem sameItems_iff {xs ys : List Json} : sameItems xs ys = true ↔ List.Forall₂ SameValue xs ys := by
  induction xs generalizing ys with
  | nil => cases ys <;> simp [sameItems]
  | cons x xs ih =>
    cases ys with
    | nil => simp [sameItems]
    | cons y ys => rw [sameItems, Bool.and_eq_true, ih, List.forall₂_cons, SameValue]

/-- Every name of the one object is one of the other, and these are not more. -/
theorem names_perm_of_same {ms ns : Members} (hms : ms.names.Nodup) (hlength : ms.length = ns.length)
    (h : ∀ m ∈ ms, ∃ w, ns.find? m.1 = some w ∧ SameValue m.2 w) : ms.names.Perm ns.names := by
  have hsubset : ms.names ⊆ ns.names := by
    intro name hname
    obtain ⟨m, hm, rfl⟩ := List.mem_map.1 hname
    obtain ⟨w, hw, -⟩ := h m hm
    exact Members.isSome_find?_iff.1 (by rw [hw]; rfl)
  refine (List.subperm_of_subset hms hsubset).perm_of_length_le ?_
  rw [Members.names, Members.names, List.length_map, List.length_map]
  exact Nat.le_of_eq hlength.symm

theorem rel_find?_of_same {ms ns : Members} (hms : ms.names.Nodup) (h : SameValue (.obj ms) (.obj ns))
    (name : String) : Option.Rel SameValue (ms.find? name) (ns.find? name) := by
  rw [SameValue, same, Bool.and_eq_true, beq_iff_eq, sameMembers_iff] at h
  obtain ⟨hlength, hmembers⟩ := h
  cases hfind : ms.find? name with
  | none =>
    have hname := (names_perm_of_same hms hlength hmembers).mem_iff.not.1 (Members.find?_eq_none_iff.1 hfind)
    rw [Members.find?_eq_none_iff.2 hname]
    exact .none
  | some v =>
    obtain ⟨w, hw, hvw⟩ := hmembers _ (Members.mem_of_find? hfind)
    rw [hw]
    exact .some hvw

theorem isEquality_sameValue : IsEquality SameValue where
  members := rel_find?_of_same
  items := by
    intro xs ys h
    rw [SameValue, same] at h
    exact sameItems_iff.1 h
  str := by
    intro s t h
    rw [SameValue, same] at h
    exact beq_iff_eq.1 h
  bool := by
    intro b c h
    rw [SameValue] at h
    revert h
    cases b <;> cases c <;> decide
  int := by
    intro i j h
    have hcompare : compare (i * (1 : Nat)) (j * (1 : Nat)) = .eq := by
      simpa [SameValue, same, isNumeric, compareNumbers?, ratio?] using h
    have heq := Std.compare_eq_iff_eq.1 hcompare
    omega

end Json

end WorkspaceTools
