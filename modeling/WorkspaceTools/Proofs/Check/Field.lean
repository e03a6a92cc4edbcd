import WorkspaceTools.Check.Field
import WorkspaceTools.Proofs.Outcome

/-!
# Checks that succeed

* When the checks of members, of single values and of lists succeed, and with what value.
* `Ensures` is a property of all that a check takes. Checks of members and of lists pass it on.
-/

namespace WorkspaceTools

variable {α : Type} {check : Json → Checked α} {name : String} {ms : Members}

theorem find?_filter_ne {other : String} (h : name ≠ other) (ms : Members) :
    Members.find? name (ms.filter fun m => m.1 != other) = Members.find? name ms := by
  induction ms with
  | nil => rfl
  | cons m rest ih =>
    by_cases ho : m.1 = other
    · have hn : m.1 ≠ name := fun e => h (e.symm.trans ho)
      simp [ho, Members.find?, ih, Ne.symm h]
    · rw [List.filter_cons_of_pos (by simpa using ho)]
      simp [Members.find?, ih]

theorem under_eq_ok {step : PathStep} {r : Checked α} {a : α} :
    r.under step = .ok a ↔ r = .ok a := by
  cases r <;> simp [Checked.under]

theorem checkNullable_of_ne_null {v : Json} (h : v ≠ .null) :
    checkNullable check v = (check v).map some := by
  cases v <;> first | rfl | exact absurd rfl h

theorem checkObject_eq_ok {model : String} {check : Members → Checked α} {v : Json} {a : α} :
    checkObject model check v = .ok a ↔ ∃ ms, v = .obj ms ∧ check ms = .ok a := by
  cases v <;> simp [checkObject, issueHere]

theorem required_eq_ok {a : α} :
    required name check ms = .ok a ↔ ∃ v, ms.find? name = some v ∧ check v = .ok a := by
  unfold required
  cases ms.find? name with
  | none => simp
  | some v => simp [under_eq_ok]

/-- A member that is there is the one that was checked. -/
theorem check_of_required {v : Json} {a : α} (hv : ms.find? name = some v) (h : required name check ms = .ok a) :
    check v = .ok a := by
  obtain ⟨w, hw, ha⟩ := required_eq_ok.1 h
  rw [hv] at hw
  rwa [Option.some.inj hw]

/-- Null is taken for nothing, and any other value is checked. -/
theorem checkNullable_eq_ok {v : Json} {o : Option α} :
    checkNullable check v = .ok o ↔
      (v = .null ∧ o = none) ∨ (v ≠ .null ∧ ∃ a, o = some a ∧ check v = .ok a) := by
  by_cases hv : v = .null
  · subst hv
    simp [checkNullable, eq_comm]
  · rw [checkNullable_of_ne_null hv, map_eq_ok]
    simp [hv, and_comm, eq_comm]

theorem optional_eq_ok {default a : α} :
    optional name default check ms = .ok a ↔
      (ms.find? name = none ∧ a = default) ∨ ∃ v, ms.find? name = some v ∧ check v = .ok a := by
  unfold optional
  cases ms.find? name with
  | none => simp [eq_comm]
  | some v => simp [under_eq_ok]

theorem ensure_eq_ok {p : α → Bool} {cause : IssueCause} {r : Checked α} {a : α} :
    r.ensure p cause = .ok a ↔ r = .ok a ∧ p a = true := by
  cases r with
  | error issues => simp [Checked.ensure]
  | ok b =>
    by_cases hp : p b = true
    · simp only [Checked.ensure, hp, if_true, Except.ok.injEq]
      constructor
      · rintro rfl
        exact ⟨rfl, hp⟩
      · exact And.left
    · simp only [Checked.ensure, hp, Except.ok.injEq]
      constructor
      · rintro ⟨⟩
      · rintro ⟨rfl, h⟩
        exact absurd h hp

/-- What one of several alternatives takes. -/
theorem mem_of_firstOf {rs : List (Checked α)} {a : α} (h : Checked.firstOf rs = .ok a) :
    .ok a ∈ rs := by
  induction rs with
  | nil => cases h
  | cons r rs ih =>
    cases r with
    | ok b =>
      cases h
      simp
    | error issues =>
      simp only [Checked.firstOf] at h
      split at h
      · rename_i hrest
        cases h
        exact List.mem_cons_of_mem _ (ih hrest)
      · cases h

/-- One alternative that succeeds is enough. -/
theorem exists_firstOf_of_mem {rs : List (Checked α)} {a : α} (h : .ok a ∈ rs) :
    ∃ b, Checked.firstOf rs = .ok b := by
  induction rs with
  | nil => cases h
  | cons r rs ih =>
    cases r with
    | ok b => exact ⟨b, rfl⟩
    | error issues =>
      obtain ⟨b, hb⟩ := ih ((List.mem_cons.1 h).resolve_left (by rintro ⟨⟩))
      refine ⟨b, ?_⟩
      rw [Checked.firstOf, hb]

/-! ## Texts, lists and names -/

theorem checkText_eq_ok {v : Json} {s : String} : checkText v = .ok s ↔ v = .str s := by
  cases v <;> simp [checkText, issueHere]

/-- A scalar is kept as it is. -/
theorem checkExactScalar_eq_ok {v : Json} {a : Scalar} : checkExactScalar v = .ok a ↔ v = a.toJson := by
  cases v <;> cases a <;> simp [checkExactScalar, Scalar.toJson]

/-- A member of an enumeration is taken by its name, where every name is read back. -/
theorem checkName_eq_ok {members : List α} {name : α → String}
    (hread : ∀ a, checkName members name (.str (name a)) = .ok a) {v : Json} {a : α} :
    checkName members name v = .ok a ↔ v = .str (name a) := by
  constructor
  · intro h
    unfold checkName at h
    split at h
    · rename_i b hb
      cases h
      have htext := List.find?_some hb
      cases v with
      | str s => rw [beq_iff_eq.1 htext]
      | _ => cases htext
    · cases h
  · rintro rfl
    exact hread a

/-- The items of a list are checked one by one, and kept in their order. -/
theorem checkItems_eq_ok {index : Nat} {vs : List Json} {as : List α} :
    checkItems check index vs = .ok as ↔ List.Forall₂ (fun v a => check v = .ok a) vs as := by
  induction vs generalizing index as with
  | nil =>
    rw [List.forall₂_nil_left_iff]
    simp [checkItems, eq_comm]
  | cons v rest ih =>
    have hitem (a : α) : check v = .ok a ↔ (check v).under (.item index) = .ok a := under_eq_ok.symm
    have hrest (as : List α) : List.Forall₂ (fun v a => check v = .ok a) rest as ↔
        checkItems check (index + 1) rest = .ok as := ih.symm
    rw [List.forall₂_cons_left_iff]
    simp only [checkItems, hitem, hrest]
    cases (check v).under (.item index) <;> cases checkItems check (index + 1) rest <;> simp [eq_comm]

theorem checkList_eq_ok {v : Json} {as : List α} :
    checkList check v = .ok as ↔ ∃ vs, v = .arr vs ∧ List.Forall₂ (fun v a => check v = .ok a) vs as := by
  cases v <;> simp [checkList, issueHere, checkItems_eq_ok]

theorem checkNonemptyList_eq_ok {v : Json} {as : List α} :
    checkNonemptyList check v = .ok as ↔
      ∃ vs, v = .arr vs ∧ vs ≠ [] ∧ List.Forall₂ (fun v a => check v = .ok a) vs as := by
  rw [checkNonemptyList, ensure_eq_ok, checkList_eq_ok]
  constructor
  · rintro ⟨⟨vs, hv, hall⟩, hne⟩
    refine ⟨vs, hv, ?_, hall⟩
    rintro rfl
    cases hall
    cases hne
  · rintro ⟨vs, hv, hne, hall⟩
    refine ⟨⟨vs, hv, hall⟩, ?_⟩
    cases hall with
    | nil => exact absurd rfl hne
    | cons _ _ => rfl

theorem noOthers_eq_ok {names : List String} : noOthers names ms = .ok () ↔ ∀ m ∈ ms, m.1 ∈ names := by
  unfold noOthers
  split
  · rename_i hnone
    simpa [List.filter_eq_nil_iff] using hnone
  · rename_i others hsome
    simp only [reduceCtorEq, false_iff]
    intro hall
    have hnone : (ms.filter fun m => !names.contains m.1) = [] := by
      simpa [List.filter_eq_nil_iff] using hall
    exact hsome (hnone ▸ rfl)

/-! ## Properties of what is taken -/

/-- Whatever the check takes has the property. -/
def Ensures (check : Json → Checked α) (P : α → Prop) : Prop := ∀ v a, check v = .ok a → P a

namespace Ensures

variable {P : α → Prop} {a : α}

theorem required (h : Ensures check P) (hr : required name check ms = .ok a) : P a := by
  obtain ⟨v, -, hv⟩ := required_eq_ok.1 hr
  exact h v a hv

theorem optional (h : Ensures check P) {default : α} (hd : P default)
    (ho : optional name default check ms = .ok a) : P a := by
  rcases optional_eq_ok.1 ho with ⟨-, rfl⟩ | ⟨v, -, hv⟩
  · exact hd
  · exact h v a hv

theorem nullable (h : Ensures check P) :
    Ensures (checkNullable check) fun o => ∀ a, o = some a → P a := by
  rintro v o ho a rfl
  rcases checkNullable_eq_ok.1 ho with ⟨-, hn⟩ | ⟨-, b, hb, hv⟩
  · cases hn
  · cases hb
    exact h v a hv

theorem list (h : Ensures check P) : Ensures (checkList check) fun as => ∀ a ∈ as, P a := by
  intro v as has a ha
  obtain ⟨vs, -, hall⟩ := checkList_eq_ok.1 has
  obtain ⟨v, -, hv⟩ := exists_of_mem_of_forall₂ hall.flip ha
  exact h v a hv

/-- What is checked of an item holds of all items of a list, which may be left out. -/
theorem optionalList (h : Ensures check P) {o : Option (List α)}
    (ho : WorkspaceTools.optional name none (checkNullable (checkList check)) ms = .ok o) : ∀ a ∈ o.getD [], P a := by
  have hlist := h.list.nullable.optional (by rintro as ⟨⟩) ho
  cases o with
  | none => simp
  | some as => exact hlist as rfl

theorem nonemptyList (h : Ensures check P) :
    Ensures (checkNonemptyList check) fun as => as ≠ [] ∧ ∀ a ∈ as, P a := by
  intro v as has
  obtain ⟨hlist, hne⟩ := ensure_eq_ok.1 has
  refine ⟨?_, h.list v as hlist⟩
  rintro rfl
  cases hne

end Ensures

end WorkspaceTools
