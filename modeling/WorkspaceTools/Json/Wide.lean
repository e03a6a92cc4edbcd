import WorkspaceTools.Json.Value
import WorkspaceTools.Text.Unit

/-!
# Documents of wide texts

* `Json.widen` is a document of characters as one of units.
* `Json.narrow` is a document of units as the checks take it. They accept no text in which half a pair
  stands alone, and look for no member with such a name: the member is left out, and the text is an empty
  object, which is none of the values that a text can be taken for.
-/

namespace WorkspaceTools.Json

mutual

/-- A document of characters as one of units. -/
def widen : Json → Json WideText
  | .null => .null
  | .bool b => .bool b
  | .int i => .int i
  | .float x => .float x
  | .str s => .str s
  | .arr vs => .arr (widenItems vs)
  | .obj ms => .obj (widenMembers ms)

/-- Items of units. -/
def widenItems : List Json → List (Json WideText)
  | [] => []
  | v :: vs => widen v :: widenItems vs

/-- Members of units. -/
def widenMembers : Members → Members WideText
  | [] => []
  | (k, v) :: ms => (↑k, widen v) :: widenMembers ms

end

mutual

/-- A document of units as the checks take it. -/
def narrow : Json WideText → Json
  | .null => .null
  | .bool b => .bool b
  | .int i => .int i
  | .float x => .float x
  | .str t => t.string?.elim (.obj []) .str
  | .arr vs => .arr (narrowItems vs)
  | .obj ms => .obj (narrowMembers ms)

/-- Items as the checks take them. -/
def narrowItems : List (Json WideText) → List Json
  | [] => []
  | v :: vs => narrow v :: narrowItems vs

/-- Members as the checks take them. -/
def narrowMembers : Members WideText → Members
  | [] => []
  | (k, v) :: ms =>
    match k.string? with
    | some k => (k, narrow v) :: narrowMembers ms
    | none => narrowMembers ms

end

/-! ## Small laws -/

/-- The checks find the member that has the name. -/
theorem find?_narrowMembers (name : String) (ms : Members WideText) :
    Members.find? name (narrowMembers ms) = (ms.find? (name : WideText)).map narrow := by
  induction ms with
  | nil => rfl
  | cons m ms ih =>
    obtain ⟨k, v⟩ := m
    rw [narrowMembers, Members.find?]
    cases hk : k.string? with
    | none =>
      have hne : (k == (name : WideText)) = false := by
        rw [beq_eq_false_iff_ne]
        rintro rfl
        rw [WideText.string?_ofString] at hk
        cases hk
      rw [hne]
      exact ih
    | some s =>
      obtain rfl := WideText.string?_eq_some.1 hk
      simp only [Members.find?, ih]
      by_cases hs : s = name
      · simp [hs]
      · have hne : ((s : WideText) == (name : WideText)) = false := by
          rw [beq_eq_false_iff_ne]
          exact fun h => hs (WideText.ofString_inj.1 h)
        rw [hne, beq_eq_false_iff_ne.2 hs]
        rfl

/-- The members of units are those of characters. -/
theorem find?_widenMembers (name : String) (ms : Members) :
    Members.find? (name : WideText) (widenMembers ms) = (ms.find? name).map widen := by
  induction ms with
  | nil => rfl
  | cons m ms ih =>
    obtain ⟨k, v⟩ := m
    rw [widenMembers, Members.find?, Members.find?, ih]
    by_cases hk : k = name
    · simp [hk]
    · have hne : (k : WideText) ≠ (name : WideText) := fun h => hk (WideText.ofString_inj.1 h)
      rw [beq_eq_false_iff_ne.2 hne, beq_eq_false_iff_ne.2 hk]
      rfl

theorem set_widenMembers (name : String) (v : Json) (ms : Members) :
    Members.set (name : WideText) v.widen (widenMembers ms) = widenMembers (ms.set name v) := by
  induction ms with
  | nil => rfl
  | cons m ms ih =>
    obtain ⟨k, w⟩ := m
    rw [widenMembers, Members.set, Members.set, ih]
    by_cases hk : k = name
    · simp [hk, widenMembers]
    · have hne : (k : WideText) ≠ (name : WideText) := fun h => hk (WideText.ofString_inj.1 h)
      rw [beq_eq_false_iff_ne.2 hne, beq_eq_false_iff_ne.2 hk]
      rfl

/-- A member that is set is set for the checks. -/
theorem narrowMembers_set (name : String) (v : Json WideText) (ms : Members WideText) :
    narrowMembers (ms.set (name : WideText) v) = (narrowMembers ms).set name v.narrow := by
  induction ms with
  | nil => simp only [Members.set, narrowMembers, WideText.string?_ofString]
  | cons m ms ih =>
    obtain ⟨k, w⟩ := m
    rw [Members.set]
    by_cases hname : k = (name : WideText)
    · simp only [hname, beq_self_eq_true, if_true, narrowMembers, WideText.string?_ofString, Members.set]
    · rw [beq_eq_false_iff_ne.2 hname, if_neg Bool.false_ne_true]
      simp only [narrowMembers]
      cases hk : k.string? with
      | none => exact ih
      | some s =>
        have hs : s ≠ name := by
          rintro rfl
          exact hname (WideText.string?_eq_some.1 hk)
        simp only [ih, Members.set, beq_eq_false_iff_ne.2 hs, Bool.false_eq_true, if_false]

mutual

/-- A document of characters is taken for itself. -/
theorem narrow_widen (v : Json) : narrow (widen v) = v := by
  cases v with
  | null => rfl
  | bool b => rfl
  | int i => rfl
  | float x => rfl
  | str s => simp only [widen, narrow, WideText.string?_ofString, Option.elim]
  | arr vs => rw [widen, narrow, narrowItems_widenItems]
  | obj ms => rw [widen, narrow, narrowMembers_widenMembers]

theorem narrowItems_widenItems (vs : List Json) : narrowItems (widenItems vs) = vs := by
  cases vs with
  | nil => rfl
  | cons v vs => rw [widenItems, narrowItems, narrow_widen, narrowItems_widenItems]

theorem narrowMembers_widenMembers (ms : Members) : narrowMembers (widenMembers ms) = ms := by
  cases ms with
  | nil => rfl
  | cons m ms =>
    obtain ⟨k, v⟩ := m
    simp only [widenMembers, narrowMembers, WideText.string?_ofString, narrow_widen,
      narrowMembers_widenMembers]

end

end WorkspaceTools.Json
