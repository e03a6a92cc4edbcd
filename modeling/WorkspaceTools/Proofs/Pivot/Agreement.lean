import WorkspaceTools.Proofs.Json.Equality
import WorkspaceTools.Proofs.Pivot.Checked

/-!
# Compiled parts that are equal

All that is specified of a grouping or of a value can be read back from the compiled part.

* Scalars, rules, groupings and values agree in all their members (`Scalar.Agrees`, `GroupRule.Agrees`,
  `PivotGroup.Agrees`, `PivotValue.Agrees`), where numbers are compared as the documents that they are written
  as, columns by their index, and an empty label is as good as none.
* A compiled part has each of its members or lacks it (`PivotGroup.compile_eq`, `PivotValue.compile_eq`), so
  equal parts have the same ones.
* `compile_losesNothing`: two checked groupings, or values, have the same compiled part exactly if they agree, and
  parts that are equal by value only if they agree by value.
-/

namespace WorkspaceTools

open Json Number

/-! ## Names of enumerations -/

/-- A check that reads every name back tells all names apart. -/
theorem injective_of_checkName {α : Type} (members : List α) {name : α → String}
    (h : ∀ a, checkName members name (.str (name a)) = .ok a) : Function.Injective name := by
  intro a b hname
  have ha := h a
  rw [hname, h b] at ha
  exact (Except.ok.inj ha).symm

theorem DateUnit.name_injective : Function.Injective name := by
  apply injective_of_checkName all
  intro unit
  cases unit <;> rfl

theorem SortOrder.name_injective : Function.Injective name := by
  apply injective_of_checkName all
  intro order
  cases order <;> rfl

theorem Aggregation.name_injective : Function.Injective name := by
  apply injective_of_checkName all
  intro aggregation
  cases aggregation <;> rfl

theorem PercentOf.name_injective : Function.Injective name := by
  apply injective_of_checkName all
  intro percent
  cases percent <;> rfl

/-! ## Optional members -/

section

variable {α : Type} {R : Json → Json → Prop} {o o' : Option α}

theorem present_map_cons (name : String) (f : α → Json) (o : Option α) (fields : List (String × Option Json)) :
    Members.present ((name, o.map f) :: fields) = memberOf name f o ++ Members.present fields := by
  cases o <;> rfl

/-- Optional values are related if they are both there and related, or both missing. -/
theorem rel_of_rel_map {S : α → α → Prop} {f : α → Json} (hf : ∀ a b, R (f a) (f b) → S a b)
    (h : Option.Rel R (o.map f) (o'.map f)) : Option.Rel S o o' := by
  cases o with
  | none =>
    cases o' with
    | none => exact .none
    | some b => cases h
  | some a =>
    cases o' with
    | none => cases h
    | some b =>
      cases h with
      | some hab => exact .some (hf a b hab)

theorem eq_of_rel {S : α → α → Prop} (hS : ∀ a b, S a b → a = b) (h : Option.Rel S o o') : o = o' := by
  cases h with
  | none => rfl
  | some hab => rw [hS _ _ hab]

theorem eq_of_rel_map {f : α → Json} (hf : ∀ a b, R (f a) (f b) → a = b)
    (h : Option.Rel R (o.map f) (o'.map f)) : o = o' :=
  eq_of_rel (fun _ _ => id) (rel_of_rel_map hf h)

end

/-- An empty text is as good as none. -/
theorem nonempty_eq (o : Option String) : nonempty o = if o.getD "" = "" then none else some (o.getD "") := by
  cases o with
  | none => rfl
  | some s => by_cases hs : s = "" <;> simp [nonempty, Option.filter, hs]

theorem getD_eq_of_nonempty_eq {o o' : Option String} (h : nonempty o = nonempty o') : o.getD "" = o'.getD "" := by
  have hgetD (o : Option String) : (nonempty o).getD "" = o.getD "" := by
    rw [nonempty_eq]
    split
    · rename_i hempty
      exact hempty.symm
    · rfl
  rw [← hgetD, h, hgetD]

/-! ## Rules -/

/-- Integers and floating-point numbers. -/
def Scalar.IsNumber : Scalar → Prop
  | .text _ => False
  | _ => True

theorem Scalar.text_or_isNumber (a : Scalar) : (∃ s, a = .text s) ∨ a.IsNumber := by
  cases a with
  | text s => exact .inl ⟨s, rfl⟩
  | int i => exact .inr trivial
  | float x => exact .inr trivial

theorem Scalar.cellJson_of_isNumber {a : Scalar} (h : a.IsNumber) :
    a.cellJson = .obj [("numberValue", a.toJson)] := by
  cases a with
  | text s => cases h
  | int i => rfl
  | float x => rfl

/-- The same text, or two numbers that are compared. -/
inductive Scalar.Agrees (R : Json → Json → Prop) : Scalar → Scalar → Prop
  | text (s : String) : Agrees R (.text s) (.text s)
  | number {a b : Scalar} (ha : a.IsNumber) (hb : b.IsNumber) (h : R a.toJson b.toJson) : Agrees R a b

/-- The same bounds are there, and the numbers are compared. -/
structure HistogramRule.Agrees (R : Json → Json → Prop) (r s : HistogramRule) : Prop where
  interval : R (.float r.interval) (.float s.interval)
  start : Option.Rel R (r.start.map .float) (s.start.map .float)
  stop : Option.Rel R (r.stop.map .float) (s.stop.map .float)

/-- The same name, and items that agree in their order. -/
structure ManualGroup.Agrees (R : Json → Json → Prop) (g h : ManualGroup) : Prop where
  groupName : g.groupName = h.groupName
  items : List.Forall₂ (Scalar.Agrees R) g.items h.items

/-- The same kind of rule, with members that agree. -/
inductive GroupRule.Agrees (R : Json → Json → Prop) : GroupRule → GroupRule → Prop
  | dateTime (unit : DateUnit) : Agrees R (.dateTime unit) (.dateTime unit)
  | histogram {r s : HistogramRule} (h : r.Agrees R s) : Agrees R (.histogram r) (.histogram s)
  | manual {gs hs : List ManualGroup} (h : List.Forall₂ (ManualGroup.Agrees R) gs hs) :
    Agrees R (.manual gs) (.manual hs)

/-- The members of a compiled bucket. -/
def ManualGroup.fields (g : ManualGroup) : List (String × Option Json) :=
  [("groupName", some (.obj [("stringValue", .str g.groupName)])),
    ("items", some (.arr (g.items.map Scalar.cellJson)))]

theorem ManualGroup.names_fields (g : ManualGroup) : g.fields.map Prod.fst = ["groupName", "items"] := rfl

/-- The members of a compiled histogram. -/
def HistogramRule.fields (r : HistogramRule) : List (String × Option Json) :=
  [("interval", some (.float r.interval)), ("start", r.start.map .float), ("end", r.stop.map .float)]

theorem HistogramRule.names_fields (r : HistogramRule) : r.fields.map Prod.fst = ["interval", "start", "end"] :=
  rfl

theorem HistogramRule.present_fields (r : HistogramRule) :
    ("interval", .float r.interval) :: (memberOf "start" Json.float r.start ++ memberOf "end" Json.float r.stop) =
      Members.present r.fields := by
  rw [fields, Members.present_cons_some, present_map_cons, present_map_cons, Members.present_nil,
    List.append_nil]

section

variable {R : Json → Json → Prop} (hR : IsEquality R)

include hR

/-- A number is told from a text by the name of its member. -/
theorem Scalar.agrees_of_cellJson {a b : Scalar} (h : R a.cellJson b.cellJson) : a.Agrees R b := by
  have hnames : "stringValue" ≠ "numberValue" := by decide
  rcases a.text_or_isNumber with ⟨s, rfl⟩ | ha
  · rcases b.text_or_isNumber with ⟨t, rfl⟩ | hb
    · obtain rfl := hR.str (hR.only h).2
      exact .text s
    · rw [cellJson_of_isNumber hb] at h
      exact absurd (hR.only h).1 hnames
  · rw [cellJson_of_isNumber ha] at h
    rcases b.text_or_isNumber with ⟨t, rfl⟩ | hb
    · exact absurd (hR.only h).1 hnames.symm
    · rw [cellJson_of_isNumber hb] at h
      exact .number ha hb (hR.only h).2

theorem ManualGroup.agrees_of_compile {g h : ManualGroup} (hgh : R g.compile h.compile) : g.Agrees R h := by
  have hrel := hR.present (by decide) g.names_fields h.names_fields hgh
  simp only [fields, List.forall₂_cons] at hrel
  obtain ⟨⟨hname⟩, ⟨hitems⟩, -⟩ := hrel
  refine ⟨hR.str (hR.only hname).2, ?_⟩
  have hall := hR.items hitems
  rw [List.forall₂_map_left_iff, List.forall₂_map_right_iff] at hall
  exact hall.imp fun _ _ => Scalar.agrees_of_cellJson hR

theorem GroupRule.agrees_of_compile {r s : GroupRule} (h : R r.compile s.compile) : r.Agrees R s := by
  cases r with
  | dateTime unit =>
    cases s with
    | dateTime unit' =>
      obtain rfl := DateUnit.name_injective (hR.str (hR.only (hR.only h).2).2)
      exact .dateTime unit
    | histogram s => exact absurd (hR.only h).1 (by decide)
    | manual hs => exact absurd (hR.only h).1 (by decide)
  | histogram r =>
    cases s with
    | dateTime unit' => exact absurd (hR.only h).1 (by decide)
    | histogram s =>
      have hmembers := (hR.only h).2
      rw [r.present_fields, s.present_fields] at hmembers
      have hrel := hR.present (by decide) r.names_fields s.names_fields hmembers
      simp only [HistogramRule.fields, List.forall₂_cons] at hrel
      obtain ⟨⟨hinterval⟩, hstart, hstop, -⟩ := hrel
      exact .histogram ⟨hinterval, hstart, hstop⟩
    | manual hs => exact absurd (hR.only h).1 (by decide)
  | manual gs =>
    cases s with
    | dateTime unit' => exact absurd (hR.only h).1 (by decide)
    | histogram s => exact absurd (hR.only h).1 (by decide)
    | manual hs =>
      have hall := hR.items (hR.only (hR.only h).2).2
      rw [List.forall₂_map_left_iff, List.forall₂_map_right_iff] at hall
      exact .manual (hall.imp fun _ _ => ManualGroup.agrees_of_compile hR)

end

/-! ### Rules that are the same -/

theorem Scalar.agrees_eq_iff {a b : Scalar} : a.Agrees Eq b ↔ a = b := by
  constructor
  · intro h
    cases h with
    | text s => rfl
    | number ha hb h =>
      cases a <;> cases b <;> cases h <;> rfl
  · rintro rfl
    cases a with
    | text s => exact .text s
    | int i => exact .number trivial trivial rfl
    | float x => exact .number trivial trivial rfl

theorem ManualGroup.agrees_eq_iff {g h : ManualGroup} : g.Agrees Eq h ↔ g = h := by
  have hitems : Scalar.Agrees Eq = Eq := by
    funext a b
    exact propext Scalar.agrees_eq_iff
  constructor
  · rintro ⟨hname, hall⟩
    rw [hitems, List.forall₂_eq_eq_eq] at hall
    cases g
    cases hname
    cases hall
    rfl
  · rintro rfl
    exact ⟨rfl, hitems ▸ List.forall₂_refl _⟩

theorem GroupRule.agrees_eq_iff {r s : GroupRule} : r.Agrees Eq s ↔ r = s := by
  constructor
  · intro h
    cases h with
    | dateTime unit => rfl
    | @histogram r s h =>
      have hstart := eq_of_rel_map (fun _ _ => Json.float.inj) h.start
      have hstop := eq_of_rel_map (fun _ _ => Json.float.inj) h.stop
      have hinterval := Json.float.inj h.interval
      cases r
      cases hinterval
      cases hstart
      cases hstop
      rfl
    | manual h =>
      have hall := h.imp fun _ _ => ManualGroup.agrees_eq_iff.1
      rw [List.forall₂_eq_eq_eq] at hall
      rw [hall]
  · rintro rfl
    exact agrees_of_compile isEquality_eq rfl

/-! ## Groupings -/

/-- The members of a compiled grouping. -/
def PivotGroup.fields (g : PivotGroup) (column : Int) : List (String × Option Json) :=
  [("sourceColumnOffset", some (.int column)), ("showTotals", some (.bool g.showTotals)),
    ("label", (nonempty g.label).map .str), ("sortOrder", g.sortOrder.map fun o => .str (SortOrder.name o)),
    ("valueBucket", g.bucket.map id), ("groupRule", g.groupRule.map GroupRule.compile),
    ("groupLimit", g.groupLimit.map fun n => .obj [("countLimit", .int n)])]

theorem PivotGroup.names_fields (g : PivotGroup) (column : Int) :
    (g.fields column).map Prod.fst =
      ["sourceColumnOffset", "showTotals", "label", "sortOrder", "valueBucket", "groupRule", "groupLimit"] :=
  rfl

theorem PivotGroup.compile_eq {g : PivotGroup} {column : Int} (h : resolveColumn g.sourceColumn = .ok column) :
    g.compile = .ok (.obj (Members.present (g.fields column))) := by
  rw [compile, compileColumn_of_resolveColumn h, ok_bind, pure_eq_ok, fields]
  simp only [Members.present_cons_some, present_map_cons, Members.present_nil, List.append_nil, List.append_assoc]
  rfl

/-- Groupings that are sorted by anything have a bucket, with the index of the value where there is one. -/
theorem PivotGroup.bucket_eq (g : PivotGroup) :
    g.bucket = if g.sortByValue = none ∧ g.sortOrder = none then none
      else some (.obj (Members.present [("valuesIndex", g.sortByValue.map .int)])) := by
  unfold bucket
  cases g.sortByValue <;> cases g.sortOrder <;> rfl

theorem PivotGroup.sortByValue_eq_of_bucket {R : Json → Json → Prop} (hR : IsEquality R) {g h : PivotGroup}
    (hbucket : Option.Rel R g.bucket h.bucket) : g.sortByValue = h.sortByValue := by
  rw [bucket_eq, bucket_eq] at hbucket
  split at hbucket
  · rename_i hnone
    split at hbucket
    · rename_i hnone'
      rw [hnone.1, hnone'.1]
    · cases hbucket
  · split at hbucket
    · cases hbucket
    · cases hbucket with
      | some hindex =>
        have hrel := hR.present (List.nodup_singleton "valuesIndex") (by rfl) (by rfl) hindex
        simp only [List.forall₂_cons] at hrel
        exact eq_of_rel_map (fun _ _ => hR.int) hrel.1

/-- Groupings agree in all their members: columns by their index, labels but for an empty one, and rules as they
agree. -/
structure PivotGroup.Agrees (R : Json → Json → Prop) (g h : PivotGroup) : Prop where
  sourceColumn : resolveColumn g.sourceColumn = resolveColumn h.sourceColumn
  label : g.label.getD "" = h.label.getD ""
  showTotals : g.showTotals = h.showTotals
  sortOrder : g.sortOrder = h.sortOrder
  sortByValue : g.sortByValue = h.sortByValue
  groupRule : Option.Rel (GroupRule.Agrees R) g.groupRule h.groupRule
  groupLimit : g.groupLimit = h.groupLimit

theorem PivotGroup.agrees_of_compiled {R : Json → Json → Prop} (hR : IsEquality R) {g h : PivotGroup}
    {i j : Int} (hi : resolveColumn g.sourceColumn = .ok i) (hj : resolveColumn h.sourceColumn = .ok j)
    (hgh : R (.obj (Members.present (g.fields i))) (.obj (Members.present (h.fields j)))) : g.Agrees R h := by
  have hrel := hR.present (by decide) (g.names_fields i) (h.names_fields j) hgh
  simp only [fields, List.forall₂_cons] at hrel
  obtain ⟨⟨hcolumn⟩, ⟨htotals⟩, hlabel, horder, hbucket, hrule, hlimit, -⟩ := hrel
  have hsort : g.sortOrder = h.sortOrder :=
    eq_of_rel_map (fun _ _ hname => SortOrder.name_injective (hR.str hname)) horder
  have hindex : g.sortByValue = h.sortByValue := by
    rw [Option.map_id, id, id] at hbucket
    exact sortByValue_eq_of_bucket hR hbucket
  refine ⟨?_, ?_, hR.bool htotals, hsort, hindex, ?_, ?_⟩
  · rw [hi, hj, hR.int hcolumn]
  · exact getD_eq_of_nonempty_eq (eq_of_rel_map (fun _ _ => hR.str) hlabel)
  · exact rel_of_rel_map (fun _ _ => GroupRule.agrees_of_compile hR) hrule
  · exact eq_of_rel_map (fun _ _ hcount => hR.int (hR.only hcount).2) hlimit

/-- Groupings that agree are compiled to the same part. -/
theorem PivotGroup.fields_eq_of_agrees {g h : PivotGroup} (hgh : g.Agrees Eq h) (column : Int) :
    g.fields column = h.fields column := by
  have hrule : g.groupRule = h.groupRule := eq_of_rel (fun _ _ => GroupRule.agrees_eq_iff.1) hgh.groupRule
  have hbucket : g.bucket = h.bucket := by
    rw [bucket, bucket, hgh.sortByValue, hgh.sortOrder]
  rw [fields, fields, nonempty_eq, nonempty_eq, hgh.label, hgh.showTotals, hgh.sortOrder, hbucket, hrule,
    hgh.groupLimit]

/-! ## Values -/

/-- The members of a compiled value. -/
def PivotValue.fields (v : PivotValue) (column : Option Int) : List (String × Option Json) :=
  [("summarizeFunction", some (.str v.aggregation.name)), ("sourceColumnOffset", column.map .int),
    ("formula", v.formula.map .str), ("name", (nonempty v.name).map .str),
    ("calculatedDisplayType", v.percentOf.map fun p => .str (PercentOf.name p))]

theorem PivotValue.names_fields (v : PivotValue) (column : Option Int) :
    (v.fields column).map Prod.fst =
      ["summarizeFunction", "sourceColumnOffset", "formula", "name", "calculatedDisplayType"] :=
  rfl

theorem PivotValue.compile_eq {v : PivotValue} (h : v.HasSource) :
    ∃ column : Option Int, v.sourceColumn.map resolveColumn = column.map .ok ∧
      v.compile = .ok (.obj (Members.present (v.fields column))) := by
  have hfields (column : Option Int) : Members.present (v.fields column) =
      ("summarizeFunction", .str v.aggregation.name) ::
        (memberOf "sourceColumnOffset" Json.int column ++ (memberOf "formula" Json.str v.formula ++
          (memberOf "name" Json.str (nonempty v.name) ++
            memberOf "calculatedDisplayType" (fun p => .str (PercentOf.name p)) v.percentOf))) := by
    rw [fields]
    simp only [Members.present_cons_some, present_map_cons, Members.present_nil, List.append_nil]
  cases h with
  | column hv hf hc =>
    obtain ⟨n, hn⟩ := resolveColumn_of_isColumn hc
    have hsource : v.source = .ok ("sourceColumnOffset", .int n) := by
      rw [source, hv, hf]
      simp only [compileColumn_of_resolveColumn hn, map_ok]
    refine ⟨some n, by rw [hv, Option.map_some, hn, Option.map_some], ?_⟩
    rw [compile, hsource, ok_bind, hfields, hf]
    simp only [List.append_assoc]
    rfl
  | formula hv hf =>
    refine ⟨none, by rw [hv]; rfl, ?_⟩
    rw [compile, source, hv, hf]
    simp only [ok_bind, hfields, hf, List.append_assoc]
    rfl

/-- Values agree in all their members: columns by their index, and names but for an empty one. -/
structure PivotValue.Agrees (v w : PivotValue) : Prop where
  sourceColumn : v.sourceColumn.map resolveColumn = w.sourceColumn.map resolveColumn
  formula : v.formula = w.formula
  aggregation : v.aggregation = w.aggregation
  name : v.name.getD "" = w.name.getD ""
  percentOf : v.percentOf = w.percentOf

theorem PivotValue.agrees_of_compiled {R : Json → Json → Prop} (hR : IsEquality R) {v w : PivotValue}
    {i j : Option Int} (hi : v.sourceColumn.map resolveColumn = i.map .ok)
    (hj : w.sourceColumn.map resolveColumn = j.map .ok)
    (hvw : R (.obj (Members.present (v.fields i))) (.obj (Members.present (w.fields j)))) : v.Agrees w := by
  have hrel := hR.present (by decide) (v.names_fields i) (w.names_fields j) hvw
  simp only [fields, List.forall₂_cons] at hrel
  obtain ⟨⟨haggregation⟩, hcolumn, hformula, hname, hpercent, -⟩ := hrel
  refine ⟨?_, ?_, Aggregation.name_injective (hR.str haggregation), ?_, ?_⟩
  · rw [hi, hj, eq_of_rel_map (fun _ _ => hR.int) hcolumn]
  · exact eq_of_rel_map (fun _ _ => hR.str) hformula
  · exact getD_eq_of_nonempty_eq (eq_of_rel_map (fun _ _ => hR.str) hname)
  · exact eq_of_rel_map (fun _ _ hname => PercentOf.name_injective (hR.str hname)) hpercent

theorem PivotValue.fields_eq_of_agrees {v w : PivotValue} (h : v.Agrees w) (column : Option Int) :
    v.fields column = w.fields column := by
  rw [fields, fields, nonempty_eq, nonempty_eq, h.formula, h.aggregation, h.name, h.percentOf]

/-! ## Reading back -/

/-- What is checked of two documents can be compiled, and the compiled parts are the same exactly if the models
agree; parts are equal by value only if the models agree by value. -/
def LosesNothing {α : Type} (check : Json → Checked α) (compile : α → Except PivotError Json)
    (Agrees : (Json → Json → Prop) → α → α → Prop) (v w : Json) : Prop :=
  ∀ a b, check v = .ok a → check w = .ok b →
    ∃ part part', compile a = .ok part ∧ compile b = .ok part' ∧ (part = part' ↔ Agrees Eq a b) ∧
      (SameValue part part' → Agrees SameValue a b)

theorem PivotGroup.losesNothing (v w : Json) :
    LosesNothing PivotGroup.check PivotGroup.compile PivotGroup.Agrees v w := by
  intro g h hg hh
  obtain ⟨i, hi⟩ := resolveColumn_of_isColumn (ensures_check v g hg)
  obtain ⟨j, hj⟩ := resolveColumn_of_isColumn (ensures_check w h hh)
  refine ⟨_, _, compile_eq hi, compile_eq hj, ⟨?_, ?_⟩, ?_⟩
  · exact agrees_of_compiled isEquality_eq hi hj
  · intro hagrees
    have hij : (i : Int) = j := Except.ok.inj (hi.symm.trans (hagrees.sourceColumn.trans hj))
    rw [fields_eq_of_agrees hagrees, hij]
  · exact agrees_of_compiled isEquality_sameValue hi hj

theorem PivotValue.losesNothing (v w : Json) :
    LosesNothing PivotValue.check PivotValue.compile (fun _ => PivotValue.Agrees) v w := by
  intro a b ha hb
  obtain ⟨i, hi, hcompile⟩ := compile_eq (ensures_check v a ha)
  obtain ⟨j, hj, hcompile'⟩ := compile_eq (ensures_check w b hb)
  refine ⟨_, _, hcompile, hcompile', ⟨?_, ?_⟩, ?_⟩
  · exact agrees_of_compiled isEquality_eq hi hj
  · intro hagrees
    have hcolumns : i.map (Except.ok : Int → Except GridError Int) = j.map .ok :=
      hi.symm.trans (hagrees.sourceColumn.trans hj)
    rw [Option.map_injective (fun _ _ => Except.ok.inj) hcolumns, fields_eq_of_agrees hagrees]
  · exact agrees_of_compiled isEquality_sameValue hi hj

/-- **Compilation loses nothing that is specified**, be it of a grouping or of a value. -/
theorem compile_losesNothing (v w : Json) :
    LosesNothing PivotGroup.check PivotGroup.compile PivotGroup.Agrees v w ∧
      LosesNothing PivotValue.check PivotValue.compile (fun _ => PivotValue.Agrees) v w :=
  ⟨PivotGroup.losesNothing v w, PivotValue.losesNothing v w⟩

/-- A grouping whose column is named by a letter, with an empty label. -/
def letteredGroup : Json :=
  .obj [("source_column", .str "b"), ("label", .str ""), ("sort_order", .str "DESCENDING")]

/-- A grouping whose column is named by its index, without a label. -/
def indexedGroup : Json := .obj [("source_column", .int 1), ("sort_order", .str "DESCENDING")]

/-- A value from a column. -/
def columnValue : Json := .obj [("source_column", .int 1), ("summarize_function", .str "CUSTOM")]

/-- A value from a formula that reads as the column. -/
def formulaValue : Json := .obj [("formula", .str "1"), ("summarize_function", .str "CUSTOM")]

/-- The two groupings are compiled to one part, and the two values to parts that are not even equal by value. -/
theorem compile_losesNothing_sources :
    (∃ g h part, PivotGroup.check letteredGroup = .ok g ∧ PivotGroup.check indexedGroup = .ok h ∧
      g.compile = .ok part ∧ h.compile = .ok part) ∧
    ∃ v w part part', PivotValue.check columnValue = .ok v ∧ PivotValue.check formulaValue = .ok w ∧
      v.compile = .ok part ∧ w.compile = .ok part' ∧ ¬SameValue part part' := by
  have hg : PivotGroup.check letteredGroup =
      .ok { sourceColumn := .str "b", label := some "", sortOrder := some .descending } := by rfl
  have hh : PivotGroup.check indexedGroup = .ok { sourceColumn := .int 1, sortOrder := some .descending } := by
    rfl
  have hv : PivotValue.check columnValue = .ok { sourceColumn := some (.int 1), aggregation := .custom } := by rfl
  have hw : PivotValue.check formulaValue = .ok { formula := some "1", aggregation := .custom } := by rfl
  constructor
  · obtain ⟨part, part', hpart, hpart', hsame, -⟩ := (compile_losesNothing _ _).1 _ _ hg hh
    obtain rfl : part = part' := hsame.2 ⟨rfl, rfl, rfl, rfl, rfl, .none, rfl⟩
    exact ⟨_, _, part, hg, hh, hpart, hpart'⟩
  · obtain ⟨part, part', hpart, hpart', -, hvalue⟩ := (compile_losesNothing _ _).2 _ _ hv hw
    refine ⟨_, _, part, part', hv, hw, hpart, hpart', ?_⟩
    intro hequal
    cases (hvalue hequal).formula

end WorkspaceTools
