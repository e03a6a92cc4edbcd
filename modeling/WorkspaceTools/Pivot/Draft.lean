import WorkspaceTools.Pivot.Compile

/-!
# Drafts of pivot tables

* A `PivotDraft` is what is put to the compiler: a specification of which any part may be replaced by
  something that nobody has checked. `PivotSpec.draft` is the draft of a specification.
* A `DraftPart` is a checked model, or members that are taken for its members, or any other document.
  `DraftPart.compile` compiles it; what a part lacks is a fault of its shape.
-/

namespace WorkspaceTools

open Number Text

/-! ## Parts -/

/-- What stands in the place of a model. -/
inductive DraftPart (α : Type) where
  | checked (model : α)
  /-- Members that are taken for those of a model. -/
  | taken (members : Members)
  /-- A document that has no such members at all. -/
  | foreign (document : Json)
  deriving Inhabited

/-- What stands in the place of a list of models. -/
inductive DraftParts (α : Type) where
  | parts (parts : List (DraftPart α))
  | foreign (document : Json)
  deriving Inhabited

/-- The parts, one by one. A document that is null, false, zero or empty has none. -/
def DraftParts.items {α : Type} : DraftParts α → Except PivotError (List (DraftPart α))
  | .parts ps => .ok ps
  | .foreign v =>
    if !v.isTruthy then .ok []
    else
      match v.elements with
      | .ok vs => .ok (vs.map .foreign)
      | .error fault => .error (.shape fault)

/-- The fault of a document that has no part of the name. -/
def noPart {α : Type} (v : Json) (name : String) : Except PivotError α :=
  .error (.shape (.noOperation v.kind name))

/-- A member other than null. -/
def givenMember? (name : String) (ms : Members) : Option Json :=
  match ms.find? name with
  | some .null => none
  | other => other

/-- A member that may not be there: any document other than null lacks the part that is wanted of it. -/
def unusable (name part : String) (ms : Members) : Except PivotError Unit :=
  match givenMember? name ms with
  | some v => noPart v part
  | none => .ok ()

/-- The index of the column that members name. -/
def takenColumn (ms : Members) : Except PivotError Int :=
  match ms.find? "source_column" with
  | some v => compileColumn v
  | none => noPart (.obj ms) "source_column"

/-- A member that is there when its value is neither null, false, zero nor empty. -/
def truthyMember (name : String) (v : Option Json) : Members :=
  memberOf name id (v.filter Json.isTruthy)

/-- Members taken for a grouping. -/
def compileTakenGroup (ms : Members) : Except PivotError Json := do
  let column ← takenColumn ms
  unusable "sort_order" "value" ms
  unusable "sort_by_value" "value_index" ms
  match givenMember? "group_rule" ms with
  | some rule => throw (.badRule rule)
  | none => pure ()
  return .obj ([("sourceColumnOffset", .int column),
      ("showTotals", (ms.find? "show_totals").getD (.bool true))]
    ++ truthyMember "label" (ms.find? "label")
    ++ memberOf "groupLimit" (fun v => .obj [("countLimit", v)]) (givenMember? "group_limit" ms))

/-- The aggregation that members name. -/
def takenAggregation (ms : Members) : Except PivotError Aggregation :=
  let v := (ms.find? "summarize_function").getD .null
  match Aggregation.all.find? fun a => v.isText a.name with
  | some a => .ok a
  | none => noPart v "value"

/-- The source of a value that members name: a column or a formula. -/
def takenSource (ms : Members) : Except PivotError (String × Json) :=
  match givenMember? "source_column" ms, givenMember? "formula" ms with
  | some _, some _ => .error .bothSources
  | none, none => .error .noSource
  | some column, none => (compileColumn column).map fun i => ("sourceColumnOffset", .int i)
  | none, some formula => .ok ("formula", formula)

/-- Members taken for a value. -/
def compileTakenValue (ms : Members) : Except PivotError Json := do
  let source ← takenSource ms
  let aggregation ← takenAggregation ms
  unusable "calculated_display_type" "value" ms
  return .obj ([("summarizeFunction", .str aggregation.name), source]
    ++ truthyMember "name" (ms.find? "name"))

/-- Members taken for a filter. -/
def compileTakenFilter (ms : Members) : Except PivotError Json := do
  let criteria : Members ←
    match givenMember? "visible_values" ms with
    | some v => (v.elements.mapError PivotError.shape).map fun vs => [("visibleValues", .arr vs)]
    | none => do
      unusable "condition" "type" ms
      pure []
  let column ← takenColumn ms
  return .obj [("columnOffsetIndex", .int column), ("filterCriteria", .obj criteria)]

/-- A grouping, or what stands in its place. -/
def compileGroupPart : DraftPart PivotGroup → Except PivotError Json
  | .checked g => g.compile
  | .taken ms => compileTakenGroup ms
  | .foreign v => noPart v "source_column"

/-- A value, or what stands in its place. -/
def compileValuePart : DraftPart PivotValue → Except PivotError Json
  | .checked v => v.compile
  | .taken ms => compileTakenValue ms
  | .foreign v => noPart v "source_column"

/-- A filter, or what stands in its place. -/
def compileFilterPart : DraftPart PivotFilter → Except PivotError Json
  | .checked f => f.compile
  | .taken ms => compileTakenFilter ms
  | .foreign v => noPart v "visible_values"

/-- A layout, or what stands in its place. -/
def compileLayoutPart : DraftPart ValueLayout → Except PivotError ValueLayout
  | .checked layout => .ok layout
  | .taken ms => noPart (.obj ms) "value"
  | .foreign v => noPart v "value"

/-! ## Drafts -/

/-- What is put to the compiler. -/
structure PivotDraft where
  spreadsheetId : Json
  sourceRange : Json
  /-- The sheet that the table is placed on; a new one if there is none. -/
  destinationSheet : Option Json
  destinationTitle : Json
  rows : DraftParts PivotGroup
  columns : DraftParts PivotGroup
  values : DraftParts PivotValue
  filters : DraftParts PivotFilter
  valueLayout : DraftPart ValueLayout
  deriving Inhabited

/-- Checked models in a draft. -/
def DraftParts.ofModels {α : Type} (models : List α) : DraftParts α := .parts (models.map .checked)

/-- A specification as a draft. -/
def PivotSpec.draft (spec : PivotSpec) : PivotDraft where
  spreadsheetId := .str spec.spreadsheetId
  sourceRange := .str spec.sourceRange
  destinationSheet := spec.destinationSheetId.map .int
  destinationTitle := .str spec.destinationSheetName
  rows := .ofModels (spec.rows.getD [])
  columns := .ofModels (spec.columns.getD [])
  values := .ofModels spec.values
  filters := .ofModels (spec.filters.getD [])
  valueLayout := .checked spec.valueLayout

/-- The source range of a draft. -/
def PivotDraft.range (d : PivotDraft) : Except PivotError CellRange :=
  match d.sourceRange with
  | .str s => WorkspaceTools.sourceRange s
  | .obj ms => noPart (.obj ms) "partition"
  | .arr vs => noPart (.arr vs) "partition"
  | v => .error (.shape (.noMembership v.kind))

/-- The compiled parts of a draft. -/
structure CompiledParts where
  rows : List Json
  columns : List Json
  values : List Json
  filters : List Json

/-- Groupings, values and filters in order. -/
def PivotDraft.compileParts (d : PivotDraft) : Except PivotError CompiledParts := do
  let rows ← (← d.rows.items).mapM compileGroupPart
  let columns ← (← d.columns.items).mapM compileGroupPart
  if rows.isEmpty && columns.isEmpty then throw .noGrouping
  let values ← d.values.items
  if values.isEmpty then throw .noValues
  let values ← values.mapM compileValuePart
  let filters ← (← d.filters.items).mapM compileFilterPart
  return ⟨rows, columns, values, filters⟩

/-! ## Small laws -/

@[simp] theorem items_ofModels {α : Type} (models : List α) :
    (DraftParts.ofModels models).items = .ok (models.map .checked) := rfl

@[simp] theorem range_draft (spec : PivotSpec) : spec.draft.range = sourceRange spec.sourceRange := rfl

end WorkspaceTools
