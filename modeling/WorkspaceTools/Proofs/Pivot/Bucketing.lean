import WorkspaceTools.Proofs.Pivot.Agreement

/-!
# Rules for buckets

A grouping may have a rule that puts its values into buckets. There are three kinds of rule (`RuleKind`), and
the document of a rule has one member, the name of which tells the kind.

* `RuleKind.Writes` relates what a rule of a kind contains to what the compiled rule contains: items of given
  buckets are cell values (`IsCell`), texts as texts and numbers as numbers, and truth values are none.
* `IsRule` relates the document of a rule to the compiled rule. The three kinds exclude one another by their
  names (`GroupRule.check_eq_ok`), so a document is accepted exactly if it is that of a rule (`isRule_iff`).
* `PivotGroup.groupRule_spec`: a grouping is accepted with a rule exactly if the rest of it is accepted and the
  document is that of a rule, and then the compiled rule is the one that is written for it.
-/

namespace WorkspaceTools

open Json Number

/-! ## Documents of rules -/

/-- An object with one name only, and the value of that name. -/
def Json.HasOnly (v : Json) (name : String) (content : Json) : Prop :=
  ∃ ms : Members, v = .obj ms ∧ ms.find? name = some content ∧ ∀ m ∈ ms, m.1 = name

theorem Json.HasOnly.unique {name name' : String} {content content' v : Json} (h : v.HasOnly name content)
    (h' : v.HasOnly name' content') : name = name' ∧ content = content' := by
  obtain ⟨ms, rfl, hfind, hall⟩ := h
  obtain ⟨ms', hms, hfind', -⟩ := h'
  obtain rfl := Json.obj.inj hms
  obtain rfl : name' = name := hall _ (Members.mem_of_find? hfind')
  exact ⟨rfl, Option.some.inj (hfind.symm.trans hfind')⟩

/-- The three kinds of rule. -/
inductive RuleKind where
  | dateTime | histogram | manual
  deriving DecidableEq

/-- The name of the one member of a rule. -/
def RuleKind.name : RuleKind → String
  | .dateTime => "date_time"
  | .histogram => "histogram"
  | .manual => "manual"

/-- The name of the one member of a compiled rule. -/
def RuleKind.compiledName : RuleKind → String
  | .dateTime => "dateTimeRule"
  | .histogram => "histogramRule"
  | .manual => "manualRule"

theorem RuleKind.name_injective : Function.Injective RuleKind.name := by
  intro kind kind' h
  cases kind <;> cases kind' <;> first | rfl | exact absurd h (by decide)

/-- A document that is taken for a number: a number itself if it is not too large, a truth value, or a numeral. -/
inductive StandsForNumber : Json → Binary64 → Prop
  | float (x : Binary64) : StandsForNumber (.float x) x
  | int {i : Int} (h : (Binary64.ofInt i).isFinite = true) : StandsForNumber (.int i) (.ofInt i)
  | truthValue (b : Bool) : StandsForNumber (.bool b) (.ofInt (if b then 1 else 0))
  | numeral {s : String} {x : Binary64} (h : floatOfNumeral? s.toList = some x) : StandsForNumber (.str s) x

/-- A bound of a histogram that is missing or null, or the number of its document. -/
inductive HasBound (name : String) (ms : Members) : Option Binary64 → Prop
  | none (h : (ms.find? name).getD .null = .null) : HasBound name ms none
  | some {v : Json} {x : Binary64} (hv : ms.find? name = some v) (hx : StandsForNumber v x) :
    HasBound name ms (some x)

/-- An item of a given bucket, and its cell value. -/
inductive IsCell : Json → Json → Prop
  | text (s : String) : IsCell (.str s) (.obj [("stringValue", .str s)])
  | int (i : Int) : IsCell (.int i) (.obj [("numberValue", .int i)])
  | float (x : Binary64) : IsCell (.float x) (.obj [("numberValue", .float x)])

/-- A given bucket, and what it is written as: its name, and its items in their order. -/
inductive IsBucket : Json → Json → Prop
  | named {ms : Members} {name : String} {items cells : List Json}
    (hname : ms.find? "group_name" = some (.str name)) (hitems : ms.find? "items" = some (.arr items))
    (hcells : List.Forall₂ IsCell items cells) :
    IsBucket (.obj ms) (.obj [("groupName", .obj [("stringValue", .str name)]), ("items", .arr cells)])

/-- What a rule of a kind contains, and what the compiled rule contains. -/
inductive RuleKind.Writes : RuleKind → Json → Json → Prop
  | dateTime {ms : Members} {unit : DateUnit} (h : ms.find? "type" = some (.str unit.name)) :
    Writes .dateTime (.obj ms) (.obj [("type", .str unit.name)])
  | histogram {ms : Members} {v : Json} {interval : Binary64} {start stop : Option Binary64}
    (hv : ms.find? "interval" = some v) (hinterval : StandsForNumber v interval)
    (hpositive : interval.isPositive = true) (hstart : HasBound "start" ms start)
    (hstop : HasBound "end" ms stop) :
    Writes .histogram (.obj ms) (.obj (Members.present
      [("interval", some (.float interval)), ("start", start.map .float), ("end", stop.map .float)]))
  | manual {ms : Members} {groups buckets : List Json} (h : ms.find? "groups" = some (.arr groups))
    (hne : groups ≠ []) (hbuckets : List.Forall₂ IsBucket groups buckets) :
    Writes .manual (.obj ms) (.obj [("groups", .arr buckets)])

/-! ## Contents of rules -/

theorem writes_dateTime_iff {content written : Json} :
    RuleKind.dateTime.Writes content written ↔
      ∃ unit, checkDateRule content = .ok unit ∧ written = .obj [("type", .str unit.name)] := by
  have hread (unit : DateUnit) : checkName DateUnit.all DateUnit.name (.str unit.name) = .ok unit := by
    cases unit <;> rfl
  simp only [checkDateRule, checkObject_eq_ok, required_eq_ok, checkName_eq_ok hread]
  constructor
  · rintro ⟨h⟩
    exact ⟨_, ⟨_, rfl, _, h, rfl⟩, rfl⟩
  · rintro ⟨unit, ⟨ms, rfl, v, hv, rfl⟩, rfl⟩
    exact .dateTime hv

theorem checkFloat_eq_ok {v : Json} {x : Binary64} : checkFloat v = .ok x ↔ StandsForNumber v x := by
  constructor
  · intro h
    cases v with
    | float y =>
      cases h
      exact .float _
    | int i =>
      simp only [checkFloat] at h
      split at h
      · rename_i hfinite
        cases h
        exact .int hfinite
      · cases h
    | bool b =>
      cases h
      exact .truthValue b
    | str s =>
      cases hread : floatOfNumeral? s.toList with
      | some y =>
        simp only [checkFloat, hread] at h
        cases h
        exact .numeral hread
      | none =>
        simp only [checkFloat, hread] at h
        cases h
    | _ => cases h
  · intro h
    cases h with
    | float => rfl
    | int hfinite => simp only [checkFloat, hfinite, if_true]
    | truthValue => rfl
    | numeral hs => simp only [checkFloat, hs]

theorem StandsForNumber.ne_null {v : Json} {x : Binary64} (h : StandsForNumber v x) : v ≠ .null := by
  rintro rfl
  cases h

theorem optional_bound_eq_ok {name : String} {ms : Members} {o : Option Binary64} :
    optional name none (checkNullable checkFloat) ms = .ok o ↔ HasBound name ms o := by
  simp only [optional_eq_ok, checkNullable_eq_ok, checkFloat_eq_ok]
  constructor
  · rintro (⟨hmissing, rfl⟩ | ⟨v, hv, ⟨rfl, rfl⟩ | ⟨-, x, rfl, hx⟩⟩)
    · exact .none (by rw [hmissing]; rfl)
    · exact .none (by rw [hv]; rfl)
    · exact .some hv hx
  · intro h
    cases h with
    | some hv hx => exact .inr ⟨_, hv, .inr ⟨hx.ne_null, _, rfl, hx⟩⟩
    | none hnull =>
      cases hfind : ms.find? name with
      | none => exact .inl ⟨rfl, rfl⟩
      | some v =>
        rw [hfind, Option.getD_some] at hnull
        exact .inr ⟨v, rfl, .inl ⟨hnull, rfl⟩⟩

theorem HistogramRule.check_eq_ok {content : Json} {rule : HistogramRule} :
    HistogramRule.check content = .ok rule ↔ ∃ (ms : Members) (v : Json), content = .obj ms ∧
      ms.find? "interval" = some v ∧ StandsForNumber v rule.interval ∧ rule.interval.isPositive = true ∧
      HasBound "start" ms rule.start ∧ HasBound "end" ms rule.stop := by
  have hinterval (ms : Members) (x : Binary64) : required "interval" checkPositiveFloat ms = .ok x ↔
      ∃ v, ms.find? "interval" = some v ∧ StandsForNumber v x ∧ x.isPositive = true := by
    simp only [required_eq_ok, checkPositiveFloat, ensure_eq_ok, checkFloat_eq_ok]
  rw [check, checkObject_eq_ok]
  constructor
  · rintro ⟨ms, rfl, h⟩
    split at h
    · rename_i interval start stop hi hstart hstop
      cases h
      obtain ⟨v, hv, hx, hpositive⟩ := (hinterval ms interval).1 hi
      exact ⟨ms, v, rfl, hv, hx, hpositive, optional_bound_eq_ok.1 hstart, optional_bound_eq_ok.1 hstop⟩
    · cases h
  · rintro ⟨ms, v, rfl, hv, hx, hpositive, hstart, hstop⟩
    refine ⟨ms, rfl, ?_⟩
    rw [(hinterval ms rule.interval).2 ⟨v, hv, hx, hpositive⟩, optional_bound_eq_ok.2 hstart,
      optional_bound_eq_ok.2 hstop]

theorem writes_histogram_iff {content written : Json} :
    RuleKind.histogram.Writes content written ↔
      ∃ rule, HistogramRule.check content = .ok rule ∧ written = .obj (Members.present rule.fields) := by
  simp only [HistogramRule.check_eq_ok]
  constructor
  · rintro ⟨⟩
    rename_i ms v interval start stop hv hx hpositive hstart hstop
    exact ⟨⟨interval, start, stop⟩, ⟨ms, v, rfl, hv, hx, hpositive, hstart, hstop⟩, rfl⟩
  · rintro ⟨rule, ⟨ms, v, rfl, hv, hx, hpositive, hstart, hstop⟩, rfl⟩
    exact .histogram hv hx hpositive hstart hstop

theorem isCell_iff (v cell : Json) : IsCell v cell ↔ ∃ a, checkExactScalar v = .ok a ∧ cell = a.cellJson := by
  simp only [checkExactScalar_eq_ok]
  constructor
  · rintro (s | i | x)
    · exact ⟨.text s, rfl, rfl⟩
    · exact ⟨.int i, rfl, rfl⟩
    · exact ⟨.float x, rfl, rfl⟩
  · rintro ⟨a, rfl, rfl⟩
    cases a with
    | text s => exact .text s
    | int i => exact .int i
    | float x => exact .float x

/-- Lists that are checked item by item, and written item by item. -/
theorem forall₂_written_iff {α : Type} {check : Json → Checked α} {write : α → Json} {R : Json → Json → Prop}
    (hR : ∀ v w, R v w ↔ ∃ a, check v = .ok a ∧ w = write a) {vs ws : List Json} :
    List.Forall₂ R vs ws ↔ ∃ as, List.Forall₂ (fun v a => check v = .ok a) vs as ∧ ws = as.map write := by
  constructor
  · intro h
    induction h with
    | nil => exact ⟨[], .nil, rfl⟩
    | cons hvw _ ih =>
      obtain ⟨a, ha, rfl⟩ := (hR _ _).1 hvw
      obtain ⟨as, has, rfl⟩ := ih
      exact ⟨a :: as, .cons ha has, rfl⟩
  · rintro ⟨as, has, rfl⟩
    rw [List.forall₂_map_right_iff]
    exact has.imp fun v a ha => (hR v _).2 ⟨a, ha, rfl⟩

theorem ManualGroup.check_eq_ok {v : Json} {group : ManualGroup} :
    ManualGroup.check v = .ok group ↔ ∃ (ms : Members) (items : List Json), v = .obj ms ∧
      ms.find? "group_name" = some (.str group.groupName) ∧ ms.find? "items" = some (.arr items) ∧
      List.Forall₂ (fun v a => checkExactScalar v = .ok a) items group.items := by
  have hname (ms : Members) (s : String) :
      required "group_name" checkText ms = .ok s ↔ ms.find? "group_name" = some (.str s) := by
    simp [required_eq_ok, checkText_eq_ok]
  have hitems (ms : Members) (as : List Scalar) :
      required "items" (checkList checkExactScalar) ms = .ok as ↔
        ∃ items, ms.find? "items" = some (.arr items) ∧
          List.Forall₂ (fun v a => checkExactScalar v = .ok a) items as := by
    simp only [required_eq_ok, checkList_eq_ok]
    constructor
    · rintro ⟨v, hv, items, rfl, hall⟩
      exact ⟨items, hv, hall⟩
    · rintro ⟨items, hv, hall⟩
      exact ⟨_, hv, items, rfl, hall⟩
  rw [check, checkObject_eq_ok]
  constructor
  · rintro ⟨ms, rfl, h⟩
    split at h
    · rename_i name as hn has
      cases h
      obtain ⟨items, hv, hall⟩ := (hitems ms as).1 has
      exact ⟨ms, items, rfl, (hname ms name).1 hn, hv, hall⟩
    · cases h
  · rintro ⟨ms, items, rfl, hn, hv, hall⟩
    refine ⟨ms, rfl, ?_⟩
    rw [(hname ms _).2 hn, (hitems ms _).2 ⟨items, hv, hall⟩]

theorem isBucket_iff (v bucket : Json) :
    IsBucket v bucket ↔ ∃ group, ManualGroup.check v = .ok group ∧ bucket = group.compile := by
  simp only [ManualGroup.check_eq_ok]
  constructor
  · rintro ⟨hname, hitems, hcells⟩
    rename_i ms name items cells
    obtain ⟨as, has, rfl⟩ := (forall₂_written_iff isCell_iff).1 hcells
    exact ⟨⟨name, as⟩, ⟨ms, items, rfl, hname, hitems, has⟩, rfl⟩
  · rintro ⟨group, ⟨ms, items, rfl, hname, hitems, has⟩, rfl⟩
    exact .named hname hitems ((forall₂_written_iff isCell_iff).2 ⟨_, has, rfl⟩)

theorem writes_manual_iff {content written : Json} :
    RuleKind.manual.Writes content written ↔ ∃ groups, checkManualRule content = .ok groups ∧
      written = .obj [("groups", .arr (groups.map ManualGroup.compile))] := by
  simp only [checkManualRule, checkObject_eq_ok, required_eq_ok, checkNonemptyList_eq_ok]
  constructor
  · rintro ⟨⟩
    rename_i ms vs buckets h hne hbuckets
    obtain ⟨groups, hgroups, rfl⟩ := (forall₂_written_iff isBucket_iff).1 hbuckets
    exact ⟨groups, ⟨ms, rfl, _, h, vs, rfl, hne, hgroups⟩, rfl⟩
  · rintro ⟨groups, ⟨ms, rfl, v, hv, vs, rfl, hne, hgroups⟩, rfl⟩
    exact .manual hv hne ((forall₂_written_iff isBucket_iff).2 ⟨groups, hgroups, rfl⟩)

/-- What a rule of a kind contains is checked. -/
def RuleKind.checkContent : RuleKind → Json → Checked GroupRule
  | .dateTime, content => (checkDateRule content).map .dateTime
  | .histogram, content => (HistogramRule.check content).map .histogram
  | .manual, content => (checkManualRule content).map .manual

/-- A rule made of what was checked, and the content that it is written as. -/
theorem exists_map_written_iff {α : Type} {checked : Checked α} {make : α → GroupRule} {write : α → Json}
    {name : String} (hcompile : ∀ a, (make a).compile = .obj [(name, write a)]) {written : Json} :
    (∃ a, checked = .ok a ∧ written = write a) ↔
      ∃ rule, checked.map make = .ok rule ∧ rule.compile = .obj [(name, written)] := by
  simp only [map_eq_ok]
  constructor
  · rintro ⟨a, ha, rfl⟩
    exact ⟨_, ⟨a, ha, rfl⟩, hcompile a⟩
  · rintro ⟨_, ⟨a, ha, rfl⟩, hwritten⟩
    rw [hcompile] at hwritten
    simp only [Json.obj.injEq, List.cons.injEq, Prod.mk.injEq, true_and, and_true] at hwritten
    exact ⟨a, ha, hwritten.symm⟩

theorem RuleKind.writes_iff {kind : RuleKind} {content written : Json} :
    kind.Writes content written ↔ ∃ rule, kind.checkContent content = .ok rule ∧
      rule.compile = .obj [(kind.compiledName, written)] := by
  cases kind with
  | dateTime => exact writes_dateTime_iff.trans (exists_map_written_iff fun _ => rfl)
  | histogram =>
    refine writes_histogram_iff.trans (exists_map_written_iff fun rule => ?_)
    rw [GroupRule.compile, HistogramRule.present_fields]
    rfl
  | manual => exact writes_manual_iff.trans (exists_map_written_iff fun _ => rfl)

/-! ## Rules -/

theorem checkOnly_eq_ok {α : Type} {model name : String} {check : Json → Checked α} {v : Json} {a : α} :
    checkOnly model name check v = .ok a ↔ ∃ content, v.HasOnly name content ∧ check content = .ok a := by
  have hothers (ms : Members) : noOthers [name] ms = .ok () ↔ ∀ m ∈ ms, m.1 = name := by
    simp only [noOthers_eq_ok, List.mem_singleton]
  rw [checkOnly, under_eq_ok, checkObject_eq_ok]
  constructor
  · rintro ⟨ms, hms, h⟩
    split at h
    · rename_i b hb hnone
      cases h
      obtain ⟨content, hfind, hcheck⟩ := required_eq_ok.1 hb
      exact ⟨content, ⟨ms, hms, hfind, (hothers ms).1 hnone⟩, hcheck⟩
    · cases h
  · rintro ⟨content, ⟨ms, hms, hfind, hall⟩, hcheck⟩
    refine ⟨ms, hms, ?_⟩
    rw [required_eq_ok.2 ⟨content, hfind, hcheck⟩, (hothers ms).2 hall]

theorem checkOnly_map_eq_ok {α : Type} {model name : String} {check : Json → Checked α} {make : α → GroupRule}
    {v : Json} {rule : GroupRule} : .ok rule = (checkOnly model name check v).map make ↔
      ∃ content, v.HasOnly name content ∧ (check content).map make = .ok rule := by
  rw [eq_comm]
  simp only [map_eq_ok, checkOnly_eq_ok]
  constructor
  · rintro ⟨a, ⟨content, hv, ha⟩, hmake⟩
    exact ⟨content, hv, a, ha, hmake⟩
  · rintro ⟨content, hv, a, ha, hmake⟩
    exact ⟨a, ⟨content, hv, ha⟩, hmake⟩

/-- **The three alternatives** of a rule: each of them is told by the one name that it admits. -/
theorem GroupRule.check_eq_ok {v : Json} {rule : GroupRule} :
    GroupRule.check v = .ok rule ↔
      ∃ (kind : RuleKind) (content : Json), v.HasOnly kind.name content ∧ kind.checkContent content = .ok rule := by
  have hmem (rule : GroupRule) : .ok rule ∈ [
      (checkOnly "DateTimeGroupRule" "date_time" checkDateRule v).map .dateTime,
      (checkOnly "HistogramGroupRule" "histogram" HistogramRule.check v).map .histogram,
      (checkOnly "ManualGroupRule" "manual" checkManualRule v).map .manual] ↔
      ∃ (kind : RuleKind) (content : Json), v.HasOnly kind.name content ∧ kind.checkContent content = .ok rule := by
    simp only [List.mem_cons, List.not_mem_nil, or_false, checkOnly_map_eq_ok]
    constructor
    · rintro (h | h | h)
      · exact ⟨.dateTime, h⟩
      · exact ⟨.histogram, h⟩
      · exact ⟨.manual, h⟩
    · rintro ⟨_ | _ | _, h⟩
      · exact .inl h
      · exact .inr (.inl h)
      · exact .inr (.inr h)
  constructor
  · intro h
    exact (hmem rule).1 (mem_of_firstOf h)
  · intro h
    obtain ⟨taken, htaken⟩ := exists_firstOf_of_mem ((hmem rule).2 h)
    -- the alternative that is taken is the given one
    obtain ⟨kind, content, hv, hrule⟩ := h
    obtain ⟨kind', content', hv', hrule'⟩ := (hmem taken).1 (mem_of_firstOf htaken)
    obtain ⟨hname, rfl⟩ := hv.unique hv'
    obtain rfl := RuleKind.name_injective hname
    obtain rfl := Except.ok.inj (hrule.symm.trans hrule')
    exact htaken

/-- A document of a rule, and the compiled rule: each has one member, the name of which tells the kind. -/
def IsRule (v compiled : Json) : Prop :=
  ∃ (kind : RuleKind) (content written : Json), v.HasOnly kind.name content ∧ kind.Writes content written ∧
    compiled = .obj [(kind.compiledName, written)]

theorem isRule_iff {v compiled : Json} :
    IsRule v compiled ↔ ∃ rule, GroupRule.check v = .ok rule ∧ rule.compile = compiled := by
  simp only [IsRule, GroupRule.check_eq_ok, RuleKind.writes_iff]
  constructor
  · rintro ⟨kind, content, written, hv, ⟨rule, hrule, hcompile⟩, rfl⟩
    exact ⟨rule, ⟨kind, content, hv, hrule⟩, hcompile⟩
  · rintro ⟨rule, ⟨kind, content, hv, hrule⟩, rfl⟩
    have hone : ∃ written, rule.compile = .obj [(kind.compiledName, written)] := by
      cases kind with
      | dateTime =>
        obtain ⟨unit, -, rfl⟩ := map_eq_ok.1 hrule
        exact ⟨_, rfl⟩
      | histogram =>
        obtain ⟨rule, -, rfl⟩ := map_eq_ok.1 hrule
        exact ⟨_, rfl⟩
      | manual =>
        obtain ⟨groups, -, rfl⟩ := map_eq_ok.1 hrule
        exact ⟨_, rfl⟩
    obtain ⟨written, hwritten⟩ := hone
    exact ⟨kind, content, written, hv, ⟨rule, hrule, hwritten⟩, hwritten⟩

theorem IsRule.unique {v compiled compiled' : Json} (h : IsRule v compiled) (h' : IsRule v compiled') :
    compiled = compiled' := by
  obtain ⟨rule, hrule, rfl⟩ := isRule_iff.1 h
  obtain ⟨rule', hrule', rfl⟩ := isRule_iff.1 h'
  rw [Except.ok.inj (hrule.symm.trans hrule')]

theorem exists_isRule_iff {v : Json} : (∃ compiled, IsRule v compiled) ↔ ∃ rule, GroupRule.check v = .ok rule := by
  simp only [isRule_iff]
  constructor
  · rintro ⟨_, rule, hrule, -⟩
    exact ⟨rule, hrule⟩
  · rintro ⟨rule, hrule⟩
    exact ⟨_, rule, hrule, rfl⟩

/-! ## Groupings with rules -/

/-- The members of a grouping but for its rule. -/
def withoutRule (ms : Members) : Members := ms.filter fun m => m.1 != "group_rule"

theorem PivotGroup.check_eq_ok {ms : Members} {g : PivotGroup} :
    PivotGroup.check (.obj ms) = .ok g ↔
      required "source_column" checkColumn ms = .ok g.sourceColumn ∧
        optional "label" none (checkNullable checkText) ms = .ok g.label ∧
        optional "show_totals" true checkBool ms = .ok g.showTotals ∧
        optional "sort_order" none (checkNullable (checkName SortOrder.all SortOrder.name)) ms =
          .ok g.sortOrder ∧
        optional "sort_by_value" none (checkNullable checkSortByValue) ms = .ok g.sortByValue ∧
        optional "group_rule" none (checkNullable GroupRule.check) ms = .ok g.groupRule ∧
        optional "group_limit" none (checkNullable (checkIntAbove 0)) ms = .ok g.groupLimit := by
  constructor
  · intro h
    simp only [check, checkObject] at h
    split at h
    · rename_i hcolumn hlabel htotals horder hindex hrule hlimit
      cases h
      exact ⟨hcolumn, hlabel, htotals, horder, hindex, hrule, hlimit⟩
    · cases h
  · rintro ⟨hcolumn, hlabel, htotals, horder, hindex, hrule, hlimit⟩
    simp only [check, checkObject, hcolumn, hlabel, htotals, horder, hindex, hrule, hlimit]

section

variable {ms : Members} {v : Json}

theorem optional_withoutRule_self :
    optional "group_rule" none (checkNullable GroupRule.check) (withoutRule ms) = .ok none := by
  have hfind : (withoutRule ms).find? "group_rule" = none := by
    rw [Members.find?_eq_none_iff, Members.names, withoutRule]
    simp
  simp only [optional, hfind]

/-- The rule of a grouping is checked apart from all other members. -/
theorem PivotGroup.check_iff_withoutRule {g : PivotGroup} :
    PivotGroup.check (.obj ms) = .ok g ↔
      PivotGroup.check (.obj (withoutRule ms)) = .ok { g with groupRule := none } ∧
        optional "group_rule" none (checkNullable GroupRule.check) ms = .ok g.groupRule := by
  have hrequired {α : Type} {name : String} (hname : name ≠ "group_rule") (check : Json → Checked α) :
      required name check (withoutRule ms) = required name check ms := by
    simp only [required, withoutRule, find?_filter_ne hname]
  have hoptional {α : Type} {name : String} (hname : name ≠ "group_rule") (default : α)
      (check : Json → Checked α) :
      optional name default check (withoutRule ms) = optional name default check ms := by
    simp only [optional, withoutRule, find?_filter_ne hname]
  rw [check_eq_ok, check_eq_ok]
  simp (disch := decide) only [hrequired, hoptional, optional_withoutRule_self]
  tauto

theorem PivotGroup.groupRule_withoutRule {g : PivotGroup} (h : PivotGroup.check (.obj (withoutRule ms)) = .ok g) :
    g.groupRule = none := by
  obtain ⟨-, -, -, -, -, hrule, -⟩ := check_eq_ok.1 h
  rw [optional_withoutRule_self] at hrule
  exact (Except.ok.inj hrule).symm

theorem optional_rule_eq_some_iff (hv : ms.find? "group_rule" = some v) {rule : GroupRule} :
    optional "group_rule" none (checkNullable GroupRule.check) ms = .ok (some rule) ↔
      GroupRule.check v = .ok rule := by
  simp only [optional_eq_ok, hv, checkNullable_eq_ok]
  constructor
  · rintro (⟨⟨⟩, -⟩ | ⟨_, ⟨⟩, ⟨-, ⟨⟩⟩ | ⟨-, _, ⟨⟩, hrule⟩⟩)
    exact hrule
  · intro hrule
    refine .inr ⟨v, rfl, .inr ⟨?_, rule, rfl, hrule⟩⟩
    rintro rfl
    obtain ⟨kind, content, ⟨_, ⟨⟩, -⟩, -⟩ := GroupRule.check_eq_ok.1 hrule

theorem PivotGroup.member?_groupRule {g : PivotGroup} {part : Json} (h : g.compile = .ok part) :
    part.member? "groupRule" = g.groupRule.map GroupRule.compile := by
  obtain ⟨column, hcolumn, -⟩ := bind_eq_ok.1 h
  rw [compile_eq (mapError_eq_ok.1 hcolumn)] at h
  cases h
  refine Members.find?_present ?_ (by simp [fields])
  rw [names_fields]
  decide

/-- Some bucket that the document of a rule gives has the item. -/
def GivesItem (v item : Json) : Prop :=
  ∃ (content group : Json) (groups items : List Json), v.HasOnly RuleKind.manual.name content ∧
    content.member? "groups" = some (.arr groups) ∧ group ∈ groups ∧
    group.member? "items" = some (.arr items) ∧ item ∈ items

theorem GivesItem.ne_null {item : Json} (h : GivesItem v item) : v ≠ .null := by
  obtain ⟨_, _, _, _, ⟨ms, rfl, -⟩, -⟩ := h
  nofun

theorem groupRule_ne_none (hv : ms.find? "group_rule" = some v) (hnull : v ≠ .null) {g : PivotGroup}
    (h : PivotGroup.check (.obj ms) = .ok g) : g.groupRule ≠ none := by
  intro hnone
  obtain ⟨-, hchecked⟩ := PivotGroup.check_iff_withoutRule.1 h
  rw [hnone, optional_eq_ok, hv] at hchecked
  rcases hchecked with ⟨⟨⟩, -⟩ | ⟨w, ⟨⟩, hw⟩
  rcases checkNullable_eq_ok.1 hw with ⟨hw, -⟩ | ⟨-, _, ⟨⟩, -⟩
  exact hnull hw

/-- Every item that is given is a cell value. -/
theorem IsRule.exists_isCell {compiled item : Json} (h : IsRule v compiled) (hitem : GivesItem v item) :
    ∃ cell, IsCell item cell := by
  obtain ⟨content, group, groups, items, hv, hgroups, hgroup, hitems, hmem⟩ := hitem
  obtain ⟨kind, content', written, hv', hwrites, -⟩ := h
  obtain ⟨hname, rfl⟩ := hv.unique hv'
  obtain rfl := RuleKind.name_injective hname
  obtain ⟨⟩ := hwrites
  rename_i ms groups' buckets h hne hbuckets
  cases h.symm.trans hgroups
  obtain ⟨bucket, -, ⟨hname, hitems', hcells⟩⟩ := exists_of_mem_of_forall₂ hbuckets hgroup
  cases hitems'.symm.trans hitems
  obtain ⟨cell, -, hcell⟩ := exists_of_mem_of_forall₂ hcells hmem
  exact ⟨cell, hcell⟩

/-- **Rules of groupings.** A grouping is accepted with a rule exactly if it is accepted without and the document
is that of a rule: an object with one name, that of a kind, and a content that is valid for this kind. The
compiled grouping then has the compiled rule: one member of the same kind, with given buckets and their items in
order, numbers as the same numbers and texts as the same texts. A truth value among the items is never accepted. -/
theorem PivotGroup.groupRule_spec (hv : ms.find? "group_rule" = some v) :
    ((∃ g, PivotGroup.check (.obj ms) = .ok g ∧ g.groupRule ≠ none) ↔
        (∃ g, PivotGroup.check (.obj (withoutRule ms)) = .ok g) ∧ ∃ compiled, IsRule v compiled) ∧
      (∀ g, PivotGroup.check (.obj ms) = .ok g → g.groupRule ≠ none →
        ∃ part compiled, g.compile = .ok part ∧ part.member? "groupRule" = some compiled ∧ IsRule v compiled) ∧
      ∀ b, GivesItem v (.bool b) → ∀ g, PivotGroup.check (.obj ms) ≠ .ok g := by
  -- the rule of a grouping that is accepted with one
  have hrule {g : PivotGroup} (hg : PivotGroup.check (.obj ms) = .ok g) {rule : GroupRule}
      (hsome : g.groupRule = some rule) : IsRule v rule.compile := by
    obtain ⟨-, hchecked⟩ := PivotGroup.check_iff_withoutRule.1 hg
    rw [hsome, optional_rule_eq_some_iff hv] at hchecked
    exact isRule_iff.2 ⟨rule, hchecked, rfl⟩
  refine ⟨⟨?_, ?_⟩, ?_, ?_⟩
  · rintro ⟨g, hg, hne⟩
    obtain ⟨rule, hsome⟩ := Option.ne_none_iff_exists'.1 hne
    exact ⟨⟨_, (PivotGroup.check_iff_withoutRule.1 hg).1⟩, _, hrule hg hsome⟩
  · rintro ⟨⟨g, hg⟩, hcompiled⟩
    obtain ⟨rule, hchecked⟩ := exists_isRule_iff.1 hcompiled
    have hnone := PivotGroup.groupRule_withoutRule hg
    refine ⟨{ g with groupRule := some rule }, ?_, Option.some_ne_none rule⟩
    refine PivotGroup.check_iff_withoutRule.2 ⟨?_, (optional_rule_eq_some_iff hv).2 hchecked⟩
    rw [hg, ← hnone]
  · intro g hg hne
    obtain ⟨rule, hsome⟩ := Option.ne_none_iff_exists'.1 hne
    obtain ⟨part, hpart, -⟩ := PivotGroup.compile_of_isColumn (PivotGroup.ensures_check _ _ hg)
    refine ⟨part, rule.compile, hpart, ?_, hrule hg hsome⟩
    rw [PivotGroup.member?_groupRule hpart, hsome]
    rfl
  · intro b hitem g hg
    have hne : g.groupRule ≠ none := groupRule_ne_none hv hitem.ne_null hg
    obtain ⟨rule, hsome⟩ := Option.ne_none_iff_exists'.1 hne
    obtain ⟨cell, ⟨⟩⟩ := (hrule hg hsome).exists_isCell hitem

end

/-- A rule with two given buckets, the first of which has the items. -/
def mixedRule (items : List Json) : Json :=
  .obj [("manual", .obj [("groups", .arr [
    .obj [("group_name", .str "Mixed"), ("items", .arr items)],
    .obj [("items", .arr []), ("group_name", .str "None"), ("note", .null)]])])]

/-- A grouping with such a rule. -/
def mixedGroup (items : List Json) : Members :=
  [("source_column", .str "C"), ("group_rule", mixedRule items), ("show_totals", .bool false)]

/-- A numeral, a whole number and a number with a fraction. -/
def mixedItems : List Json := [.str "5", .int 5, .float (.ofDecimal false 25 (-1))]

/-- The compiled rule with these items. -/
def mixedCells : Json :=
  .obj [("manualRule", .obj [("groups", .arr [
    .obj [("groupName", .obj [("stringValue", .str "Mixed")]), ("items", .arr [.obj [("stringValue", .str "5")],
      .obj [("numberValue", .int 5)], .obj [("numberValue", .float (.ofDecimal false 25 (-1)))]])],
    .obj [("groupName", .obj [("stringValue", .str "None")]), ("items", .arr [])]])])]

/-- The three items stay different from one another, and a truth value is no item. -/
theorem PivotGroup.groupRule_spec_mixed :
    (∃ g part, PivotGroup.check (.obj (mixedGroup mixedItems)) = .ok g ∧ g.compile = .ok part ∧
      part.member? "groupRule" = some mixedCells) ∧
    ∀ g, PivotGroup.check (.obj (mixedGroup [.str "5", .bool true])) ≠ .ok g := by
  constructor
  · have hrule : IsRule (mixedRule mixedItems) mixedCells := by
      refine ⟨.manual, _, _, ⟨_, rfl, rfl, by simp [RuleKind.name]⟩, .manual rfl (List.cons_ne_nil _ _) ?_, rfl⟩
      exact .cons (.named rfl rfl (.cons (.text "5") (.cons (.int 5) (.cons (.float _) .nil))))
        (.cons (.named rfl rfl .nil) .nil)
    have hv : (mixedGroup mixedItems).find? "group_rule" = some (mixedRule mixedItems) := rfl
    obtain ⟨haccepts, hcompiles, -⟩ := groupRule_spec hv
    obtain ⟨g, hg, hne⟩ := haccepts.2 ⟨⟨_, rfl⟩, _, hrule⟩
    obtain ⟨part, compiled, hpart, hmember, hcompiled⟩ := hcompiles g hg hne
    obtain rfl := hrule.unique hcompiled
    exact ⟨g, part, hg, hpart, hmember⟩
  · have hitem : GivesItem (mixedRule [.str "5", .bool true]) (.bool true) :=
      ⟨_, _, _, _, ⟨_, rfl, rfl, by simp [RuleKind.name]⟩, rfl, List.mem_cons_self, rfl, by simp⟩
    have hv : (mixedGroup [.str "5", .bool true]).find? "group_rule" = some (mixedRule [.str "5", .bool true]) :=
      rfl
    obtain ⟨-, -, hrejects⟩ := groupRule_spec hv
    exact hrejects true hitem

end WorkspaceTools
