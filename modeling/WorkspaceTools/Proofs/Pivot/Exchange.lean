import WorkspaceTools.Proofs.Check.Field
import WorkspaceTools.Proofs.Exchange.Run
import WorkspaceTools.Proofs.Outcome
import WorkspaceTools.Proofs.Pivot.Steps
import WorkspaceTools.Proofs.Token.Store
import WorkspaceTools.Tool.Call

/-!
# The requests of a pivot table

A call that makes a pivot table sends at most three requests: it lists the sheets, it adds one unless
a sheet is given, and it writes the table (`pivotPlan`).

* `compileCase_exchange` is the inversion of a compilation against the service: either it stops
  after the first request, or it sends all that it needs to.
* `isPivotExchange_exchange`: what is sent is a part of the plan from its beginning
  (`FollowsPlan.begins`); nothing is posted unless the first answer lists the source sheet
  (`FollowsPlan.posts`); the written table names that sheet and the place (`FollowsPlan.writes`), and
  there is a result exactly when the whole plan was sent and answered (`FollowsPlan.returns`).
* `createPivotTable_requests` says so of a call in a session with a valid token.
-/

namespace WorkspaceTools.Tool

open Text Time

/-! ## Requests and their answers -/

/-- The request for the sheets of a spreadsheet. -/
def listRequest (id : String) : Request :=
  ⟨.get, Service.spreadsheet id, some [("fields", text "sheets.properties(sheetId,title)")], none⟩

/-- The request that adds a sheet. -/
def addRequest (id : String) (title : Json) : Request :=
  ⟨.post, Service.spreadsheetUpdate id, none,
    some (.obj [("requests", .arr [.obj [("addSheet", .obj [("properties", .obj [("title", title)])])]])])⟩

/-- The request that writes a pivot table. -/
def writeRequest (id : String) (table : PivotTable) : Request :=
  ⟨.post, Service.spreadsheetUpdate id, none, some (.obj [("requests", .arr [table.updateRequest])])⟩

/-- The sheets that an answer lists. -/
def listedSheets (body : Json) : List Json :=
  match body.member? "sheets" with
  | some (.arr sheets) => sheets
  | _ => []

/-- A property of a listed sheet, or a default where it is left out. -/
def sheetProperty (name : String) (default sheet : Json) : Json :=
  ((sheet.member? "properties").bind (Json.member? name)).getD default

/-- The number of the first listed sheet of a title, or of the first one for an empty title; a number
that is left out is 0. -/
def sourceSheet? (title : String) (body : Json) : Option Json :=
  ((listedSheets body).find? fun sheet =>
    title = "" || (sheetProperty "title" (text "") sheet).isText title).map
      (sheetProperty "sheetId" (.int 0))

/-- The number of the sheet that was added, where the answer tells it. -/
def addedSheet? (body : Json) : Option Json :=
  match body.member? "replies" with
  | some (.arr (first :: _)) =>
    ((first.member? "addSheet").bind (Json.member? "properties")).bind (Json.member? "sheetId")
  | _ => none

/-! ## Listing -/

/-- The sheets of an answer. -/
def refsOf (body : Json) : Shaped (List SheetRef) := do
  (← body.lookup "sheets" (.arr [])).mapItems sheetRef

theorem listSheets_eq (id : String) :
    listSheets id = Program.ask (listRequest id) >>= fun body =>
      Program.ofExcept ((refsOf body).mapError Fault.shape) := by
  unfold listSheets Program.get
  congr 1
  funext body
  unfold refsOf
  cases body.lookup "sheets" (.arr []) <;> rfl

theorem lookup_eq_ok {v : Json} {name : String} {default w : Json}
    (h : v.lookup name default = .ok w) : w = (v.member? name).getD default := by
  cases v <;> simp_all [Json.lookup, Json.lookup?, Json.membersFor, Except.map, Json.member?]

theorem lookup_lookup_eq_ok {v props w : Json} {name other : String} {default : Json}
    (hp : v.lookup name (.obj []) = .ok props) (hw : props.lookup other default = .ok w) :
    w = ((v.member? name).bind (Json.member? other)).getD default := by
  rw [lookup_eq_ok hw, lookup_eq_ok hp]
  cases v.member? name <;> rfl

/-- A listed sheet is known by its properties. -/
theorem sheetRef_eq_ok {sheet : Json} {ref : SheetRef} (h : sheetRef sheet = .ok ref) :
    ref = ⟨sheetProperty "sheetId" (.int 0) sheet, sheetProperty "title" (text "") sheet⟩ := by
  obtain ⟨props, hp, h⟩ := bind_eq_ok.1 h
  obtain ⟨id, hi, h⟩ := bind_eq_ok.1 h
  obtain ⟨title, ht, h⟩ := bind_eq_ok.1 h
  cases h
  rw [lookup_lookup_eq_ok hp hi, lookup_lookup_eq_ok hp ht]
  rfl

/-- Only objects are sheets: a text or the name of a member is none. -/
theorem sheetRef_str (s : String) : sheetRef (.str s) = .error (.noOperation .str "get") := rfl

theorem mapM_sheetRef_strs {α : Type} {f : α → String} {as : List α} {refs : List SheetRef}
    (h : (as.map fun a => Json.str (f a)).mapM sheetRef = .ok refs) : refs = [] := by
  cases as with
  | nil => cases h; rfl
  | cons a as => simp [sheetRef_str] at h

/-- The references are those of the listed sheets. -/
theorem refsOf_eq_ok {body : Json} {refs : List SheetRef} (h : refsOf body = .ok refs) :
    refs = (listedSheets body).map fun sheet =>
      ⟨sheetProperty "sheetId" (.int 0) sheet, sheetProperty "title" (text "") sheet⟩ := by
  obtain ⟨sheets, hs, h⟩ := bind_eq_ok.1 h
  obtain ⟨items, hi, h⟩ := bind_eq_ok.1 h
  rw [lookup_eq_ok hs] at hi
  unfold listedSheets
  generalize body.member? "sheets" = found at hi ⊢
  cases found with
  | none =>
    cases hi
    cases h
    rfl
  | some v =>
    cases v with
    | arr sheets =>
      cases hi
      exact eq_map_of_mapM (fun _ _ => sheetRef_eq_ok) h
    | str s =>
      cases hi
      exact mapM_sheetRef_strs h
    | obj ms =>
      cases hi
      exact mapM_sheetRef_strs h
    | null => cases hi
    | bool b => cases hi
    | int i => cases hi
    | float x => cases hi

/-! ## The source sheet -/

section Exchange

variable (now : DateTime) (pathFor : String → String → Except String String) (replies : List Reply)

theorem exchange_listSheets (id : String) :
    Program.exchange now pathFor (listSheets id) replies =
      ([listRequest id],
        Program.answerAt replies 0 >>= fun body => (refsOf body).mapError Fault.shape) := by
  rw [listSheets_eq, Program.exchange_bind, Program.exchange_ask]
  cases Program.answerAt replies 0 <;> simp

theorem sourceSheet?_eq_find? {title : String} {body : Json} {refs : List SheetRef}
    (h : refsOf body = .ok refs) :
    sourceSheet? title body =
      (refs.find? fun ref => title = "" || ref.title.isText title).map SheetRef.sheetId := by
  rw [refsOf_eq_ok h, List.find?_map, Option.map_map, sourceSheet?]
  rfl

theorem firstSheet_eq_ok {id v : Json} {refs : List SheetRef} (h : firstSheet id refs = .ok v) :
    (refs.find? fun ref => "" = "" || ref.title.isText "").map SheetRef.sheetId = some v := by
  cases refs with
  | nil => cases h
  | cons ref rest => cases h; simp

theorem foundSheet_eq_ok {id v : Json} {title : String} {refs : List SheetRef} (ht : title ≠ "")
    (h : foundSheet id title (numberOf? title refs) = .ok v) :
    (refs.find? fun ref => title = "" || ref.title.isText title).map SheetRef.sheetId = some v := by
  simp only [ht, decide_false, Bool.false_or]
  unfold numberOf? at h
  cases hf : refs.find? fun ref => ref.title.isText title with
  | none => simp [hf, foundSheet] at h
  | some ref =>
    obtain ⟨number, name⟩ := ref
    rw [hf] at h
    cases number <;> simp_all [foundSheet]

/-- The first answer lists the sheet of the given number as the source sheet. -/
def IsSource (title : String) (v : Json) : Prop :=
  ∃ body, Program.answerAt replies 0 = .ok body ∧ sourceSheet? title body = some v

/-- The question for the source sheet is one request, and what is found is the source sheet. -/
theorem exchange_resolveSheet (id title : String) :
    ∃ r, Program.exchange now pathFor (resolveSheet serviceSheets (.str id) title).run replies =
        ([listRequest id], r) ∧
      ∀ v, r = .ok (.ok v) → IsSource replies title v := by
  rw [run_resolveSheet]
  split
  · subst title
    change ∃ r, Program.exchange now pathFor (firstSheet (.str id) <$> listSheets id) replies = _ ∧ _
    rw [Program.exchange_map, exchange_listSheets]
    refine ⟨_, rfl, fun v hv => ?_⟩
    obtain ⟨refs, hr, hv⟩ := map_eq_ok.1 hv
    obtain ⟨body, hb, hr⟩ := bind_eq_ok.1 hr
    rw [mapError_eq_ok] at hr
    exact ⟨body, hb, by rw [sourceSheet?_eq_find? hr, firstSheet_eq_ok hv]⟩
  · next ht =>
    change ∃ r, Program.exchange now pathFor
      (foundSheet (.str id) title <$> numberOf? title <$> listSheets id) replies = _ ∧ _
    rw [Program.exchange_map, Program.exchange_map, exchange_listSheets]
    refine ⟨_, rfl, fun v hv => ?_⟩
    obtain ⟨number, hn, hv⟩ := map_eq_ok.1 hv
    obtain ⟨refs, hr, rfl⟩ := map_eq_ok.1 hn
    obtain ⟨body, hb, hr⟩ := bind_eq_ok.1 hr
    rw [mapError_eq_ok] at hr
    exact ⟨body, hb, by rw [sourceSheet?_eq_find? hr, foundSheet_eq_ok ht hv]⟩

/-! ## The place -/

/-- The sheet that was added, as an answer tells it. -/
def addedRef (title body : Json) : Shaped SheetRef := do
  let props ← repliedSheet "addSheet" body
  let number ← props.lookup "sheetId" (.int 0)
  let made ← props.lookup "title" title
  return ⟨number, made⟩

theorem addSheet_eq (id : String) (title : Json) :
    addSheet id title = Program.ask (addRequest id title) >>= fun body =>
      Program.ofExcept ((addedRef title body).mapError Fault.shape) := by
  unfold addSheet Program.post
  congr 1
  funext body
  unfold addedRef
  simp only [Program.liftShaped_bind]
  cases repliedSheet "addSheet" body with
  | error e => rfl
  | ok props =>
    simp only [ok_bind]
    cases props.lookup "sheetId" (.int 0) with
    | error e => rfl
    | ok number =>
      simp only [ok_bind]
      cases props.lookup "title" title <;> rfl

theorem exchange_addSheet (id : String) (title : Json) :
    Program.exchange now pathFor (addSheet id title) replies =
      ([addRequest id title],
        Program.answerAt replies 0 >>= fun body => (addedRef title body).mapError Fault.shape) := by
  rw [addSheet_eq, Program.exchange_bind, Program.exchange_ask]
  cases Program.answerAt replies 0 <;> simp

theorem field_eq_ok {v w : Json} {name : String} (h : v.field name = .ok w) :
    w = (v.member? name).getD .null := lookup_eq_ok h

/-- The first reply, where a list without replies counts as one that is empty. -/
theorem first_orElse_eq_ok {v item : Json} (h : (v.orElse (.arr [.obj []])).first = .ok item) :
    (∃ rest, v = .arr (item :: rest)) ∨ (∃ s, item = .str s) ∨
      (v.isTruthy = false ∧ item = .obj []) := by
  cases ht : v.isTruthy with
  | false =>
    rw [Json.orElse, ht] at h
    cases h
    exact .inr (.inr ⟨rfl, rfl⟩)
  | true =>
    rw [Json.orElse, ht, if_pos rfl] at h
    cases v with
    | arr items =>
      cases items with
      | nil => cases h
      | cons item' rest =>
        cases h
        exact .inl ⟨rest, rfl⟩
    | str s =>
      simp only [Json.first, Json.endItem, Json.elements?, List.head?_map] at h
      cases hs : s.toList.head? with
      | none =>
        rw [hs] at h
        cases h
      | some c =>
        rw [hs] at h
        cases h
        exact .inr (.inl ⟨_, rfl⟩)
    | _ => cases h

/-- The number of the sheet that was added is the one that the answer tells, and 0 where it tells none. -/
theorem sheetId_addedRef {title body : Json} {ref : SheetRef} (h : addedRef title body = .ok ref) :
    ref.sheetId = (addedSheet? body).getD (.int 0) := by
  obtain ⟨props, hp, h⟩ := bind_eq_ok.1 h
  obtain ⟨number, hnum, h⟩ := bind_eq_ok.1 h
  obtain ⟨made, -, h⟩ := bind_eq_ok.1 h
  cases h
  obtain ⟨replies, hr, hp₁⟩ := bind_eq_ok.1 hp
  obtain ⟨first, hf, hp₂⟩ := bind_eq_ok.1 hp₁
  obtain ⟨change, hc, hprops⟩ := bind_eq_ok.1 hp₂
  rw [field_eq_ok hr] at hf
  rcases first_orElse_eq_ok hf with ⟨rest, hv⟩ | ⟨s, rfl⟩ | ⟨hfalse, rfl⟩
  · have hreplies : body.member? "replies" = some (.arr (first :: rest)) := by
      cases hm : body.member? "replies" with
      | none => simp [hm] at hv
      | some v => simpa [hm] using hv
    rw [lookup_eq_ok hnum, lookup_eq_ok hprops, lookup_eq_ok hc, addedSheet?, hreplies]
    simp only
    cases hadd : first.member? "addSheet" with
    | none => rfl
    | some v =>
      simp only [Option.getD_some, Option.bind_some]
      cases hinner : v.member? "properties" with
      | none => rfl
      | some w => rfl
  · -- a text has no members
    cases hc
  · have hnone : addedSheet? body = none := by
      unfold addedSheet?
      split
      · rename_i hm
        rw [hm] at hfalse
        cases hfalse
      · rfl
    rw [hnone, lookup_eq_ok hnum, lookup_eq_ok hprops, lookup_eq_ok hc]
    rfl

/-- A number that the answer tells is the number of the sheet. -/
theorem sheetId_eq_of_addedRef {title body n : Json} {ref : SheetRef}
    (h : addedRef title body = .ok ref) (hn : addedSheet? body = some n) : ref.sheetId = n := by
  rw [sheetId_addedRef h, hn, Option.getD_some]

/-- A new sheet costs one request, a given one none. -/
theorem exchange_placeTable (spec : PivotSpec) :
    Program.exchange now pathFor (placeTable serviceSheets spec.draft) replies =
      match spec.destinationSheetId with
      | some id => ([], .ok (.int id, none))
      | none => ([addRequest spec.spreadsheetId (.str spec.destinationSheetName)],
          (Program.answerAt replies 0 >>= fun body =>
            (addedRef (.str spec.destinationSheetName) body).mapError Fault.shape).map
              fun ref => (ref.sheetId, some ref.title)) := by
  unfold placeTable
  rw [show spec.draft.destinationSheet = spec.destinationSheetId.map .int from rfl]
  cases spec.destinationSheetId with
  | some id => rfl
  | none =>
    change Program.exchange now pathFor (_ <$> addSheet spec.spreadsheetId (.str spec.destinationSheetName))
      replies = _
    rw [Program.exchange_map, exchange_addSheet]

/-- The sheet that a table is placed on: the given one, or the one of the second answer. -/
def IsPlace (spec : PivotSpec) (v : Json) : Prop :=
  match spec.destinationSheetId with
  | some id => v = .int id
  | none => ∃ body, Program.answerAt replies 1 = .ok body ∧ ∀ n, addedSheet? body = some n → v = n

/-- The requests of a compilation after the source range was read. -/
def compileRequests (spec : PivotSpec) : List Request :=
  listRequest spec.spreadsheetId ::
    match spec.destinationSheetId with
    | some _ => []
    | none => [addRequest spec.spreadsheetId (.str spec.destinationSheetName)]

/-- What a compilation may come to: it stops before anything is added, or it asks for all that it
needs, and its table carries the source sheet and the place. -/
inductive CompileCase (spec : PivotSpec) (title : String) :
    List Request → Except Fault (Except PivotError PivotTable) → Prop
  | stopped {r} (h : ∀ table, r ≠ .ok (.ok table)) :
    CompileCase spec title [listRequest spec.spreadsheetId] r
  | asked {sent r v} (hsent : sent = compileRequests spec) (hv : IsSource replies title v)
      (h : ∀ table, r = .ok (.ok table) →
        table.sourceSheet = v ∧ IsPlace replies spec table.destinationSheet) :
    CompileCase spec title sent r

/-- **The requests of a compilation.** -/
theorem compileCase_exchange {spec : PivotSpec} {range : CellRange}
    (hr : sourceRange spec.sourceRange = .ok range) :
    CompileCase replies spec range.sheetTitle
      (Program.exchange now pathFor (compileSpec serviceSheets spec).run replies).1
      (Program.exchange now pathFor (compileSpec serviceSheets spec).run replies).2 := by
  obtain ⟨r, he, hs⟩ := exchange_resolveSheet now pathFor replies spec.spreadsheetId range.sheetTitle
  rw [compileSpec, run_compileDraft, range_draft, hr]
  simp only
  rw [Program.exchange_bind, show spec.draft.spreadsheetId = .str spec.spreadsheetId from rfl, he]
  match r, hs with
  | .error e, _ => exact .stopped (by simp)
  | .ok (.error e), _ => exact .stopped (by simp)
  | .ok (.ok v), hs =>
    simp only [placeDraft]
    cases spec.draft.compileParts with
    | error e => exact .stopped (by simp)
    | ok parts =>
      rw [Program.exchange_map, exchange_placeTable]
      cases hd : spec.destinationSheetId with
      | some id =>
        refine .asked (by simp [compileRequests, hd]) (hs v rfl) fun table ht => ?_
        obtain ⟨hv, hp⟩ := tableOf_eq_ok (Except.ok.inj ht)
        exact ⟨hv, by simp [IsPlace, hd, hp]⟩
      | none =>
        refine .asked (by simp [compileRequests, hd]) (hs v rfl) fun table ht => ?_
        obtain ⟨place, hplace, ht⟩ := map_eq_ok.1 ht
        obtain ⟨ref, href, rfl⟩ := map_eq_ok.1 hplace
        obtain ⟨body, hb, href⟩ := bind_eq_ok.1 href
        obtain ⟨hv, hp⟩ := tableOf_eq_ok ht
        rw [Program.answerAt_drop] at hb
        rw [mapError_eq_ok] at href
        refine ⟨hv, ?_⟩
        simp only [IsPlace, hd]
        exact ⟨body, hb, fun n hn => hp.trans (sheetId_eq_of_addedRef href hn)⟩

/-! ## The whole call -/

/-- What the arguments of a call say. -/
def pivotArguments (args : Members) : Checked PivotSpec := PivotSpec.check (.obj (withoutFormat args))

/-- The summary of a table. -/
def summary (spec : PivotSpec) (table : PivotTable) : Json :=
  .obj [("spreadsheet_id", text spec.spreadsheetId),
    ("pivot_table_sheet_id", table.destinationSheet),
    ("pivot_table_sheet_name",
      (table.destinationTitle.getD .null).orElse (text "(existing sheet)")),
    ("source_range", text spec.sourceRange), ("row_groups", .ofNat table.rows.length),
    ("column_groups", .ofNat table.columns.length),
    ("value_aggregations", .ofNat table.values.length), ("filters", .ofNat table.filters.length)]

/-- What is done with the outcome of a compilation: the table is written. -/
def writeCompiled (spec : PivotSpec) : Except PivotError PivotTable → Program Json
  | .error e => .fail (.pivot e)
  | .ok table => (fun _ => summary spec table) <$> Program.ask (writeRequest spec.spreadsheetId table)

theorem runCreatePivotTable_eq (args : Members) :
    runCreatePivotTable args =
      match pivotArguments args with
      | .error issues => .fail (.issues issues)
      | .ok spec => (compileSpec serviceSheets spec).run >>= writeCompiled spec := by
  unfold runCreatePivotTable pivotArguments
  cases PivotSpec.check (.obj (withoutFormat args)) with
  | error issues => rfl
  | ok spec =>
    change (compileSpec serviceSheets spec).run >>= _ = _
    congr 1
    funext compiled
    cases compiled <;> rfl

/-- The requests of a call that goes through. -/
def pivotPlan (spec : PivotSpec) (table : PivotTable) : List Request :=
  compileRequests spec ++ [writeRequest spec.spreadsheetId table]

/-- The part of a document at the end of a path. -/
def partAt : List PathStep → Json → Option Json
  | [], v => some v
  | .member name :: rest, v => (v.member? name).bind (partAt rest)
  | .item i :: rest, .arr items => items[i]?.bind (partAt rest)
  | .item _ :: _, _ => none

/-- Where a written table names the sheet that it reads. -/
def sourcePath : List PathStep :=
  [.member "requests", .item 0, .member "updateCells", .member "rows", .item 0, .member "values",
    .item 0, .member "pivotTable", .member "source", .member "sheetId"]

/-- Where a written table names the sheet that it is placed on. -/
def placePath : List PathStep :=
  [.member "requests", .item 0, .member "updateCells", .member "start", .member "sheetId"]

/-- What a call with valid arguments and a source range sends, and what comes of it. -/
structure FollowsPlan (spec : PivotSpec) (title : String) (table : PivotTable) (sent : List Request)
    (outcome : Except Fault Json) : Prop where
  begins : sent <+: pivotPlan spec table
  lists : sent ≠ []
  posts : ∀ r ∈ sent, r.method = .post → ∃ v, IsSource replies title v
  writes : sent = pivotPlan spec table → ∃ body source place,
    (writeRequest spec.spreadsheetId table).body = some body ∧
      partAt sourcePath body = some source ∧ IsSource replies title source ∧
      partAt placePath body = some place ∧ IsPlace replies spec place
  returns : (∃ v, outcome = .ok v) ↔
    sent = pivotPlan spec table ∧ ∀ i < sent.length, ∃ body, Program.answerAt replies i = .ok body

/-- What a call sends, and what comes of it. -/
structure IsPivotExchange (args : Members) (sent : List Request) (outcome : Except Fault Json) :
    Prop where
  invalid : ∀ issues, pivotArguments args = .error issues →
    sent = [] ∧ outcome = .error (.issues issues)
  noCells : ∀ spec e, pivotArguments args = .ok spec → sourceRange spec.sourceRange = .error e →
    sent = [] ∧ outcome = .error (.pivot e)
  planned : ∀ spec range, pivotArguments args = .ok spec → sourceRange spec.sourceRange = .ok range →
    ∃ table, FollowsPlan replies spec range.sheetTitle table sent outcome

/-- A call that stops early sends no request after the first one that it stops at. -/
theorem FollowsPlan.of_error {spec : PivotSpec} {title : String} {sent : List Request} {e : Fault}
    (hs : sent <+: compileRequests spec) (hl : sent ≠ [])
    (hp : ∀ r ∈ sent, r.method = .post → ∃ v, IsSource replies title v) (table : PivotTable) :
    FollowsPlan replies spec title table sent (.error e) := by
  have hne : sent ≠ pivotPlan spec table := fun h => by
    have := hs.length_le
    rw [h, pivotPlan, List.length_append, List.length_singleton] at this
    omega
  exact ⟨hs.trans (List.prefix_append _ _), hl, hp, fun h => absurd h hne, by simp [hne]⟩

/-- A table that was compiled is written, and the answer to that decides. -/
theorem FollowsPlan.of_table {spec : PivotSpec} {title : String} {table : PivotTable}
    (hs : IsSource replies title table.sourceSheet) (hp : IsPlace replies spec table.destinationSheet)
    (hc : ∀ i < (compileRequests spec).length, ∃ body, Program.answerAt replies i = .ok body) :
    FollowsPlan replies spec title table (pivotPlan spec table)
      ((Program.answerAt replies (compileRequests spec).length).map fun _ => summary spec table) where
  begins := List.prefix_refl _
  lists := by simp [pivotPlan]
  posts _ _ _ := ⟨_, hs⟩
  writes _ := ⟨_, _, _, rfl, rfl, hs, rfl, hp⟩
  returns := by
    have hlast : (∃ v, (Program.answerAt replies (compileRequests spec).length).map
        (fun _ => summary spec table) = .ok v) ↔
        ∃ body, Program.answerAt replies (compileRequests spec).length = .ok body := by
      cases Program.answerAt replies (compileRequests spec).length <;> simp
    rw [hlast, pivotPlan, List.length_append, List.length_singleton]
    constructor
    · refine fun h => ⟨rfl, fun i hi => ?_⟩
      rcases Nat.lt_succ_iff_lt_or_eq.1 hi with hi | rfl
      · exact hc i hi
      · exact h
    · exact fun h => h.2 _ (Nat.lt_succ_self _)

/-- The answers to the requests of a compilation that was not stopped. -/
theorem answers_of_isPlace {spec : PivotSpec} {title : String} {v w : Json}
    (hs : IsSource replies title v) (hp : IsPlace replies spec w) :
    ∀ i < (compileRequests spec).length, ∃ body, Program.answerAt replies i = .ok body := by
  obtain ⟨body, hb, -⟩ := hs
  intro i hi
  cases i with
  | zero => exact ⟨body, hb⟩
  | succ i =>
    unfold compileRequests at hi
    unfold IsPlace at hp
    cases hd : spec.destinationSheetId with
    | some id => simp [hd] at hi
    | none =>
      simp only [hd] at hi hp
      obtain rfl : i = 0 := by
        rw [List.length_cons, List.length_singleton] at hi
        omega
      exact ⟨hp.choose, hp.choose_spec.1⟩

/-- A compilation sends requests of its own only, and posts nothing without a source sheet. -/
theorem CompileCase.begins {spec : PivotSpec} {title : String} {sent : List Request}
    {r : Except Fault (Except PivotError PivotTable)} (h : CompileCase replies spec title sent r) :
    sent <+: compileRequests spec ∧ sent ≠ [] ∧
      ∀ q ∈ sent, q.method = .post → ∃ v, IsSource replies title v := by
  cases h with
  | stopped h =>
    refine ⟨⟨_, rfl⟩, by simp, fun q hq hpost => ?_⟩
    obtain rfl := List.mem_singleton.1 hq
    cases hpost
  | asked hsent hv h =>
    subst hsent
    exact ⟨List.prefix_refl _, by simp [compileRequests], fun _ _ _ => ⟨_, hv⟩⟩

/-- A compilation that makes a table has sent all of its requests. -/
theorem CompileCase.of_table {spec : PivotSpec} {title : String} {sent : List Request}
    {table : PivotTable} (h : CompileCase replies spec title sent (.ok (.ok table))) :
    sent = compileRequests spec ∧ IsSource replies title table.sourceSheet ∧
      IsPlace replies spec table.destinationSheet := by
  cases h with
  | stopped h => exact absurd rfl (h table)
  | asked hsent hv h =>
    obtain ⟨rfl, hp⟩ := h table rfl
    exact ⟨hsent, hv, hp⟩

/-- What a compilation is followed by: its table is written, if there is one. -/
theorem exists_followsPlan {spec : PivotSpec} {title : String}
    {p : Program (Except PivotError PivotTable)}
    (h : CompileCase replies spec title (Program.exchange now pathFor p replies).1
      (Program.exchange now pathFor p replies).2) :
    ∃ table, FollowsPlan replies spec title table
      (Program.exchange now pathFor (p >>= writeCompiled spec) replies).1
      (Program.exchange now pathFor (p >>= writeCompiled spec) replies).2 := by
  rw [Program.exchange_bind]
  generalize Program.exchange now pathFor p replies = run at h ⊢
  obtain ⟨sent, r⟩ := run
  obtain ⟨hbegins, hsent, hposts⟩ := h.begins
  match r, h with
  | .error fault, _ => exact ⟨default, .of_error _ hbegins hsent hposts _⟩
  | .ok (.error e), _ =>
    simp only [writeCompiled, Program.exchange_fail, List.append_nil]
    exact ⟨default, .of_error _ hbegins hsent hposts _⟩
  | .ok (.ok table), h =>
    obtain ⟨rfl, hsource, hplace⟩ := h.of_table
    simp only [writeCompiled, Program.exchange_map, Program.exchange_ask, Program.answerAt_drop,
      Nat.add_zero]
    exact ⟨table, .of_table _ hsource hplace (answers_of_isPlace _ hsource hplace)⟩

/-- **The exchange of a call.** -/
theorem isPivotExchange_exchange (args : Members) :
    IsPivotExchange replies args (Program.exchange now pathFor (runCreatePivotTable args) replies).1
      (Program.exchange now pathFor (runCreatePivotTable args) replies).2 := by
  rw [runCreatePivotTable_eq]
  cases hargs : pivotArguments args with
  | error issues => exact ⟨by simp [hargs], by simp [hargs], by simp [hargs]⟩
  | ok spec =>
    refine ⟨by simp [hargs], fun spec' e h he => ?_, fun spec' range h hr => ?_⟩
    · obtain rfl : spec = spec' := by simpa [hargs] using h
      simp only [Program.exchange_bind]
      rw [compileSpec, run_compileDraft, range_draft, he]
      exact ⟨rfl, rfl⟩
    · obtain rfl : spec = spec' := by simpa [hargs] using h
      exact exists_followsPlan now pathFor replies (compileCase_exchange now pathFor replies hr)

end Exchange

/-! ## The given sheet -/

theorem destination_of_check {ms : Members} {spec : PivotSpec}
    (h : PivotSpec.check (.obj ms) = .ok spec) :
    optional "destination_sheet_id" none (checkNullable checkInt) ms =
      .ok spec.destinationSheetId := by
  simp only [PivotSpec.check, checkObject] at h
  split at h
  · split at h
    · cases h
    · cases h; assumption
  · cases h

/-- No sheet is given exactly when the argument is absent or null, and a given number is kept. -/
theorem destination_pivotArguments {args : Members} {spec : PivotSpec}
    (h : pivotArguments args = .ok spec) :
    (spec.destinationSheetId = none ↔ (args.find? "destination_sheet_id").getD .null = .null) ∧
      ∀ n, args.find? "destination_sheet_id" = some (.int n) → spec.destinationSheetId = some n := by
  have hd := destination_of_check h
  rw [optional_eq_ok, withoutFormat, find?_filter_ne (by decide)] at hd
  rcases hd with ⟨hf, hn⟩ | ⟨v, hf, hv⟩
  · simp [hf, hn]
  · rw [hf]
    by_cases hnull : v = .null
    · subst hnull
      simp [← Except.ok.inj hv]
    · rw [checkNullable_of_ne_null hnull] at hv
      obtain ⟨n, hn, hs⟩ := map_eq_ok.1 hv
      refine ⟨by simp [← hs, hnull], fun k hk => ?_⟩
      obtain rfl : v = .int k := Option.some.inj hk
      rw [← hs, ← Except.ok.inj hn]

theorem dispatch_createPivotTable (args : Members) :
    dispatch createPivotTable.name args = runCreatePivotTable args := by
  have h : ofName? createPivotTable.name = some createPivotTable := by decide
  rw [dispatch, h]
  rfl

/-- **The requests of a call** under a valid token, for all arguments and all replies: they begin a
plan of one listing, one added sheet unless one is given, and one written table. -/
theorem createPivotTable_requests (args : Members) {s : Session}
    (h : s.folder.status serviceName s.now = .ok .valid) :
    ∃ token sent,
      ((dispatch createPivotTable.name args).run s).2.sent =
          (sent.map (⟨·, token⟩)).reverse ++ s.sent ∧
        IsPivotExchange s.replies args sent ((dispatch createPivotTable.name args).run s).1 ∧
        ∀ spec, pivotArguments args = .ok spec →
          (spec.destinationSheetId = none ↔
              (args.find? "destination_sheet_id").getD .null = .null) ∧
            ∀ n, args.find? "destination_sheet_id" = some (.int n) →
              spec.destinationSheetId = some n := by
  obtain ⟨token, htoken⟩ := Session.isAuthorized_of_status h
  rw [dispatch_createPivotTable]
  obtain ⟨hout, hsent⟩ := Program.run_of_authorized (runCreatePivotTable args) htoken
  refine ⟨token, _, hsent, ?_, fun _ => destination_pivotArguments⟩
  rw [hout]
  exact isPivotExchange_exchange s.now s.pathFor s.replies args

/-- Arguments for a table of totals on the sheet of number 0. -/
def totalsArguments : Members :=
  [("spreadsheet_id", .str "book"), ("source_range", .str "Data!A1:B9"),
    ("destination_sheet_id", .int 0), ("rows", .arr [.obj [("source_column", .str "A")]]),
    ("values", .arr [.obj [("source_column", .str "B"), ("summarize_function", .str "SUM")]])]

/-- What these arguments say. -/
def totalsSpec : PivotSpec where
  spreadsheetId := "book"
  sourceRange := "Data!A1:B9"
  destinationSheetId := some 0
  rows := some [{ sourceColumn := .str "A" }]
  values := [{ sourceColumn := some (.str "B"), aggregation := .sum }]

/-- A session with a token, in which the spreadsheet has one sheet. -/
def totalsSession : Session where
  folder := TokenFolder.save (Members.set serviceName (storeUntil serviceName 3).document []) {}
  now := dayOf2030 1
  accounts _ := .refused ""
  replies := [.answer 200 (.ok (.obj [("sheets", .arr [.obj [("properties",
    .obj [("sheetId", .int 4), ("title", .str "Data")])]])])), .empty]
  pathFor start stop := .ok (start ++ stop)

theorem createPivotTable_requests_totals :
    totalsSession.folder.status serviceName totalsSession.now = .ok .valid ∧
      ∃ token sent table,
        ((dispatch createPivotTable.name totalsArguments).run totalsSession).2.sent =
            (sent.map (⟨·, token⟩)).reverse ∧
          FollowsPlan totalsSession.replies totalsSpec "Data" table sent
            ((dispatch createPivotTable.name totalsArguments).run totalsSession).1 := by
  have hwritable : (storeUntil serviceName 3).IsWritable := isWritable_storeUntil _ (by decide)
  have hretrieve : totalsSession.folder.retrieve serviceName totalsSession.now =
      .ok (some (storeUntil serviceName 3).record) :=
    TokenFolder.retrieve_save_set (TokenFolder.isReadable_noMembers {}) hwritable _
  have hexpired : (storeUntil serviceName 3).token.isExpired? (dayOf2030 1) expiryMargin =
      some false := by decide +kernel
  have hvalid := TokenFolder.status_of_retrieve hretrieve (TokenFolder.hasExpired_of_isExpired? hexpired)
  obtain ⟨token, sent, hsent, hexchange, -⟩ := createPivotTable_requests totalsArguments hvalid
  obtain ⟨table, hplan⟩ := hexchange.planned totalsSpec _ rfl rfl
  exact ⟨hvalid, token, sent, table, by simpa [totalsSession] using hsent, hplan⟩

end WorkspaceTools.Tool
