import WorkspaceTools.Proofs.Exchange.Selection
import WorkspaceTools.Proofs.Pivot.Checked
import WorkspaceTools.Proofs.Pivot.Exchange

/-!
# What a call does to a spreadsheet

A call that makes a pivot table may change the spreadsheet twice: it adds a sheet and writes the table.

* `callCase_exchange` lists where a call may end (`CallCase`): of a checked specification only the source
  can fail before a sheet is added.
* `createPivotTable_failsAfterAddition`: a call that fails has added a sheet exactly when it got past the
  addition (`FailsAfterAddition`), and nothing is taken back. Arguments, ranges and titles that are wrong
  leave the spreadsheet as it was.
* `createPivotTable_overwrites_iff`: a table without a given sheet is placed on the sheet whose number the
  service told, and on the sheet 0 where it told none. That is how it may come to stand on a listed sheet.

Both hold in every session, whatever becomes of the tokens.
-/

namespace WorkspaceTools

/-- The service reports success, whether or not the body can be read. -/
def Reply.Succeeds : Reply → Prop
  | .answer status _ => isSuccess status = true
  | .broken _ => False

theorem Reply.succeeds_of_document {reply : Reply} {v : Json} (h : reply.document = .ok v) :
    reply.Succeeds := by
  cases reply with
  | broken text => cases h
  | answer status body =>
    simp only [Reply.document] at h
    split at h
    · assumption
    · cases h

/-- The reply to the request of the given number, counted from 0. -/
def Program.replyAt (replies : List Reply) (i : Nat) : Reply := (replies.drop i).headD .empty

namespace Tool

open Time

/-! ## A call stops at its first failure -/

theorem stops_listSheets (id : String) : (listSheets id).Stops := by
  rw [listSheets_eq]
  exact .bind (.ask _) fun _ => .ofExcept _

theorem stops_addSheet (id : String) (title : Json) : (addSheet id title).Stops := by
  rw [addSheet_eq]
  exact .bind (.ask _) fun _ => .ofExcept _

theorem stops_resolveSheet (id : Json) (title : String) :
    (resolveSheet serviceSheets id title).run.Stops := by
  rw [run_resolveSheet]
  split
  · exact .map _ (stops_listSheets _)
  · exact .map _ (.map _ (stops_listSheets _))

theorem stops_compileSpec (spec : PivotSpec) : (compileSpec serviceSheets spec).run.Stops := by
  rw [compileSpec, run_compileDraft]
  split
  · trivial
  · refine .bind (stops_resolveSheet _ _) fun found => ?_
    cases found with
    | error e => trivial
    | ok sheet =>
      unfold placeDraft
      dsimp only
      split
      · trivial
      · refine .map _ ?_
        unfold placeTable
        split
        · trivial
        · exact .bind (stops_addSheet _ _) fun _ => trivial

theorem stops_runCreatePivotTable (args : Members) : (runCreatePivotTable args).Stops := by
  rw [runCreatePivotTable_eq]
  split
  · trivial
  · refine .bind (stops_compileSpec _) fun compiled => ?_
    cases compiled with
    | error e => trivial
    | ok table => exact .map _ (.ask _)

/-! ## Where a call may end -/

section Exchange

variable (now : DateTime) (pathFor : String → String → Except String String) (replies : List Reply) (args : Members)

/-- The arguments of a call make a specification, and its source sheet was listed. -/
structure FindsSource (spec : PivotSpec) : Prop where
  arguments : pivotArguments args = .ok spec
  source : ∃ range v, sourceRange spec.sourceRange = .ok range ∧ IsSource replies range.sheetTitle v

/-- The sheet that was added, as the second answer tells it. -/
def addedSheetOf (spec : PivotSpec) : Except Fault SheetRef :=
  Program.answerAt replies 1 >>= fun body =>
    (addedRef (.str spec.destinationSheetName) body).mapError Fault.shape

/-- Where a call may end. -/
inductive CallCase : List Request → Except Fault Json → Prop
  /-- The arguments or the range are refused. -/
  | refused {e : Fault} : CallCase [] (.error e)
  /-- The source sheet is not found. -/
  | unlisted {spec : PivotSpec} {e : Fault} : CallCase [listRequest spec.spreadsheetId] (.error e)
  /-- The sheet is given, and the table is written. -/
  | given {spec : PivotSpec} {id : Int} {table : PivotTable} (i : Nat)
    (hargs : pivotArguments args = .ok spec) (hd : spec.destinationSheetId = some id) :
    CallCase [listRequest spec.spreadsheetId, writeRequest spec.spreadsheetId table]
      ((Program.answerAt replies i).map fun _ => summary spec table)
  /-- A sheet was to be added, but it is not known which one it is. -/
  | unplaced {spec : PivotSpec} {e : Fault} (h : FindsSource replies args spec)
    (hd : spec.destinationSheetId = none) (he : addedSheetOf replies spec = .error e) :
    CallCase [listRequest spec.spreadsheetId,
      addRequest spec.spreadsheetId (.str spec.destinationSheetName)] (.error e)
  /-- A sheet was added, and the table is written. -/
  | placed {spec : PivotSpec} {ref : SheetRef} {table : PivotTable} (h : FindsSource replies args spec)
    (hd : spec.destinationSheetId = none) (href : addedSheetOf replies spec = .ok ref)
    (ht : table.destinationSheet = ref.sheetId) :
    CallCase [listRequest spec.spreadsheetId,
      addRequest spec.spreadsheetId (.str spec.destinationSheetName),
      writeRequest spec.spreadsheetId table]
      ((Program.answerAt replies 2).map fun _ => summary spec table)

theorem tableOf_draft (spec : PivotSpec) (range : CellRange) (sheet : Json) (parts : CompiledParts)
    (place : Json × Option Json) :
    tableOf spec.draft range sheet parts place =
      .ok ⟨sheet, range, parts.rows, parts.columns, parts.values, parts.filters, spec.valueLayout,
        place.1, place.2⟩ := rfl

theorem exchange_writeCompiled (spec : PivotSpec) (table : PivotTable) :
    Program.exchange now pathFor (writeCompiled spec (.ok table)) replies =
      ([writeRequest spec.spreadsheetId table],
        (Program.answerAt replies 0).map fun _ => summary spec table) := by
  rw [writeCompiled, Program.exchange_map, Program.exchange_ask]

/-- **Where a call may end.** -/
theorem callCase_exchange :
    CallCase replies args (Program.exchange now pathFor (runCreatePivotTable args) replies).1
      (Program.exchange now pathFor (runCreatePivotTable args) replies).2 := by
  rw [runCreatePivotTable_eq]
  cases hargs : pivotArguments args with
  | error issues => exact .refused
  | ok spec =>
    simp only [Program.exchange_bind]
    rw [compileSpec, run_compileDraft, range_draft]
    cases hrange : sourceRange spec.sourceRange with
    | error e => exact .refused
    | ok range =>
      obtain ⟨parts, hparts, -⟩ := (PivotSpec.ensures_check _ spec hargs).compileParts
      obtain ⟨r, he, hs⟩ := exchange_resolveSheet now pathFor replies spec.spreadsheetId range.sheetTitle
      simp only
      rw [Program.exchange_bind, show spec.draft.spreadsheetId = .str spec.spreadsheetId from rfl, he]
      rcases r with e | (e | v)
      · exact .unlisted
      · exact .unlisted
      · have hsource : FindsSource replies args spec := ⟨hargs, range, v, hrange, hs v rfl⟩
        simp only [placeDraft, hparts, Program.exchange_map, exchange_placeTable]
        cases hd : spec.destinationSheetId with
        | some id =>
          simp only [map_ok, tableOf_draft, exchange_writeCompiled, Program.answerAt_drop]
          exact .given _ hargs hd
        | none =>
          have hdrop : Program.answerAt (replies.drop 1) 0 = Program.answerAt replies 1 :=
            Program.answerAt_drop ..
          simp only [hdrop, List.length_singleton]
          rw [← addedSheetOf]
          cases hadded : addedSheetOf replies spec with
          | error e => exact .unplaced hsource hd hadded
          | ok ref =>
            simp only [map_ok, tableOf_draft, exchange_writeCompiled, Program.answerAt_drop]
            exact .placed hsource hd hadded rfl

end Exchange

/-! ## Added sheets -/

/-- A request that adds a sheet. -/
def IsAddition (r : Request) : Prop :=
  ∃ body change, r.body = some body ∧
    partAt [.member "requests", .item 0, .member "addSheet"] body = some change

theorem not_isAddition_listRequest (id : String) : ¬ IsAddition (listRequest id) := by
  rintro ⟨body, change, ⟨⟩, -⟩

theorem isAddition_addRequest (id : String) (title : Json) : IsAddition (addRequest id title) :=
  ⟨_, _, rfl, rfl⟩

theorem not_isAddition_writeRequest (id : String) (table : PivotTable) :
    ¬ IsAddition (writeRequest id table) := by
  rintro ⟨body, change, ⟨⟩, h⟩
  cases h

/-- A sheet was added: the service reports the success of one of the requests, which adds one. -/
def HasAdded (replies : List Reply) (sent : List Request) : Prop :=
  ∃ i r, sent[i]? = some r ∧ IsAddition r ∧ (Program.replyAt replies i).Succeeds

section

variable {replies : List Reply} {sent rest : List Request} {spec : PivotSpec}

theorem not_hasAdded (h : ∀ r ∈ sent, ¬ IsAddition r) : ¬ HasAdded replies sent := by
  rintro ⟨i, r, hr, hadd, -⟩
  exact h r (List.mem_of_getElem? hr) hadd

/-- A sheet is added by the second request, if at all. -/
theorem hasAdded_iff {id : String} {title : Json} (hrest : ∀ r ∈ rest, ¬ IsAddition r) :
    HasAdded replies (listRequest id :: addRequest id title :: rest) ↔
      (Program.replyAt replies 1).Succeeds := by
  constructor
  · rintro ⟨i, r, hr, hadd, hs⟩
    match i, hr with
    | 0, hr =>
      cases hr
      exact absurd hadd (not_isAddition_listRequest id)
    | 1, hr => exact hs
    | i + 2, hr => exact absurd hadd (hrest r (List.mem_of_getElem? hr))
  · exact fun hs => ⟨1, _, rfl, isAddition_addRequest id title, hs⟩

/-- The requests before the one that is not sent, if a sheet was added by one of them. -/
theorem exists_eq_cons_cons_of_hasAdded {id : String} {title : Json} {r : Request} {unsent : List Request}
    (h : listRequest id :: addRequest id title :: rest = sent ++ r :: unsent)
    (hadded : HasAdded replies sent) :
    ∃ more, sent = listRequest id :: addRequest id title :: more ∧ rest = more ++ r :: unsent := by
  match sent, h, hadded with
  | [], _, hadded => exact absurd hadded (not_hasAdded (by simp))
  | [first], h, hadded =>
    obtain ⟨rfl, -⟩ := List.cons.inj h
    refine absurd hadded (not_hasAdded fun q hq => ?_)
    rw [List.mem_singleton.1 hq]
    exact not_isAddition_listRequest id
  | first :: second :: more, h, _ =>
    simp only [List.cons_append, List.cons.injEq] at h
    obtain ⟨hfirst, hsecond, hmore⟩ := h
    exact ⟨more, by rw [hfirst, hsecond], hmore⟩

theorem succeeds_of_addedSheetOf {ref : SheetRef} (h : addedSheetOf replies spec = .ok ref) :
    (Program.replyAt replies 1).Succeeds := by
  obtain ⟨body, hbody, -⟩ := bind_eq_ok.1 h
  exact Reply.succeeds_of_document hbody

end

/-! ## Calls that fail -/

/-- A call ends with an error text: it has no result, or its result cannot be rendered. -/
def CallFails (name : String) (args : Members) (outcome : Except Fault Json) : Prop :=
  ∀ result, outcome = .ok result →
    ∃ fault, renderResult name result (responseFormat args) = .error fault

theorem fst_call (name : String) (args : Members) (s : Session) :
    (s.call name args).1 = answerText name args ((dispatch name args).run s).1 := rfl

/-- The summary of a table can be rendered. -/
theorem not_callFails_summary (args : Members) (spec : PivotSpec) (table : PivotTable) :
    ¬ CallFails createPivotTable.name args (.ok (summary spec table)) := by
  intro h
  obtain ⟨fault, hfault⟩ := h _ rfl
  have hname : ofName? createPivotTable.name = some createPivotTable := by decide
  unfold renderResult at hfault
  rw [hname] at hfault
  simp only at hfault
  split at hfault
  · cases hfault
  · cases hfault

/-- Where a call fails that has added a sheet: the answer about the sheet cannot be read, no token is
selected for the last request, or the last request fails. -/
inductive FailsAfterAddition (s : Session) (spec : PivotSpec) :
    List Request → Except Fault Json → Prop
  | unread {e : Fault} (hs : (Program.replyAt s.replies 1).Succeeds)
    (he : addedSheetOf s.replies spec = .error e) :
    FailsAfterAddition s spec [listRequest spec.spreadsheetId,
      addRequest spec.spreadsheetId (.str spec.destinationSheetName)] (.error e)
  | unsent {ref : SheetRef} {folder : TokenFolder} {e : Fault}
    (href : addedSheetOf s.replies spec = .ok ref) (he : folder.accessToken s.accounts s.now = .error e) :
    FailsAfterAddition s spec [listRequest spec.spreadsheetId,
      addRequest spec.spreadsheetId (.str spec.destinationSheetName)] (.error e)
  | unwritten {ref : SheetRef} {table : PivotTable} {e : Fault}
    (href : addedSheetOf s.replies spec = .ok ref) (he : Program.answerAt s.replies 2 = .error e) :
    FailsAfterAddition s spec [listRequest spec.spreadsheetId,
      addRequest spec.spreadsheetId (.str spec.destinationSheetName),
      writeRequest spec.spreadsheetId table] (.error e)

variable {s : Session} {spec : PivotSpec} {args : Members} {sent : List Request}
  {outcome : Except Fault Json}

theorem FailsAfterAddition.hasAdded (h : FailsAfterAddition s spec sent outcome) :
    HasAdded s.replies sent := by
  cases h with
  | unread hs he => exact (hasAdded_iff (by simp)).2 hs
  | unsent href he => exact (hasAdded_iff (by simp)).2 (succeeds_of_addedSheetOf href)
  | unwritten href he =>
    refine (hasAdded_iff ?_).2 (succeeds_of_addedSheetOf href)
    rintro r hr
    rw [List.mem_singleton.1 hr]
    exact not_isAddition_writeRequest _ _

/-- A call that fails and has added a sheet got past the addition. -/
theorem failsAfterAddition_of_runCase {exchange : List Request × Except Fault Json}
    (hcall : CallCase s.replies args exchange.1 exchange.2)
    (hrun : RunCase s.accounts s.now exchange sent outcome)
    (hfails : CallFails createPivotTable.name args outcome) (hadded : HasAdded s.replies sent) :
    ∃ spec, FindsSource s.replies args spec ∧ spec.destinationSheetId = none ∧
      FailsAfterAddition s spec sent outcome := by
  obtain ⟨all, ended⟩ := exchange
  have hsubset := hrun.isPrefix.subset
  cases hcall with
  | refused => exact absurd hadded (not_hasAdded fun r hr => by simpa using hsubset hr)
  | unlisted =>
    refine absurd hadded (not_hasAdded fun r hr => ?_)
    rw [List.mem_singleton.1 (hsubset hr)]
    exact not_isAddition_listRequest _
  | given i _ _ =>
    refine absurd hadded (not_hasAdded fun r hr => ?_)
    rcases List.mem_pair.1 (hsubset hr) with rfl | rfl
    · exact not_isAddition_listRequest _
    · exact not_isAddition_writeRequest _ _
  | unplaced h hd he =>
    refine ⟨_, h, hd, ?_⟩
    cases hrun with
    | whole => exact .unread ((hasAdded_iff (by simp)).1 hadded) he
    | cut hsent _ =>
      obtain ⟨more, -, hnil⟩ := exists_eq_cons_cons_of_hasAdded hsent hadded
      simp at hnil
  | placed h hd href ht =>
    refine ⟨_, h, hd, ?_⟩
    cases hrun with
    | whole =>
      cases hlast : Program.answerAt s.replies 2 with
      | error e => exact .unwritten href hlast
      | ok body =>
        rw [hlast] at hfails
        exact absurd hfails (not_callFails_summary args _ _)
    | cut hsent he =>
      obtain ⟨more, rfl, hone⟩ := exists_eq_cons_cons_of_hasAdded hsent hadded
      obtain rfl : more = [] := by
        cases more with
        | nil => rfl
        | cons q more => simp at hone
      exact .unsent href he

/-- **A call that fails** has added a sheet exactly when it found its source sheet, no sheet was given, and
the failure came after the addition. -/
theorem createPivotTable_failsAfterAddition (args : Members) (s : Session) :
    ∃ sent, ((dispatch createPivotTable.name args).run s).2.requests = s.requests ++ sent ∧
      (CallFails createPivotTable.name args ((dispatch createPivotTable.name args).run s).1 →
        (HasAdded s.replies sent ↔
          ∃ spec, FindsSource s.replies args spec ∧ spec.destinationSheetId = none ∧
            FailsAfterAddition s spec sent ((dispatch createPivotTable.name args).run s).1)) := by
  rw [dispatch_createPivotTable]
  obtain ⟨sent, hsent, hrun⟩ := Program.runCase (stops_runCreatePivotTable args) s
  refine ⟨sent, hsent, fun hfails => ⟨fun hadded => ?_, ?_⟩⟩
  · exact failsAfterAddition_of_runCase (callCase_exchange s.now s.pathFor s.replies args) hrun hfails
      hadded
  · rintro ⟨spec, -, -, h⟩
    exact h.hasAdded

/-! ### A table whose sheet is added -/

/-- Arguments for a table of totals on a new sheet. -/
def newTotalsArguments : Members :=
  [("spreadsheet_id", .str "book"), ("source_range", .str "Data!A1:B9"),
    ("rows", .arr [.obj [("source_column", .str "A")]]),
    ("values", .arr [.obj [("source_column", .str "B"), ("summarize_function", .str "SUM")]])]

/-- What these arguments say. -/
def newTotalsSpec : PivotSpec := { totalsSpec with destinationSheetId := none }

/-- A session with a token, in which the given replies come back. -/
def sessionWith (replies : List Reply) : Session := { totalsSession with replies }

theorem isAuthorized_sessionWith (replies : List Reply) :
    ∃ token, (sessionWith replies).IsAuthorized token := by
  have hwritable : (storeUntil serviceName 3).IsWritable := isWritable_storeUntil _ (by decide)
  have hretrieve : (sessionWith replies).folder.retrieve serviceName (dayOf2030 1) =
      .ok (some (storeUntil serviceName 3).record) :=
    TokenFolder.retrieve_save_set (TokenFolder.isReadable_noMembers {}) hwritable _
  have hexpired : (storeUntil serviceName 3).token.isExpired? (dayOf2030 1) expiryMargin =
      some false := by decide +kernel
  exact Session.isAuthorized_of_status
    (TokenFolder.status_of_retrieve hretrieve (TokenFolder.hasExpired_of_isExpired? hexpired))

theorem fst_send_sessionWith (r : Request) (replies : List Reply) :
    ((sessionWith replies).send r).1 = (replies.headD .empty).document := by
  obtain ⟨token, htoken⟩ := isAuthorized_sessionWith replies
  obtain ⟨s', hsend, -⟩ := Session.send_of_authorized htoken r
  rw [hsend]
  rfl

/-- With a token a call is its exchange. -/
theorem run_sessionWith (args : Members) (replies : List Reply) :
    let exchange := Program.exchange (dayOf2030 1) totalsSession.pathFor (runCreatePivotTable args) replies
    ((dispatch createPivotTable.name args).run (sessionWith replies)).1 = exchange.2 ∧
      ((dispatch createPivotTable.name args).run (sessionWith replies)).2.requests = exchange.1 := by
  obtain ⟨token, htoken⟩ := isAuthorized_sessionWith replies
  obtain ⟨hout, -⟩ := Program.run_of_authorized (runCreatePivotTable args) htoken
  rw [dispatch_createPivotTable]
  exact ⟨hout, Program.requests_of_authorized (runCreatePivotTable args) htoken⟩

/-- The spreadsheet has one sheet, a new one gets the number 42, and then the service fails. -/
def unwrittenReplies : List Reply :=
  [.answer 200 (.ok (.obj [("sheets", .arr [.obj [("properties",
      .obj [("sheetId", .int 4), ("title", .str "Data")])]])])),
    .answer 200 (.ok (.obj [("replies", .arr [.obj [("addSheet", .obj [("properties",
      .obj [("sheetId", .int 42), ("title", .str "Pivot Table")])])]])])),
    .answer 500 (.ok (.obj []))]

theorem exchange_unwrittenReplies (now : DateTime) (pathFor : String → String → Except String String) :
    ∃ table, Program.exchange now pathFor (runCreatePivotTable newTotalsArguments) unwrittenReplies =
      ([listRequest "book", addRequest "book" (.str "Pivot Table"), writeRequest "book" table],
        .error (.refused 500 (.ok (.obj [])))) := ⟨_, rfl⟩

/-- The last request fails, and the sheet of number 42 stays. -/
theorem createPivotTable_failsAfterAddition_unwritten :
    ∃ sent, ((dispatch createPivotTable.name newTotalsArguments).run (sessionWith unwrittenReplies)).2.requests =
        sent ∧
      CallFails createPivotTable.name newTotalsArguments
        ((dispatch createPivotTable.name newTotalsArguments).run (sessionWith unwrittenReplies)).1 ∧
      HasAdded unwrittenReplies sent ∧
      ∃ spec, FindsSource unwrittenReplies newTotalsArguments spec ∧ spec.destinationSheetId = none ∧
        FailsAfterAddition (sessionWith unwrittenReplies) spec sent
          ((dispatch createPivotTable.name newTotalsArguments).run (sessionWith unwrittenReplies)).1 := by
  obtain ⟨hout, hrequests⟩ := run_sessionWith newTotalsArguments unwrittenReplies
  obtain ⟨table, hexchange⟩ := exchange_unwrittenReplies (dayOf2030 1) totalsSession.pathFor
  rw [hexchange] at hout hrequests
  obtain ⟨sent, hsent, hiff⟩ :=
    createPivotTable_failsAfterAddition newTotalsArguments (sessionWith unwrittenReplies)
  have hnew : sent =
      [listRequest "book", addRequest "book" (.str "Pivot Table"), writeRequest "book" table] :=
    hsent.symm.trans hrequests
  have hfails : CallFails createPivotTable.name newTotalsArguments
      ((dispatch createPivotTable.name newTotalsArguments).run (sessionWith unwrittenReplies)).1 := by
    rw [hout]
    rintro result ⟨⟩
  have hadded : HasAdded unwrittenReplies sent := by
    rw [hnew]
    exact ⟨1, _, rfl, isAddition_addRequest _ _, rfl⟩
  exact ⟨sent, hsent, hfails, hadded, (hiff hfails).1 hadded⟩

/-- The user is told of the failure only. -/
theorem createPivotTable_addsAndFails :
    ∃ sent, ((dispatch createPivotTable.name newTotalsArguments).run (sessionWith unwrittenReplies)).2.requests =
        sent ∧
      HasAdded unwrittenReplies sent ∧
      ((sessionWith unwrittenReplies).call createPivotTable.name newTotalsArguments).1 =
        .ok "Error: Google API request failed with status 500." := by
  obtain ⟨hout, hrequests⟩ := run_sessionWith newTotalsArguments unwrittenReplies
  obtain ⟨table, hexchange⟩ := exchange_unwrittenReplies (dayOf2030 1) totalsSession.pathFor
  rw [hexchange] at hout hrequests
  refine ⟨_, hrequests, ⟨1, _, rfl, isAddition_addRequest _ _, rfl⟩, ?_⟩
  have htext : describeRefusal 500 "" = "Error: Google API request failed with status 500." := by
    decide +kernel
  rw [fst_call, hout, ← htext]
  rfl

/-! ## Calls that go through -/

/-- The numbers of the listed sheets. -/
def listedIds (body : Json) : List Json := (listedSheets body).map (sheetProperty "sheetId" (.int 0))

/-- Where a written table begins. -/
def startPath : List PathStep :=
  [.member "requests", .item 0, .member "updateCells", .member "start"]

/-- The first cell of a sheet. -/
def firstCell (sheetId : Json) : Json :=
  .obj [("sheetId", sheetId), ("rowIndex", .int 0), ("columnIndex", .int 0)]

/-- **A table without a given sheet** begins at the first cell of the sheet whose number the service told, or
of the sheet 0 where it told none. As long as a number that it tells is new, the table stands on a listed
sheet exactly when it told none and there is a sheet 0. -/
theorem createPivotTable_overwrites_iff {args : Members} {s : Session} {spec : PivotSpec} {result : Json}
    (hargs : pivotArguments args = .ok spec) (hd : spec.destinationSheetId = none)
    (hok : ((dispatch createPivotTable.name args).run s).1 = .ok result) :
    ∃ listing added table sheetId,
      ((dispatch createPivotTable.name args).run s).2.requests = s.requests ++
        [listRequest spec.spreadsheetId, addRequest spec.spreadsheetId (.str spec.destinationSheetName),
          writeRequest spec.spreadsheetId table] ∧
      Program.answerAt s.replies 0 = .ok listing ∧ Program.answerAt s.replies 1 = .ok added ∧
      (writeRequest spec.spreadsheetId table).body.bind (partAt startPath) = some (firstCell sheetId) ∧
      sheetId = (addedSheet? added).getD (.int 0) ∧
      ((∀ n, addedSheet? added = some n → n ∉ listedIds listing) →
        (sheetId ∈ listedIds listing ↔ addedSheet? added = none ∧ .int 0 ∈ listedIds listing)) := by
  rw [dispatch_createPivotTable] at hok ⊢
  obtain ⟨sent, hsent, hrun⟩ := Program.runCase (stops_runCreatePivotTable args) s
  have hcall := callCase_exchange s.now s.pathFor s.replies args
  rw [hok] at hrun
  rw [hrun.eq_of_ok] at hcall
  rw [hsent]
  generalize hout : (Except.ok result : Except Fault Json) = outcome at hcall
  cases hcall with
  | refused => cases hout
  | unlisted => cases hout
  | unplaced => cases hout
  | given i hargs' hd' =>
    rw [hargs] at hargs'
    cases hargs'
    rw [hd] at hd'
    cases hd'
  | @placed spec' ref table hsource hd' href htable =>
    obtain ⟨hargs', range, v, -, listing, hlisting, -⟩ := hsource
    rw [hargs] at hargs'
    cases hargs'
    obtain ⟨added, hadded, href⟩ := bind_eq_ok.1 href
    have hplace : table.destinationSheet = (addedSheet? added).getD (.int 0) := by
      rw [htable, sheetId_addedRef (mapError_eq_ok.1 href)]
    refine ⟨listing, added, table, table.destinationSheet, rfl, hlisting, hadded, rfl, hplace, fun hnew => ?_⟩
    rw [hplace]
    cases htold : addedSheet? added with
    | none => simp
    | some n => simpa using hnew n htold

/-- The spreadsheet has one sheet, whose number 0 is left out, and the service does not tell that of the new
one. -/
def untoldReplies : List Reply :=
  [.answer 200 (.ok (.obj [("sheets", .arr [.obj [("properties", .obj [("title", .str "Data")])]])])),
    .answer 200 (.ok (.obj [("replies", .arr [.obj [("addSheet", .obj [("properties",
      .obj [("title", .str "Pivot Table")])])]])])),
    .empty]

/-- The table is written over the sheet that it reads. -/
theorem createPivotTable_overwrites_iff_untold :
    pivotArguments newTotalsArguments = .ok newTotalsSpec ∧ newTotalsSpec.destinationSheetId = none ∧
      ∃ result listing table,
        ((dispatch createPivotTable.name newTotalsArguments).run (sessionWith untoldReplies)).1 =
          .ok result ∧
        ((dispatch createPivotTable.name newTotalsArguments).run (sessionWith untoldReplies)).2.requests =
          [listRequest "book", addRequest "book" (.str "Pivot Table"), writeRequest "book" table] ∧
        Program.answerAt untoldReplies 0 = .ok listing ∧
        (writeRequest "book" table).body.bind (partAt startPath) = some (firstCell (.int 0)) ∧
        .int 0 ∈ listedIds listing := by
  have hargs : pivotArguments newTotalsArguments = .ok newTotalsSpec := rfl
  obtain ⟨result, hresult⟩ :
      ∃ result, (Program.exchange (dayOf2030 1) totalsSession.pathFor
        (runCreatePivotTable newTotalsArguments) untoldReplies).2 = .ok result := ⟨_, rfl⟩
  have hok := (run_sessionWith newTotalsArguments untoldReplies).1.trans hresult
  obtain ⟨listing, added, table, sheetId, hsent, hlisting, hadded, hbody, rfl, -⟩ :=
    createPivotTable_overwrites_iff hargs rfl hok
  cases hlisting
  cases hadded
  exact ⟨hargs, rfl, result, _, table, hok, hsent, rfl, hbody, List.mem_singleton.2 rfl⟩

end Tool

end WorkspaceTools
