import WorkspaceTools.Proofs.Pivot.Modification

/-!
# The format of the answer

The format is one of the arguments of a call, next to those of the tool.

* No tool looks at it: what a member of another name holds is not changed by leaving the format out
  (`lookup_withoutFormat`, `item_withoutFormat`), and so every tool does the same without it
  (`program_withoutFormat`).
* `call_ignoresFormat`: two calls that differ in the format alone leave the same session, the requests that
  they sent included, and come out the same but for the text of a result.
-/

namespace WorkspaceTools.Tool

open Json

section

variable {name : String}

theorem find?_withoutFormat (h : name ≠ "response_format") (args : Members) :
    (withoutFormat args).find? name = args.find? name := find?_filter_ne h args

theorem lookup_withoutFormat (h : name ≠ "response_format") (args : Members) (default : Json) :
    (Json.obj (withoutFormat args)).lookup name default = (Json.obj args).lookup name default := by
  simp only [lookup_obj, find?_withoutFormat h]

theorem field_withoutFormat (h : name ≠ "response_format") (args : Members) :
    Json.field name (.obj (withoutFormat args)) = Json.field name (.obj args) :=
  lookup_withoutFormat h args .null

theorem item_withoutFormat (h : name ≠ "response_format") (args : Members) :
    Json.item name (.obj (withoutFormat args)) = Json.item name (.obj args) := by
  simp only [Json.item, find?_withoutFormat h]

end

theorem withoutFormat_withoutFormat (args : Members) :
    withoutFormat (withoutFormat args) = withoutFormat args := by
  simp [withoutFormat]

theorem optionalParam_withoutFormat {argument : String} (h : argument ≠ "response_format") (param : String)
    (args : Members) :
    optionalParam param argument (.obj (withoutFormat args)) = optionalParam param argument (.obj args) := by
  simp only [optionalParam, field_withoutFormat h]

theorem listParams_withoutFormat (args : Members) :
    listParams (.obj (withoutFormat args)) = listParams (.obj args) := by
  simp (disch := decide) only [listParams, lookup_withoutFormat, optionalParam_withoutFormat]

theorem eventParams_withoutFormat (args : Members) (now : Time.DateTime) :
    eventParams (.obj (withoutFormat args)) now = eventParams (.obj args) now := by
  simp (disch := decide) only [eventParams, lookup_withoutFormat, field_withoutFormat,
    optionalParam_withoutFormat]

/-- What a tool does, it does without knowing the format. -/
theorem program_withoutFormat (tool : Tool) (args : Members) :
    tool.program (withoutFormat args) = tool.program args := by
  cases tool with
  | listLabels => rfl
  | listCalendars => rfl
  | createPivotTable => simp only [program, runCreatePivotTable, withoutFormat_withoutFormat]
  | listMessages =>
    simp (disch := decide) only [program, runListMessages, listParams_withoutFormat, field_withoutFormat]
  | listThreads => simp only [program, runListThreads, listParams_withoutFormat]
  | listEvents =>
    simp (disch := decide) only [program, runListEvents, eventParams_withoutFormat, lookup_withoutFormat,
      field_withoutFormat]
  | getMessage => simp (disch := decide) only [program, runGetMessage, item_withoutFormat]
  | getThread => simp (disch := decide) only [program, runGetThread, item_withoutFormat]
  | listAttachments => simp (disch := decide) only [program, runListAttachments, item_withoutFormat]
  | batchUpdate => simp (disch := decide) only [program, runBatchUpdate, item_withoutFormat]
  | clearValues => simp (disch := decide) only [program, runClearValues, item_withoutFormat]
  | createDraft =>
    simp (disch := decide) only [program, runCreateDraft, item_withoutFormat, field_withoutFormat]
  | getAttachment =>
    simp (disch := decide) only [program, runGetAttachment, item_withoutFormat, field_withoutFormat]
  | queryFreeBusy =>
    simp (disch := decide) only [program, runQueryFreeBusy, item_withoutFormat, field_withoutFormat]
  | createSpreadsheet =>
    simp (disch := decide) only [program, runCreateSpreadsheet, item_withoutFormat, field_withoutFormat]
  | duplicateSheet =>
    simp (disch := decide) only [program, runDuplicateSheet, item_withoutFormat, field_withoutFormat]
  | getEvent => simp (disch := decide) only [program, runGetEvent, item_withoutFormat, lookup_withoutFormat]
  | getSpreadsheet =>
    simp (disch := decide) only [program, runGetSpreadsheet, item_withoutFormat, lookup_withoutFormat]
  | getValues => simp (disch := decide) only [program, runGetValues, item_withoutFormat, lookup_withoutFormat]
  | batchGetValues =>
    simp (disch := decide) only [program, runBatchGetValues, item_withoutFormat, lookup_withoutFormat]
  | updateValues =>
    simp (disch := decide) only [program, runUpdateValues, item_withoutFormat, lookup_withoutFormat]
  | appendValues =>
    simp (disch := decide) only [program, runAppendValues, item_withoutFormat, lookup_withoutFormat]

theorem dispatch_withoutFormat (name : String) (args : Members) :
    dispatch name (withoutFormat args) = dispatch name args := by
  unfold dispatch
  split
  · exact program_withoutFormat _ args
  · rfl

theorem snd_call (name : String) (args : Members) (s : Session) :
    (s.call name args).2 = ((dispatch name args).run s).2 := rfl

/-- The text that tells of a fault does not depend on the arguments. -/
theorem fst_call_of_error {name : String} {args : Members} {s : Session} {fault : Fault}
    (h : ((dispatch name args).run s).1 = .error fault) : (s.call name args).1 = fault.describe := by
  rw [fst_call, h]
  rfl

/-- **The format of the answer** counts for nothing but the text of a result. Two calls whose arguments
differ in it alone send the same requests with the same tokens, and leave the same session. The tool has
the same result both times, or it fails both times with the same fault, which is told in the same words. -/
theorem call_ignoresFormat (name : String) {args args' : Members}
    (h : withoutFormat args = withoutFormat args') (s : Session) :
    (s.call name args).2.sent = (s.call name args').2.sent ∧
      (s.call name args).2 = (s.call name args').2 ∧
      ((dispatch name args).run s).1 = ((dispatch name args').run s).1 ∧
      ∀ fault, ((dispatch name args).run s).1 = .error fault →
        (s.call name args).1 = fault.describe ∧ (s.call name args').1 = fault.describe := by
  have hsame : dispatch name args = dispatch name args' := by
    rw [← dispatch_withoutFormat name args, h, dispatch_withoutFormat]
  have hsession : (s.call name args).2 = (s.call name args').2 := by
    rw [snd_call, snd_call, hsame]
  refine ⟨congrArg Session.sent hsession, hsession, by rw [hsame], fun fault hfault => ?_⟩
  have hfault' := hfault
  rw [hsame] at hfault'
  exact ⟨fst_call_of_error hfault, fst_call_of_error hfault'⟩

/-- The table whose last request fails, with its answer as a document: the same three requests are sent, and
the same fault ends the call. -/
theorem call_ignoresFormat_unwritten :
    withoutFormat (("response_format", .str "json") :: newTotalsArguments) =
        withoutFormat newTotalsArguments ∧
      ∃ table, ((sessionWith unwrittenReplies).call createPivotTable.name
          (("response_format", .str "json") :: newTotalsArguments)).2.requests =
            [listRequest "book", addRequest "book" (.str "Pivot Table"), writeRequest "book" table] ∧
        ((dispatch createPivotTable.name (("response_format", .str "json") :: newTotalsArguments)).run
          (sessionWith unwrittenReplies)).1 = .error (.refused 500 (.ok (.obj []))) := by
  have hsame : withoutFormat (("response_format", .str "json") :: newTotalsArguments) =
      withoutFormat newTotalsArguments := rfl
  obtain ⟨-, hsession, houtcome, -⟩ :=
    call_ignoresFormat createPivotTable.name hsame (sessionWith unwrittenReplies)
  obtain ⟨hout, hrequests⟩ := run_sessionWith newTotalsArguments unwrittenReplies
  obtain ⟨table, hexchange⟩ := exchange_unwrittenReplies (dayOf2030 1) totalsSession.pathFor
  rw [hexchange] at hout hrequests
  refine ⟨hsame, table, ?_, houtcome.trans hout⟩
  rw [hsession, snd_call]
  exact hrequests

end WorkspaceTools.Tool
