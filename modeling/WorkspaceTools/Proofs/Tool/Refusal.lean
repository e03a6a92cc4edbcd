import WorkspaceTools.Proofs.Exchange.Refusal
import WorkspaceTools.Proofs.Pivot.Exchange
import WorkspaceTools.Proofs.Pivot.Steps
import WorkspaceTools.Tool.Call

/-!
# Calls that are refused

The answer to a refused request quotes the words of the service, which it looks for in the body of the
refusal. It takes every readable body for an object whose error, if it has one, is an object
(`HasShape`).

* `handsOn_dispatch`: no tool makes up a refusal.
* `call_fails_iff`: a call gives no text exactly when it ends with a refusal whose body has another
  shape, and that refusal is the last answer that the call received.
-/

namespace WorkspaceTools.Tool

open Mail

variable {α : Type}

/-! ## Messages -/

theorem isOwn_dataBytes (v : Json) : IsOwn (dataBytes v) := by
  cases v with
  | str s => exact .mapError (fun _ _ _ => Fault.noConfusion) _
  | _ => exact .error (by simp)

theorem isOwn_dataText (v : Json) : IsOwn (dataText v) := .map _ (isOwn_dataBytes v)

theorem isOwn_outerText (payload : Json) : IsOwn (outerText payload) := by
  refine .bind (.shaped _) fun own => ?_
  split
  · exact .bind (isOwn_dataText _) fun text => .ok _
  · refine .bind (.shaped _) fun parts => .bind (.shaped _) fun plain => ?_
    split
    · exact .bind (isOwn_dataText _) fun text => .ok _
    · refine .bind (.shaped _) fun marked => ?_
      split
      · exact .bind (isOwn_dataText _) fun text => .ok _
      · exact .ok _

mutual

theorem isOwn_bodyText (payload : Json) : IsOwn (bodyText payload) := by
  cases payload with
  | obj ms =>
    cases ms with
    | nil => exact .ok _
    | cons m rest =>
      rw [bodyText]
      · refine .bind (isOwn_outerText _) fun text => ?_
        cases text with
        | some text => exact .ok _
        | none => exact isOwn_innerText (m :: rest)
      · simp
  | _ =>
    unfold bodyText
    split
    · exact .error (by simp)
    · exact .ok _

theorem isOwn_innerText (ms : List (String × Json)) : IsOwn (innerText ms) := by
  cases ms with
  | nil => exact .ok _
  | cons m rest =>
    obtain ⟨name, v⟩ := m
    unfold innerText
    split
    · exact isOwn_innerTextOf v
    · exact isOwn_innerText rest

theorem isOwn_innerTextOf (v : Json) : IsOwn (innerTextOf v) := by
  cases v with
  | arr parts => exact isOwn_firstText parts
  | _ => exact .ok _

theorem isOwn_firstText (parts : List Json) : IsOwn (firstText parts) := by
  cases parts with
  | nil => exact .ok _
  | cons part rest =>
    refine .bind (isOwn_bodyText part) fun text => ?_
    split
    · exact isOwn_firstText rest
    · exact .ok _

end

theorem isOwn_threadMessage (message : Json) : IsOwn (threadMessage message) := by
  iterate 7 refine .bind (.shaped _) fun _ => ?_
  exact .bind (isOwn_bodyText _) fun body => .ok _

theorem isOwn_mediaType (v : Json) : IsOwn (mediaType v) := by
  cases v with
  | str name => exact .ok _
  | _ => exact .error (by simp)

/-! ## Drafts -/

theorem isOwn_headerLine (name : String) (v : Json) : IsOwn (headerLine name v) := by
  unfold headerLine
  split
  · exact .ok _
  · split
    · exact .ok _
    · exact .error (by simp)
  · exact .error (by simp)

theorem isOwn_copyLines (headers : List (String × Json)) :
    IsOwn (Draft.message.copyLines headers) :=
  .bind (.mapM (fun (_, _) => isOwn_headerLine _ _) _) fun _ => .ok _

theorem isOwn_optionalHeaders (headers : List (String × Json)) :
    IsOwn (Draft.optionalHeaders headers) :=
  .bind (.mapM (fun (_, _) => isOwn_headerLine _ _) _) fun _ => .ok _

theorem isOwn_message (d : Draft) : IsOwn d.message := by
  unfold Draft.message
  by_cases h : d.body.isTruthy && (Draft.bodyText? d.body).isNone
  · rw [if_pos h]
    exact .error (e := .shape _) (by simp)
  · rw [if_neg h]
    refine .bind (.shaped _) fun recipients => .bind (.shaped _) fun cc => .bind (.shaped _) fun bcc => ?_
    cases Draft.bodyText? d.body with
    | none => exact .error (e := .shape _) (by simp)
    | some text =>
      exact .bind (isOwn_headerLine _ _) fun toLine => .bind (isOwn_headerLine _ _) fun subject =>
        .bind (isOwn_copyLines _) fun copies => .bind (isOwn_optionalHeaders _) fun threading => .ok _

theorem isOwn_raw (d : Draft) : IsOwn d.raw := .bind (isOwn_message d) fun _ => .ok _

/-! ## Programs of the tools -/

open Program

theorem handsOn_details (address : Json → String) (params : Members) (ids : List Json) :
    (details address params ids).HandsOn := by
  induction ids with
  | nil => exact trivial
  | cons id rest ih => exact .attempt _ fun detail => .bind ih fun details => trivial

theorem handsOn_withDetails (address : Json → String) (params : Members) (list : Json) :
    (withDetails address params list).HandsOn :=
  .shaped _ fun _ => .shaped _ fun _ => .bind (handsOn_details _ _ _) fun _ => trivial

theorem handsOn_answered (id : Json) : (answered id).HandsOn := by
  unfold answered
  split
  · exact trivial
  · exact .ask _ fun message => .shaped_end _

variable (args : Json)

theorem handsOn_runListMessages : (runListMessages args).HandsOn := by
  refine .shaped _ fun params => .ask _ fun response => .shaped _ fun list => ?_
  refine .bind (handsOn_withDetails _ _ _) fun entries => ?_
  iterate 3 refine .shaped _ fun _ => ?_
  exact trivial

theorem handsOn_runGetMessage : (runGetMessage args).HandsOn := by
  refine .shaped _ fun wanted => .ask _ fun response => ?_
  iterate 10 refine .shaped _ fun _ => ?_
  exact .bind (.ofExcept (isOwn_bodyText _)) fun body => trivial

theorem handsOn_runListThreads : (runListThreads args).HandsOn := by
  refine .shaped _ fun params => .ask _ fun response => .shaped _ fun list => ?_
  refine .bind (handsOn_withDetails _ _ _) fun entries => ?_
  iterate 2 refine .shaped _ fun _ => ?_
  exact trivial

theorem handsOn_runGetThread : (runGetThread args).HandsOn := by
  refine .shaped _ fun wanted => .ask _ fun response => .shaped _ fun _ => .shaped _ fun list => ?_
  refine .bind (.ofExcept (.mapM isOwn_threadMessage _)) fun messages => ?_
  exact .shaped _ fun id => trivial

theorem handsOn_runListLabels : runListLabels.HandsOn := by
  refine .ask _ fun response => ?_
  iterate 4 refine .shaped _ fun _ => ?_
  exact trivial

theorem handsOn_runCreateDraft : (runCreateDraft args).HandsOn := by
  iterate 3 refine .shaped _ fun _ => ?_
  refine .bind (handsOn_answered _) fun answered => ?_
  iterate 3 refine .shaped _ fun _ => ?_
  refine .bind (.ofExcept (isOwn_raw _)) fun raw => .ask _ fun response => ?_
  iterate 4 refine .shaped _ fun _ => ?_
  exact trivial

theorem handsOn_runListAttachments : (runListAttachments args).HandsOn := by
  refine .shaped _ fun wanted => .ask _ fun response => ?_
  iterate 3 refine .shaped _ fun _ => ?_
  exact trivial

theorem handsOn_runGetAttachment : (runGetAttachment args).HandsOn := by
  refine .shaped _ fun messageId => .shaped _ fun attachmentId => .shaped _ fun name => ?_
  refine .ask _ fun response => .shaped _ fun data => ?_
  split
  · exact fun status body h => by cases h
  · refine .bind (.ofExcept (isOwn_dataBytes _)) fun content => ?_
    refine .bind (.ofExcept (isOwn_mediaType _)) fun type => .shaped _ fun size => ?_
    split
    · exact trivial
    · exact fun path => trivial

theorem handsOn_runListCalendars : runListCalendars.HandsOn := by
  refine .ask _ fun response => ?_
  iterate 3 refine .shaped _ fun _ => ?_
  exact trivial

theorem handsOn_runListEvents : (runListEvents args).HandsOn := by
  refine .shaped _ fun _ => .shaped _ fun address => fun now => ?_
  refine .shaped _ fun params => .ask _ fun response => ?_
  iterate 4 refine .shaped _ fun _ => ?_
  exact trivial

theorem handsOn_runGetEvent : (runGetEvent args).HandsOn := by
  iterate 3 refine .shaped _ fun _ => ?_
  exact .ask _ fun item => .shaped_end _

theorem handsOn_runQueryFreeBusy : (runQueryFreeBusy args).HandsOn := by
  iterate 4 refine .shaped _ fun _ => ?_
  refine .ask _ fun response => ?_
  iterate 3 refine .shaped _ fun _ => ?_
  exact trivial

theorem handsOn_runGetSpreadsheet : (runGetSpreadsheet args).HandsOn := by
  refine .shaped _ fun wanted => .shaped _ fun withGrid => .ask _ fun response => ?_
  iterate 9 refine .shaped _ fun _ => ?_
  exact trivial

theorem handsOn_runGetValues : (runGetValues args).HandsOn := by
  iterate 4 refine .shaped _ fun _ => ?_
  refine .ask _ fun response => ?_
  iterate 4 refine .shaped _ fun _ => ?_
  exact trivial

theorem handsOn_runBatchGetValues : (runBatchGetValues args).HandsOn := by
  iterate 3 refine .shaped _ fun _ => ?_
  refine .ask _ fun response => ?_
  iterate 3 refine .shaped _ fun _ => ?_
  exact trivial

theorem handsOn_runUpdateValues : (runUpdateValues args).HandsOn := by
  iterate 5 refine .shaped _ fun _ => ?_
  refine .ask _ fun response => ?_
  iterate 4 refine .shaped _ fun _ => ?_
  exact trivial

theorem handsOn_runAppendValues : (runAppendValues args).HandsOn := by
  iterate 6 refine .shaped _ fun _ => ?_
  refine .ask _ fun response => ?_
  iterate 6 refine .shaped _ fun _ => ?_
  exact trivial

theorem handsOn_runClearValues : (runClearValues args).HandsOn := by
  iterate 3 refine .shaped _ fun _ => ?_
  exact .ask _ fun response => .shaped _ fun range => trivial

theorem handsOn_runCreateSpreadsheet : (runCreateSpreadsheet args).HandsOn := by
  iterate 3 refine .shaped _ fun _ => ?_
  refine .ask _ fun response => ?_
  iterate 6 refine .shaped _ fun _ => ?_
  exact trivial

theorem handsOn_runBatchUpdate : (runBatchUpdate args).HandsOn := by
  refine .shaped _ fun wanted => .shaped _ fun requests => ?_
  split
  · exact fun status body h => by cases h
  · exact .ask _ fun response => .shaped _ fun id => .shaped _ fun replies => trivial

theorem handsOn_runDuplicateSheet : (runDuplicateSheet args).HandsOn := by
  iterate 3 refine .shaped _ fun _ => ?_
  refine .ask _ fun response => ?_
  iterate 4 refine .shaped _ fun _ => ?_
  exact trivial

/-! ## Pivot tables -/

theorem handsOn_listSheets (id : String) : (listSheets id).HandsOn :=
  .ask _ fun _ => .shaped _ fun _ => .shaped_end _

theorem handsOn_addSheet (id : String) (title : Json) : (addSheet id title).HandsOn :=
  .ask _ fun _ => .shaped _ fun _ => .shaped _ fun _ => .shaped _ fun _ => trivial

theorem handsOn_resolveSheet (id : Json) (title : String) :
    (resolveSheet serviceSheets id title).run.HandsOn := by
  rw [run_resolveSheet]
  split
  · exact .map _ (handsOn_listSheets _)
  · exact .map _ (.bind (handsOn_listSheets _) fun _ => trivial)

theorem handsOn_placeTable (d : PivotDraft) : (placeTable serviceSheets d).HandsOn := by
  unfold placeTable
  split
  · exact trivial
  · exact .bind (handsOn_addSheet _ _) fun _ => trivial

theorem handsOn_compileSpec (spec : PivotSpec) : (compileSpec serviceSheets spec).run.HandsOn := by
  rw [compileSpec, run_compileDraft]
  split
  · exact trivial
  · refine .bind (handsOn_resolveSheet _ _) fun found => ?_
    cases found with
    | error e => exact trivial
    | ok sheet =>
      unfold placeDraft
      dsimp only
      split
      · exact trivial
      · exact .map _ (handsOn_placeTable _)

theorem handsOn_runCreatePivotTable (args : Members) : (runCreatePivotTable args).HandsOn := by
  rw [runCreatePivotTable_eq]
  split
  · exact fun status body h => by cases h
  · refine .bind (handsOn_compileSpec _) fun compiled => ?_
    cases compiled with
    | error e => exact fun status body h => by cases h
    | ok table => exact .ask _ fun _ => trivial

/-! ## Calls -/

theorem handsOn_program (tool : Tool) (args : Members) : (tool.program args).HandsOn := by
  cases tool with
  | listMessages => exact handsOn_runListMessages _
  | getMessage => exact handsOn_runGetMessage _
  | listThreads => exact handsOn_runListThreads _
  | getThread => exact handsOn_runGetThread _
  | listLabels => exact handsOn_runListLabels
  | createDraft => exact handsOn_runCreateDraft _
  | listAttachments => exact handsOn_runListAttachments _
  | getAttachment => exact handsOn_runGetAttachment _
  | listCalendars => exact handsOn_runListCalendars
  | listEvents => exact handsOn_runListEvents _
  | getEvent => exact handsOn_runGetEvent _
  | queryFreeBusy => exact handsOn_runQueryFreeBusy _
  | getSpreadsheet => exact handsOn_runGetSpreadsheet _
  | getValues => exact handsOn_runGetValues _
  | batchGetValues => exact handsOn_runBatchGetValues _
  | updateValues => exact handsOn_runUpdateValues _
  | appendValues => exact handsOn_runAppendValues _
  | createSpreadsheet => exact handsOn_runCreateSpreadsheet _
  | batchUpdate => exact handsOn_runBatchUpdate _
  | clearValues => exact handsOn_runClearValues _
  | duplicateSheet => exact handsOn_runDuplicateSheet _
  | createPivotTable => exact handsOn_runCreatePivotTable args

/-- No tool makes up a refusal. -/
theorem handsOn_dispatch (name : String) (args : Members) : (dispatch name args).HandsOn := by
  unfold dispatch
  split
  · exact handsOn_program _ args
  · exact fun status body h => by cases h

/-- A body in which the words of the service can be looked for: no document at all, or an object whose
error, if it has one, is an object. -/
def HasShape : Except BodyFault Json → Prop
  | .error fault => fault.depthFault? = none
  | .ok body => ∃ ms, body = .obj ms ∧ ∀ v, Members.find? "error" ms = some v → ∃ es, v = .obj es

theorem lookup_isOk_iff {v : Json} {name : String} {default : Json} :
    (∃ w, v.lookup name default = .ok w) ↔ ∃ ms, v = .obj ms := by
  cases v <;> simp [Json.lookup, Json.lookup?, Json.membersFor, Except.map]

theorem serviceMessage_isOk_iff (body : Except BodyFault Json) :
    (∃ words, serviceMessage body = .ok words) ↔ HasShape body := by
  cases body with
  | error fault =>
    simp only [serviceMessage, HasShape]
    cases fault.depthFault? <;> simp
  | ok body =>
    constructor
    · rintro ⟨words, h⟩
      obtain ⟨error, he, h⟩ := bind_eq_ok.1 h
      obtain ⟨message, hm, -⟩ := bind_eq_ok.1 h
      obtain ⟨ms, rfl⟩ := lookup_isOk_iff.1 ⟨_, he⟩
      refine ⟨ms, rfl, fun v hv => ?_⟩
      obtain rfl : error = v := by rw [lookup_eq_ok he, Json.member?, hv]; rfl
      exact lookup_isOk_iff.1 ⟨_, hm⟩
    · rintro ⟨ms, rfl, hv⟩
      obtain ⟨error, he⟩ := lookup_isOk_iff.2 ⟨ms, rfl⟩
      have hobj : ∃ es, error = .obj es := by
        rw [lookup_eq_ok he, Json.member?]
        cases hf : Members.find? "error" ms with
        | none => exact ⟨[], rfl⟩
        | some v => exact hv v hf
      obtain ⟨message, hm⟩ := lookup_isOk_iff.2 hobj
      exact ⟨_, bind_eq_ok.2 ⟨_, he, bind_eq_ok.2 ⟨_, hm, rfl⟩⟩⟩

/-- Every fault can be told, but a refusal only with a body of that shape. -/
theorem describe_isOk_iff (fault : Fault) :
    (∃ text, fault.describe = .ok text) ↔
      ∀ status body, fault = .refused status body → HasShape body := by
  cases fault with
  | refused status body =>
    constructor
    · rintro ⟨text, h⟩ _ _ ⟨⟩
      obtain ⟨words, hw, -⟩ := map_eq_ok.1 h
      exact (serviceMessage_isOk_iff body).1 ⟨words, hw⟩
    · intro h
      obtain ⟨words, hw⟩ := (serviceMessage_isOk_iff body).2 (h status body rfl)
      exact ⟨_, map_eq_ok.2 ⟨words, hw, rfl⟩⟩
  | _ => simp [Fault.describe]

theorem answerText_isOk_iff (name : String) (args : Members) (outcome : Except Fault Json) :
    (∃ text, answerText name args outcome = .ok text) ↔
      ∀ status body, outcome = .error (.refused status body) → HasShape body := by
  cases outcome with
  | error fault => simpa [answerText] using describe_isOk_iff fault
  | ok result =>
    simp only [answerText]
    cases renderResult name result (responseFormat args) with
    | ok text => simp
    | error fault => simp [Fault.describe]

/-- **A call gives no text** exactly when it ends with a refusal whose body has another shape; that refusal
is the last reply that the call received. -/
theorem call_fails_iff (name : String) (args : Members) (s : Session) :
    (∃ e, (s.call name args).1 = .error e) ↔
      ∃ status body, ((dispatch name args).run s).1 = .error (.refused status body) ∧ ¬ HasShape body ∧
        isSuccess status = false ∧
        ∃ before, s.replies = before ++ .answer status body :: (s.call name args).2.replies := by
  have hok := answerText_isOk_iff name args ((dispatch name args).run s).1
  have hcall : (s.call name args).1 = answerText name args ((dispatch name args).run s).1 := rfl
  rw [hcall]
  constructor
  · rintro ⟨e, he⟩
    have hnot : ¬ ∃ text, answerText name args ((dispatch name args).run s).1 = .ok text := by
      rw [he]
      simp
    rw [hok] at hnot
    push Not at hnot
    obtain ⟨status, body, ho, hb⟩ := hnot
    exact ⟨status, body, ho, hb, Program.refused_of_run (handsOn_dispatch name args) ho⟩
  · rintro ⟨status, body, ho, hb, -⟩
    cases hc : answerText name args ((dispatch name args).run s).1 with
    | ok text => exact absurd (hok.1 ⟨text, hc⟩ status body ho) hb
    | error e => exact ⟨e, rfl⟩

/-- Such refusals do end calls: one request is enough for the labels. -/
theorem call_listLabels_fails (args : Members) {s : Session} {token : String} (h : s.IsAuthorized token)
    {status : Nat} {body : Except BodyFault Json} {rest : List Reply}
    (hs : s.replies = .answer status body :: rest) (hf : isSuccess status = false)
    (hb : ¬ HasShape body) : ∃ e, (s.call listLabels.name args).1 = .error e := by
  have hout : ((dispatch listLabels.name args).run s).1 = .error (.refused status body) := by
    have hname : ofName? listLabels.name = some listLabels := by decide
    obtain ⟨s', hsend, -⟩ :=
      Session.send_of_authorized h ⟨.get, Service.mailBase ++ "/labels", none, none⟩
    have hdoc : (Reply.answer status body).document = .error (.refused status body) := by
      simp [Reply.document, hf]
    rw [hs, List.headD_cons, hdoc] at hsend
    rw [dispatch, hname]
    change ((Program.get _ none >>= _).run s).1 = _
    rw [run_bind, Program.get, Program.ask, Program.run, hsend]
    rfl
  cases hc : answerText listLabels.name args ((dispatch listLabels.name args).run s).1 with
  | ok text => exact absurd ((answerText_isOk_iff _ _ _).1 ⟨text, hc⟩ status body hout) hb
  | error e => exact ⟨e, hc⟩

end WorkspaceTools.Tool
