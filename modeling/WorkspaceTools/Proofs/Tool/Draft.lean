import WorkspaceTools.Proofs.Exchange.Requests
import WorkspaceTools.Proofs.Exchange.Series
import WorkspaceTools.Proofs.Mail.Draft
import WorkspaceTools.Proofs.Pivot.Modification
import WorkspaceTools.Proofs.Tool.Listing

/-!
# Drafts that are posted

A draft is posted with its message in base64. The message may have headers of another message, which it answers.

* `sends_createDraft`: whatever that message is, a draft that is posted carries the text that was asked for.
* `createDraft_carriesText`: so it is in every run, and one draft is posted if the headers that it takes from the
  message are plain.
-/

namespace WorkspaceTools.Tool

open Json Mail Mail.Draft

/-- The arguments ask for a draft with a text, and its headers are made of printable characters. -/
structure AsksForDraft (args : Members) (addresses : List String) (title content : String) : Prop where
  recipients : args.find? "to" = some (.arr (addresses.map .str))
  subject : args.find? "subject" = some (.str title)
  body : args.find? "body" = some (.str content)
  plainRecipients : ∀ s ∈ addresses, IsPrintable s
  plainSubject : IsPrintable title
  plainCc : ArePlainAddresses ((args.find? "cc").getD .null)
  plainBcc : ArePlainAddresses ((args.find? "bcc").getD .null)

/-- The request that posts a message. -/
def draftRequest (raw : String) (thread : Members) : Request :=
  ⟨.post, Service.mailBase ++ "/drafts", none, some (.obj [("message", .obj (("raw", .str raw) :: thread))])⟩

/-- A request that posts anything posts a draft with the text. -/
def PostsText (body : String) (r : Request) : Prop :=
  r.method = .post → ∃ raw thread, r = draftRequest raw thread ∧ CarriesText raw body

/-- The headers that a draft takes from the message that it answers can be written. -/
def HasPlainHeaders (a : Answered) : Prop := IsPlainHeader a.inReplyTo ∧ IsPlainHeader a.references

section

variable {args : Members} {recipients : List String} {subject body : String}

/-- The message of a draft. -/
def draftOf (args : Members) (recipients : List String) (subject body : String) (a : Answered) : Draft :=
  ⟨.arr (recipients.map .str), .str subject, .str body, (args.find? "cc").getD .null,
    (args.find? "bcc").getD .null, a.inReplyTo, a.references⟩

/-- The thread that a draft is posted to. -/
def threadOf (a : Answered) : Members := if a.thread.isTruthy then [("threadId", a.thread)] else []

/-- A draft is posted between what is asked of the answered message and what is reported. -/
theorem dispatch_createDraft (h : AsksForDraft args recipients subject body) :
    ∃ report : Json → Program Json, (∀ response, (report response).Sends fun _ => False) ∧
      dispatch createDraft.name args = (do
        let a ← answered ((args.find? "reply_to_message_id").getD .null)
        let raw ← Program.ofExcept (draftOf args recipients subject body a).raw
        let response ← Program.ask (draftRequest raw (threadOf a))
        report response) := by
  have hto : Json.item "to" (.obj args) = .ok (.arr (recipients.map .str)) := by rw [Json.item, h.recipients]
  have hsubject : Json.item "subject" (.obj args) = .ok (.str subject) := by rw [Json.item, h.subject]
  have hbody : Json.item "body" (.obj args) = .ok (.str body) := by rw [Json.item, h.body]
  rw [dispatch_name]
  change ∃ report : Json → Program Json, _ ∧ runCreateDraft (.obj args) = _
  unfold runCreateDraft
  simp only [hto, hsubject, hbody, field_obj]
  refine ⟨_, ?_, rfl⟩
  intro response
  iterate 4 refine .shaped fun _ _ => ?_
  exact trivial

theorem bodyText?_draftOf (a : Answered) : bodyText? (draftOf args recipients subject body a).body = some body := rfl

/-- **A draft that is posted carries its text**, whatever is told of the message that it answers. -/
theorem sends_createDraft (h : AsksForDraft args recipients subject body) :
    (dispatch createDraft.name args).Sends (PostsText body) := by
  obtain ⟨report, hreport, hprogram⟩ := dispatch_createDraft h
  rw [hprogram]
  refine .bind ?_ fun a => .ofExcept_bind fun raw hraw => .ask ?_ fun response =>
    (hreport response).mono fun _ => False.elim
  · unfold answered
    split
    · exact trivial
    · refine .ask ?_ fun message => .shaped_end _
      rintro ⟨⟩
  · exact fun _ => ⟨raw, threadOf a, rfl, raw_eq_ok (bodyText?_draftOf a) hraw⟩

/-- A program that asks once has sent its request. -/
theorem requests_ask_bind {r : Request} {report : Json → Program Json} {s : Session} {token : String}
    (hreport : ∀ response, (report response).Sends fun _ => False) (htoken : s.IsAuthorized token) :
    ((Program.ask r >>= report).run s).2.requests = s.requests ++ [r] := by
  obtain ⟨s', hsend, -, -, -, -, hsent⟩ := Session.send_of_authorized htoken r
  have hrequests : s'.requests = s.requests ++ [r] := by
    rw [Session.requests, hsent]
    simp [Session.requests]
  rw [Program.run_ask_bind, hsend]
  dsimp only
  split
  · rename_i response hresponse
    obtain ⟨sent, hsent, hnone⟩ := (hreport response).run s'
    obtain rfl : sent = [] := List.eq_nil_iff_forall_not_mem.2 hnone
    rw [hsent, List.append_nil, hrequests]
  · exact hrequests

/-- **The drafts that are posted.** Whatever is told of the message that a draft answers, a draft that is posted
carries the text that was asked for. If the headers that it takes from that message are plain, as they are when it
answers none, then one is posted as soon as there is a token. -/
theorem createDraft_carriesText (h : AsksForDraft args recipients subject body) (s : Session) :
    let run := (dispatch createDraft.name args).run s
    (∃ sent, run.2.requests = s.requests ++ sent ∧ ∀ r ∈ sent, PostsText body r) ∧
      ∀ a s' token, (answered ((args.find? "reply_to_message_id").getD .null)).run s = (.ok a, s') →
        HasPlainHeaders a → s'.IsAuthorized token →
          ∃ raw, run.2.requests = s'.requests ++ [draftRequest raw (threadOf a)] ∧ CarriesText raw body := by
  refine ⟨(sends_createDraft h).run s, fun a s' token hanswered hplain htoken => ?_⟩
  obtain ⟨report, hreport, hprogram⟩ := dispatch_createDraft h
  obtain ⟨raw, hraw⟩ : ∃ raw, (draftOf args recipients subject body a).raw = .ok raw :=
    exists_raw h.plainRecipients h.plainSubject h.plainCc h.plainBcc hplain.1 hplain.2
  refine ⟨raw, ?_, raw_eq_ok (bodyText?_draftOf a) hraw⟩
  rw [hprogram, Program.run_bind, hanswered]
  dsimp only
  rw [hraw]
  exact requests_ask_bind hreport htoken

end

/-- Arguments for a draft of two lines to two addresses, with a subject that is folded. -/
def greetingArguments : Members :=
  [("to", .arr [.str "ann@example.org", .str "bob@example.org"]),
    ("subject", .str "A subject that is too long for one line of a header and has to be folded before a blank"),
    ("body", .str "Grüße\r\nund Küsse ✉\n")]

/-- A draft is posted, and it carries its two lines. -/
theorem createDraft_carriesText_greeting :
    ∃ raw, ((dispatch createDraft.name greetingArguments).run (sessionWith [])).2.requests = [draftRequest raw []] ∧
      CarriesText raw "Grüße\r\nund Küsse ✉\n" := by
  have hasks : AsksForDraft greetingArguments ["ann@example.org", "bob@example.org"]
      "A subject that is too long for one line of a header and has to be folded before a blank"
      "Grüße\r\nund Küsse ✉\n" := by
    refine ⟨rfl, rfl, rfl, ?_, by decide, .inl rfl, .inl rfl⟩
    exact List.forall_mem_cons.2 ⟨by decide, List.forall_mem_singleton.2 (by decide)⟩
  obtain ⟨token, htoken⟩ := isAuthorized_sessionWith []
  exact (createDraft_carriesText hasks (sessionWith [])).2 {} (sessionWith []) token rfl ⟨.inl rfl, .inl rfl⟩ htoken

end WorkspaceTools.Tool
