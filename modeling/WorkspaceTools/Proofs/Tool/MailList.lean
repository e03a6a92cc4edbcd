import WorkspaceTools.Proofs.Exchange.Series
import WorkspaceTools.Proofs.Mail.Header
import WorkspaceTools.Proofs.Pivot.Modification
import WorkspaceTools.Proofs.Tool.Listing

/-!
# Lists of messages and threads

A list of messages or threads is put together from many answers: one names the entries, and one more tells the
details of each entry, if it can be had.

* A `MailList` is one of the two lists, with what they differ in; `program_eq` is what they have in common.
* `Lists` reads the entries off the answer that names them, `outcomes` are the outcomes of the requests for
  their details, in the order of the entries, and `IsSummary` says what is told of an entry and its details.
* `run_joinsDetails`: there is one summary for each entry whose details could be had, in the order of the
  entries, made of that entry and its own details.
-/

namespace WorkspaceTools

open Json Mail Text

/-! ## The two lists -/

/-- The lists of mail. -/
inductive MailList where
  | messages
  | threads

namespace Tool

/-- The parameter for an argument, unless that is null, false, zero or empty. -/
def optionalMember (param argument : String) (args : Members) : Members :=
  let v := (args.find? argument).getD .null
  if v.isTruthy then [(param, v)] else []

/-- The parameters of a list. -/
def listMembers (args : Members) : Members :=
  ("maxResults", (args.find? "max_results").getD (.int 10)) ::
    (optionalMember "q" "query" args ++ optionalMember "labelIds" "label_ids" args
      ++ optionalMember "pageToken" "page_token" args)

end Tool

namespace MailList

/-- The tool for a list. -/
def tool : MailList → Tool
  | .messages => .listMessages
  | .threads => .listThreads

/-- The member with the entries, and with their summaries. -/
def noun : MailList → String
  | .messages => "messages"
  | .threads => "threads"

/-- The request for the entries. -/
def request (list : MailList) (args : Members) : Request :=
  let address := match list with
    | .messages => Service.mailBase ++ "/messages"
    | .threads => Service.mailBase ++ "/threads"
  ⟨.get, address, some (Tool.listMembers args), none⟩

/-- The address of an entry. -/
def entryAddress : MailList → Json → String
  | .messages => fun id => Service.message id.display
  | .threads => fun id => Service.thread id.display

/-- The headers that are asked for. -/
def headerNames : MailList → List String
  | .messages => ["From", "To", "Subject", "Date"]
  | .threads => ["From", "Subject", "Date"]

/-- What is told of an entry and its details. -/
def summary : MailList → Json → Json → Shaped Json
  | .messages => Tool.messageSummary
  | .threads => Tool.threadSummary

/-- The result of a list with some summaries; that of messages repeats the query. -/
def result (list : MailList) (args : Members) (items : List Json) (next : Json) : Json :=
  .obj ([(list.noun, .arr items), ("result_count", .ofNat items.length), ("next_page_token", next)] ++
    match list with
    | .messages => [("query", (args.find? "query").getD .null)]
    | .threads => [])

/-- What the lists have in common. -/
def program (list : MailList) (args : Members) : Program Json := do
  let response ← Program.ask (list.request args)
  let named ← response.lookup list.noun (.arr [])
  let entries ← Tool.withDetails list.entryAddress (Tool.headerParams list.headerNames) named
  let items ← Tool.summaries list.summary entries
  let next ← response.field "nextPageToken"
  return list.result args items next

-- the parameters of a list can always be read off the arguments, so both sides are the same program
theorem program_eq (list : MailList) (args : Members) : list.tool.program args = list.program args := by
  cases list <;> rfl

/-! ## Entries -/

/-- The identifier of an entry. -/
def idOf (entry : Json) : Json := (entry.member? "id").getD .null

/-- The answer names some entries, each with its identifier. One without a list names none. -/
def Lists (list : MailList) (response : Json) (entries : List Json) : Prop :=
  ∃ ms : Members, response = .obj ms ∧ ((ms.find? list.noun).getD (.arr [])).elements? = some entries ∧
    ∀ entry ∈ entries, (entry.member? "id").isSome

theorem Lists.isSome_id {list : MailList} {response : Json} {entries : List Json} (h : list.Lists response entries)
    {entry : Json} (hentry : entry ∈ entries) : (entry.member? "id").isSome := by
  obtain ⟨ms, -, -, hids⟩ := h
  exact hids entry hentry

/-- The page after the one that an answer is about. -/
def nextPage (response : Json) : Json := (response.member? "nextPageToken").getD .null

/-- The request for the details of an entry. -/
def detailRequest (list : MailList) (entry : Json) : Request :=
  ⟨.get, list.entryAddress (idOf entry), some (Tool.headerParams list.headerNames), none⟩

/-- The outcomes of the requests for the details of some entries, in the order of these, after the list was
asked for. -/
def outcomes (list : MailList) (args : Members) (s : Session) (entries : List Json) :
    List (Except Fault Json) :=
  ((s.send (list.request args)).2.sendAll (entries.map list.detailRequest)).1

theorem item_eq_ok_iff {name : String} {v w : Json} : v.item name = .ok w ↔ v.member? name = some w := by
  cases v with
  | obj ms =>
    rw [item, member?]
    cases Members.find? name ms <;> simp
  | _ => simp [item, member?]

theorem mapItems_id_eq_ok_iff {v : Json} {ids : List Json} :
    v.mapItems (item "id") = .ok ids ↔ ∃ entries, v.elements? = some entries ∧
      (∀ entry ∈ entries, (entry.member? "id").isSome) ∧ ids = entries.map idOf := by
  have hid (entry id : Json) (h : entry.item "id" = .ok id) : id = idOf entry := by
    rw [idOf, item_eq_ok_iff.1 h, Option.getD_some]
  have hall (entries : List Json) : (∃ ids, entries.mapM (item "id") = .ok ids) ↔
      ∀ entry ∈ entries, (entry.member? "id").isSome := by
    simp only [exists_mapM_eq_ok_iff, item_eq_ok_iff, Option.isSome_iff_exists]
  rw [mapItems, elements]
  cases v.elements? with
  | none => simp
  | some entries =>
    constructor
    · intro h
      exact ⟨entries, rfl, (hall entries).1 ⟨ids, h⟩, eq_map_of_mapM hid h⟩
    · rintro ⟨entries, ⟨⟩, hsome, rfl⟩
      obtain ⟨ids, hids⟩ := (hall entries).2 hsome
      exact eq_map_of_mapM hid hids ▸ hids

/-- The entries whose details could be had, with these. -/
def fetched (pairs : List (Json × Except Fault Json)) : List (Json × Json) :=
  pairs.filterMap fun pair => pair.2.toOption.map fun detail => (pair.1, detail)

theorem mem_of_mem_fetched {pairs : List (Json × Except Fault Json)} {entry detail : Json}
    (h : (entry, detail) ∈ fetched pairs) : (entry, .ok detail) ∈ pairs := by
  obtain ⟨⟨other, outcome⟩, hpair, hsome⟩ := List.mem_filterMap.1 h
  cases outcome with
  | error fault => cases hsome
  | ok found =>
    cases hsome
    exact hpair

theorem summaries_eq (summary : Json → Json → Shaped Json) (pairs : List (Json × Except Fault Json)) :
    Tool.summaries summary pairs = (fetched pairs).mapM fun pair => summary pair.1 pair.2 := by
  induction pairs with
  | nil => rfl
  | cons pair rest ih =>
    obtain ⟨entry, outcome⟩ := pair
    cases outcome with
    | error fault => exact ih
    | ok detail =>
      have hcons : fetched ((entry, .ok detail) :: rest) = (entry, detail) :: fetched rest := rfl
      rw [Tool.summaries, ih, hcons, List.mapM_cons]

section

variable {list : MailList} {args : Members} {s : Session} {response : Json} {entries : List Json}

/-- What becomes of a list when its entries are known. -/
theorem fst_run_program (hresponse : (s.send (list.request args)).1 = .ok response)
    (hlists : list.Lists response entries) :
    ((list.program args).run s).1 =
      (((fetched (entries.zip (list.outcomes args s entries))).mapM fun pair =>
        list.summary pair.1 pair.2).mapError Fault.shape).map fun items =>
          list.result args items (nextPage response) := by
  obtain ⟨ms, rfl, helements, hids⟩ := hlists
  have hmap := mapItems_id_eq_ok_iff.2 ⟨entries, helements, hids, rfl⟩
  have hentries : ((ms.find? list.noun).getD (.arr [])).elements = .ok entries := by
    rw [elements, helements]
  have hrequests : entries.map list.detailRequest = (entries.map idOf).map fun id =>
      ⟨.get, list.entryAddress id, some (Tool.headerParams list.headerNames), none⟩ := by
    rw [List.map_map]
    rfl
  rw [program, Program.run_ask_bind, hresponse, ← summaries_eq, outcomes, hrequests]
  simp only [lookup_obj, Program.liftShaped_bind, Tool.withDetails, hentries, hmap, bind_assoc, pure_bind,
    Program.run_bind, Tool.run_details]
  cases Tool.summaries list.summary _ <;> rfl

/-- A list that comes to a result has entries. -/
theorem exists_lists_of_run {result : Json} (h : ((list.program args).run s).1 = .ok result) :
    ∃ response entries, (s.send (list.request args)).1 = .ok response ∧ list.Lists response entries := by
  rw [program, Program.run_ask_bind] at h
  cases hresponse : (s.send (list.request args)).1 with
  | error fault =>
    rw [hresponse] at h
    cases h
  | ok response =>
    rw [hresponse] at h
    cases response with
    | obj ms =>
      simp only [Program.liftShaped_bind, Tool.withDetails, lookup_obj] at h
      cases hids : ((Members.find? list.noun ms).getD (.arr [])).mapItems (item "id") with
      | ok ids =>
        obtain ⟨entries, helements, hsome, -⟩ := mapItems_id_eq_ok_iff.1 hids
        exact ⟨.obj ms, entries, rfl, ms, rfl, helements, hsome⟩
      | error fault =>
        rw [hids] at h
        split at h <;> cases h
    | _ => cases h

end

/-! ## Summaries -/

/-- The messages of a thread, in their order. -/
def HasMessages (thread : Json) (messages : List Json) : Prop :=
  ∃ ms : Members, thread = .obj ms ∧ (ms.find? "messages").getD (.arr []) = .arr messages

/-- The details of an entry are those of a message, or of a thread of messages. -/
def IsDetail : MailList → Json → Prop
  | .messages, detail => ∃ headers, HasHeaders detail headers
  | .threads, detail => ∃ messages, HasMessages detail messages ∧
      ∀ message ∈ messages, ∃ headers, HasHeaders message headers

/-- The summary of an entry and its details. A message is shown with its own headers, snippet and labels; a
thread with the subject and the sender of its first message, the date of its last one, and their number. -/
def IsSummary : MailList → Json → Json → Json → Prop
  | .messages, entry, detail, item => ∃ headers, HasHeaders detail headers ∧
      item = .obj [("id", idOf entry), ("thread_id", (entry.member? "threadId").getD .null),
        ("subject", headerValue "Subject" headers), ("from", headerValue "From" headers),
        ("to", headerValue "To" headers), ("date", headerValue "Date" headers),
        ("snippet", (detail.member? "snippet").getD (.str "")),
        ("labels", (detail.member? "labelIds").getD (.arr []))]
  | .threads, entry, detail, item => ∃ messages first last, HasMessages detail messages ∧
      HasHeaders (messages.head?.getD (.obj [])) first ∧ HasHeaders (messages.getLast?.getD (.obj [])) last ∧
      item = .obj [("id", idOf entry),
        ("subject", (headerValue "Subject" first).orElse (.str "(no subject)")),
        ("from", (headerValue "From" first).orElse (.str "Unknown")),
        ("date", (headerValue "Date" last).orElse (.str "")),
        ("snippet", (entry.member? "snippet").getD (.str "")), ("message_count", .ofNat messages.length)]

theorem HasMessages.unique {thread : Json} {messages others : List Json} (h : HasMessages thread messages)
    (hothers : HasMessages thread others) : messages = others := by
  obtain ⟨ms, rfl, hmessages⟩ := h
  obtain ⟨_, ⟨⟩, hmessages'⟩ := hothers
  exact Json.arr.inj (hmessages.symm.trans hmessages')

theorem hasHeaders_empty : HasHeaders (.obj []) [] := ⟨[], [], ⟨_, rfl, rfl⟩, rfl, .nil⟩

theorem exists_summary_message {entry detail : Json} (hid : (entry.member? "id").isSome)
    (hdetail : MailList.messages.IsDetail detail) :
    ∃ item, Tool.messageSummary entry detail = .ok item ∧ MailList.messages.IsSummary entry detail item := by
  obtain ⟨headers, hheaders⟩ := hdetail
  obtain ⟨v, hof, hfind⟩ := exists_headersOf hheaders
  obtain ⟨id, hid⟩ := Option.isSome_iff_exists.1 hid
  refine ⟨_, ?_, headers, hheaders, rfl⟩
  rw [idOf, hid]
  have hitem := item_eq_ok_iff.2 hid
  obtain ⟨_, _, ⟨ms, rfl, -⟩, -, -⟩ := hheaders
  cases entry with
  | obj ms =>
    simp only [Tool.messageSummary, hof, hfind, hitem, ok_bind, field_obj, lookup_obj]
    rfl
  | _ => cases hid

/-- The ends of a list of messages; one message without anything stands for none. -/
theorem ends_of_hasMessages {ms : Members} {messages : List Json} (h : HasMessages (.obj ms) messages) :
    let shown := ((ms.find? "messages").getD .null).orElse (.arr [.obj []])
    shown.first = .ok (messages.head?.getD (.obj [])) ∧ shown.last = .ok (messages.getLast?.getD (.obj [])) := by
  obtain ⟨_, ⟨⟩, hlist⟩ := h
  cases hfind : ms.find? "messages" with
  | none =>
    rw [hfind] at hlist
    cases hlist
    exact ⟨rfl, rfl⟩
  | some v =>
    rw [hfind] at hlist
    cases hlist
    cases messages with
    | nil => exact ⟨rfl, rfl⟩
    | cons message rest => exact ⟨rfl, by simp [orElse, isTruthy, last, endItem, elements?, List.getLast?_cons]⟩

theorem exists_hasHeaders_getD {message : Option Json} (h : ∀ m ∈ message, ∃ headers, HasHeaders m headers) :
    ∃ headers, HasHeaders (message.getD (.obj [])) headers := by
  cases message with
  | none => exact ⟨[], hasHeaders_empty⟩
  | some m => exact h m rfl

theorem exists_summary_thread {entry detail : Json} (hid : (entry.member? "id").isSome)
    (hdetail : MailList.threads.IsDetail detail) :
    ∃ item, Tool.threadSummary entry detail = .ok item ∧ MailList.threads.IsSummary entry detail item := by
  obtain ⟨messages, hmessages, hall⟩ := hdetail
  obtain ⟨first, hfirst⟩ := exists_hasHeaders_getD fun m hm => hall m (List.mem_of_mem_head? hm)
  obtain ⟨last, hlast⟩ := exists_hasHeaders_getD fun m hm => hall m (List.mem_of_mem_getLast? hm)
  obtain ⟨firstHeaders, hfirstOf, hfindFirst⟩ := exists_headersOf hfirst
  obtain ⟨lastHeaders, hlastOf, hfindLast⟩ := exists_headersOf hlast
  obtain ⟨id, hid⟩ := Option.isSome_iff_exists.1 hid
  refine ⟨_, ?_, messages, first, last, hmessages, hfirst, hlast, rfl⟩
  rw [idOf, hid]
  have hitem := item_eq_ok_iff.2 hid
  have ⟨ms, hms, hlist⟩ := hmessages
  subst hms
  obtain ⟨hfirstShown, hlastShown⟩ := ends_of_hasMessages hmessages
  cases entry with
  | obj ms =>
    simp only [Tool.threadSummary, field_obj, ok_bind, hfirstShown, hlastShown, hfirstOf, hlastOf, hfindFirst,
      hfindLast, hitem, lookup_obj, hlist]
    rfl
  | _ => cases hid

/-- An entry and its details have a summary. -/
theorem exists_summary (list : MailList) {entry detail : Json} (hid : (entry.member? "id").isSome)
    (hdetail : list.IsDetail detail) :
    ∃ item, list.summary entry detail = .ok item ∧ list.IsSummary entry detail item := by
  cases list with
  | messages => exact exists_summary_message hid hdetail
  | threads => exact exists_summary_thread hid hdetail

/-- There is one summary of an entry and its details. -/
theorem isSummary_unique (list : MailList) {entry detail item other : Json} (h : list.IsSummary entry detail item)
    (hother : list.IsSummary entry detail other) : item = other := by
  cases list with
  | messages =>
    obtain ⟨headers, hheaders, rfl⟩ := h
    obtain ⟨headers', hheaders', rfl⟩ := hother
    rw [hheaders.unique hheaders']
  | threads =>
    obtain ⟨messages, first, last, hmessages, hfirst, hlast, rfl⟩ := h
    obtain ⟨messages', first', last', hmessages', hfirst', hlast', rfl⟩ := hother
    cases hmessages.unique hmessages'
    rw [hfirst.unique hfirst', hlast.unique hlast']

/-! ## The result -/

section

variable {list : MailList} {args : Members} {s : Session} {response : Json} {entries : List Json}

/-- Every entry has the outcome of its own request. -/
theorem length_outcomes : (list.outcomes args s entries).length = entries.length := by
  rw [outcomes, Session.length_sendAll, List.length_map]

/-- With a valid token the outcomes are the answers after the first one. -/
theorem outcomes_of_authorized {token : String} (h : s.IsAuthorized token) :
    list.outcomes args s entries =
      (List.range entries.length).map fun i => Program.answerAt s.replies (i + 1) := by
  obtain ⟨s', hsend, hs', -, -, hreplies, -⟩ := Session.send_of_authorized h (list.request args)
  rw [outcomes, hsend, Session.sendAll_of_authorized hs', List.length_map, hreplies, ← List.drop_one]
  refine List.map_congr_left fun i _ => ?_
  rw [Program.answerAt_drop, Nat.add_comm]

/-- **A list and its details.** There is one summary for each entry whose details could be had, in the order
of the entries, made of that entry and the details that its own request brought; and the result counts them.
An entry whose request fails has no summary, and nothing else comes of that. -/
theorem run_joinsDetails (hresponse : (s.send (list.request args)).1 = .ok response)
    (hlists : list.Lists response entries)
    (hdetails : ∀ detail, .ok detail ∈ list.outcomes args s entries → list.IsDetail detail) :
    (list.outcomes args s entries).length = entries.length ∧
      ∃ items, List.Forall₂ (fun pair item => list.IsSummary pair.1 pair.2 item)
          (fetched (entries.zip (list.outcomes args s entries))) items ∧
        ((dispatch list.tool.name args).run s).1 = .ok (list.result args items (nextPage response)) := by
  refine ⟨length_outcomes, ?_⟩
  have hall : ∀ pair ∈ fetched (entries.zip (list.outcomes args s entries)),
      ∃ item, list.summary pair.1 pair.2 = .ok item ∧ list.IsSummary pair.1 pair.2 item := by
    rintro ⟨entry, detail⟩ hpair
    obtain ⟨hentry, houtcome⟩ := List.of_mem_zip (mem_of_mem_fetched hpair)
    exact list.exists_summary (hlists.isSome_id hentry) (hdetails detail houtcome)
  obtain ⟨items, hitems, hsummaries⟩ := exists_mapM_eq_ok hall
  refine ⟨items, hsummaries, ?_⟩
  rw [Tool.dispatch_name, program_eq, fst_run_program hresponse hlists, hitems, mapError_ok, map_ok]

end

/-! ### Messages that are listed twice -/

/-- The details of a message with some subject. -/
def detailsOf (subject : String) : Json :=
  .obj [("payload", .obj [("headers", .arr [.obj [("name", .str "SUBJECT"), ("value", .str subject)]])])]

theorem hasHeaders_detailsOf (subject : String) :
    HasHeaders (detailsOf subject) [("SUBJECT", .str subject)] :=
  ⟨_, _, ⟨_, rfl, rfl⟩, rfl, .cons ⟨_, rfl, rfl, rfl⟩ .nil⟩

/-- The summary of a message that has a subject only. -/
def subjectSummary (entry : Json) (subject : String) : Json :=
  .obj [("id", idOf entry), ("thread_id", (entry.member? "threadId").getD .null), ("subject", .str subject),
    ("from", .null), ("to", .null), ("date", .null), ("snippet", .str ""), ("labels", .arr [])]

theorem eq_subjectSummary {entry item : Json} {subject : String}
    (h : MailList.messages.IsSummary entry (detailsOf subject) item) : item = subjectSummary entry subject := by
  refine MailList.messages.isSummary_unique h ⟨_, hasHeaders_detailsOf subject, ?_⟩
  have hfound : lowerCase "SUBJECT" = lowerCase "Subject" := by decide +kernel
  have hothers : ∀ name ∈ ["From", "To", "Date"], lowerCase "SUBJECT" ≠ lowerCase name := by decide +kernel
  simp only [List.forall_mem_cons] at hothers
  obtain ⟨hfrom, hto, hdate, -⟩ := hothers
  rw [headerValue_cons, if_pos hfound, headerValue_cons, if_neg hfrom, headerValue_cons, if_neg hto,
    headerValue_cons, if_neg hdate]
  rfl

/-- Entries that name one message twice, and another one between. -/
def repeatedEntries : List Json :=
  [.obj [("id", .str "m1"), ("threadId", .str "t1")], .obj [("id", .str "m2")], .obj [("id", .str "m1")]]

/-- The details of the other message are not found. -/
def repeatedReplies : List Reply :=
  [.answer 200 (.ok (.obj [("messages", .arr repeatedEntries)])), .answer 200 (.ok (detailsOf "Before")),
    .answer 404 (.ok (.obj [])), .answer 200 (.ok (detailsOf "After"))]

/-- Both entries of the message are shown, each with its own details. -/
theorem run_joinsDetails_repeated :
    ((dispatch Tool.listMessages.name []).run (Tool.sessionWith repeatedReplies)).1 =
      .ok (.obj [("messages", .arr [subjectSummary (.obj [("id", .str "m1"), ("threadId", .str "t1")]) "Before",
          subjectSummary (.obj [("id", .str "m1")]) "After"]),
        ("result_count", .int 2), ("next_page_token", .null), ("query", .null)]) := by
  obtain ⟨token, htoken⟩ := Tool.isAuthorized_sessionWith repeatedReplies
  have hresponse : ((Tool.sessionWith repeatedReplies).send (MailList.messages.request [])).1 =
      .ok (.obj [("messages", .arr repeatedEntries)]) := Tool.fst_send_sessionWith _ _
  have hlists : MailList.messages.Lists (.obj [("messages", .arr repeatedEntries)]) repeatedEntries :=
    ⟨_, rfl, rfl, by simp [repeatedEntries, member?, Members.find?]⟩
  have houtcomes : MailList.messages.outcomes [] (Tool.sessionWith repeatedReplies) repeatedEntries =
      [.ok (detailsOf "Before"), .error (.refused 404 (.ok (.obj []))), .ok (detailsOf "After")] :=
    (outcomes_of_authorized htoken).trans rfl
  have hdetails : ∀ detail, .ok detail ∈ MailList.messages.outcomes [] (Tool.sessionWith repeatedReplies)
      repeatedEntries → MailList.messages.IsDetail detail := by
    rw [houtcomes]
    rintro detail hdetail
    simp only [List.mem_cons, Except.ok.injEq, reduceCtorEq, List.not_mem_nil, or_false, false_or] at hdetail
    rcases hdetail with rfl | rfl
    · exact ⟨_, hasHeaders_detailsOf _⟩
    · exact ⟨_, hasHeaders_detailsOf _⟩
  obtain ⟨-, items, hitems, hrun⟩ := run_joinsDetails hresponse hlists hdetails
  rw [houtcomes] at hitems
  obtain _ | ⟨hbefore, _ | ⟨hafter, ⟨⟩⟩⟩ := hitems
  rw [eq_subjectSummary hbefore, eq_subjectSummary hafter] at hrun
  exact hrun

end MailList

end WorkspaceTools
