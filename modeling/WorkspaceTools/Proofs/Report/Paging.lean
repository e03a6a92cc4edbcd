import Mathlib.Data.List.Basic
import WorkspaceTools.Proofs.Number.Decimal
import WorkspaceTools.Proofs.Outcome
import WorkspaceTools.Report.Render

/-!
# Lists that go on

A list of messages, threads or events comes in pages. A page that is not the last one names the token of the
next one, and the report on it ends with a hint that shows the token.

* `IsListedMessage`, `IsListedThread` and `IsListedEvent` are the items that a list can show: no other item
  has a report (`exists_messageSummary_iff`, `exists_threadSummary_iff`, `exists_eventSummary_iff`).
* A `PagedList` is what the three lists have in common, and what they differ in. The report on a page is the
  listing of its items, and the hint in the last line (`report_page`).
* `renderResult_page`: what is left of this in the text of a result, which is cut at the usual limit. A long
  subject pushes the hint out of the text (`renderResult_page_cut`).
-/

namespace WorkspaceTools

open Json Number Report Time

/-! ## Items that can be shown -/

/-- The items of a document are texts. -/
def Json.HasTexts (v : Json) : Prop := ∃ xs, v.elements? = some xs ∧ ∀ x ∈ xs, ∃ s, x = .str s

theorem exists_textsFrom_iff (index : Nat) (xs : List Json) :
    (∃ ss, textsFrom index xs = .ok ss) ↔ ∀ x ∈ xs, ∃ s, x = .str s := by
  induction xs generalizing index with
  | nil => simp [textsFrom]
  | cons x rest ih =>
    have ih := ih (index + 1)
    cases x with
    | str s => simpa [textsFrom, map_eq_ok] using ih
    | _ => simp [textsFrom]

theorem exists_joined_iff (separator : String) (v : Json) :
    (∃ s, v.joined separator = .ok s) ↔ v.HasTexts := by
  unfold joined HasTexts
  cases v.elements? with
  | none => simp
  | some xs => simpa [joinItems, map_eq_ok] using exists_textsFrom_iff 0 xs

namespace Report

/-- A member that is shown has a property; one that is missing, null, false, zero or empty is not shown. -/
def Admits (name : String) (P : Json → Prop) (ms : Members) : Prop :=
  ∀ v, ms.find? name = some v → v.isTruthy = true → P v

theorem admits_iff {name : String} {P : Json → Prop} {ms : Members} :
    Admits name P ms ↔ (((ms.find? name).getD .null).isTruthy = true → P ((ms.find? name).getD .null)) := by
  unfold Admits
  cases ms.find? name with
  | none => simp [isTruthy]
  | some v => simp

theorem exists_ifTruthy_iff {name : String} {ms : Members} {lines : Json → Shaped (List String)} :
    (∃ ls, ifTruthy name (.obj ms) lines = .ok ls) ↔ Admits name (fun v => ∃ ls, lines v = .ok ls) ms := by
  rw [admits_iff, ifTruthy, field_obj, ok_bind]
  split
  · rename_i h
    simp [h]
  · rename_i h
    simp [h]

theorem shownField_obj (name : String) (ms : Members) :
    shownField name (.obj ms) = .ok ((ms.find? name).getD .null).display := rfl

theorem shownOr_obj (name default : String) (ms : Members) :
    shownOr name default (.obj ms) = .ok (((ms.find? name).getD .null).orElse (.str default)).display := rfl

/-- A message that a list can show. -/
def IsListedMessage (item : Json) : Prop := ∃ ms, item = .obj ms ∧ Admits "labels" HasTexts ms

theorem exists_joinedLines_iff (name label separator : String) (ms : Members) :
    (∃ ls, (ifTruthy name (.obj ms) fun x => do return [labelled label (← x.joined separator)]) = .ok ls) ↔
      Admits name HasTexts ms := by
  simp [exists_ifTruthy_iff, exists_bind_eq_ok, exists_joined_iff]

theorem exists_plainLines (name : String) (lines : Json → List String) (ms : Members) :
    ∃ ls, (ifTruthy name (.obj ms) fun x => .ok (lines x)) = .ok ls :=
  exists_ifTruthy_iff.2 fun v _ _ => ⟨lines v, rfl⟩

theorem exists_messageSummary_iff (item : Json) :
    (∃ s, messageSummary item = .ok s) ↔ IsListedMessage item := by
  unfold messageSummary IsListedMessage
  cases item with
  | obj ms =>
    have hlabels := exists_joinedLines_iff "labels" "Labels" ", " ms
    obtain ⟨snippet, hsnippet⟩ := exists_plainLines "snippet" (fun x => [labelled "Preview" x.display]) ms
    simp only [List.mapM_cons, List.mapM_nil, shownOr_obj, shownField_obj, map_ok, ok_bind, pure_eq_ok,
      hsnippet] at hlabels ⊢
    simp [exists_bind_eq_ok, hlabels]
  | _ => simp [shownOr, field, lookup, lookup?, membersFor, List.mapM_cons]

/-- A thread that a list can show. -/
def IsListedThread (item : Json) : Prop :=
  ∃ ms, item = .obj ms ∧
    ∀ name ∈ ["subject", "from", "message_count", "date", "id"], (Members.find? name ms).isSome

theorem exists_shownItem_iff (name : String) (ms : Members) :
    (∃ s, shownItem name (.obj ms) = .ok s) ↔ (ms.find? name).isSome := by
  simp only [shownItem, item]
  cases Members.find? name ms <;> simp

theorem exists_threadSummary_iff (item : Json) :
    (∃ ls, threadSummary item = .ok ls) ↔ IsListedThread item := by
  unfold threadSummary IsListedThread
  cases item with
  | obj ms => simp [exists_bind_eq_ok, exists_shownItem_iff, shownFieldOr]
  | _ => simp [shownItem, item]

/-- The boundary of an event is missing or empty, or a text; that of an event of whole days is shown
whatever it is. -/
def IsBoundary (ms : Members) (v : Json) : Prop :=
  ((ms.find? "is_all_day").getD (.bool false)).isTruthy = true ∨ ∃ s, v = .str s

/-- A description is a text, or it has few items. -/
def IsDescription (v : Json) : Prop :=
  (∃ s, v = .str s) ∨ ∃ xs, v.elements? = some xs ∧ xs.length ≤ descriptionLimit

/-- An event that a list can show. -/
def IsListedEvent (item : Json) : Prop :=
  ∃ ms, item = .obj ms ∧ Admits "start" (IsBoundary ms) ms ∧ Admits "end" (IsBoundary ms) ms ∧
    Admits "attendees" HasTexts ms ∧ Admits "description" IsDescription ms

theorem exists_eventTime_iff (value allDay : Json) :
    (∃ s, eventTime value allDay = .ok s) ↔
      (value.isTruthy = true → allDay.isTruthy = true ∨ ∃ s, value = .str s) := by
  unfold eventTime
  cases hvalue : value.isTruthy with
  | false => simp
  | true =>
    cases hallDay : allDay.isTruthy with
    | true => simp
    | false =>
      cases value with
      | str s =>
        simp only [Bool.not_true, Bool.false_eq_true, if_false]
        split <;> simp
      | _ => simp

theorem exists_eventSpan_iff (ms : Members) :
    (∃ s, eventSpan (.obj ms) = .ok s) ↔ Admits "start" (IsBoundary ms) ms ∧ Admits "end" (IsBoundary ms) ms := by
  simp only [eventSpan, lookup_obj, field_obj, ok_bind, pure_eq_ok, exists_bind_eq_ok, Except.ok.injEq,
    exists_eq', and_true, exists_and_right, exists_eventTime_iff, admits_iff, IsBoundary]

theorem exists_shortDescription_iff (v : Json) :
    (∃ s, shortDescription v = .ok s) ↔ IsDescription v := by
  unfold shortDescription IsDescription
  cases v with
  | str s =>
    simp only [size, elements?, ok_bind]
    split <;> simp
  | arr xs =>
    simp only [size, elements?, ok_bind]
    split <;> simp_all
  | obj ms =>
    simp only [size, elements?, ok_bind]
    split <;> simp_all
  | _ => simp [size, elements?]

theorem exists_descriptionLines_iff (name label : String) (ms : Members) :
    (∃ ls, (ifTruthy name (.obj ms) fun x => do return [labelled label (← shortDescription x)]) = .ok ls) ↔
      Admits name IsDescription ms := by
  simp [exists_ifTruthy_iff, exists_bind_eq_ok, exists_shortDescription_iff]

theorem exists_eventSummary_iff (item : Json) :
    (∃ s, eventSummary item = .ok s) ↔ IsListedEvent item := by
  unfold eventSummary IsListedEvent
  cases item with
  | obj ms =>
    have hspan := exists_eventSpan_iff ms
    have hattendees := exists_joinedLines_iff "attendees" "Attendees" ", " ms
    have hdescription := exists_descriptionLines_iff "description" "Description" ms
    obtain ⟨place, hplace⟩ := exists_plainLines "location" (fun x => [labelled "Location" x.display]) ms
    obtain ⟨status, hstatus⟩ := exists_plainLines "status"
      (fun x => if x.isText "confirmed" then [] else [labelled "Status" x.display]) ms
    simp only [shownOr_obj, shownField_obj, ok_bind, pure_eq_ok, hplace, hstatus]
      at hattendees hdescription ⊢
    simp [exists_bind_eq_ok, hspan, hattendees, hdescription, and_assoc]
  | _ => simp [shownOr, field, lookup, lookup?, membersFor]

/-! ## Lists -/

/-- A list that comes in pages. -/
structure PagedList where
  /-- The member with the items, and what the hint calls them. -/
  noun : String
  title : String
  /-- What the heading calls one item. -/
  entry : String
  lines : Json → Shaped (List String)
  IsShown : Json → Prop
  exists_lines_iff : ∀ item, (∃ ls, lines item = .ok ls) ↔ IsShown item

/-- A report on an item, as lines with an empty one after it. -/
def spaced (summary : Json → Shaped String) (item : Json) : Shaped (List String) :=
  (summary item).map fun s => [s, ""]

theorem exists_spaced_iff {summary : Json → Shaped String} {item : Json} :
    (∃ ls, spaced summary item = .ok ls) ↔ ∃ s, summary item = .ok s := by
  simp [spaced, map_eq_ok]

/-- Lists of messages. -/
def messagePages : PagedList where
  noun := "messages"
  title := "# Gmail Messages"
  entry := "message"
  lines := spaced messageSummary
  IsShown := IsListedMessage
  exists_lines_iff item := exists_spaced_iff.trans (exists_messageSummary_iff item)

/-- Lists of threads. -/
def threadPages : PagedList where
  noun := "threads"
  title := "# Gmail Threads"
  entry := "thread"
  lines := threadSummary
  IsShown := IsListedThread
  exists_lines_iff := exists_threadSummary_iff

/-- Lists of events. -/
def eventPages : PagedList where
  noun := "events"
  title := "# Calendar Events"
  entry := "event"
  lines := spaced eventSummary
  IsShown := IsListedEvent
  exists_lines_iff item := exists_spaced_iff.trans (exists_eventSummary_iff item)

namespace PagedList

/-- How to get the next page. -/
def hint (page : PagedList) (token : String) : String :=
  "*Use page_token=\"" ++ token ++ "\" to load more " ++ page.noun ++ ".*"

/-- The heading of a page that is not the last one, and the lines of all its items. -/
def listing (page : PagedList) (items : List (List String)) : String :=
  unlines ([page.title, "", found items.length page.entry " (more available)", ""] ++ items.flatten)

end PagedList

end Report

/-- The tools that list something page by page. -/
def Tool.pages? : Tool → Option PagedList
  | .listMessages => some messagePages
  | .listThreads => some threadPages
  | .listEvents => some eventPages
  | _ => none

/-- A page that is not the last one: it has items, and the token of the next page. A page without items is left out:
its report says that nothing was found and ends there, without a hint, whatever token it has. -/
structure IsPage (page : PagedList) (result : Json) (items : List Json) (token : String) : Prop where
  lists : result.member? page.noun = some (.arr items)
  some_item : items ≠ []
  names : result.member? "next_page_token" = some (.str token)
  some_token : token ≠ ""

section

variable {tool : Tool} {page : PagedList} {result format : Json} {items : List Json} {token : String}

/-- Spaced lines are the lines of all summaries with an empty one after each. -/
theorem bind_mapM_spaced (summary : Json → Shaped String) (items : List Json) (head : List String)
    (last : String) :
    (items.mapM (spaced summary) >>= fun ls => Except.ok (unlines (head ++ ls.flatten ++ [last]))) =
      items.mapM summary >>= fun ss =>
        Except.ok (unlines (head ++ ss.flatMap (fun s => [s, ""]) ++ [last])) := by
  have hspaced : items.mapM (spaced summary) = (items.mapM summary).map (List.map fun s => [s, ""]) := by
    induction items with
    | nil => rfl
    | cons item rest ih =>
      rw [List.mapM_cons, List.mapM_cons, ih, spaced]
      cases summary item with
      | error fault => rfl
      | ok s => cases rest.mapM summary <;> rfl
  rw [hspaced]
  cases items.mapM summary with
  | error fault => rfl
  | ok ss => rw [map_ok, ok_bind, ok_bind, List.flatMap_def]

/-- A last line stands by itself. -/
theorem unlines_concat {lines : List String} (h : lines ≠ []) (last : String) :
    unlines (lines ++ [last]) = unlines lines ++ "\n" ++ last := by
  rw [unlines, String.intercalate_append_of_ne_nil h (List.cons_ne_nil _ _), String.intercalate_singleton]
  rfl

/-- The heading and the hint of a page, around the lines of its items. -/
theorem pageHint_eq {ms : Members} (h : IsPage page (.obj ms) items token) :
    moreAvailable (.obj ms) = .ok " (more available)" ∧ pageHint (.obj ms) page.noun = .ok [page.hint token] := by
  have hnames : Members.find? "next_page_token" ms = some (.str token) := h.names
  have htruthy : (Json.str token).isTruthy = true := by simpa [isTruthy] using h.some_token
  simp only [moreAvailable, pageHint, field_obj, hnames, Option.getD_some, ok_bind, htruthy, if_true, pure_eq_ok]
  exact ⟨trivial, rfl⟩

/-- A page is made of its heading, the lines of its items and the hint. -/
theorem bind_page (page : PagedList) (items : List Json) (token : String) :
    (items.mapM page.lines >>= fun ls => Except.ok
        (unlines ([page.title, "", found items.length page.entry " (more available)", ""] ++ ls.flatten
          ++ [page.hint token]))) =
      (items.mapM page.lines).map fun ls => page.listing ls ++ "\n" ++ page.hint token := by
  cases hlines : items.mapM page.lines with
  | error fault => rfl
  | ok ls =>
    rw [ok_bind, map_ok, unlines_concat (by simp), PagedList.listing, length_of_mapM hlines]

/-- The report on a page. -/
theorem report_page (hpage : tool.pages? = some page) (h : IsPage page result items token) :
    tool.report result = (items.mapM page.lines).map fun ls => page.listing ls ++ "\n" ++ page.hint token := by
  rw [← bind_page]
  cases result with
  | obj ms =>
    obtain ⟨hmore, hhint⟩ := pageHint_eq h
    have hlists : Members.find? page.noun ms = some (.arr items) := h.lists
    have htruthy : (Json.arr items).isTruthy = true := by simpa [isTruthy] using h.some_item
    cases tool with
    | listMessages =>
      cases hpage
      change pageHint _ "messages" = _ at hhint
      change Members.find? "messages" _ = _ at hlists
      simp only [Tool.report, messageList, lookup_obj, hlists, Option.getD_some, ok_bind, htruthy, size_arr, hmore,
        elements_arr, hhint, Bool.not_true, Bool.false_eq_true, if_false, pure_eq_ok]
      exact (bind_mapM_spaced messageSummary items _ _).symm
    | listThreads =>
      cases hpage
      change pageHint _ "threads" = _ at hhint
      change Members.find? "threads" _ = _ at hlists
      simp only [Tool.report, threadList, lookup_obj, hlists, Option.getD_some, ok_bind, htruthy, size_arr, hmore,
        elements_arr, hhint, Bool.not_true, Bool.false_eq_true, if_false, pure_eq_ok]
      rfl
    | listEvents =>
      cases hpage
      change pageHint _ "events" = _ at hhint
      change Members.find? "events" _ = _ at hlists
      simp only [Tool.report, eventList, lookup_obj, hlists, Option.getD_some, ok_bind, htruthy, size_arr, hmore,
        elements_arr, hhint, Bool.not_true, Bool.false_eq_true, if_false, pure_eq_ok]
      exact (bind_mapM_spaced eventSummary items _ _).symm
    | _ => cases hpage
  | _ => cases h.names

theorem exists_mapM_lines_iff (page : PagedList) (items : List Json) :
    (∃ ls, items.mapM page.lines = .ok ls) ↔ ∀ item ∈ items, page.IsShown item := by
  simp only [exists_mapM_eq_ok_iff, page.exists_lines_iff]

theorem truncate_of_le {text : String} (h : text.length ≤ 25000) : truncate text = text := by
  have hlength : (text.toList.length : Int) ≤ characterLimit := by
    rw [String.length_toList, characterLimit]
    omega
  simp only [truncate, truncateAt, hlength, if_true]

theorem truncate_of_lt {text : String} (h : 25000 < text.length) :
    truncate text = String.ofList (text.toList.take 25000) ++ truncationNotice := by
  have hlength : ¬(text.toList.length : Int) ≤ characterLimit := by
    rw [String.length_toList, characterLimit]
    omega
  simp only [truncate, truncateAt, hlength, if_false]
  rfl

theorem Tool.ofName?_name (tool : Tool) : Tool.ofName? tool.name = some tool := by
  cases tool <;> decide

theorem renderResult_of_report (hformat : format ≠ .str "json") :
    renderResult tool.name result format = (tool.report result).map truncate := by
  have hjson : format.isText "json" = false := by
    cases format <;> simp_all [isText]
  simp only [renderResult, Tool.ofName?_name, hjson, Bool.false_eq_true, if_false]

/-- **Where the hint stands.** For every page with items and a token for the next one, the report is the
listing of the items and after it, as its last line, the hint with the whole token. The text is the report if
that has at most 25000 characters, and otherwise these many of its characters and the notice. There is a text
exactly if each item can be shown. -/
theorem renderResult_page (hpage : tool.pages? = some page) (h : IsPage page result items token)
    (hformat : format ≠ .str "json") :
    ((∀ item ∈ items, page.IsShown item) ∧
      ∃ ls report, items.mapM page.lines = .ok ls ∧ tool.report result = .ok report ∧
        report = page.listing ls ++ "\n" ++ page.hint token ∧
        (report.length ≤ 25000 → renderResult tool.name result format = .ok report) ∧
        (25000 < report.length → renderResult tool.name result format =
          .ok (String.ofList (report.toList.take 25000) ++ truncationNotice))) ∨
    (∃ item ∈ items, ¬page.IsShown item) ∧
      ∃ fault, renderResult tool.name result format = .error fault := by
  have hreport := report_page hpage h
  rw [renderResult_of_report hformat]
  by_cases hshown : ∀ item ∈ items, page.IsShown item
  · obtain ⟨ls, hlines⟩ := (exists_mapM_lines_iff page items).2 hshown
    rw [hlines, map_ok] at hreport
    refine .inl ⟨hshown, ls, _, hlines, hreport, rfl, ?_, ?_⟩
    · intro hlength
      rw [hreport, map_ok, truncate_of_le hlength]
    · intro hlength
      rw [hreport, map_ok, truncate_of_lt hlength]
  · refine .inr ⟨by simpa using hshown, ?_⟩
    cases hlines : items.mapM page.lines with
    | ok ls => exact absurd ((exists_mapM_lines_iff page items).1 ⟨ls, hlines⟩) hshown
    | error fault =>
      rw [hlines, map_error] at hreport
      exact ⟨fault, by rw [hreport, map_error]⟩

end

/-! ### A page with one message -/

/-- A page with a message of a given subject. -/
def pageOf (subject : String) : Json :=
  .obj [("messages", .arr [.obj [("subject", .str subject), ("id", .str "m1")]]),
    ("next_page_token", .str "next")]

theorem isPage_pageOf (subject : String) : IsPage messagePages (pageOf subject)
    [.obj [("subject", .str subject), ("id", .str "m1")]] "next" where
  lists := rfl
  some_item := List.cons_ne_nil _ _
  names := rfl
  some_token := by decide

/-- What comes before the subject on such a page. -/
def pageHead : String := "# Gmail Messages\n\nFound 1 message(s) (more available).\n\n### "

theorem natText_one : natText 1 = "1" := by
  rw [natText, natDigits_of_lt (by decide)]
  rfl

theorem messageSummary_pageOf {subject : String} (h : subject ≠ "") :
    ∃ rest, messageSummary (.obj [("subject", .str subject), ("id", .str "m1")]) =
      .ok ("### " ++ subject ++ rest) := by
  have hsubject : ((Json.str subject).orElse (.str "(no subject)")).display = subject := by
    have htruthy : (Json.str subject).isTruthy = true := by simpa [isTruthy] using h
    rw [orElse, if_pos htruthy]
    rfl
  unfold messageSummary
  simp only [List.mapM_cons, List.mapM_nil, shownOr_obj, shownField_obj, map_ok, ok_bind, pure_eq_ok]
  change ∃ rest, Except.ok
    (unlines (("### " ++ ((Json.str subject).orElse (.str "(no subject)")).display) :: _ :: _)) = _
  rw [hsubject, unlines, String.intercalate_cons_cons, String.append_assoc]
  exact ⟨_, rfl⟩

theorem report_pageOf {subject : String} (h : subject ≠ "") :
    ∃ rest, Tool.listMessages.report (pageOf subject) = .ok (pageHead ++ subject ++ rest) := by
  obtain ⟨rest, hsummary⟩ := messageSummary_pageOf h
  have hhead : pageHead = "# Gmail Messages" ++ ("\n" ++ ("" ++ ("\n" ++
      (found 1 "message" " (more available)" ++ ("\n" ++ ("" ++ ("\n" ++ "### "))))))) := by
    rw [found, natText_one]
    decide
  refine ⟨rest ++ ("\n" ++ ("" ++ ("\n" ++ messagePages.hint "next"))), ?_⟩
  rw [report_page rfl (isPage_pageOf subject)]
  simp only [List.mapM_cons, List.mapM_nil, messagePages, spaced, hsummary, map_ok, ok_bind, pure_eq_ok,
    PagedList.listing, unlines, List.flatten_cons, List.flatten_nil, List.append_nil, List.cons_append,
    List.nil_append, List.length_cons, List.length_nil, String.intercalate_cons_cons,
    String.intercalate_singleton, hhead, String.append_assoc]

/-- Of a page with a subject that is too long only the head and a part of the subject are kept. -/
theorem renderResult_pageOf {subject : String} (h : 25000 ≤ subject.length) :
    ∃ kept, kept <+: pageHead.toList ++ subject.toList ∧
      renderResult "gmail_list_messages" (pageOf subject) .null =
        .ok (String.ofList kept ++ truncationNotice) := by
  have hne : subject ≠ "" := by
    rintro rfl
    simp at h
  obtain ⟨rest, hreport⟩ := report_pageOf hne
  have hlong : 25000 < (pageHead ++ subject ++ rest).length := by
    have hhead : 0 < pageHead.length := by decide
    rw [String.length_append, String.length_append]
    omega
  have hkept : (pageHead ++ subject ++ rest).toList.take 25000 =
      (pageHead.toList ++ subject.toList).take 25000 := by
    rw [String.toList_append, String.toList_append, List.take_append_of_le_length]
    rw [List.length_append, String.length_toList, String.length_toList]
    omega
  refine ⟨_, List.take_prefix 25000 _, ?_⟩
  have htext : renderResult Tool.listMessages.name (pageOf subject) .null = _ :=
    renderResult_of_report nofun
  rw [hreport, map_ok, truncate_of_lt hlong, hkept] at htext
  exact htext

/-- A subject of some length. -/
def subjectOf (length : Nat) : String := String.ofList (List.replicate length 'x')

theorem length_subjectOf (length : Nat) : (subjectOf length).length = length := by
  rw [subjectOf, String.length_ofList, List.length_replicate]

theorem eq_of_mem_subjectOf {length : Nat} {c : Char} (h : c ∈ (subjectOf length).toList) : c = 'x' := by
  rw [subjectOf, String.toList_ofList] at h
  exact List.eq_of_mem_replicate h

/-- **The hint is cut off** on a page with a subject of 25000 characters: the text has no hint with the token
of the next page. -/
theorem renderResult_page_cut :
    IsPage messagePages (pageOf (subjectOf 25000))
        [.obj [("subject", .str (subjectOf 25000)), ("id", .str "m1")]] "next" ∧
      ∃ text, renderResult "gmail_list_messages" (pageOf (subjectOf 25000)) .null = .ok text ∧
        ¬(messagePages.hint "next").toList <:+: text.toList := by
  obtain ⟨kept, hkept, htext⟩ := renderResult_pageOf (Nat.le_of_eq (length_subjectOf 25000).symm)
  refine ⟨isPage_pageOf _, _, htext, ?_⟩
  intro hhint
  -- the hint has a capital letter that stands nowhere in the text
  have hletter : 'U' ∈ (messagePages.hint "next").toList := by decide
  have hmem := hhint.subset hletter
  rw [String.toList_append, String.toList_ofList, List.mem_append] at hmem
  rcases hmem with hmem | hmem
  · rcases List.mem_append.1 (hkept.subset hmem) with hhead | hsubject
    · exact absurd hhead (by decide)
    · exact absurd (eq_of_mem_subjectOf hsubject) (by decide)
  · exact absurd hmem (by decide)

/-- With a short subject the hint stands at the end. -/
theorem renderResult_page_whole :
    IsPage messagePages (pageOf "Hello") [.obj [("subject", .str "Hello"), ("id", .str "m1")]] "next" ∧
      renderResult "gmail_list_messages" (pageOf "Hello") .null =
        .ok ("# Gmail Messages\n\nFound 1 message(s) (more available).\n\n### Hello\n- **From**: Unknown\n"
          ++ "- **To**: Unknown\n- **Date**: Unknown\n- **ID**: \x60m1\x60\n\n"
          ++ "*Use page_token=\"next\" to load more messages.*") := by
  have hpage := isPage_pageOf "Hello"
  have hpages : Tool.listMessages.pages? = some messagePages := rfl
  have hlines : messagePages.lines (.obj [("subject", .str "Hello"), ("id", .str "m1")]) =
      .ok [unlines ["### Hello", labelled "From" "Unknown", labelled "To" "Unknown",
        labelled "Date" "Unknown", labelled "ID" (inCode "m1")], ""] := rfl
  refine ⟨hpage, ?_⟩
  have hformat : Json.null ≠ .str "json" := nofun
  rcases renderResult_page hpages hpage hformat with
    ⟨-, ls, report, hall, -, rfl, hwhole, -⟩ | ⟨⟨item, hitem, hhidden⟩, -⟩
  · rw [List.mapM_cons, List.mapM_nil, hlines] at hall
    cases hall
    rw [PagedList.listing, found, List.length_singleton, natText_one] at hwhole
    refine (hwhole (by decide +kernel)).trans (congrArg Except.ok ?_)
    decide +kernel
  · obtain rfl := List.mem_singleton.1 hitem
    exact absurd ((messagePages.exists_lines_iff _).1 ⟨_, hlines⟩) hhidden

end WorkspaceTools
