import WorkspaceTools.Proofs.Tool.MailList

/-!
# Lists that are said to be empty

The answer to a call that lists messages or threads may say that there are none.

* `BeginsWith` is how texts are told apart. The text on a fault begins with one of two words
  (`beginsWith_describe`), and the report on a list that has items with a heading (`beginsWith_report_result`).
* `MailList.saysNone_iff`: the answer says that there are none exactly if the entries were named and the details
  of none of them could be had. So it also says so of a list that has entries, if all requests for their details
  failed.
-/

namespace WorkspaceTools

open Json Report Text

/-! ## Beginnings of texts -/

/-- A text begins with another one. -/
def BeginsWith (start text : String) : Prop := start.toList <+: text.toList

instance (start text : String) : Decidable (BeginsWith start text) :=
  inferInstanceAs (Decidable (start.toList <+: text.toList))

namespace BeginsWith

variable {start other text : String}

theorem append (h : BeginsWith start text) (rest : String) : BeginsWith start (text ++ rest) := by
  rw [BeginsWith, String.toList_append]
  exact h.trans (List.prefix_append _ _)

theorem trans (h : BeginsWith start text) (hother : BeginsWith text other) : BeginsWith start other :=
  List.IsPrefix.trans h hother

/-- Of two beginnings of a text one begins the other. -/
theorem beginsWith_or (h : BeginsWith start text) (hother : BeginsWith other text) :
    BeginsWith start other ∨ BeginsWith other start :=
  List.prefix_or_prefix_of_prefix h hother

/-- What a text begins with stays when its end is trimmed, if it has no blanks at its own end. -/
theorem trimEnd (h : BeginsWith start text) (hstart : trimEndBy isBlank start.toList = start.toList) :
    BeginsWith start (trimEnd text) := by
  obtain ⟨rest, hrest⟩ := h
  rw [BeginsWith, Text.trimEnd, String.toList_ofList, ← hrest, trimEndBy, List.reverse_append,
    List.dropWhile_append]
  split
  · change start.toList <+: trimEndBy isBlank start.toList
    rw [hstart]
  · rw [List.reverse_append, List.reverse_reverse]
    exact List.prefix_append _ _

/-- What a text begins with stays when the text is cut. -/
theorem truncate (h : BeginsWith start text) (hstart : start.toList.length ≤ 25000) :
    BeginsWith start (truncate text) := by
  by_cases hlength : text.length ≤ 25000
  · rwa [truncate_of_le hlength]
  · rw [BeginsWith, truncate_of_lt (by omega), String.toList_append, String.toList_ofList]
    exact (List.prefix_take_iff.2 ⟨h, hstart⟩).trans (List.prefix_append _ _)

/-- Lines of a report begin as the first one does. -/
theorem unlines (h : BeginsWith start text) (lines : List String) : BeginsWith start (unlines (text :: lines)) := by
  cases lines with
  | nil => rwa [Report.unlines, String.intercalate_singleton]
  | cons next rest =>
    rw [Report.unlines, String.intercalate_cons_cons, String.append_assoc]
    exact h.append _

end BeginsWith

/-! ## Texts on faults -/

theorem beginsWith_describeRefusal (status : Nat) (words : String) :
    BeginsWith "Error:" (describeRefusal status words) := by
  have hblank : trimEndBy isBlank "Error:".toList = "Error:".toList := by decide
  unfold describeRefusal
  split
  · exact .append ⟨_, rfl⟩ _
  split
  · exact .trimEnd (.append (.append ⟨_, rfl⟩ _) _) hblank
  split
  · exact ⟨_, rfl⟩
  split
  · exact ⟨_, rfl⟩
  · exact .trimEnd (.append (.append (.append ⟨_, rfl⟩ _) _) _) hblank

theorem beginsWith_describe {fault : Fault} {text : String} (h : fault.describe = .ok text) :
    BeginsWith "Error:" text ∨ BeginsWith "Invalid arguments:" text := by
  cases fault with
  | refused status body =>
    obtain ⟨words, -, rfl⟩ := map_eq_ok.1 h
    exact .inl (beginsWith_describeRefusal status words)
  | issues found =>
    cases h
    exact .inr (.append ⟨_, rfl⟩ _)
  | pivot error =>
    cases h
    refine .inl (.append ?_ _)
    split
    · exact ⟨_, rfl⟩
    · exact ⟨_, rfl⟩
  | _ =>
    cases h
    exact .inl (.append ⟨_, rfl⟩ _)

namespace MailList

/-- The text says that there are none. -/
def SaysNone (list : MailList) (text : String) : Prop := BeginsWith ("No " ++ list.noun ++ " found") text

/-- A text that begins otherwise does not say so. -/
theorem not_saysNone {list : MailList} {start text : String} (h : BeginsWith start text)
    (hno : ¬ BeginsWith "No " start) (hno' : ¬ BeginsWith start "No ") : ¬ list.SaysNone text := by
  intro hnone
  have hbegins : BeginsWith "No " text :=
    (BeginsWith.append (.append ⟨_, rfl⟩ list.noun) " found").trans hnone
  exact (hbegins.beginsWith_or h).elim hno hno'

theorem not_saysNone_describe {list : MailList} {fault : Fault} {text : String} (h : fault.describe = .ok text) :
    ¬ list.SaysNone text := by
  rcases beginsWith_describe h with h | h
  · exact not_saysNone h (by decide) (by decide)
  · exact not_saysNone h (by decide) (by decide)

/-! ## Reports on lists -/

section

variable {list : MailList} {args : Members} {items : List Json} {next : Json} {text : String}

/-- A report on a list without items says that there are none. -/
theorem report_result_nil (list : MailList) (args : Members) (next : Json) :
    ∃ text, list.tool.report (list.result args [] next) = .ok text ∧ list.SaysNone text := by
  cases list with
  | messages =>
    have hreport : Tool.listMessages.report (MailList.messages.result args [] next) =
        .ok (if ((args.find? "query").getD .null).isTruthy then
            "No messages found matching \"" ++ ((args.find? "query").getD .null).display ++ "\"."
          else "No messages found.") := rfl
    refine ⟨_, hreport, ?_⟩
    split
    · exact .append (.append ⟨_, rfl⟩ _) _
    · exact ⟨_, rfl⟩
  | threads => exact ⟨_, rfl, _, rfl⟩

/-- A report on a list with items begins with a heading. -/
theorem beginsWith_report_result (hne : items ≠ [])
    (h : list.tool.report (list.result args items next) = .ok text) : BeginsWith "#" text := by
  have htruthy : (Json.arr items).isTruthy = true := by simpa [isTruthy] using hne
  have hfind (name : String) (rest : Members) : Members.find? name ((name, .arr items) :: rest) =
      some (.arr items) := by simp [Members.find?]
  cases list with
  | messages =>
    change messageList (.obj (("messages", .arr items) :: _)) = _ at h
    simp only [messageList, lookup_obj, hfind, Option.getD_some, ok_bind, htruthy, Bool.not_true,
      Bool.false_eq_true, if_false, bind_eq_ok] at h
    obtain ⟨count, -, more, -, shown, -, summaries, -, hint, -, h⟩ := h
    cases h
    exact .unlines ⟨_, rfl⟩ _
  | threads =>
    change threadList (.obj (("threads", .arr items) :: _)) = _ at h
    simp only [threadList, lookup_obj, hfind, Option.getD_some, ok_bind, htruthy, Bool.not_true,
      Bool.false_eq_true, if_false, bind_eq_ok] at h
    obtain ⟨count, -, more, -, shown, -, summaries, -, hint, -, h⟩ := h
    cases h
    exact .unlines ⟨_, rfl⟩ _

end

/-! ## The answer to a call -/

section

variable {list : MailList} {args : Members} {s : Session} {entries : List Json}

/-- Nothing is shown of a list exactly if each request for details failed. -/
theorem fetched_eq_nil_iff : fetched (entries.zip (list.outcomes args s entries)) = [] ↔
    ∀ outcome ∈ list.outcomes args s entries, ∃ fault, outcome = .error fault := by
  have hsecond : (entries.zip (list.outcomes args s entries)).map Prod.snd = list.outcomes args s entries :=
    List.map_snd_zip (Nat.le_of_eq length_outcomes)
  rw [fetched, List.filterMap_eq_nil_iff, ← hsecond, List.forall_mem_map, hsecond]
  refine forall₂_congr fun pair _ => ?_
  obtain ⟨entry, outcome⟩ := pair
  cases outcome <;> simp [Except.toOption]

/-- The answer with a result: its report, cut, or the text on what the report cannot show. -/
theorem answerText_report (hformat : responseFormat args ≠ .str "json") (tool : Tool) (result : Json) :
    answerText tool.name args (.ok result) =
      match tool.report result with
      | .ok text => .ok (truncate text)
      | .error fault => (Fault.shape fault).describe := by
  rw [answerText, renderResult_of_report hformat]
  cases tool.report result <;> rfl

/-- The answer with a result says that there are none exactly if the result has no items. -/
theorem answerText_result_iff (hformat : responseFormat args ≠ .str "json") (items : List Json) (next : Json) :
    (∃ text, answerText list.tool.name args (.ok (list.result args items next)) = .ok text ∧
      list.SaysNone text) ↔ items = [] := by
  rw [answerText_report hformat]
  constructor
  · rintro ⟨text, htext, hnone⟩
    by_contra hne
    cases hreport : list.tool.report (list.result args items next) with
    | error fault =>
      rw [hreport] at htext
      exact not_saysNone_describe htext hnone
    | ok report =>
      rw [hreport] at htext
      cases htext
      have hbegins := (beginsWith_report_result hne hreport).truncate (by decide)
      exact not_saysNone hbegins (by decide) (by decide) hnone
  · rintro rfl
    obtain ⟨report, hreport, hnone⟩ := report_result_nil list args next
    rw [hreport]
    refine ⟨_, rfl, BeginsWith.truncate hnone ?_⟩
    cases list <;> decide

/-- **When a list is said to be empty.** Of whatever is played back, and for all arguments that do not ask for the
whole result: the answer says that there are none exactly if the service named the entries and the request for
the details of each of them failed. So the answer says so too if it named some. -/
theorem saysNone_iff (hformat : responseFormat args ≠ .str "json") :
    (∃ text, (s.call list.tool.name args).1 = .ok text ∧ list.SaysNone text) ↔
      ∃ response entries, (s.send (list.request args)).1 = .ok response ∧ list.Lists response entries ∧
        ∀ outcome ∈ list.outcomes args s entries, ∃ fault, outcome = .error fault := by
  rw [Tool.fst_call, Tool.dispatch_name, program_eq]
  constructor
  · rintro ⟨text, htext, hnone⟩
    cases hrun : ((list.program args).run s).1 with
    | error fault =>
      rw [hrun] at htext
      exact absurd hnone (not_saysNone_describe htext)
    | ok result =>
      obtain ⟨response, entries, hresponse, hlists⟩ := exists_lists_of_run hrun
      refine ⟨response, entries, hresponse, hlists, fetched_eq_nil_iff.1 ?_⟩
      rw [hrun] at htext
      rw [fst_run_program hresponse hlists] at hrun
      obtain ⟨items, hitems, rfl⟩ := map_eq_ok.1 hrun
      have hlength := length_of_mapM (mapError_eq_ok.1 hitems)
      rw [(answerText_result_iff hformat items _).1 ⟨text, htext, hnone⟩] at hlength
      exact List.length_eq_zero_iff.1 hlength.symm
  · rintro ⟨response, entries, hresponse, hlists, hfail⟩
    rw [fst_run_program hresponse hlists, fetched_eq_nil_iff.2 hfail]
    exact (answerText_result_iff hformat [] _).2 rfl

end

/-- The entry of a message. -/
def limitedEntry : Json := .obj [("id", .str "m1"), ("threadId", .str "t1")]

/-- The message is listed, and its details are refused because of too many requests. -/
def limitedReplies : List Reply :=
  [.answer 200 (.ok (.obj [("messages", .arr [limitedEntry])])), .answer 429 (.ok (.obj []))]

/-- The answer says that there are none. -/
theorem saysNone_iff_limited :
    let s := Tool.sessionWith limitedReplies
    (∃ response, (s.send (MailList.messages.request [])).1 = .ok response ∧
      MailList.messages.Lists response [limitedEntry]) ∧
    (∃ text, (s.call MailList.messages.tool.name []).1 = .ok text ∧ MailList.messages.SaysNone text) ∧
    (s.call MailList.messages.tool.name []).1 = .ok "No messages found." := by
  intro s
  have hresponse : (s.send (MailList.messages.request [])).1 =
      .ok (.obj [("messages", .arr [limitedEntry])]) := Tool.fst_send_sessionWith _ _
  have hlists : MailList.messages.Lists (.obj [("messages", .arr [limitedEntry])]) [limitedEntry] :=
    ⟨_, rfl, rfl, by simp [limitedEntry, member?, Members.find?]⟩
  obtain ⟨token, htoken⟩ := Tool.isAuthorized_sessionWith limitedReplies
  have houtcomes : MailList.messages.outcomes [] s [limitedEntry] =
      [.error (.refused 429 (.ok (.obj [])))] := (outcomes_of_authorized htoken).trans rfl
  have hfail : ∀ outcome ∈ MailList.messages.outcomes [] s [limitedEntry], ∃ fault, outcome = .error fault := by
    rw [houtcomes]
    simp
  have hformat : responseFormat [] ≠ .str "json" := by simp [responseFormat]
  refine ⟨⟨_, hresponse, hlists⟩, (saysNone_iff hformat).2 ⟨_, _, hresponse, hlists, hfail⟩, ?_⟩
  rw [Tool.fst_call, Tool.dispatch_name, program_eq, fst_run_program hresponse hlists, houtcomes]
  rfl

end MailList

end WorkspaceTools
