import WorkspaceTools.Proofs.Report.Paging
import WorkspaceTools.Tool.Call

/-!
# Pages that tools list

What a tool that lists something hands over to its report.

* `Program.Returns P`: every value of a program has the property, whatever the program is told. So has the
  value of each run (`Program.Returns.run`).
* The items of a list are in a list of their own, also where the details of some could not be had
  (`Tool.returns_program`). Threads are summed up in such a way that each can be shown.
* `Tool.isPage_of_run`: the result of a run that names the token of a next page is a page with a hint, if there
  are any items.
-/

namespace WorkspaceTools

open Json Report

variable {α β : Type}

namespace Program

/-- Every value of a program has a property, whatever the program is told. -/
def Returns (P : α → Prop) : Program α → Prop
  | .done a => P a
  | .fail _ => True
  | .send _ next => ∀ x, (next x).Returns P
  | .save _ _ _ next => ∀ path, (next path).Returns P
  | .clock next => ∀ t, (next t).Returns P

namespace Returns

variable {P : β → Prop}

/-- The values of a sequence are those of its last step. -/
theorem bind {p : Program α} {f : α → Program β} (hf : ∀ a, (f a).Returns P) : (p >>= f).Returns P := by
  change (p.bind f).Returns P
  induction p with
  | done a => exact hf a
  | fail e => exact trivial
  | send r next ih => exact fun x => ih x
  | save start ending content next ih => exact fun path => ih path
  | clock next ih => exact fun t => ih t

/-- A step on documents, and what follows its result. -/
theorem shaped {x : Shaped α} {f : α → Program β} (hf : ∀ a, x = .ok a → (f a).Returns P) :
    ((liftM x : Program α) >>= f).Returns P := by
  cases x with
  | ok a => exact hf a rfl
  | error e => exact trivial

theorem mono {Q : β → Prop} {p : Program β} (hp : p.Returns P) (h : ∀ b, P b → Q b) : p.Returns Q := by
  induction p with
  | done a => exact h a hp
  | fail e => exact trivial
  | send r next ih => exact fun x => ih x (hp x)
  | save start ending content next ih => exact fun path => ih path (hp path)
  | clock next ih => exact fun t => ih t (hp t)

/-- **The value of a run** has the property. -/
theorem run {p : Program β} (h : p.Returns P) {s : Session} {b : β} (hrun : (p.run s).1 = .ok b) : P b := by
  induction p generalizing s with
  | done a =>
    cases hrun
    exact h
  | fail e => cases hrun
  | send r next ih =>
    rw [Program.run] at hrun
    exact ih _ (h _) hrun
  | save start ending content next ih =>
    rw [Program.run] at hrun
    split at hrun
    · exact ih _ (h _) hrun
    · cases hrun
  | clock next ih => exact ih _ (h _) hrun

end Returns

end Program

open Program

namespace Tool

/-- A tool is found by its name. -/
theorem dispatch_name (tool : Tool) (args : Members) : dispatch tool.name args = tool.program args := by
  rw [dispatch, ofName?_name]

/-- The summary of a thread can be shown. -/
theorem isListedThread_of_threadSummary {entry detail item : Json} (h : threadSummary entry detail = .ok item) :
    IsListedThread item := by
  unfold threadSummary at h
  simp only [bind_eq_ok] at h
  obtain ⟨messages, -, first, -, firstHeaders, -, last, -, lastHeaders, -, id, -, subject, -, sender, -, date, -,
    snippet, -, shown, -, count, -, h⟩ := h
  cases h
  exact ⟨_, rfl, by simp [Members.find?]⟩

theorem isListedThread_of_summaries {entries : List (Json × Except Fault Json)} {items : List Json}
    (h : summaries threadSummary entries = .ok items) : ∀ item ∈ items, IsListedThread item := by
  induction entries generalizing items with
  | nil =>
    cases h
    simp
  | cons entry rest ih =>
    obtain ⟨entry, detail⟩ := entry
    cases detail with
    | error fault => exact ih h
    | ok detail =>
      obtain ⟨first, hfirst, h⟩ := bind_eq_ok.1 h
      obtain ⟨others, hothers, h⟩ := bind_eq_ok.1 h
      cases h
      exact List.forall_mem_cons.2 ⟨isListedThread_of_threadSummary hfirst, ih hothers⟩

/-- **Threads can always be shown**: they are summed up with all that the list shows of them. -/
theorem returns_runListThreads (args : Json) : (runListThreads args).Returns fun result =>
    ∃ items, result.member? "threads" = some (.arr items) ∧ ∀ item ∈ items, IsListedThread item := by
  iterate 4 refine .bind fun _ => ?_
  refine .shaped fun threads hthreads => .bind fun next => ?_
  exact ⟨threads, rfl, isListedThread_of_summaries hthreads⟩

/-- **A tool that lists something** hands its items over in a list. -/
theorem returns_program {tool : Tool} {page : PagedList} (hpage : tool.pages? = some page) (args : Members) :
    (tool.program args).Returns fun result => ∃ items, result.member? page.noun = some (.arr items) := by
  cases tool with
  | listMessages =>
    cases hpage
    change (runListMessages _).Returns _
    iterate 7 refine .bind fun _ => ?_
    exact ⟨_, rfl⟩
  | listThreads =>
    cases hpage
    exact (returns_runListThreads _).mono fun _ h => h.imp fun _ hitems => hitems.1
  | listEvents =>
    cases hpage
    change (runListEvents _).Returns _
    iterate 9 refine .bind fun _ => ?_
    exact ⟨_, rfl⟩
  | _ => cases hpage

/-- **The pages of a list**: a run that names the token of a next page and has items gives a page. -/
theorem isPage_of_run {tool : Tool} {page : PagedList} (hpage : tool.pages? = some page) {args : Members}
    {s : Session} {result : Json} {token : String} (hrun : ((tool.program args).run s).1 = .ok result)
    (hnames : result.member? "next_page_token" = some (.str token)) (htoken : token ≠ "") :
    ∃ items, result.member? page.noun = some (.arr items) ∧
      (items ≠ [] → IsPage page result items token) := by
  obtain ⟨items, hitems⟩ := (returns_program hpage args).run hrun
  refine ⟨items, hitems, ?_⟩
  intro hne
  exact ⟨hitems, hne, hnames, htoken⟩

end Tool

end WorkspaceTools
