import WorkspaceTools.Proofs.Consent.Redirect
import WorkspaceTools.Proofs.Token.Selection
import WorkspaceTools.Proofs.Web.Address

/-!
# The page in the browser and the stored token

What the user is shown, what is exchanged, and what is stored come of one redirect, and agree.

* `Consent.IsGranting` says of a redirect, by the fields of its query alone, that it grants. Exactly then it
  brings a code (`Consent.exists_bringsCode_iff`), and that is not empty (`Consent.BringsCode.ne_empty`).
* `Consent.Agrees` says that the page of success is shown exactly for a redirect that grants, and that its
  code alone is exchanged, once; otherwise nothing is exchanged, and the fault is one of two.
* `TokenFolder.Keeps` says that a folder is as it was unless a token comes out. Then that token is retrieved,
  and the records of other services are as they were.
* `TokenFolder.authorizeAs_spec`: both hold of every authorization.
-/

namespace WorkspaceTools

namespace Consent

open Text

/-! ## Redirects that grant -/

/-- A redirect with the given target comes to the callback path; its query has a code that is not blank, and
no error that is not blank. -/
def IsGranting (path target : String) : Prop :=
  ∃ address, Address.read? target = .ok address ∧ address.path = path.toList ∧
    HasField "code" address.query ∧ ¬ HasField "error" address.query

theorem exists_bringsCode_iff {path target : String} :
    (∃ code, BringsCode path target code) ↔ IsGranting path target := by
  constructor
  · rintro ⟨code, address, hread, hpath, herror, hcode⟩
    refine ⟨address, hread, hpath, ?_, ?_⟩
    · rw [← isSome_queryValue?_iff, hcode]
      rfl
    · rw [← isSome_queryValue?_iff, herror]
      simp
  · rintro ⟨address, hread, hpath, hcode, herror⟩
    rw [← isSome_queryValue?_iff] at hcode herror
    obtain ⟨code, hcode⟩ := Option.isSome_iff_exists.1 hcode
    exact ⟨code, address, hread, hpath, Option.not_isSome_iff_eq_none.1 herror, hcode⟩

/-- A code that is brought is not empty. -/
theorem BringsCode.ne_empty {path target code : String} (h : BringsCode path target code) : code ≠ "" := by
  obtain ⟨address, -, -, -, hcode⟩ := h
  exact ne_empty_of_queryValue? hcode

/-- An error that is brought is not empty. -/
theorem ne_empty_of_notice?_refused {path target error : String}
    (h : Callback.notice? path target = .ok (some (.refused error))) : error ≠ "" := by
  unfold Callback.notice? at h
  obtain ⟨address, -, hnotice⟩ := bind_eq_ok.1 h
  split at hnotice
  · have hquery : Notice.ofQuery (queryFields address.query) = .refused error :=
      Option.some.inj (Except.ok.inj hnotice)
    unfold Notice.ofQuery at hquery
    split at hquery
    · rename_i text htext
      cases hquery
      exact ne_empty_of_queryValue? htext
    · split at hquery <;> cases hquery
  · cases hnotice

/-! ## Pages -/

/-- The page that a step shows. -/
def Step.page? : Step → Option Page
  | .replied page => some page
  | _ => none

/-- The pages that are shown in a course, in order. -/
def Course.pages {α : Type} (c : Course α) : List Page := c.steps.filterMap Step.page?

theorem Course.pages_after {α : Type} (steps : List Step) (c : Course α) :
    (c.after steps).pages = steps.filterMap Step.page? ++ c.pages := by
  rw [Course.pages, Course.after, List.filterMap_append, Course.pages]

theorem pages_replied (pages : List Page) :
    (pages.map Step.replied ++ [Step.closed]).filterMap Step.page? = pages := by
  induction pages with
  | nil => rfl
  | cons page pages ih =>
    rw [List.map_cons, List.cons_append, List.filterMap_cons]
    exact congrArg (page :: ·) ih

theorem pages_settle (s : Surroundings) (notice : Notice) : (settle s notice).pages = [] := by
  cases notice <;> rfl

/-- The page that answers what a redirect says, if it says anything. -/
def pageOf (notice : Option Notice) : Page := notice.elim .notFound Notice.page

theorem status_pageOf_eq_200_iff {notice : Option Notice} :
    (pageOf notice).status = 200 ↔ ∃ code, notice = some (.granted code) := by
  cases notice with
  | none => simp [pageOf, Page.notFound]
  | some notice =>
    rw [pageOf, Option.elim_some, Notice.page_status_eq_200_iff]
    simp

variable {l : Listener} {s : Surroundings}

theorem Listener.pages_await_of_none (h : s.arrival = none) : (l.await s).pages = [] := by
  unfold Listener.await
  simp only [Listener.serve, h]
  rw [Course.pages_after, pages_replied, pages_settle]
  rfl

/-- A request is answered with one page. -/
theorem Listener.pages_await {target : String} {notice : Option Notice} (h : s.arrival = some target)
    (hnotice : Callback.notice? l.path target = .ok notice) : (l.await s).pages = [pageOf notice] := by
  unfold Listener.await
  simp only [Listener.serve, Callback.receive, h, hnotice, ok_bind]
  cases notice <;>
  · simp only [pure_eq_ok]
    rw [Course.pages_after, pages_replied, pages_settle]
    rfl

theorem ConsentRequest.pages_run {r : ConsentRequest} (h : Listener.of? r.callbackAddress = .ok l)
    (s : Surroundings) : (r.run s).pages = (l.await s).pages := by
  unfold ConsentRequest.run
  rw [h, Course.pages_after]
  exact Course.pages_after _ _

theorem ConsentRequest.pages_run_of_noListener {r : ConsentRequest} {e : AddressError}
    (h : Listener.of? r.callbackAddress = .error e) (s : Surroundings) : (r.run s).pages = [] := by
  unfold ConsentRequest.run
  rw [h, Course.pages_after]
  rfl

/-! ## What is shown and what is exchanged -/

/-- The pages that are shown, the codes that are exchanged and the faults agree on the redirect. -/
structure Agrees {α : Type} (l : Listener) (s : Surroundings) (course : Course α) : Prop where
  /-- A request is answered with one page, and that is the one of success exactly for a redirect that
  grants. -/
  answered : ∀ target, s.arrival = some target →
    ∃ page, course.pages = [page] ∧ (page.status = 200 ↔ IsGranting l.path target)
  unanswered : s.arrival = none → course.pages = []
  exchanged : ∀ target, s.arrival = some target → IsGranting l.path target →
    ∃ code, BringsCode l.path target code ∧ code ≠ "" ∧ course.codes = [code] ∧
      ∀ text, s.exchange code = .error text → course.outcome = .error (.exchange text)
  codeless : (∀ target, s.arrival = some target → ¬ IsGranting l.path target) →
    course.codes = [] ∧ (course.outcome = .error .noCode ∨
      ∃ error, error ≠ "" ∧ course.outcome = .error (.refused error))

theorem notice?_eq_ok (path : String) {target : String} {address : Address}
    (h : Address.read? target = .ok address) : ∃ notice, Callback.notice? path target = .ok notice := by
  unfold Callback.notice?
  rw [h, ok_bind]
  split
  · exact ⟨_, rfl⟩
  · exact ⟨_, rfl⟩

/-- The page of success answers a redirect that grants, and no other one. -/
theorem status_pageOf_notice?_iff {path target : String} {notice : Option Notice}
    (h : Callback.notice? path target = .ok notice) :
    (pageOf notice).status = 200 ↔ IsGranting path target := by
  rw [status_pageOf_eq_200_iff, ← exists_bringsCode_iff]
  refine exists_congr fun code => ?_
  rw [← Callback.notice?_eq_granted_iff, h, Except.ok.injEq]

theorem codelessFault_of_notice? {path target : String} {notice : Option Notice}
    (h : Callback.notice? path target = .ok notice) (handsOn : Bool) :
    codelessFault handsOn (.ok notice) = .noCode ∨
      ∃ error, error ≠ "" ∧ codelessFault handsOn (.ok notice) = .refused error := by
  cases notice with
  | none => exact .inl rfl
  | some notice =>
    cases notice with
    | refused error => exact .inr ⟨error, ne_empty_of_notice?_refused h, rfl⟩
    | granted code => exact .inl rfl
    | silent => exact .inl rfl

/-- **The waiting for a redirect**, if its target is an address. -/
theorem Listener.agrees_await (l : Listener) (s : Surroundings)
    (hreads : ∀ target, s.arrival = some target → ∃ address, Address.read? target = .ok address) :
    Agrees l s (l.await s) where
  answered target harrival := by
    obtain ⟨address, hread⟩ := hreads target harrival
    obtain ⟨notice, hnotice⟩ := notice?_eq_ok l.path hread
    exact ⟨pageOf notice, Listener.pages_await harrival hnotice, status_pageOf_notice?_iff hnotice⟩
  unanswered := Listener.pages_await_of_none
  exchanged target harrival hgranting := by
    obtain ⟨code, hcode⟩ := exists_bringsCode_iff.2 hgranting
    have harrived := l.arrived s
    generalize (l.await s).codes = codes, (l.await s).outcome = outcome at harrived ⊢
    cases harrived with
    | nothing h => cases harrival.symm.trans h
    | codeless target' h hnone =>
      cases harrival.symm.trans h
      exact absurd hcode (hnone code)
    | granted target' code' h hcode' =>
      cases harrival.symm.trans h
      cases hcode.unique hcode'
      refine ⟨code, hcode, hcode.ne_empty, rfl, fun text htext => ?_⟩
      rw [htext, mapError_error]
  codeless hnone := by
    have harrived := l.arrived s
    generalize (l.await s).codes = codes, (l.await s).outcome = outcome at harrived ⊢
    cases harrived with
    | nothing h => exact ⟨rfl, .inl rfl⟩
    | codeless target h hcode =>
      obtain ⟨address, hread⟩ := hreads target h
      obtain ⟨notice, hnotice⟩ := notice?_eq_ok l.path hread
      refine ⟨rfl, ?_⟩
      rw [hnotice]
      rcases codelessFault_of_notice? hnotice s.handsOnFaults with hfault | ⟨error, herror, hfault⟩
      · exact .inl (congrArg Except.error hfault)
      · exact .inr ⟨error, herror, congrArg Except.error hfault⟩
    | granted target code h hcode => exact absurd (exists_bringsCode_iff.1 ⟨code, hcode⟩) (hnone target h)

/-- Another course with the same pages, codes and faults. -/
theorem Agrees.congr {α β : Type} {course : Course α} {other : Course β} (h : Agrees l s course)
    (hpages : other.pages = course.pages) (hcodes : other.codes = course.codes)
    (hfault : ∀ fault, course.outcome = .error fault → other.outcome = .error fault) :
    Agrees l s other where
  answered target harrival := by
    rw [hpages]
    exact h.answered target harrival
  unanswered hnone := hpages.trans (h.unanswered hnone)
  exchanged target harrival hgranting := by
    obtain ⟨code, hcode, hne, hexchanged, hrefused⟩ := h.exchanged target harrival hgranting
    exact ⟨code, hcode, hne, hcodes.trans hexchanged, fun text htext => hfault _ (hrefused text htext)⟩
  codeless hnone := by
    obtain ⟨hnocodes, hfaults⟩ := h.codeless hnone
    refine ⟨hcodes.trans hnocodes, ?_⟩
    rcases hfaults with hfaults | ⟨error, herror, hfaults⟩
    · exact .inl (hfault _ hfaults)
    · exact .inr ⟨error, herror, hfault _ hfaults⟩

theorem ConsentRequest.agrees_run {r : ConsentRequest} (h : Listener.of? r.callbackAddress = .ok l)
    (hreads : ∀ target, s.arrival = some target → ∃ address, Address.read? target = .ok address) :
    Agrees l s (r.run s) := by
  obtain ⟨hcodes, houtcome⟩ := run_of_listener h s
  refine (l.agrees_await s hreads).congr (pages_run h s) hcodes fun fault hfault => ?_
  rw [houtcome, hfault]

end Consent

/-! ## What is stored -/

namespace TokenFolder

open Consent Json Time

/-- The folder is as it was unless a token comes out. Then the file has a record of that token, which is
retrieved at every later time, and the records of other services are as they were. -/
structure Keeps (folder : TokenFolder) (outcome : Except ConsentFault Token) (after : TokenFolder) :
    Prop where
  unchanged : (∀ token, outcome ≠ .ok token) → after = folder
  stored : ∀ token, outcome = .ok token →
    ∃ record, record.token = token ∧ ∀ later, after.retrieve serviceName later = .ok (some record)
  others : ∀ token, outcome = .ok token →
    ∃ ms ms', folder.records = .ok ms ∧ after.records = .ok ms' ∧
      ∀ service : WideText, service ≠ serviceName → ms'.find? service = ms.find? service

variable {folder after : TokenFolder} {grant : Grant} {scopes : Json} {now : DateTime} {token : Token}

/-- The call that stores a token which was made at the given time. -/
def storeNew (token : Token) (createdAt : DateTime) : StoreCall :=
  ⟨serviceName, token, { serviceName, createdAt }⟩

/-- A token that is stored: it comes of the grant, and its record is set among those of the file. -/
theorem accept_eq_ok (h : folder.accept grant scopes now = .ok (token, after)) :
    ∃ u ms, grant.toToken now scopes = .ok token ∧ now.toUtc? = some u ∧ folder.records = .ok ms ∧
      after = folder.save (ms.set serviceName (storeNew token u).document) := by
  unfold accept at h
  obtain ⟨made, hmade, h⟩ := bind_eq_ok.1 h
  cases hnow : now.toUtc? with
  | none =>
    rw [hnow] at h
    cases h
  | some u =>
    simp only [hnow, ok_bind] at h
    obtain ⟨saved, hsaved, h⟩ := bind_eq_ok.1 h
    cases h
    obtain ⟨ms, hrecords, hsave⟩ := bind_eq_ok.1 (mapError_eq_ok.1 hsaved)
    cases hsave
    exact ⟨u, ms, mapError_eq_ok.1 hmade, rfl, hrecords, rfl⟩

/-- **A folder that takes a grant** has its token from then on. -/
theorem keeps_accept (hnow : now.IsClock) (hexpiry : ∀ t, grant.expiry = some t → t.IsWritable)
    (h : folder.accept grant scopes now = .ok (token, after)) : folder.Keeps (.ok token) after := by
  obtain ⟨u, ms, htoken, hu, hrecords, rfl⟩ := accept_eq_ok h
  have hread := isReadable_of_records hrecords
  have hwritable : (storeNew token u).IsWritable :=
    ⟨Grant.isWritable_of_toToken hnow htoken hexpiry,
      (DateTime.ofInstant?_eq_some hu).2.2, by rintro t ⟨⟩⟩
  have hsaved : (folder.save (ms.set serviceName (storeNew token u).document)).Holds
      (ms.set serviceName (storeNew token u).document) :=
    holds_save (isReadable_set_document hread (storeNew token u))
  have hretrieve := retrieve_save_set hread hwritable
  constructor
  · intro hnone
    exact absurd rfl (hnone token)
  · rintro _ ⟨rfl⟩
    exact ⟨(storeNew token u).record, rfl, hretrieve⟩
  · rintro _ ⟨rfl⟩
    exact ⟨ms, _, hrecords, hsaved.records, fun service hne => Members.find?_set_of_ne _ _ hne.symm⟩

theorem Keeps.of_error (fault : ConsentFault) : folder.Keeps (.error fault) folder where
  unchanged _ := rfl
  stored := by rintro token ⟨⟩
  others := by rintro token ⟨⟩

variable {request : ConsentRequest} {s : Surroundings}

theorem keeps_authorize (hnow : now.IsClock)
    (hexpiry : ∀ code grant t, s.exchange code = .ok grant → grant.expiry = some t → t.IsWritable) :
    folder.Keeps (folder.authorize request s now).1.outcome (folder.authorize request s now).2 := by
  cases hresult : (request.run s).outcome.bind fun grant => folder.accept grant request.scopes now with
  | error fault =>
    obtain ⟨houtcome, hafter⟩ := authorize_of_error request s now folder hresult
    rw [houtcome, hafter]
    exact .of_error fault
  | ok result =>
    obtain ⟨token, after⟩ := result
    obtain ⟨houtcome, hafter⟩ := authorize_of_ok request s now folder hresult
    obtain ⟨code, grant, -, hgrant, haccept⟩ := (outcome_run_bind_iff request s now folder).1 hresult
    rw [houtcome, hafter]
    exact keeps_accept hnow (fun t => hexpiry code grant t hgrant) haccept

theorem agrees_authorize {l : Listener} (h : Listener.of? request.callbackAddress = .ok l)
    (hreads : ∀ target, s.arrival = some target → ∃ address, Address.read? target = .ok address) :
    Agrees l s (folder.authorize request s now).1 := by
  have hsteps := steps_authorize request s now folder
  refine (ConsentRequest.agrees_run h hreads).congr ?_ ?_ fun fault hfault => ?_
  · rw [Course.pages, hsteps, Course.pages]
  · rw [Course.codes, hsteps, Course.codes]
  · refine (authorize_of_error request s now folder ?_).1
    rw [hfault]
    rfl

theorem authorize_of_noListener {e : AddressError}
    (h : Listener.of? request.callbackAddress = .error e) :
    (folder.authorize request s now).1.outcome = .error (.address e) ∧
      (folder.authorize request s now).1.codes = [] ∧ (folder.authorize request s now).1.pages = [] := by
  have hsteps := steps_authorize request s now folder
  obtain ⟨hcodes, houtcome⟩ := ConsentRequest.run_of_noListener h s
  refine ⟨(authorize_of_error request s now folder ?_).1, ?_, ?_⟩
  · rw [houtcome]
    rfl
  · rw [Course.codes, hsteps]
    exact hcodes
  · rw [Course.pages, hsteps]
    exact ConsentRequest.pages_run_of_noListener h s

/-- **Every authorization**, whatever the file holds and whether or not a redirect arrives, for every answer
of the service that keeps the accounts. Without a client nothing is done. With one, what is shown to the
user and what is exchanged agree on the redirect: the page of success is shown, and the code exchanged once,
exactly if the redirect comes to the callback path with a code that is not blank and no error that is not
blank. The file changes only if a token comes out, and then that token is retrieved from it. -/
theorem authorizeAs_spec (id secret : Option String) (scopes : Json) (callbackAddress state : String)
    {now : DateTime} {course : Course Token}
    (h : folder.authorizeAs (Client.of? id secret) scopes callbackAddress state s now = (course, after))
    (hnow : now.IsClock)
    (hreads : ∀ target, s.arrival = some target → ∃ address, Address.read? target = .ok address)
    (hexpiry : ∀ code grant t, s.exchange code = .ok grant → grant.expiry = some t → t.IsWritable) :
    folder.Keeps course.outcome after ∧
      (Client.of? id secret = none → course.outcome = .error .noClient ∧ course.steps = []) ∧
      ∀ client, Client.of? id secret = some client →
        (∀ e, Listener.of? callbackAddress = .error e →
          course.outcome = .error (.address e) ∧ course.codes = [] ∧ course.pages = []) ∧
        ∀ l, Listener.of? callbackAddress = .ok l → Agrees l s course := by
  cases hclient : Client.of? id secret with
  | none =>
    rw [hclient] at h
    cases h
    refine ⟨.of_error _, fun _ => ⟨rfl, rfl⟩, ?_⟩
    rintro client ⟨⟩
  | some client =>
    rw [hclient, authorizeAs] at h
    obtain ⟨rfl, rfl⟩ := Prod.mk.inj h
    refine ⟨keeps_authorize hnow hexpiry, ?_, ?_⟩
    · rintro ⟨⟩
    · rintro _ ⟨rfl⟩
      exact ⟨fun e he => authorize_of_noListener he, fun l hl => agrees_authorize hl hreads⟩

/-! ### Blank fields and an escaped code -/

/-- A redirect with an error and a code that are blank, and a code after them. -/
def redirectWithBlanks : String := "/callback?error=&code=&code=a%2Bb&state=x"

/-- A folder with notes in its file, and no record. -/
def folderWithNotes : TokenFolder := save [("notes", .str "kept")] {}

theorem read?_redirectWithBlanks :
    Address.read? redirectWithBlanks =
      .ok ⟨[], [], "/callback".toList, [], "error=&code=&code=a%2Bb&state=x".toList, []⟩ := by
  decide +kernel

theorem bringsCode_redirectWithBlanks : BringsCode usualPath redirectWithBlanks "a+b" := by
  refine ⟨_, read?_redirectWithBlanks, ?_, ?_, ?_⟩ <;> decide +kernel

theorem holds_folderWithNotes : folderWithNotes.Holds [("notes", .str "kept")] :=
  holds_save ⟨by decide, by simp [Members.names], trivial, trivial⟩

theorem clientOf?_given : Client.of? (some "id") (some "secret") = some ⟨"id", "secret"⟩ := by decide

theorem authorizeAs_given (state : String) (s : Surroundings) (now : DateTime) (folder : TokenFolder) :
    folder.authorizeAs (Client.of? (some "id") (some "secret")) (.arr []) usualCallbackAddress state s now =
      ((folder.authorize (requestWith state) s now).1, (folder.authorize (requestWith state) s now).2) := by
  rw [clientOf?_given]
  rfl

/-- The blank error and the blank code do not count, and the code is exchanged without its escape. The notes
are still there when the token is. -/
theorem authorizeAs_spec_blanks :
    (dayOf2030 2).IsClock ∧ ∃ course after,
      folderWithNotes.authorizeAs (Client.of? (some "id") (some "secret")) (.arr []) usualCallbackAddress "state"
        (arriving redirectWithBlanks) (dayOf2030 2) = (course, after) ∧
      course.codes = ["a+b"] ∧ (∃ page, course.pages = [page] ∧ page.status = 200) ∧
      ∃ token record ms, course.outcome = .ok token ∧ token.accessToken = "access" ∧
        after.retrieve serviceName (dayOf2030 3) = .ok (some record) ∧ record.token = token ∧
        after.records = .ok ms ∧ ms.find? ↑"notes" = some (.str "kept") := by
  have hlistener := listener_requestWith "state"
  have hbrings := bringsCode_redirectWithBlanks
  obtain ⟨t, ht, -⟩ := Grant.expiresAt?_eq_some isClock_dayOf2030
    ⟨.str "access", Json.ofText? none, none⟩ (by rintro t ⟨⟩) (.inr (by decide))
  obtain ⟨stored, -, haccept, -⟩ :=
    accept_of_toToken holds_folderWithNotes isClock_dayOf2030 (Grant.toToken_texts ht [])
  have hresult := (outcome_run_bind_iff (requestWith "state") (arriving redirectWithBlanks) (dayOf2030 2)
    folderWithNotes).2 ⟨"a+b", _, ⟨_, _, hlistener, rfl, hbrings⟩, rfl, haccept⟩
  obtain ⟨houtcome, -⟩ := authorize_of_ok (requestWith "state") (arriving redirectWithBlanks) (dayOf2030 2)
    folderWithNotes hresult
  have hcourse := authorizeAs_given "state" (arriving redirectWithBlanks) (dayOf2030 2) folderWithNotes
  have hreads : ∀ target, (arriving redirectWithBlanks).arrival = some target →
      ∃ address, Address.read? target = .ok address := by
    rintro _ ⟨rfl⟩
    exact ⟨_, read?_redirectWithBlanks⟩
  have hexpiry : ∀ code grant t, (arriving redirectWithBlanks).exchange code = .ok grant →
      grant.expiry = some t → t.IsWritable := by
    rintro code _ t ⟨rfl⟩ ⟨⟩
  obtain ⟨hkeeps, -, hagrees⟩ := authorizeAs_spec (some "id") (some "secret") (.arr []) usualCallbackAddress
    "state" hcourse isClock_dayOf2030 hreads hexpiry
  have hagrees := (hagrees _ clientOf?_given).2 _ hlistener
  have hgranting := exists_bringsCode_iff.1 ⟨_, hbrings⟩
  obtain ⟨code, hcode, -, hcodes, -⟩ := hagrees.exchanged redirectWithBlanks rfl hgranting
  obtain ⟨page, hpages, hstatus⟩ := hagrees.answered redirectWithBlanks rfl
  obtain ⟨record, hrecord, hretrieve⟩ := hkeeps.stored _ houtcome
  obtain ⟨ms, ms', hms, hms', hothers⟩ := hkeeps.others _ houtcome
  cases holds_folderWithNotes.records.symm.trans hms
  refine ⟨isClock_dayOf2030, _, _, hcourse, ?_, ⟨page, hpages, hstatus.2 hgranting⟩, _, record, ms', houtcome,
    rfl, hretrieve _, hrecord, hms', hothers "notes" (by decide)⟩
  rw [hcodes, hcode.unique hbrings]

end TokenFolder

end WorkspaceTools
