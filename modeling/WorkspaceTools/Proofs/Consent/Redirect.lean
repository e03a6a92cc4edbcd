import WorkspaceTools.Consent.Flow
import WorkspaceTools.Proofs.Token.Renewal

/-!
# Redirects and the codes that they bring

Which code a request for consent exchanges, and what is stored.

* `Consent.BringsCode` says that a redirect brings a code: it comes to the callback path, and its query has
  the code and no error. `Callback.notice?_eq_granted_iff` reads this off the redirect.
* `Consent.Arrived` collects how the waiting for a redirect comes out (`Listener.arrived`). In the course of a
  request a code is exchanged exactly if a redirect brought it (`ConsentRequest.codes_run`).
* `TokenFolder.authorize_iff_receives`: a token is stored only for such a code. The text that only this request
  has goes out to the page, but no redirect needs to bring it back.
-/

namespace WorkspaceTools

namespace Consent

open Text

/-! ## What a redirect brings -/

/-- A redirect with the given target comes to the callback path, and its query has a code and no error. -/
def BringsCode (path target code : String) : Prop :=
  ∃ address, Address.read? target = .ok address ∧ address.path = path.toList ∧
    queryValue? "error" (queryFields address.query) = none ∧
    queryValue? "code" (queryFields address.query) = some code

/-- The text that only one request has, as far as the target of a redirect names it. -/
def redirectState? (target : String) : Option String :=
  match Address.read? target with
  | .ok address => queryValue? "state" (queryFields address.query)
  | .error _ => none

theorem Notice.ofQuery_eq_granted_iff {fields : List (String × String)} {code : String} :
    Notice.ofQuery fields = .granted code ↔
      queryValue? "error" fields = none ∧ queryValue? "code" fields = some code := by
  unfold Notice.ofQuery
  cases queryValue? "error" fields with
  | some error => simp
  | none => cases queryValue? "code" fields <;> simp

theorem Callback.notice?_eq_granted_iff {path target code : String} :
    Callback.notice? path target = .ok (some (.granted code)) ↔ BringsCode path target code := by
  unfold Callback.notice? BringsCode
  cases Address.read? target with
  | error e => simp
  | ok address =>
    rw [ok_bind]
    by_cases hpath : address.path = path.toList
    · simp [hpath, Notice.ofQuery_eq_granted_iff]
    · simp [hpath]

/-! ## The course of a request -/

/-- The codes that are exchanged in a course, in order. -/
def Course.codes {α : Type} (c : Course α) : List String := c.steps.filterMap Step.code?

theorem Course.mem_codes_iff {α : Type} {c : Course α} {code : String} :
    code ∈ c.codes ↔ .codeExchanged code ∈ c.steps := by
  rw [Course.codes, List.mem_filterMap]
  constructor
  · rintro ⟨step, hstep, hcode⟩
    cases step <;> cases hcode
    exact hstep
  · intro h
    exact ⟨_, h, rfl⟩

theorem Course.codes_after {α : Type} {steps : List Step} (h : steps.filterMap Step.code? = [])
    (c : Course α) : (c.after steps).codes = c.codes := by
  rw [Course.codes, Course.after, List.filterMap_append, h, List.nil_append, Course.codes]

theorem codes_replied (pages : List Page) :
    (pages.map Step.replied ++ [Step.closed]).filterMap Step.code? = [] := by
  induction pages with
  | nil => rfl
  | cons page pages ih =>
    rw [List.map_cons, List.cons_append, List.filterMap_cons]
    exact ih

/-- Why there is no grant after a redirect that brings no code, if the server hands on the faults of its
handler or not. -/
def codelessFault (handsOn : Bool) : Except AddressError (Option Notice) → ConsentFault
  | .error e => if handsOn then .address e else .noCode
  | .ok (some (.refused error)) => .refused error
  | .ok _ => .noCode

/-- What comes of the waiting for a redirect: the codes that are exchanged, and the grant or why there is
none. -/
inductive Arrived (path : String) (s : Surroundings) : List String → Except ConsentFault Grant → Prop
  | nothing (h : s.arrival = none) : Arrived path s [] (.error .noCode)
  | codeless (target : String) (h : s.arrival = some target) (hcode : ∀ code, ¬ BringsCode path target code) :
    Arrived path s [] (.error (codelessFault s.handsOnFaults (Callback.notice? path target)))
  | granted (target code : String) (h : s.arrival = some target) (hcode : BringsCode path target code) :
    Arrived path s [code] ((s.exchange code).mapError .exchange)

theorem Listener.arrived (l : Listener) (s : Surroundings) :
    Arrived l.path s (l.await s).codes (l.await s).outcome := by
  unfold Listener.await
  cases harrival : s.arrival with
  | none =>
    simp only [Listener.serve, harrival]
    exact .nothing harrival
  | some target =>
    simp only [Listener.serve, Callback.receive, harrival]
    have hcodeless (h : ∀ code, Callback.notice? l.path target ≠ .ok (some (.granted code))) :
        Arrived l.path s [] (.error (codelessFault s.handsOnFaults (Callback.notice? l.path target))) :=
      .codeless target harrival fun code hcode => h code (Callback.notice?_eq_granted_iff.2 hcode)
    cases hnotice : Callback.notice? l.path target with
    | error e =>
      rw [hnotice] at hcodeless
      have hfault := hcodeless (by simp)
      cases hhands : s.handsOnFaults with
      | true =>
        rw [hhands] at hfault
        exact hfault
      | false =>
        rw [hhands] at hfault
        exact hfault
    | ok notice =>
      rw [hnotice] at hcodeless
      cases notice with
      | none => exact hcodeless (by simp)
      | some notice =>
        simp only [ok_bind, pure_eq_ok, Callback.outcome_note_new]
        rw [Course.codes_after (codes_replied _)]
        cases notice with
        | refused error => exact hcodeless (by simp)
        | granted code => exact .granted target code harrival (Callback.notice?_eq_granted_iff.1 hnotice)
        | silent => exact hcodeless (by simp)

/-- No two codes are brought. -/
theorem BringsCode.unique {path target code code' : String} (h : BringsCode path target code)
    (h' : BringsCode path target code') : code = code' := by
  obtain ⟨address, haddress, -, -, hcode⟩ := h
  obtain ⟨address', haddress', -, -, hcode'⟩ := h'
  cases haddress.symm.trans haddress'
  exact Option.some.inj (hcode.symm.trans hcode')

/-- A redirect brings a code to the listener of a request. -/
def ConsentRequest.Receives (r : ConsentRequest) (arrival : Option String) (code : String) : Prop :=
  ∃ listener target, Listener.of? r.callbackAddress = .ok listener ∧ arrival = some target ∧
    BringsCode listener.path target code

theorem ConsentRequest.Receives.unique {r : ConsentRequest} {arrival : Option String}
    {code code' : String} (h : r.Receives arrival code) (h' : r.Receives arrival code') :
    code = code' := by
  obtain ⟨l, target, hl, htarget, hcode⟩ := h
  obtain ⟨l', target', hl', htarget', hcode'⟩ := h'
  cases hl.symm.trans hl'
  cases htarget.symm.trans htarget'
  exact hcode.unique hcode'

theorem ConsentRequest.run_of_listener {r : ConsentRequest} {l : Listener}
    (h : Listener.of? r.callbackAddress = .ok l) (s : Surroundings) :
    (r.run s).codes = (l.await s).codes ∧ (r.run s).outcome = (l.await s).outcome := by
  unfold ConsentRequest.run
  rw [h, Course.codes_after rfl]
  exact ⟨Course.codes_after rfl _, rfl⟩

theorem ConsentRequest.run_of_noListener {r : ConsentRequest} {e : AddressError}
    (h : Listener.of? r.callbackAddress = .error e) (s : Surroundings) :
    (r.run s).codes = [] ∧ (r.run s).outcome = .error (.address e) := by
  unfold ConsentRequest.run
  rw [h, Course.codes_after rfl]
  exact ⟨rfl, rfl⟩

/-- **The codes of a course** are the one that a redirect brings, or none. The grant is what that code is
exchanged for; without a code there is none. -/
theorem ConsentRequest.codes_run (r : ConsentRequest) (s : Surroundings) :
    (∃ code, r.Receives s.arrival code ∧ (r.run s).codes = [code] ∧
      (r.run s).outcome = (s.exchange code).mapError .exchange) ∨
    (∀ code, ¬ r.Receives s.arrival code) ∧ (r.run s).codes = [] ∧
      ∃ fault, (r.run s).outcome = .error fault := by
  cases hlistener : Listener.of? r.callbackAddress with
  | error e =>
    obtain ⟨hcodes, houtcome⟩ := run_of_noListener hlistener s
    refine .inr ⟨?_, hcodes, _, houtcome⟩
    rintro code ⟨l, target, hl, -⟩
    cases hlistener.symm.trans hl
  | ok l =>
    obtain ⟨hcodes, houtcome⟩ := run_of_listener hlistener s
    have harrived := l.arrived s
    rw [← hcodes, ← houtcome] at harrived
    generalize (r.run s).codes = codes, (r.run s).outcome = outcome at harrived ⊢
    cases harrived with
    | nothing h =>
      refine .inr ⟨?_, rfl, _, rfl⟩
      rintro code ⟨l', target, -, ht, -⟩
      cases h.symm.trans ht
    | codeless target h hcode =>
      refine .inr ⟨?_, rfl, _, rfl⟩
      rintro code ⟨l', target', hl, ht, hbrings⟩
      cases hlistener.symm.trans hl
      cases h.symm.trans ht
      exact hcode code hbrings
    | granted target code h hcode => exact .inl ⟨code, ⟨l, target, hlistener, h, hcode⟩, rfl, rfl⟩

theorem ConsentRequest.mem_codes_run_iff (r : ConsentRequest) (s : Surroundings) (code : String) :
    code ∈ (r.run s).codes ↔ r.Receives s.arrival code := by
  rcases r.codes_run s with ⟨code', hreceives, hcodes, -⟩ | ⟨hnone, hcodes, -⟩
  · rw [hcodes, List.mem_singleton]
    constructor
    · rintro rfl
      exact hreceives
    · exact fun h => h.unique hreceives
  · rw [hcodes]
    exact ⟨fun h => (List.not_mem_nil h).elim, fun h => (hnone code h).elim⟩

end Consent

/-! ## Tokens that are stored -/

namespace TokenFolder

open Consent Time

variable (request : ConsentRequest) (s : Surroundings) (now : DateTime) (folder : TokenFolder)

theorem steps_authorize : (folder.authorize request s now).1.steps = (request.run s).steps := by
  unfold authorize
  simp only
  split <;> rfl

/-- The outcome of a request for consent, and the folder after it. -/
theorem authorize_eq :
    ((folder.authorize request s now).1.outcome, (folder.authorize request s now).2) =
      match (request.run s).outcome.bind fun grant => folder.accept grant request.scopes now with
      | .ok (token, after) => (.ok token, after)
      | .error fault => (.error fault, folder) := by
  unfold authorize
  simp only
  cases (request.run s).outcome.bind fun grant => folder.accept grant request.scopes now <;> rfl

theorem authorize_of_ok {token : Token} {after : TokenFolder}
    (h : ((request.run s).outcome.bind fun grant => folder.accept grant request.scopes now) =
      .ok (token, after)) :
    (folder.authorize request s now).1.outcome = .ok token ∧ (folder.authorize request s now).2 = after := by
  have heq := folder.authorize_eq request s now
  rw [h] at heq
  exact ⟨congrArg Prod.fst heq, congrArg Prod.snd heq⟩

theorem authorize_of_error {fault : ConsentFault}
    (h : ((request.run s).outcome.bind fun grant => folder.accept grant request.scopes now) =
      .error fault) :
    (folder.authorize request s now).1.outcome = .error fault ∧
      (folder.authorize request s now).2 = folder := by
  have heq := folder.authorize_eq request s now
  rw [h] at heq
  exact ⟨congrArg Prod.fst heq, congrArg Prod.snd heq⟩

theorem authorize_eq_ok_iff {token : Token} {after : TokenFolder} :
    ((folder.authorize request s now).1.outcome = .ok token ∧ (folder.authorize request s now).2 = after) ↔
      ((request.run s).outcome.bind fun grant => folder.accept grant request.scopes now) =
        .ok (token, after) := by
  cases hresult : (request.run s).outcome.bind fun grant => folder.accept grant request.scopes now with
  | ok result =>
    obtain ⟨token', after'⟩ := result
    obtain ⟨houtcome, hafter⟩ := authorize_of_ok request s now folder hresult
    rw [houtcome, hafter]
    simp
  | error fault =>
    obtain ⟨houtcome, hafter⟩ := authorize_of_error request s now folder hresult
    rw [houtcome]
    simp

/-- A course without a token leaves the folder as it was. -/
theorem authorize_unchanged (h : ∀ token, (folder.authorize request s now).1.outcome ≠ .ok token) :
    (folder.authorize request s now).2 = folder := by
  cases hresult : (request.run s).outcome.bind fun grant => folder.accept grant request.scopes now with
  | ok result => exact absurd (authorize_of_ok request s now folder hresult).1 (h _)
  | error fault => exact (authorize_of_error request s now folder hresult).2

/-- A code is exchanged exactly if a redirect brings it. -/
theorem codeExchanged_mem_authorize_iff (code : String) :
    .codeExchanged code ∈ (folder.authorize request s now).1.steps ↔ request.Receives s.arrival code := by
  rw [steps_authorize, ← Course.mem_codes_iff, ConsentRequest.mem_codes_run_iff]

/-- A token comes of the code that a redirect brought. -/
theorem outcome_run_bind_iff {token : Token} {after : TokenFolder} :
    ((request.run s).outcome.bind fun grant => folder.accept grant request.scopes now) = .ok (token, after) ↔
      ∃ code grant, request.Receives s.arrival code ∧ s.exchange code = .ok grant ∧
        folder.accept grant request.scopes now = .ok (token, after) := by
  rcases request.codes_run s with ⟨code, hreceives, -, houtcome⟩ | ⟨hnone, -, fault, houtcome⟩
  · rw [houtcome]
    constructor
    · intro h
      obtain ⟨grant, hgrant, haccept⟩ := bind_eq_ok.1 h
      exact ⟨code, grant, hreceives, mapError_eq_ok.1 hgrant, haccept⟩
    · rintro ⟨code', grant, hreceives', hgrant, haccept⟩
      rw [hreceives.unique hreceives', hgrant]
      exact haccept
  · rw [houtcome]
    constructor
    · rintro ⟨⟩
    · rintro ⟨code, grant, hreceives, -⟩
      exact absurd hreceives (hnone code)

/-- The text that only one request has changes nothing of what comes of it. -/
theorem outcome_run_withState (state : String) :
    (ConsentRequest.run { request with state } s).outcome = (request.run s).outcome := by
  cases hlistener : Listener.of? request.callbackAddress with
  | error e =>
    have hother := ConsentRequest.run_of_noListener (r := { request with state }) hlistener s
    rw [hother.2, (ConsentRequest.run_of_noListener hlistener s).2]
  | ok l =>
    have hother := ConsentRequest.run_of_listener (r := { request with state }) hlistener s
    rw [hother.2, (ConsentRequest.run_of_listener hlistener s).2]

/-- Two requests that differ in that text alone come out the same, and so do their folders. -/
theorem authorize_withState (state : String) :
    (folder.authorize { request with state } s now).1.outcome =
        (folder.authorize request s now).1.outcome ∧
      (folder.authorize { request with state } s now).2 = (folder.authorize request s now).2 := by
  have hother := folder.authorize_eq { request with state } s now
  rw [outcome_run_withState request s state, ← folder.authorize_eq request s now] at hother
  exact Prod.mk.inj hother

/-- The token of a grant is stored, whatever the file holds. -/
theorem accept_of_toToken {folder : TokenFolder} {ms : Members WideText} {now : DateTime} {grant : Grant}
    {scopes : Json} {token : Token} (hholds : folder.Holds ms) (hnow : now.IsClock)
    (htoken : grant.toToken now scopes = .ok token) :
    ∃ after record, folder.accept grant scopes now = .ok (token, after) ∧ record.token = token ∧
      (token.IsWritable → ∀ later, after.retrieve serviceName later = .ok (some record)) := by
  obtain ⟨u, hu, -⟩ := hnow.toUtc?_eq_some
  let call : StoreCall := ⟨serviceName, token, { serviceName, createdAt := u }⟩
  obtain ⟨after, hstore, hafter⟩ := holds_storeCall hholds call
  have hsaved : folder.store serviceName token { serviceName, createdAt := u } = .ok after := hstore
  refine ⟨after, call.record, ?_, rfl, fun hwritable later => ?_⟩
  · simp only [accept, htoken, mapError_ok, ok_bind, hu, hsaved, pure_eq_ok]
  · have hcall : call.IsWritable := ⟨hwritable, (DateTime.ofInstant?_eq_some hu).2.2, by rintro t ⟨⟩⟩
    rw [retrieve_of_holds hafter, Members.find?_set_self, Option.bind_some, call.check_document hcall]
    rfl

/-- **A token is stored** exactly if a redirect brings a code that is exchanged for a grant which makes that
token; whatever else the redirect says does not count, and a course without a token leaves the folder as it
was. The text that only this request has goes out to the page, but has no part in any of this: with another
text the same code is exchanged, and the same token stored. -/
theorem authorize_iff_receives :
    (∀ code, .codeExchanged code ∈ (folder.authorize request s now).1.steps ↔
      request.Receives s.arrival code) ∧
    (∀ token after, (folder.authorize request s now).1.outcome = .ok token ∧
        (folder.authorize request s now).2 = after ↔
      ∃ code grant, request.Receives s.arrival code ∧ s.exchange code = .ok grant ∧
        folder.accept grant request.scopes now = .ok (token, after)) ∧
    ((∀ token, (folder.authorize request s now).1.outcome ≠ .ok token) →
      (folder.authorize request s now).2 = folder) ∧
    ∀ state, (∀ code, .codeExchanged code ∈ (folder.authorize { request with state } s now).1.steps ↔
        .codeExchanged code ∈ (folder.authorize request s now).1.steps) ∧
      (folder.authorize { request with state } s now).1.outcome =
        (folder.authorize request s now).1.outcome ∧
      (folder.authorize { request with state } s now).2 = (folder.authorize request s now).2 := by
  refine ⟨codeExchanged_mem_authorize_iff request s now folder, ?_,
    authorize_unchanged request s now folder, ?_⟩
  · intro token after
    rw [authorize_eq_ok_iff, outcome_run_bind_iff]
  · intro state
    obtain ⟨houtcome, hafter⟩ := authorize_withState request s now folder state
    refine ⟨?_, houtcome, hafter⟩
    intro code
    rw [codeExchanged_mem_authorize_iff, codeExchanged_mem_authorize_iff]
    rfl

/-! ### A redirect from elsewhere -/

/-- A request for consent that is told from others by the given text. -/
def requestWith (state : String) : ConsentRequest where
  client := ⟨"id", "secret"⟩
  scopes := .arr []
  callbackAddress := usualCallbackAddress
  state := state

/-- A redirect arrives with the given target, and any code is exchanged for a token. -/
def arriving (target : String) : Surroundings where
  pageFor _ := "https://auth.invalid/consent"
  arrival := some target
  exchange _ := .ok { token := .str "access" }

theorem listener_usualCallbackAddress :
    Listener.of? usualCallbackAddress = .ok ⟨usualHost, usualPort, usualPath⟩ := by
  decide +kernel

theorem listener_requestWith (state : String) :
    Listener.of? (requestWith state).callbackAddress = .ok ⟨usualHost, usualPort, usualPath⟩ :=
  listener_usualCallbackAddress

theorem bringsCode_forged : BringsCode usualPath "/callback?code=forged&state=other" "forged" := by
  refine ⟨⟨[], [], "/callback".toList, [], "code=forged&state=other".toList, []⟩, ?_, ?_, ?_, ?_⟩ <;>
    decide +kernel

/-- The grant for the code makes a token, which is stored. -/
theorem accept_access : ∃ token after, token.accessToken = "access" ∧
    accept { token := .str "access" } (.arr []) (dayOf2030 2) {} = .ok (token, after) ∧
    ∃ record, after.retrieve serviceName (dayOf2030 3) = .ok (some record) ∧ record.token = token := by
  obtain ⟨t, ht, hwritable, -⟩ := Grant.expiresAt?_eq_some isClock_dayOf2030
    ⟨.str "access", Json.ofText? none, none⟩ (by rintro t ⟨⟩) (.inr (by decide))
  have hnone : Holds {} [] := rfl
  obtain ⟨after, record, haccept, hrecord, hread⟩ :=
    accept_of_toToken hnone isClock_dayOf2030 (Grant.toToken_texts ht [])
  exact ⟨_, after, rfl, haccept, record, hread hwritable _, hrecord⟩

/-- The redirect names another text than the one that was sent out, and its code is exchanged all the
same. -/
theorem authorize_iff_receives_forged :
    redirectState? "/callback?code=forged&state=other" = some "other" ∧
      (.codeExchanged "forged" ∈ (authorize (requestWith "mine")
        (arriving "/callback?code=forged&state=other") (dayOf2030 2) {}).1.steps) ∧
      ∃ token record, (authorize (requestWith "mine") (arriving "/callback?code=forged&state=other")
          (dayOf2030 2) {}).1.outcome = .ok token ∧
        (authorize (requestWith "mine") (arriving "/callback?code=forged&state=other")
          (dayOf2030 2) {}).2.retrieve serviceName (dayOf2030 3) = .ok (some record) ∧
        record.token = token ∧ token.accessToken = "access" := by
  have hstate : redirectState? "/callback?code=forged&state=other" = some "other" := by
    decide +kernel
  have hreceives : (requestWith "mine").Receives (some "/callback?code=forged&state=other") "forged" :=
    ⟨_, _, listener_requestWith "mine", rfl, bringsCode_forged⟩
  obtain ⟨hexchanged, hstored, -⟩ := authorize_iff_receives (requestWith "mine")
    (arriving "/callback?code=forged&state=other") (dayOf2030 2) {}
  obtain ⟨token, after, haccess, haccept, record, hretrieve, hrecord⟩ := accept_access
  obtain ⟨houtcome, hafter⟩ := (hstored token after).2 ⟨"forged", _, hreceives, rfl, haccept⟩
  refine ⟨hstate, (hexchanged "forged").2 hreceives, token, record, houtcome, ?_, hrecord, haccess⟩
  rw [hafter]
  exact hretrieve

end TokenFolder

end WorkspaceTools
