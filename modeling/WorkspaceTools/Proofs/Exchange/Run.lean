import WorkspaceTools.Exchange.Session

/-!
# Runs of programs

* `Program.exchange` lists the requests of a program and gives its outcome, for given replies and
  without a session. The exchange of two programs, one after the other, is their exchanges put
  together (`exchange_bind`).
* `run_of_authorized`: in a session with a valid token, a run is the exchange with its replies, and
  every request carries that token.
-/

namespace WorkspaceTools

open Time

namespace Program

variable {α β : Type}

instance : LawfulMonad Program :=
  LawfulMonad.mk' Program bind_pure (fun _ _ => rfl) bind_assoc

theorem run_bind (p : Program α) (f : α → Program β) (s : Session) :
    (p >>= f).run s =
      match p.run s with
      | (.ok a, s') => (f a).run s'
      | (.error e, s') => (.error e, s') := by
  change (p.bind f).run s = _
  induction p generalizing s with
  | done a => rfl
  | fail e => rfl
  | send r next ih => exact ih _ _
  | save start ending content next ih =>
    simp only [Program.bind, run]
    split
    · exact ih _ _
    · rfl
  | clock next ih => exact ih _ _

/-- A fault of a document's shape ends a program. -/
theorem liftShaped_bind (x : Shaped α) (f : α → Program β) :
    ((liftM x : Program α) >>= f) =
      match x with
      | .error e => .fail (.shape e)
      | .ok a => f a := by
  cases x <;> rfl

/-! ## Exchanges -/

/-- The answer to the request of the given number, counted from 0. -/
def answerAt (replies : List Reply) (i : Nat) : Except Fault Json :=
  ((replies.drop i).headD .empty).document

theorem answerAt_drop (replies : List Reply) (k i : Nat) :
    answerAt (replies.drop k) i = answerAt replies (k + i) := by
  rw [answerAt, answerAt, List.drop_drop]

section Exchange

variable (now : DateTime) (pathFor : String → String → Except String String)

/-- The requests of a program and its outcome, when the given replies come back one by one, and empty
ones after them. -/
def exchange : Program α → List Reply → List Request × Except Fault α
  | .done a, _ => ([], .ok a)
  | .fail e, _ => ([], .error e)
  | .send r next, replies =>
    let rest := (next (replies.headD .empty).document).exchange replies.tail
    (r :: rest.1, rest.2)
  | .save start ending _ next, replies =>
    match pathFor start ending with
    | .ok path => (next path).exchange replies
    | .error words => ([], .error (.unsaved words))
  | .clock next, replies => (next now).exchange replies

@[simp] theorem exchange_pure (a : α) (replies : List Reply) :
    exchange now pathFor (pure a : Program α) replies = ([], .ok a) := rfl

@[simp] theorem exchange_fail (e : Fault) (replies : List Reply) :
    exchange now pathFor (.fail e : Program α) replies = ([], .error e) := rfl

@[simp] theorem exchange_ofExcept (r : Except Fault α) (replies : List Reply) :
    exchange now pathFor (ofExcept r) replies = ([], r) := by
  cases r <;> rfl

/-- One request, and its outcome. -/
@[simp] theorem exchange_ask (r : Request) (replies : List Reply) :
    exchange now pathFor (ask r) replies = ([r], answerAt replies 0) := by
  simp [ask, exchange, answerAt]

/-- **Exchanges put together**: the second program meets the replies that the first one left. -/
theorem exchange_bind (p : Program α) (f : α → Program β) (replies : List Reply) :
    exchange now pathFor (p >>= f) replies =
      match (exchange now pathFor p replies).2 with
      | .error e => ((exchange now pathFor p replies).1, .error e)
      | .ok a =>
        let first := (exchange now pathFor p replies).1
        let rest := exchange now pathFor (f a) (replies.drop first.length)
        (first ++ rest.1, rest.2) := by
  change exchange now pathFor (p.bind f) replies = _
  induction p generalizing replies with
  | done a => rfl
  | fail e => rfl
  | send r next ih =>
    simp only [Program.bind, exchange, ih]
    split <;> simp_all
  | save start ending content next ih =>
    simp only [Program.bind, exchange]
    split
    · exact ih _ _
    · rfl
  | clock next ih => exact ih _ _

@[simp] theorem exchange_map (f : α → β) (p : Program α) (replies : List Reply) :
    exchange now pathFor (f <$> p) replies =
      ((exchange now pathFor p replies).1, (exchange now pathFor p replies).2.map f) := by
  rw [map_eq_pure_bind, exchange_bind]
  cases (exchange now pathFor p replies).2 <;> simp [Except.map]

end Exchange

end Program

/-! ## Requests of a session -/

namespace Session

/-- The next reply is taken off; after the last one the replies are empty. -/
theorem receive_eq (s : Session) :
    s.receive = (s.replies.headD .empty, { s with replies := s.replies.tail }) := by
  obtain ⟨folder, now, accounts, replies, pathFor, sent, saved, opened, closed⟩ := s
  cases replies <;> rfl

theorem connect_eq (s : Session) : ∃ n, s.connect = { s with opened := n } := by
  unfold connect
  split
  · exact ⟨s.opened, rfl⟩
  · exact ⟨s.opened + 1, rfl⟩

/-- The requests that were sent, in order. -/
def requests (s : Session) : List Request := (s.sent.map SentRequest.request).reverse

/-- A request is not sent without a token; otherwise it meets the next reply, and the clock, the accounts
and the place for files stay. -/
theorem send_spec (r : Request) (s : Session) :
    (∃ e, s.folder.accessToken s.accounts s.now = .error e ∧ s.send r = (.error e, s)) ∨
      ∃ s', s.send r = ((s.replies.headD .empty).document, s') ∧ s'.now = s.now ∧
        s'.accounts = s.accounts ∧ s'.pathFor = s.pathFor ∧ s'.replies = s.replies.tail ∧
        s'.requests = s.requests ++ [r] := by
  unfold send
  cases s.folder.accessToken s.accounts s.now with
  | error e => exact .inl ⟨e, rfl, rfl⟩
  | ok selected =>
    obtain ⟨token, folder⟩ := selected
    obtain ⟨n, hn⟩ := connect_eq { s with folder }
    refine .inr ⟨{ s with folder, opened := n, sent := ⟨r, token⟩ :: s.sent, replies := s.replies.tail },
      ?_, rfl, rfl, rfl, rfl, by simp [requests]⟩
    simp only [hn, receive_eq]

/-! ## Sessions with a valid token -/

/-- The token is valid: it is selected for every request, and the folder stays as it is. -/
def IsAuthorized (s : Session) (token : String) : Prop :=
  s.folder.accessToken s.accounts s.now = .ok (token, s.folder)

/-- The token of a valid record is selected. -/
theorem isAuthorized_of_status {s : Session} (h : s.folder.status serviceName s.now = .ok .valid) :
    ∃ token, s.IsAuthorized token := by
  obtain ⟨record, hr⟩ : ∃ record, s.folder.retrieve serviceName s.now = .ok (some record) := by
    unfold TokenFolder.status at h
    cases hr : s.folder.retrieve serviceName s.now with
    | error e => simp [hr, bind, Except.bind] at h
    | ok found =>
      cases found with
      | some record => exact ⟨record, rfl⟩
      | none =>
        simp only [hr, bind, Except.bind] at h
        cases hf : s.folder.records with
        | error e => simp [hf] at h
        | ok records =>
          simp only [hf, pure, Except.pure, Except.ok.injEq] at h
          split at h <;> cases h
  refine ⟨record.token.accessToken, ?_⟩
  simp [IsAuthorized, TokenFolder.accessToken, h, hr, bind, Except.bind, pure, Except.pure]

/-- A request is sent with the token and meets the next reply; the rest of the session stays. -/
theorem send_of_authorized {s : Session} {token : String} (h : s.IsAuthorized token) (r : Request) :
    ∃ s', s.send r = ((s.replies.headD .empty).document, s') ∧ s'.IsAuthorized token ∧
      s'.now = s.now ∧ s'.pathFor = s.pathFor ∧ s'.replies = s.replies.tail ∧
      s'.sent = ⟨r, token⟩ :: s.sent := by
  unfold IsAuthorized at h
  obtain ⟨n, hn⟩ := s.connect_eq
  refine ⟨{ s with opened := n, sent := ⟨r, token⟩ :: s.sent, replies := s.replies.tail }, ?_, h,
    rfl, rfl, rfl, rfl⟩
  unfold send
  rw [h]
  simp only [hn, receive_eq]

end Session

namespace Program

variable {α : Type}

/-- **A run with a valid token is an exchange**, and its requests carry the token. -/
theorem run_of_authorized (p : Program α) {s : Session} {token : String}
    (h : s.IsAuthorized token) :
    (p.run s).1 = (p.exchange s.now s.pathFor s.replies).2 ∧
      (p.run s).2.sent =
        ((p.exchange s.now s.pathFor s.replies).1.map (⟨·, token⟩)).reverse ++ s.sent := by
  induction p generalizing s with
  | done a => exact ⟨rfl, rfl⟩
  | fail e => exact ⟨rfl, rfl⟩
  | send r next ih =>
    obtain ⟨s', hs, ha, hn, hp, hr, hsent⟩ := Session.send_of_authorized h r
    obtain ⟨ih₁, ih₂⟩ := ih (s.replies.headD .empty).document ha
    rw [hn, hp, hr] at ih₁ ih₂
    simp only [run, hs, exchange]
    exact ⟨ih₁, by rw [ih₂, hsent]; simp⟩
  | save start ending content next ih =>
    simp only [run, Session.save, exchange]
    cases s.pathFor start ending with
    | ok path => exact ih path h
    | error words => simp
  | clock next ih => exact ih s.now h

theorem requests_of_authorized (p : Program α) {s : Session} {token : String} (h : s.IsAuthorized token) :
    (p.run s).2.requests = s.requests ++ (p.exchange s.now s.pathFor s.replies).1 := by
  obtain ⟨-, hsent⟩ := run_of_authorized p h
  rw [Session.requests, Session.requests, hsent]
  simp [Function.comp_def]

end Program

end WorkspaceTools
