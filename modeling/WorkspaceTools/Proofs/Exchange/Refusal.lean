import WorkspaceTools.Proofs.Exchange.Run
import WorkspaceTools.Proofs.Outcome

/-!
# Refusals

A refusal is the fault of a request that the service answered with a status of failure. No computation
on documents or on the stored tokens makes one up (`IsOwn`), and a program that only hands them on
(`Program.HandsOn`) ends with a refusal exactly when that was the last answer that it received
(`Program.refused_of_run`).
-/

namespace WorkspaceTools

open Time

variable {α β : Type}

/-! ## Faults that are no refusals -/

/-- A result that is no refusal. -/
def IsOwn (r : Except Fault α) : Prop := ∀ status body, r ≠ .error (.refused status body)

namespace IsOwn

theorem ok (a : α) : IsOwn (.ok a) := by
  intro status body h
  cases h

theorem error {e : Fault} (h : ∀ status body, e ≠ .refused status body) :
    IsOwn (.error e : Except Fault α) :=
  fun status body he => h status body (Except.error.inj he)

theorem bind {x : Except Fault α} {f : α → Except Fault β} (hx : IsOwn x) (hf : ∀ a, IsOwn (f a)) :
    IsOwn (x >>= f) := by
  cases x with
  | ok a => exact hf a
  | error e => exact fun status body h => hx status body (by cases h; rfl)

theorem map {x : Except Fault α} (f : α → β) (hx : IsOwn x) : IsOwn (x.map f) := by
  cases x with
  | ok a => exact ok _
  | error e => exact fun status body h => hx status body (by cases h; rfl)

/-- A fault of another kind that was made a fault of a tool. -/
theorem mapError {ε : Type} {toFault : ε → Fault}
    (h : ∀ e status body, toFault e ≠ .refused status body) (x : Except ε α) :
    IsOwn (x.mapError toFault) := by
  cases x with
  | ok a => exact ok a
  | error e => exact error (h e)

theorem shaped (x : Shaped α) : IsOwn (liftM x : Except Fault α) :=
  mapError (fun _ _ _ => Fault.noConfusion) x

theorem mapM {f : α → Except Fault β} (hf : ∀ a, IsOwn (f a)) (as : List α) : IsOwn (as.mapM f) := by
  induction as with
  | nil => exact ok _
  | cons a as ih =>
    rw [List.mapM_cons]
    exact .bind (hf a) fun b => .bind ih fun bs => ok _

end IsOwn

/-! ## The stored tokens -/

namespace TokenFolder

variable (folder : TokenFolder) (service : String) (now : DateTime)

theorem isOwn_records : IsOwn folder.records := by
  unfold records recordsOf
  split
  · exact .ok _
  · split
    · exact .error (by simp)
    · split
      · exact .ok _
      · exact .ok _
      · split
        · exact .ok _
        · exact .error (by simp)

theorem isOwn_retrieve : IsOwn (folder.retrieve service now) := by
  refine .bind folder.isOwn_records fun records => ?_
  split
  · exact .ok _
  · exact .ok _

theorem isOwn_hasExpired (record : TokenRecord) : IsOwn (hasExpired record now) := by
  unfold hasExpired
  split
  · exact .ok _
  · exact .error (by simp)

theorem isOwn_status : IsOwn (folder.status service now) := by
  refine .bind (folder.isOwn_retrieve service now) fun found => ?_
  split
  · exact .bind (isOwn_hasExpired now _) fun expired => .ok _
  · exact .bind folder.isOwn_records fun records => .ok _

theorem isOwn_store (token : Token) (metadata : TokenMetadata) :
    IsOwn (folder.store service token metadata) :=
  .bind folder.isOwn_records fun _ => .ok _

theorem isOwn_renew (request : RenewalRequest) (accounts : Accounts) :
    IsOwn (request.renew accounts now) := by
  unfold RenewalRequest.renew
  split
  · exact .error (by simp)
  · refine .mapError (fun e status body => ?_) _
    cases e <;> simp [GrantFault.fault]

theorem isOwn_renewIfNeeded (accounts : Accounts) : IsOwn (folder.renewIfNeeded accounts now) := by
  refine .bind (folder.isOwn_retrieve _ now) fun found => ?_
  split
  · exact .ok _
  · refine .bind (isOwn_hasExpired now _) fun expired => ?_
    split
    · exact .ok _
    · split
      · exact .ok _
      · exact .bind (isOwn_renew now _ accounts) fun token =>
          .bind (folder.isOwn_store _ _ _) fun folder => .ok _

/-- The selection of a token refuses no request. -/
theorem isOwn_accessToken (accounts : Accounts) : IsOwn (folder.accessToken accounts now) := by
  refine .bind (folder.isOwn_status _ now) fun status => ?_
  cases status with
  | missing => exact .error (by simp)
  | invalid => exact .error (by simp)
  | expired =>
    refine .bind (folder.isOwn_renewIfNeeded now accounts) fun renewed => ?_
    split
    · exact .ok _
    · exact .error (by simp)
  | valid =>
    refine .bind (folder.isOwn_retrieve _ now) fun found => ?_
    split
    · exact .ok _
    · exact .error (by simp)

end TokenFolder

/-! ## Programs that hand refusals on -/

namespace Program

/-- A program that makes up no refusal: the fault of a request ends it, or it goes on. -/
def HandsOn : Program α → Prop
  | .done _ => True
  | .fail e => ∀ status body, e ≠ .refused status body
  | .send _ next =>
    (∀ v, (next (.ok v)).HandsOn) ∧ ∀ e, next (.error e) = .fail e ∨ (next (.error e)).HandsOn
  | .save _ _ _ next => ∀ path, (next path).HandsOn
  | .clock next => ∀ t, (next t).HandsOn

namespace HandsOn

theorem bind {p : Program α} {f : α → Program β} (hp : p.HandsOn) (hf : ∀ a, (f a).HandsOn) :
    (p >>= f).HandsOn := by
  change (p.bind f).HandsOn
  induction p with
  | done a => exact hf a
  | fail e => exact hp
  | send r next ih =>
    refine ⟨fun v => ih _ (hp.1 v), fun e => ?_⟩
    rcases hp.2 e with he | he
    · exact .inl (congrArg (·.bind f) he)
    · exact .inr (ih _ he)
  | save start ending content next ih => exact fun path => ih path (hp path)
  | clock next ih => exact fun t => ih t (hp t)

theorem map (f : α → β) {p : Program α} (hp : p.HandsOn) : (f <$> p).HandsOn := by
  rw [map_eq_pure_bind]
  exact bind hp fun _ => trivial

theorem ofExcept {r : Except Fault α} (h : IsOwn r) : (ofExcept r).HandsOn := by
  cases r with
  | ok a => exact trivial
  | error e => exact fun status body he => h status body (by rw [he])

/-- A step on documents, and what follows it. -/
theorem shaped (x : Shaped α) {f : α → Program β} (hf : ∀ a, (f a).HandsOn) :
    ((liftM x : Program α) >>= f).HandsOn :=
  bind (ofExcept (IsOwn.shaped x)) hf

/-- A step on documents, and nothing after it. -/
theorem shaped_end (x : Shaped α) : (liftM x : Program α).HandsOn := ofExcept (IsOwn.shaped x)

/-- A request that has to succeed, and what follows it. -/
theorem ask (r : Request) {f : Json → Program β} (hf : ∀ v, (f v).HandsOn) : (ask r >>= f).HandsOn :=
  bind (p := Program.ask r) ⟨fun _ => trivial, fun _ => .inl rfl⟩ hf

/-- A request that may fail, and what follows it. -/
theorem attempt (r : Request) {f : Except Fault Json → Program β} (hf : ∀ x, (f x).HandsOn) :
    (attempt r >>= f).HandsOn :=
  bind (p := Program.attempt r) ⟨fun _ => trivial, fun _ => .inr trivial⟩ hf

end HandsOn

end Program

/-! ## Runs that end with a refusal -/

namespace Session

/-- A request is not sent without a token; otherwise it meets the next reply. -/
theorem send_cases (r : Request) (s : Session) :
    (∃ e, s.folder.accessToken s.accounts s.now = .error e ∧ s.send r = (.error e, s)) ∨
      ∃ s', s.send r = ((s.replies.headD .empty).document, s') ∧ s'.replies = s.replies.tail := by
  rcases s.send_spec r with h | ⟨s', hs, -, -, -, hr, -⟩
  · exact .inl h
  · exact .inr ⟨s', hs, hr⟩

theorem replies_send_suffix (r : Request) (s : Session) : (s.send r).2.replies <:+ s.replies := by
  rcases s.send_cases r with ⟨e, -, h⟩ | ⟨s', h, hr⟩
  · simp [h]
  · simpa [h, hr] using List.tail_suffix _

theorem document_eq_refused {reply : Reply} {status : Nat} {body : Except BodyFault Json}
    (h : reply.document = .error (.refused status body)) :
    isSuccess status = false ∧ reply = .answer status body := by
  cases reply with
  | broken text => cases h
  | answer code content =>
    simp only [Reply.document] at h
    split at h
    · exact absurd h (IsOwn.mapError (fun e _ _ => by cases e <;> simp [BodyFault.fault]) _ _ _)
    · cases h
      exact ⟨Bool.eq_false_iff.2 ‹_›, rfl⟩

/-- A request is refused by the answer to it. -/
theorem refused_of_send {r : Request} {s : Session} {status : Nat} {body : Except BodyFault Json}
    (h : (s.send r).1 = .error (.refused status body)) :
    isSuccess status = false ∧ s.replies = .answer status body :: (s.send r).2.replies := by
  rcases s.send_cases r with ⟨e, he, hs⟩ | ⟨s', hs, hr⟩
  · rw [hs] at h
    cases h
    exact absurd he (s.folder.isOwn_accessToken _ _ _ _)
  · rw [hs] at h ⊢
    rw [hr]
    cases hl : s.replies with
    | nil => rw [hl] at h; cases h
    | cons reply rest =>
      rw [hl] at h
      obtain ⟨hf, rfl⟩ := document_eq_refused h
      exact ⟨hf, rfl⟩

end Session

namespace Program

/-- **A run ends with a refusal** only when that was the last answer it received. -/
theorem refused_of_run {p : Program α} (hp : p.HandsOn) {s : Session} {status : Nat}
    {body : Except BodyFault Json} (h : (p.run s).1 = .error (.refused status body)) :
    isSuccess status = false ∧
      ∃ before, s.replies = before ++ .answer status body :: (p.run s).2.replies := by
  induction p generalizing s with
  | done a => cases h
  | fail e => exact absurd (Except.error.inj h) (hp status body)
  | send r next ih =>
    simp only [run] at h ⊢
    obtain ⟨before, hb⟩ := s.replies_send_suffix r
    have goOn : (next (s.send r).1).HandsOn → isSuccess status = false ∧
        ∃ before, s.replies =
          before ++ .answer status body :: ((next (s.send r).1).run (s.send r).2).2.replies := by
      intro hn
      obtain ⟨hf, between, he⟩ := ih _ hn h
      exact ⟨hf, before ++ between, by rw [← hb, he, List.append_assoc]⟩
    cases ho : (s.send r).1 with
    | ok v =>
      rw [ho] at goOn
      exact goOn (hp.1 v)
    | error e =>
      rw [ho] at goOn h
      rcases hp.2 e with hn | hn
      · rw [hn] at h ⊢
        cases h
        obtain ⟨hf, hr⟩ := Session.refused_of_send ho
        exact ⟨hf, [], hr⟩
      · exact goOn hn
  | save start ending content next ih =>
    simp only [run, Session.save] at h ⊢
    cases hpath : s.pathFor start ending with
    | ok path =>
      rw [hpath] at h
      exact ih path (hp path) h
    | error words => simp [hpath] at h
  | clock next ih => exact ih _ (hp _) h

end Program

end WorkspaceTools
