import WorkspaceTools.Proofs.Exchange.Run

/-!
# Runs in any session

A token is selected for every request, and that may fail in the middle of a run: the token has expired
meanwhile and is not renewed, say.

* `Program.Stops` holds of a program that the first failure of a request ends.
* `Program.runCase`: in any session such a program sends what it sends in its exchange with the replies of
  the session, with the same outcome, or it is cut short where no token is selected (`RunCase`).
-/

namespace WorkspaceTools

open Time

variable {α β : Type}

/-! ## Programs that stop -/

/-- The first failure of a request ends the program. -/
def Program.Stops : Program α → Prop
  | .done _ => True
  | .fail _ => True
  | .send _ next => (∀ v, (next (.ok v)).Stops) ∧ ∀ e, next (.error e) = .fail e
  | .save _ _ _ next => ∀ path, (next path).Stops
  | .clock next => ∀ t, (next t).Stops

namespace Program.Stops

theorem bind {p : Program α} {f : α → Program β} (hp : p.Stops) (hf : ∀ a, (f a).Stops) :
    (p >>= f).Stops := by
  change (p.bind f).Stops
  induction p with
  | done a => exact hf a
  | fail e => trivial
  | send r next ih => exact ⟨fun v => ih _ (hp.1 v), fun e => congrArg (·.bind f) (hp.2 e)⟩
  | save start ending content next ih => exact fun path => ih path (hp path)
  | clock next ih => exact fun t => ih t (hp t)

theorem map (f : α → β) {p : Program α} (hp : p.Stops) : (f <$> p).Stops := by
  rw [map_eq_pure_bind]
  exact bind hp fun _ => trivial

theorem ofExcept (r : Except Fault α) : (Program.ofExcept r).Stops := by
  cases r <;> trivial

theorem ask (r : Request) : (Program.ask r).Stops := ⟨fun _ => trivial, fun _ => rfl⟩

end Program.Stops

/-! ## Runs -/

/-- A run that sends `sent` beside an exchange: it is that exchange, or it ends before one of the requests
because no token is selected at this time of the clock. -/
inductive RunCase (accounts : Accounts) (now : DateTime) (exchange : List Request × Except Fault α) :
    List Request → Except Fault α → Prop
  | whole : RunCase accounts now exchange exchange.1 exchange.2
  | cut {sent : List Request} {r : Request} {rest : List Request} {folder : TokenFolder} {e : Fault}
    (h : exchange.1 = sent ++ r :: rest) (he : folder.accessToken accounts now = .error e) :
    RunCase accounts now exchange sent (.error e)

/-- One more request in front. -/
theorem RunCase.cons {accounts : Accounts} {now : DateTime} {exchange : List Request × Except Fault α}
    {sent : List Request} {outcome : Except Fault α} (h : RunCase accounts now exchange sent outcome)
    (r : Request) : RunCase accounts now (r :: exchange.1, exchange.2) (r :: sent) outcome := by
  cases h with
  | whole => exact .whole
  | cut h he => exact .cut (congrArg (r :: ·) h) he

theorem RunCase.isPrefix {accounts : Accounts} {now : DateTime}
    {exchange : List Request × Except Fault α} {sent : List Request} {outcome : Except Fault α}
    (h : RunCase accounts now exchange sent outcome) : sent <+: exchange.1 := by
  cases h with
  | whole => exact List.prefix_refl _
  | cut h he => exact ⟨_, h.symm⟩

/-- A run with a result is not cut short. -/
theorem RunCase.eq_of_ok {accounts : Accounts} {now : DateTime}
    {exchange : List Request × Except Fault α} {sent : List Request} {a : α}
    (h : RunCase accounts now exchange sent (.ok a)) : exchange = (sent, .ok a) := by
  generalize hout : (Except.ok a : Except Fault α) = outcome at h
  cases h with
  | whole => rfl
  | cut h he => cases hout

/-- **A run in any session.** -/
theorem Program.runCase {p : Program α} (hp : p.Stops) (s : Session) :
    ∃ sent, (p.run s).2.requests = s.requests ++ sent ∧
      RunCase s.accounts s.now (p.exchange s.now s.pathFor s.replies) sent (p.run s).1 := by
  induction p generalizing s with
  | done a => exact ⟨[], by simp [run], .whole⟩
  | fail e => exact ⟨[], by simp [run], .whole⟩
  | send r next ih =>
    rcases s.send_spec r with ⟨e, he, hs⟩ | ⟨s', hs, hnow, haccounts, hpath, hreplies, hsent⟩
    · refine ⟨[], ?_, ?_⟩
      · simp [run, hs, hp.2 e]
      · simp only [run, hs, hp.2 e]
        exact .cut (by rw [List.nil_append]; rfl) he
    · simp only [run, hs, exchange]
      cases hdocument : (s.replies.headD .empty).document with
      | error e =>
        rw [hp.2 e]
        exact ⟨[r], hsent, .whole⟩
      | ok v =>
        obtain ⟨sent, hrequests, hcase⟩ := ih _ (hp.1 v) s'
        rw [hnow, haccounts, hpath, hreplies] at hcase
        exact ⟨r :: sent, by rw [hrequests, hsent, List.append_assoc]; rfl, hcase.cons r⟩
  | save start ending content next ih =>
    simp only [run, Session.save, exchange]
    cases s.pathFor start ending with
    | ok path => exact ih path (hp path) _
    | error words => exact ⟨[], by simp, .whole⟩
  | clock next ih => exact ih _ (hp _) s

end WorkspaceTools
