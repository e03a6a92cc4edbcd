import WorkspaceTools.Proofs.Exchange.Run
import WorkspaceTools.Proofs.Outcome

/-!
# What programs send

`Program.Sends P` says that every request of a program has the property `P`, whatever it is told on the way.
It is carried from the steps of a program to the whole (`Program.Sends.bind`), and holds of all requests that
a run adds to a session (`Program.Sends.run`).
-/

namespace WorkspaceTools

open Text

variable {α β : Type}

/-- Saving a file sends nothing. -/
theorem Session.requests_save (s : Session) (start ending : String) (content : Bytes) :
    (s.save start ending content).2.requests = s.requests := by
  unfold Session.save
  cases s.pathFor start ending <;> rfl

namespace Program

/-- Every request of a program has a property, whatever the program is told. -/
def Sends (P : Request → Prop) : Program α → Prop
  | .done _ => True
  | .fail _ => True
  | .send request next => P request ∧ ∀ x, (next x).Sends P
  | .save _ _ _ next => ∀ path, (next path).Sends P
  | .clock next => ∀ t, (next t).Sends P

namespace Sends

variable {P : Request → Prop}

theorem bind {p : Program α} {f : α → Program β} (hp : p.Sends P) (hf : ∀ a, (f a).Sends P) :
    (p >>= f).Sends P := by
  change (p.bind f).Sends P
  induction p with
  | done a => exact hf a
  | fail e => exact trivial
  | send r next ih => exact ⟨hp.1, fun x => ih x (hp.2 x)⟩
  | save start ending content next ih => exact fun path => ih path (hp path)
  | clock next ih => exact fun t => ih t (hp t)

theorem mono {Q : Request → Prop} {p : Program α} (hp : p.Sends P) (h : ∀ r, P r → Q r) : p.Sends Q := by
  induction p with
  | done a => exact trivial
  | fail e => exact trivial
  | send r next ih => exact ⟨h r hp.1, fun x => ih x (hp.2 x)⟩
  | save start ending content next ih => exact fun path => ih path (hp path)
  | clock next ih => exact fun t => ih t (hp t)

theorem map (f : α → β) {p : Program α} (hp : p.Sends P) : (f <$> p).Sends P := by
  rw [map_eq_pure_bind]
  exact bind hp fun _ => trivial

theorem ofExcept (r : Except Fault α) : (Program.ofExcept r).Sends P := by
  cases r <;> exact trivial

/-- A step that asks nobody, and what follows its result. -/
theorem ofExcept_bind {r : Except Fault α} {f : α → Program β} (hf : ∀ a, r = .ok a → (f a).Sends P) :
    (Program.ofExcept r >>= f).Sends P := by
  cases r with
  | ok a => exact hf a rfl
  | error e => exact trivial

/-- A step on documents, and what follows its result. -/
theorem shaped {x : Shaped α} {f : α → Program β} (hf : ∀ a, x = .ok a → (f a).Sends P) :
    ((liftM x : Program α) >>= f).Sends P :=
  ofExcept_bind fun a ha => hf a (mapError_eq_ok.1 ha)

/-- A step on documents, and nothing after it. -/
theorem shaped_end (x : Shaped α) : (liftM x : Program α).Sends P := ofExcept (x.mapError Fault.shape)

/-- A request that has to succeed, and what follows it. -/
theorem ask {r : Request} {f : Json → Program β} (hr : P r) (hf : ∀ v, (f v).Sends P) :
    (Program.ask r >>= f).Sends P :=
  bind (p := Program.ask r) ⟨hr, fun x => ofExcept x⟩ hf

/-- A request that may fail, and what follows it. -/
theorem attempt {r : Request} {f : Except Fault Json → Program β} (hr : P r)
    (hf : ∀ x, (f x).Sends P) : (Program.attempt r >>= f).Sends P :=
  bind (p := Program.attempt r) ⟨hr, fun _ => trivial⟩ hf

/-- **What a run sends.** Requests of earlier runs stay, and those of this one have the property. -/
theorem run {p : Program α} (h : p.Sends P) (s : Session) :
    ∃ sent, (p.run s).2.requests = s.requests ++ sent ∧ ∀ r ∈ sent, P r := by
  induction p generalizing s with
  | done a => exact ⟨[], (List.append_nil _).symm, fun r hr => absurd hr List.not_mem_nil⟩
  | fail e => exact ⟨[], (List.append_nil _).symm, fun r hr => absurd hr List.not_mem_nil⟩
  | send r next ih =>
    rcases Session.send_spec r s with ⟨e, -, hsend⟩ | ⟨s', hsend, -, -, -, -, hrequests⟩
    · rw [Program.run, hsend]
      exact ih (.error e) (h.2 _) s
    · rw [Program.run, hsend]
      obtain ⟨sent, hsent, hall⟩ := ih _ (h.2 (s.replies.headD .empty).document) s'
      refine ⟨r :: sent, ?_, List.forall_mem_cons.2 ⟨h.1, hall⟩⟩
      rw [hsent, hrequests, List.append_assoc, List.singleton_append]
  | save start ending content next ih =>
    have hrequests := s.requests_save start ending content
    rw [Program.run]
    cases hsave : s.save start ending content with
    | mk outcome saved =>
      rw [hsave] at hrequests
      rw [← hrequests]
      cases outcome with
      | ok path => exact ih path (h path) saved
      | error e => exact ⟨[], (List.append_nil _).symm, fun r hr => absurd hr List.not_mem_nil⟩
  | clock next ih => exact ih s.now (h s.now) s

end Sends

end Program

end WorkspaceTools
