import WorkspaceTools.Proofs.Exchange.Run
import WorkspaceTools.Proofs.Outcome
import WorkspaceTools.Tool.Mail

/-!
# Requests one after the other

* `run_ask_bind`: a program that asks goes on with the answer, or ends with the fault of its request.
* `Session.sendAll` are the outcomes of some requests, in their order, whatever becomes of each. With a valid
  token they are the next answers (`sendAll_of_authorized`).
* `Tool.run_details`: what the service told of every entry of a list are the outcomes of their requests.
-/

namespace WorkspaceTools

namespace Program

/-- A program that asks goes on with the answer, or ends with the fault of its request. -/
theorem run_ask_bind {β : Type} (r : Request) (f : Json → Program β) (s : Session) :
    (ask r >>= f).run s =
      match (s.send r).1 with
      | .ok v => (f v).run (s.send r).2
      | .error e => (.error e, (s.send r).2) := by
  rw [run_bind, ask, run]
  obtain ⟨outcome, s'⟩ := s.send r
  cases outcome <;> rfl

end Program

namespace Session

/-- The outcomes of some requests that are sent one after the other, whatever becomes of each, and the session
after them. -/
def sendAll : List Request → Session → List (Except Fault Json) × Session
  | [], s => ([], s)
  | r :: rest, s =>
    let after := sendAll rest (s.send r).2
    ((s.send r).1 :: after.1, after.2)

@[simp] theorem length_sendAll (rs : List Request) (s : Session) : (s.sendAll rs).1.length = rs.length := by
  induction rs generalizing s with
  | nil => rfl
  | cons r rest ih => rw [sendAll, List.length_cons, ih, List.length_cons]

/-- With a valid token every request meets the next answer. -/
theorem sendAll_of_authorized {s : Session} {token : String} (h : s.IsAuthorized token) (rs : List Request) :
    (s.sendAll rs).1 = (List.range rs.length).map (Program.answerAt s.replies) := by
  induction rs generalizing s with
  | nil => rfl
  | cons r rest ih =>
    obtain ⟨s', hsend, hs', -, -, hreplies, -⟩ := send_of_authorized h r
    have hrest : (s'.sendAll rest).1 =
        (List.range rest.length).map fun i => Program.answerAt s.replies (i + 1) := by
      rw [ih hs', hreplies, ← List.drop_one]
      refine List.map_congr_left fun i _ => ?_
      rw [Program.answerAt_drop, Nat.add_comm]
    rw [sendAll, hsend, List.length_cons, List.range_succ_eq_map, List.map_cons, List.map_map, hrest]
    rfl

end Session

namespace Tool

/-- What the service told of every entry of a list. -/
theorem run_details (address : Json → String) (params : Members) (ids : List Json) (s : Session) :
    (details address params ids).run s =
      let after := s.sendAll (ids.map fun id => ⟨.get, address id, params, none⟩)
      (.ok after.1, after.2) := by
  induction ids generalizing s with
  | nil => rfl
  | cons id rest ih =>
    change ((Program.attempt _ >>= fun detail => details address params rest >>= fun others =>
      pure (detail :: others)).run s) = _
    rw [Program.run_bind]
    change ((details address params rest >>= fun others => pure (_ :: others)).run _) = _
    rw [Program.run_bind, ih]
    rfl

end Tool

end WorkspaceTools
