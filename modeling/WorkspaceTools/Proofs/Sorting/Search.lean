import WorkspaceTools.Proofs.Outcome
import WorkspaceTools.Sorting.Search

/-!
# Where a test ceases to hold

On a list whose first entries pass a test and whose other ones do not, the searches find how many pass.

* `boundary_eq_ok` and `leap_eq_ok`: the two halves of a search, by bisection and by leaps.
* `exists_cut`: which lists are of that kind.
* `exists_holding_eq_ok`: how many entries of such a list pass.
-/

namespace WorkspaceTools.Sorting

variable {ε α : Type}

section

variable {holds : Nat → Except ε Bool} {n : Nat}

/-- Bisection finds the place at which a test ceases to hold. -/
theorem boundary_eq_ok {low width : Nat} (fromEnd : Bool) (hlow : low ≤ n) (hn : n ≤ low + width)
    (htrue : ∀ i, low ≤ i → i < n → holds i = .ok true)
    (hfalse : ∀ i, n ≤ i → i < low + width → holds i = .ok false) :
    boundary holds fromEnd low width = .ok n := by
  induction width using Nat.strongRecOn generalizing low with
  | ind width ih =>
    rw [boundary]
    split
    · exact congrArg Except.ok (by omega)
    · rename_i hwidth
      have hmiddle := middle_lt fromEnd hwidth
      by_cases h : low + middle fromEnd width < n
      · rw [htrue _ (by omega) h]
        exact ih _ (by omega) (by omega) (by omega) (fun i hi => htrue i (by omega))
          fun i hi hi' => hfalse i hi (by omega)
      · rw [hfalse _ (by omega) (by omega)]
        exact ih _ hmiddle hlow (by omega) htrue fun i hi hi' => hfalse i hi (by omega)

/-- Leaps come to rest on either side of that place. -/
theorem leap_eq_ok {limit last : Nat} (hlast : last < n) (hn : n ≤ limit) (htrue : ∀ i, i < n → holds i = .ok true)
    (hfalse : ∀ i, n ≤ i → holds i = .ok false) (next : Nat) :
    ∃ last' next', leap holds limit last next = .ok (last', next') ∧ last' < n ∧ n ≤ next' := by
  induction hleft : limit - next using Nat.strongRecOn generalizing last next with
  | ind left ih =>
    rw [leap]
    split
    · by_cases h : next < n
      · rw [htrue next h]
        exact ih _ (by omega) h (2 * next + 1) rfl
      · rw [hfalse next (by omega)]
        exact ⟨last, next, rfl, hlast, by omega⟩
    · exact ⟨last, limit, rfl, hlast, hn⟩

end

variable {test : α → Except ε Bool} {front back xs : List α}

theorem testAt_of_lt (h : ∀ a ∈ front, test a = .ok true) (back : List α) {i : Nat} (hi : i < front.length) :
    testAt test (front ++ back).toArray i = .ok true := by
  rw [testAt, List.getElem?_toArray, List.getElem?_append_left hi, List.getElem?_eq_getElem hi]
  exact h _ (List.getElem_mem hi)

theorem testAt_of_le (h : ∀ a ∈ back, test a = .ok false) {i : Nat} (hi : front.length ≤ i) :
    testAt test (front ++ back).toArray i = .ok false := by
  rw [testAt, List.getElem?_toArray, List.getElem?_append_right hi]
  cases hentry : back[i - front.length]? with
  | none => rfl
  | some a => exact h a (List.mem_of_getElem? hentry)

/-- The entries at the head of a list that pass a test are counted. -/
theorem holding_append (fromEnd : Bool) (hfront : ∀ a ∈ front, test a = .ok true)
    (hback : ∀ a ∈ back, test a = .ok false) : holding test fromEnd (front ++ back) = .ok front.length := by
  have htrue (i : Nat) (hi : i < front.length) := testAt_of_lt hfront back hi
  have hfalse (i : Nat) (hi : front.length ≤ i) := testAt_of_le hback hi
  unfold holding
  dsimp only
  by_cases hnone : front.length = 0
  · rw [hfalse 0 (by omega), ok_bind, hnone]
    rfl
  · have hlength : front.length ≤ (front ++ back).length := by simp
    obtain ⟨last, next, hleap, hlast, hnext⟩ := leap_eq_ok (Nat.pos_of_ne_zero hnone) hlength htrue hfalse 1
    rw [htrue 0 (Nat.pos_of_ne_zero hnone), ok_bind, if_pos rfl, hleap, ok_bind]
    exact boundary_eq_ok fromEnd hlast (by omega) (fun i _ => htrue i) fun i hi _ => hfalse i hi

/-- A list in which nothing has a property after what does not have it is cut in two. -/
theorem exists_cut {p : α → Prop} (h : xs.Pairwise fun a b => p b → p a) :
    ∃ front back, xs = front ++ back ∧ (∀ a ∈ front, p a) ∧ ∀ a ∈ back, ¬ p a := by
  induction xs with
  | nil => exact ⟨[], [], rfl, by simp, by simp⟩
  | cons a xs ih =>
    obtain ⟨hfirst, hrest⟩ := List.pairwise_cons.1 h
    by_cases ha : p a
    · obtain ⟨front, back, rfl, hfront, hback⟩ := ih hrest
      exact ⟨a :: front, back, rfl, List.forall_mem_cons.2 ⟨ha, hfront⟩, hback⟩
    · exact ⟨[], a :: xs, rfl, by simp, List.forall_mem_cons.2 ⟨ha, fun b hb hpb => ha (hfirst b hb hpb)⟩⟩

/-- Where nothing passes a test after what does not, the entries that pass are counted. -/
theorem exists_holding_eq_ok {p : α → Prop} [DecidablePred p] (fromEnd : Bool)
    (htest : ∀ a ∈ xs, test a = .ok (decide (p a))) (h : xs.Pairwise fun a b => p b → p a) :
    ∃ front back, xs = front ++ back ∧ holding test fromEnd xs = .ok front.length ∧ (∀ a ∈ front, p a) ∧
      ∀ a ∈ back, ¬ p a := by
  obtain ⟨front, back, rfl, hfront, hback⟩ := exists_cut h
  refine ⟨front, back, rfl, holding_append fromEnd (fun a ha => ?_) fun a ha => ?_, hfront, hback⟩
  · rw [htest a (List.mem_append_left _ ha), decide_eq_true (hfront a ha)]
  · rw [htest a (List.mem_append_right _ ha), decide_eq_false (hback a ha)]

/-- Where everything passes a test after what does, the entries that pass are counted from the end. -/
theorem exists_holding_reverse_eq_ok {p : α → Prop} [DecidablePred p] (fromEnd : Bool)
    (htest : ∀ a ∈ xs, test a = .ok (decide (p a))) (h : xs.Pairwise fun a b => p a → p b) :
    ∃ front back, xs = front ++ back ∧ holding test fromEnd xs.reverse = .ok back.length ∧ (∀ a ∈ front, ¬ p a) ∧
      ∀ a ∈ back, p a := by
  obtain ⟨back, front, hcut, hholding, hback, hfront⟩ := exists_holding_eq_ok fromEnd
    (fun a ha => htest a (List.mem_reverse.1 ha)) (List.pairwise_reverse.2 h)
  refine ⟨front.reverse, back.reverse, ?_, ?_, fun a ha => hfront a (List.mem_reverse.1 ha),
    fun a ha => hback a (List.mem_reverse.1 ha)⟩
  · rw [← List.reverse_append, ← hcut, List.reverse_reverse]
  · rw [hholding, List.length_reverse]

end WorkspaceTools.Sorting
