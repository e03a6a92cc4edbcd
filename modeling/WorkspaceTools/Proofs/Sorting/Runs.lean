import WorkspaceTools.Proofs.Sorting.Search
import WorkspaceTools.Proofs.Sorting.Stable

/-!
# Runs are sorted

`sorted` compares entries only where it has to, and so it is fixed which comparison is the first one to fail. If
none fails, it goes by keys (`GoesBy`). Then the runs that a list is cut into are stably sorted.

* `exists_firstRun_eq_ok`: a run goes up, or it goes down all the way and is turned around.
* `exists_insertAll_eq_ok`: an entry that is inserted behind its equals is the last one of them.
* `exists_nextRun_eq_ok` puts them together.
-/

namespace WorkspaceTools.Sorting

variable {ε α κ : Type} [LinearOrder κ] {key : α → κ} {before : Before ε α} {xs ys : List α}

/-- The comparison of two entries of a list does not fail, and tells which key is the smaller one. -/
def GoesBy (before : Before ε α) (key : α → κ) (xs : List α) : Prop :=
  ∀ a ∈ xs, ∀ b ∈ xs, before a b = .ok (decide (key a < key b))

theorem GoesBy.mono (h : GoesBy before key xs) (hsub : ys ⊆ xs) : GoesBy before key ys :=
  fun a ha b hb => h a (hsub ha) b (hsub hb)

/-! ## Runs -/

theorem exists_ascendingRun_eq_ok {previous : α} (h : GoesBy before key (previous :: xs)) :
    ∃ run more, ascendingRun before previous xs = .ok (run, more) ∧ xs = run ++ more ∧
      (previous :: run).Pairwise fun a b => key a ≤ key b := by
  induction xs generalizing previous with
  | nil => exact ⟨[], [], rfl, rfl, List.pairwise_singleton _ _⟩
  | cons x rest ih =>
    have hcompare := h x (by simp) previous (by simp)
    by_cases hlt : key x < key previous
    · refine ⟨[], x :: rest, ?_, rfl, List.pairwise_singleton _ _⟩
      rw [ascendingRun, hcompare, ok_bind, if_pos (decide_eq_true hlt)]
      rfl
    · obtain ⟨run, more, hrun, rfl, hordered⟩ := ih (h.mono (List.subset_cons_self _ _))
      refine ⟨x :: run, more, ?_, rfl, List.pairwise_cons.2 ⟨fun a ha => ?_, hordered⟩⟩
      · rw [ascendingRun, hcompare, ok_bind, if_neg (by simpa using hlt), hrun]
        rfl
      · exact (not_lt.1 hlt).trans (key_le_of_mem_cons hordered ha)

theorem exists_descendingRun_eq_ok {previous : α} (h : GoesBy before key (previous :: xs)) :
    ∃ run more, descendingRun before previous xs = .ok (run, more) ∧ xs = run ++ more ∧
      (previous :: run).Pairwise fun a b => key b < key a := by
  induction xs generalizing previous with
  | nil => exact ⟨[], [], rfl, rfl, List.pairwise_singleton _ _⟩
  | cons x rest ih =>
    have hcompare := h x (by simp) previous (by simp)
    by_cases hlt : key x < key previous
    · obtain ⟨run, more, hrun, rfl, hordered⟩ := ih (h.mono (List.subset_cons_self _ _))
      refine ⟨x :: run, more, ?_, rfl, List.pairwise_cons.2 ⟨fun a ha => ?_, hordered⟩⟩
      · rw [descendingRun, hcompare, ok_bind, if_pos (decide_eq_true hlt), hrun]
        rfl
      · rcases List.mem_cons.1 ha with rfl | ha
        · exact hlt
        · exact (List.rel_of_pairwise_cons hordered ha).trans hlt
    · refine ⟨[], x :: rest, ?_, rfl, List.pairwise_singleton _ _⟩
      rw [descendingRun, hcompare, ok_bind, if_neg (by simpa using hlt)]
      rfl

/-- A descending list has no two entries of one key, so it may be turned around. -/
theorem isStablySorted_reverse (h : xs.Pairwise fun a b => key b < key a) : IsStablySorted key xs xs.reverse := by
  induction xs with
  | nil => exact .of_pairwise .nil
  | cons x xs ih =>
    obtain ⟨hfirst, hrest⟩ := List.pairwise_cons.1 h
    rw [List.reverse_cons]
    have hlast : IsStablySorted key (xs ++ ([x] ++ [])) (xs.reverse ++ [x]) :=
      (ih hrest).append (isStablySorted_singleton key x) fun a ha b hb => by
        rw [List.mem_singleton.1 hb]
        exact (hfirst a ha).le
    have hswap := hlast.swap fun a ha b hb => by
      rw [List.mem_singleton.1 hb]
      exact hfirst a ha
    rwa [List.append_nil] at hswap

theorem exists_firstRun_eq_ok (h : GoesBy before key xs) :
    ∃ used run more, firstRun before xs = .ok (run, more) ∧ xs = used ++ more ∧ IsStablySorted key used run ∧
      (xs ≠ [] → used ≠ []) := by
  match xs, h with
  | [], _ => exact ⟨[], [], [], rfl, rfl, .of_pairwise .nil, id⟩
  | [x], _ => exact ⟨[x], [x], [], rfl, rfl, isStablySorted_singleton key x, id⟩
  | x :: y :: rest, h =>
    have hcompare := h y (by simp) x (by simp)
    have hrest := h.mono (List.subset_cons_self x (y :: rest))
    by_cases hlt : key y < key x
    · obtain ⟨run, more, hrun, rfl, hordered⟩ := exists_descendingRun_eq_ok hrest
      refine ⟨x :: y :: run, (x :: y :: run).reverse, more, ?_, rfl, isStablySorted_reverse ?_, by simp⟩
      · rw [firstRun, hcompare, ok_bind, if_pos (decide_eq_true hlt), hrun]
        rfl
      · refine List.pairwise_cons.2 ⟨fun a ha => ?_, hordered⟩
        rcases List.mem_cons.1 ha with rfl | ha
        · exact hlt
        · exact (List.rel_of_pairwise_cons hordered ha).trans hlt
    · obtain ⟨run, more, hrun, rfl, hordered⟩ := exists_ascendingRun_eq_ok hrest
      refine ⟨x :: y :: run, x :: y :: run, more, ?_, rfl, .of_pairwise ?_, by simp⟩
      · rw [firstRun, hcompare, ok_bind, if_neg (by simpa using hlt), hrun]
        rfl
      · exact List.pairwise_cons.2 ⟨fun a ha => (not_lt.1 hlt).trans (key_le_of_mem_cons hordered ha), hordered⟩

/-- An entry that is inserted behind all that it does not go before is the last one of its key. -/
theorem isStablySorted_insert {front back : List α} {x : α}
    (h : (front ++ back).Pairwise fun a b => key a ≤ key b) (hfront : ∀ a ∈ front, key a ≤ key x)
    (hback : ∀ b ∈ back, key x < key b) : IsStablySorted key (front ++ back ++ [x]) (front ++ x :: back) := by
  obtain ⟨hfirst, hlast, hle⟩ := List.pairwise_append.1 h
  have hx : IsStablySorted key ([x] ++ (back ++ [])) (x :: back) := by
    rw [List.append_nil]
    exact .of_pairwise (List.pairwise_cons.2 ⟨fun b hb => (hback b hb).le, hlast⟩)
  have hswap := hx.swap fun a ha b hb => by
    rw [List.mem_singleton.1 ha]
    exact hback b hb
  rw [List.append_assoc]
  refine (IsStablySorted.of_pairwise hfirst).append hswap fun a ha b hb => ?_
  rcases List.mem_append.1 hb with hb | hb
  · exact hle a ha b hb
  · rw [List.mem_singleton.1 hb]
    exact hfront a ha

theorem exists_insertAll_eq_ok {used run more : List α} (hrun : IsStablySorted key used run)
    (h : GoesBy before key (used ++ more)) :
    ∃ filled, insertAll before run more = .ok filled ∧ IsStablySorted key (used ++ more) filled := by
  induction more generalizing used run with
  | nil => exact ⟨run, rfl, by rwa [List.append_nil]⟩
  | cons x rest ih =>
    have hmono : run.Pairwise fun a b => key b ≤ key x → key a ≤ key x := hrun.ordered.imp le_trans
    obtain ⟨front, back, rfl, hfront, hback⟩ := exists_cut hmono
    have hcompare {y : α} (hy : y ∈ front ++ back) :
        (before x y).map (!·) = .ok (!decide (key x < key y)) := by
      rw [h x (by simp) y (List.mem_append_left _ (hrun.mem_iff.1 hy)), map_ok]
    have htrue (y : α) (hy : y ∈ front) : (before x y).map (!·) = .ok true := by
      rw [hcompare (List.mem_append_left _ hy), decide_eq_false (not_lt.2 (hfront y hy))]
      rfl
    have hfalse (y : α) (hy : y ∈ back) : (before x y).map (!·) = .ok false := by
      rw [hcompare (List.mem_append_right _ hy), decide_eq_true (not_le.1 (hback y hy))]
      rfl
    have hplace : boundary (testAt (fun y => (before x y).map (!·)) (front ++ back).toArray) false 0
        (front ++ back).length = .ok front.length :=
      boundary_eq_ok false (Nat.zero_le _) (by simp) (fun i _ hi => testAt_of_lt htrue back hi)
        fun i hi _ => testAt_of_le hfalse hi
    have hinserted := isStablySorted_insert hrun.ordered hfront fun b hb => not_le.1 (hback b hb)
    have hsorted := hrun.of_append (isStablySorted_singleton key x) hinserted
    rw [List.append_cons] at h
    obtain ⟨filled, hfilled, hstable⟩ := ih hsorted h
    refine ⟨filled, ?_, by rwa [List.append_cons]⟩
    rw [insertAll, hplace, ok_bind, List.take_left, List.drop_left, hfilled]

theorem exists_nextRun_eq_ok (h : GoesBy before key xs) (least : Nat) :
    ∃ used run more, nextRun before least xs = .ok (run, more) ∧ xs = used ++ more ∧ IsStablySorted key used run ∧
      (xs ≠ [] → used ≠ []) := by
  obtain ⟨used, run, more, hfirst, rfl, hrun, hne⟩ := exists_firstRun_eq_ok h
  have hsplit := List.take_append_drop (least - run.length) more
  have htaken : GoesBy before key (used ++ more.take (least - run.length)) :=
    h.mono (List.append_subset.2 ⟨List.subset_append_left _ _,
      fun a ha => List.mem_append_right _ (List.mem_of_mem_take ha)⟩)
  obtain ⟨filled, hfilled, hsorted⟩ := exists_insertAll_eq_ok hrun htaken
  refine ⟨_, filled, more.drop (least - run.length), ?_, ?_, hsorted, fun hxs => ?_⟩
  · rw [nextRun, hfirst, ok_bind]
    dsimp only
    rw [hfilled]
    rfl
  · rw [List.append_assoc, hsplit]
  · exact fun hnil => hne hxs (List.append_eq_nil_iff.1 hnil).1

end WorkspaceTools.Sorting
