import WorkspaceTools.Proofs.Sorting.Runs

/-!
# Runs are merged into the stable order

If no comparison fails, every merge sorts stably what it is given, and so does the whole.

* `merges`: two lists are merged, entry by entry and by leaps (`IsMergeable`).
* `exists_mergeRuns_eq_ok`: two runs are merged, from either side of what lies between their ends (`IsBetween`). From
  the ends the order is the dual one, so that this needs no merge of its own.
* `IsPileOf` says what the runs on a pile are made of. To merge two neighbours and to add a run keeps that
  (`Pile.exists_push_eq_ok`, `Pile.exists_collapse_eq_ok`).
* `exists_sorted_eq_ok`: a list is sorted stably. Hence it makes no difference that `sortByKey` sorts text keys in
  another way (`sortByKey_eq_sorted`).
-/

namespace WorkspaceTools

namespace Sorting

variable {ε α κ : Type} [LinearOrder κ] {key : α → κ} {before : Before ε α} {xs ys : List α}

theorem not_decide_lt {k l : κ} : (!decide (k < l)) = decide (l ≤ k) := by
  rw [← decide_not]
  exact decide_eq_decide.2 not_lt

/-! ## Entry by entry and by leaps -/

/-- Two lists in order, of which the first one has the last entry, and a comparison that does not fail and tells
whether an entry of the second one goes before an entry of the first one. -/
structure IsMergeable (yFirst : α → α → Except ε Bool) (key : α → κ) (xs ys : List α) : Prop where
  compares : ∀ x ∈ xs, ∀ y ∈ ys, yFirst x y = .ok (decide (key y < key x))
  left : xs.Pairwise fun a b => key a ≤ key b
  right : ys.Pairwise fun a b => key a ≤ key b
  last : ∀ x ∈ xs.getLast?, ∀ y ∈ ys, key y < key x

namespace IsMergeable

variable {yFirst : α → α → Except ε Bool}

/-- What is left of two lists can be merged. -/
theorem drop_left (front : List α) (h : IsMergeable yFirst key (front ++ xs) ys) (hne : xs ≠ []) :
    IsMergeable yFirst key xs ys where
  compares a ha b hb := h.compares a (List.mem_append_right _ ha) b hb
  left := (List.pairwise_append.1 h.left).2.1
  right := h.right
  last a ha := h.last a (by rwa [List.getLast?_append_of_ne_nil _ hne])

theorem drop_right (front : List α) (h : IsMergeable yFirst key xs (front ++ ys)) : IsMergeable yFirst key xs ys where
  compares a ha b hb := h.compares a ha b (List.mem_append_right _ hb)
  left := h.left
  right := (List.pairwise_append.1 h.right).2.1
  last a ha b hb := h.last a ha b (List.mem_append_right _ hb)

/-- If the second list begins with what goes before all of the first one, that goes first. -/
theorem prepend_right (front : List α) {merged : List α} (h : IsMergeable yFirst key xs (front ++ ys))
    (hlt : ∀ b ∈ front, ∀ a ∈ xs, key b < key a) (hmerged : IsStablySorted key (xs ++ ys) merged) :
    IsStablySorted key (xs ++ (front ++ ys)) (front ++ merged) := by
  obtain ⟨hfront, -, hle⟩ := List.pairwise_append.1 h.right
  have hsorted : IsStablySorted key (front ++ (xs ++ ys)) (front ++ merged) := by
    refine (IsStablySorted.of_pairwise hfront).append hmerged fun b hb c hc => ?_
    rcases List.mem_append.1 hc with hc | hc
    · exact (hlt b hb c hc).le
    · exact hle b hb c hc
  exact hsorted.swap hlt

/-- If the first list begins with what nothing of the second one goes before, that goes first. -/
theorem prepend_left (front : List α) {merged : List α} (h : IsMergeable yFirst key (front ++ xs) ys)
    (hle : ∀ a ∈ front, ∀ b ∈ ys, key a ≤ key b) (hmerged : IsStablySorted key (xs ++ ys) merged) :
    IsStablySorted key (front ++ xs ++ ys) (front ++ merged) := by
  obtain ⟨hfront, -, hrest⟩ := List.pairwise_append.1 h.left
  rw [List.append_assoc]
  refine (IsStablySorted.of_pairwise hfront).append hmerged fun a ha c hc => ?_
  rcases List.mem_append.1 hc with hc | hc
  · exact hrest a ha c hc
  · exact hle a ha c hc

/-- Where only the last entry is left of the first list, the second one goes before it. -/
theorem of_singleton (h : IsMergeable yFirst key [x] ys) : IsStablySorted key ([x] ++ ys) (ys ++ [x]) := by
  have h' : IsMergeable yFirst key [x] (ys ++ []) := by rwa [List.append_nil]
  have hlt : ∀ b ∈ ys, ∀ a ∈ [x], key b < key a := by
    intro b hb a ha
    rw [List.mem_singleton.1 ha]
    exact h.last x rfl b hb
  have hsorted := h'.prepend_right ys hlt (isStablySorted_singleton key x)
  rwa [List.append_nil] at hsorted

end IsMergeable

/-- Two lists with as many entries as there is fuel are merged, at any pace. -/
def Merges (yFirst : α → α → Except ε Bool) (fromEnd : Bool) (key : α → κ) (fuel : Nat) : Prop :=
  ∀ (patience : Nat) (pace : Pace) (xs ys : List α), xs.length + ys.length ≤ fuel → IsMergeable yFirst key xs ys →
    ∃ merged patience', mergeFrom yFirst fromEnd fuel patience pace xs ys = .ok (merged, patience') ∧
      IsStablySorted key (xs ++ ys) merged

namespace Merges

variable {yFirst : α → α → Except ε Bool} {fromEnd : Bool} {fuel : Nat} {x y : α}

/-- Entry by entry, the next one is that of the second list if it goes before the other one. -/
theorem single (hm : Merges yFirst fromEnd key fuel) (patience xWins yWins : Nat) (hne : xs ≠ [])
    (hfuel : (x :: xs).length + (y :: ys).length ≤ fuel + 1) (h : IsMergeable yFirst key (x :: xs) (y :: ys)) :
    ∃ merged patience', mergeFrom yFirst fromEnd (fuel + 1) patience (.single xWins yWins) (x :: xs) (y :: ys) =
        .ok (merged, patience') ∧ IsStablySorted key (x :: xs ++ y :: ys) merged := by
  obtain ⟨x', xs, rfl⟩ := List.exists_cons_of_ne_nil hne
  have hcompare := h.compares x (by simp) y (by simp)
  by_cases hlt : key y < key x
  · have hrest : IsMergeable yFirst key (x :: x' :: xs) ys := h.drop_right [y]
    obtain ⟨merged, patience', hmerged, hsorted⟩ := hm patience
      (if patience ≤ yWins + 1 then .leaping none else .single 0 (yWins + 1)) _ _ (by simp at hfuel ⊢; omega) hrest
    refine ⟨y :: merged, patience', ?_, h.prepend_right [y] ?_ hsorted⟩
    · simp only [mergeFrom, hcompare, ok_bind, hlt, decide_true, if_true, hmerged]
      rfl
    · intro b hb a ha
      rw [List.mem_singleton.1 hb]
      exact hlt.trans_le (key_le_of_mem_cons h.left ha)
  · have hrest : IsMergeable yFirst key (x' :: xs) (y :: ys) := h.drop_left [x] hne
    obtain ⟨merged, patience', hmerged, hsorted⟩ := hm patience
      (if patience ≤ xWins + 1 then .leaping none else .single (xWins + 1) 0) _ _ (by simp at hfuel ⊢; omega) hrest
    refine ⟨x :: merged, patience', ?_, h.prepend_left [x] ?_ hsorted⟩
    · simp only [mergeFrom, hcompare, ok_bind, hlt, decide_false, Bool.false_eq_true, if_false, hmerged]
      rfl
    · intro a ha b hb
      rw [List.mem_singleton.1 ha]
      exact (not_lt.1 hlt).trans (key_le_of_mem_cons h.right hb)

/-- By a leap of the first list, all its entries that the next one of the second list does not go before. -/
theorem leap_left (hm : Merges yFirst fromEnd key fuel) (patience : Nat) {other : Option Nat} (hne : xs ≠ [])
    (hturn : (other.isNone != fromEnd) = true) (hfuel : (x :: xs).length + (y :: ys).length ≤ fuel + 1)
    (h : IsMergeable yFirst key (x :: xs) (y :: ys)) :
    ∃ merged patience', mergeFrom yFirst fromEnd (fuel + 1) patience (.leaping other) (x :: xs) (y :: ys) =
        .ok (merged, patience') ∧ IsStablySorted key (x :: xs ++ y :: ys) merged := by
  have htest (a : α) (ha : a ∈ x :: xs) : (yFirst a y).map (!·) = .ok (decide (key a ≤ key y)) := by
    rw [h.compares a ha y (by simp), map_ok, not_decide_lt]
  obtain ⟨front, back, hcut, hholding, hfront, hback⟩ :=
    exists_holding_eq_ok fromEnd htest (h.left.imp fun hab => le_trans hab)
  obtain ⟨x', xs, rfl⟩ := List.exists_cons_of_ne_nil hne
  simp only [mergeFrom, hturn, if_true]
  rw [hcut] at h hfuel hholding ⊢
  rw [hholding, ok_bind, List.take_left, List.drop_left]
  have hle : ∀ a ∈ front, ∀ b ∈ y :: ys, key a ≤ key b :=
    fun a ha b hb => (hfront a ha).trans (key_le_of_mem_cons h.right hb)
  have hsome : back ≠ [] := by
    rintro rfl
    rw [List.append_nil] at h hcut
    have hne : front ≠ [] := hcut ▸ List.cons_ne_nil _ _
    have hlast := h.last _ (List.getLast?_eq_some_getLast hne) y (by simp)
    exact absurd (hfront _ (List.getLast_mem hne)) (not_le.2 hlast)
  have hrest := h.drop_left front hsome
  match back, hsome with
  | [last], _ =>
    refine ⟨front ++ y :: ys ++ [last], patience, rfl, ?_⟩
    have hsorted := h.prepend_left front hle hrest.of_singleton
    rwa [← List.append_assoc front (y :: ys) [last]] at hsorted
  | b :: b' :: rest, _ =>
    have hlt : ∀ c ∈ [y], ∀ a ∈ b :: b' :: rest, key c < key a := by
      intro c hc a ha
      rw [List.mem_singleton.1 hc]
      exact not_le.1 (hback a ha)
    obtain ⟨merged, patience', hmerged, hsorted⟩ := hm (Pace.afterLeap patience front.length other).1
      (Pace.afterLeap patience front.length other).2 _ _ (by simp at hfuel ⊢; omega) (hrest.drop_right [y])
    refine ⟨front ++ y :: merged, patience', ?_, h.prepend_left front hle (hrest.prepend_right [y] hlt hsorted)⟩
    simp only [hmerged, ok_bind]
    rfl

/-- By a leap of the second list, all its entries that go before the next one of the first list. -/
theorem leap_right (hm : Merges yFirst fromEnd key fuel) (patience : Nat) {other : Option Nat} (hne : xs ≠ [])
    (hturn : (other.isNone != fromEnd) = false) (hfuel : (x :: xs).length + (y :: ys).length ≤ fuel + 1)
    (h : IsMergeable yFirst key (x :: xs) (y :: ys)) :
    ∃ merged patience', mergeFrom yFirst fromEnd (fuel + 1) patience (.leaping other) (x :: xs) (y :: ys) =
        .ok (merged, patience') ∧ IsStablySorted key (x :: xs ++ y :: ys) merged := by
  obtain ⟨front, back, hcut, hholding, hfront, hback⟩ :=
    exists_holding_eq_ok fromEnd (h.compares x (by simp)) (h.right.imp fun hab => lt_of_le_of_lt hab)
  obtain ⟨x', xs, rfl⟩ := List.exists_cons_of_ne_nil hne
  simp only [mergeFrom, hturn, Bool.false_eq_true, if_false]
  rw [hcut] at h hfuel hholding ⊢
  rw [hholding, ok_bind, List.take_left, List.drop_left]
  have hlt : ∀ b ∈ front, ∀ a ∈ x :: x' :: xs, key b < key a :=
    fun b hb a ha => (hfront b hb).trans_le (key_le_of_mem_cons h.left ha)
  match back with
  | [] =>
    refine ⟨front ++ x :: x' :: xs, patience, rfl, h.prepend_right front hlt ?_⟩
    rw [List.append_nil]
    exact .of_pairwise h.left
  | b :: rest =>
    have hle : ∀ a ∈ [x], ∀ c ∈ b :: rest, key a ≤ key c := by
      intro a ha c hc
      rw [List.mem_singleton.1 ha]
      exact not_lt.1 (hback c hc)
    have hrest := h.drop_right front
    obtain ⟨merged, patience', hmerged, hsorted⟩ := hm (Pace.afterLeap patience front.length other).1
      (Pace.afterLeap patience front.length other).2 _ _ (by simp at hfuel ⊢; omega) (hrest.drop_left [x] hne)
    refine ⟨front ++ x :: merged, patience', ?_, h.prepend_right front hlt (hrest.prepend_left [x] hle hsorted)⟩
    simp only [hmerged, ok_bind]
    rfl

end Merges

theorem merges (yFirst : α → α → Except ε Bool) (fromEnd : Bool) (key : α → κ) (fuel : Nat) :
    Merges yFirst fromEnd key fuel := by
  induction fuel with
  | zero =>
    intro patience pace xs ys hfuel h
    obtain ⟨hxs, hys⟩ : xs = [] ∧ ys = [] := by simpa using hfuel
    subst hxs hys
    exact ⟨[], patience, rfl, .of_pairwise .nil⟩
  | succ fuel ih =>
    intro patience pace xs ys hfuel h
    match xs, ys, h with
    | xs, [], h =>
      refine ⟨xs, patience, by simp [mergeFrom], ?_⟩
      rw [List.append_nil]
      exact .of_pairwise h.left
    | [], y :: ys, h => exact ⟨y :: ys, patience, by simp [mergeFrom], .of_pairwise h.right⟩
    | [x], y :: ys, h => exact ⟨y :: ys ++ [x], patience, by simp [mergeFrom], h.of_singleton⟩
    | x :: x' :: xs, y :: ys, h =>
      have hne := List.cons_ne_nil x' xs
      match pace with
      | .single xWins yWins => exact ih.single patience xWins yWins hne hfuel h
      | .leaping other =>
        cases hturn : other.isNone != fromEnd with
        | true => exact ih.leap_left patience hne hturn hfuel h
        | false => exact ih.leap_right patience hne hturn hfuel h

/-! ## Two runs -/

/-- A merge without the first entry of the second list, which goes before all of the first one. -/
theorem exists_mergeFrom_eq_ok {yFirst : α → α → Except ε Bool} {y : α} (fromEnd : Bool) (fuel patience : Nat)
    (h : IsMergeable yFirst key xs (y :: ys)) (hfirst : ∀ x ∈ xs, key y < key x)
    (hfuel : xs.length + ys.length ≤ fuel) :
    ∃ merged patience', mergeFrom yFirst fromEnd fuel patience (.single 0 0) xs ys = .ok (merged, patience') ∧
      IsStablySorted key (xs ++ y :: ys) (y :: merged) := by
  have hrest : IsMergeable yFirst key xs ys := h.drop_right [y]
  obtain ⟨merged, patience', hmerged, hsorted⟩ :=
    merges yFirst fromEnd key fuel patience (.single 0 0) xs ys hfuel hrest
  refine ⟨merged, patience', hmerged, h.prepend_right [y] ?_ hsorted⟩
  intro b hb x hx
  rw [List.mem_singleton.1 hb]
  exact hfirst x hx

/-- What lies between the ends of two runs, where nothing is in its place: the second list begins with `y`, which goes
before all of the first one, and the first one ends with `x`, before which all of the second one goes. -/
structure IsBetween (before : Before ε α) (key : α → κ) (xs : List α) (x y : α) (ys : List α) : Prop where
  compares : GoesBy before key (xs ++ y :: ys)
  left : xs.Pairwise fun a b => key a ≤ key b
  right : (y :: ys).Pairwise fun a b => key a ≤ key b
  first : ∀ a ∈ xs, key y < key a
  last : xs.getLast? = some x
  behind : ∀ b ∈ y :: ys, key b < key x

namespace IsBetween

variable {x y : α}

theorem isMergeable (h : IsBetween before key xs x y ys) :
    IsMergeable (fun a b => before b a) key xs (y :: ys) where
  compares a ha b hb := h.compares b (List.mem_append_right _ hb) a (List.mem_append_left _ ha)
  left := h.left
  right := h.right
  last a ha := by
    obtain rfl := Option.some.inj (h.last.symm.trans ha)
    exact h.behind

/-- From the ends, the second list is the first one of the merge. -/
theorem isMergeable_reverse (h : IsBetween before key xs x y ys) :
    IsMergeable before (OrderDual.toDual ∘ key) (y :: ys).reverse xs.reverse where
  compares b hb a ha :=
    h.compares b (List.mem_append_right _ (List.mem_reverse.1 hb)) a (List.mem_append_left _ (List.mem_reverse.1 ha))
  left := List.pairwise_reverse.2 h.right
  right := List.pairwise_reverse.2 h.left
  last b hb a ha := by
    rw [List.getLast?_reverse] at hb
    obtain rfl := Option.some.inj hb
    exact h.first a (List.mem_reverse.1 ha)

/-- A merge from the ends, in the dual order, without the last entry of the first list. -/
theorem exists_mergeFrom_reverse_eq_ok (h : IsBetween before key xs x y ys) (patience : Nat) :
    ∃ merged patience', mergeFrom before true (xs.length + (y :: ys).length) patience (.single 0 0) (y :: ys).reverse
        (xs.reverse.drop 1) = .ok (merged, patience') ∧ IsStablySorted key (xs ++ y :: ys) (x :: merged).reverse := by
  obtain ⟨xs, rfl⟩ := List.getLast?_eq_some_iff.1 h.last
  have hmergeable := h.isMergeable_reverse
  rw [List.reverse_concat] at hmergeable ⊢
  obtain ⟨merged, patience', hmerged, hsorted⟩ := exists_mergeFrom_eq_ok true ((xs ++ [x]).length + (y :: ys).length)
    patience hmergeable (fun b hb => h.behind b (List.mem_reverse.1 hb)) (by simp; omega)
  refine ⟨merged, patience', hmerged, .reverse ?_⟩
  rw [List.reverse_append, List.reverse_concat]
  exact hsorted

end IsBetween

/-- Two runs of which the ends are in their place: what lies between is merged, from the side of the shorter one. -/
theorem mergeRuns_eq {front back : List α} {x y : α} (patience : Nat)
    (hfront : holding (fun a => (before y a).map (!·)) false (front ++ xs) = .ok front.length)
    (hback : holding (fun b => (before b x).map (!·)) true (y :: (ys ++ back)).reverse = .ok back.length)
    (hlast : xs.getLast? = some x) :
    mergeRuns before patience (front ++ xs) (y :: (ys ++ back)) =
      if xs.length ≤ (y :: ys).length then do
        let (merged, patience) ←
          mergeFrom (fun x y => before y x) false (xs.length + (y :: ys).length) patience (.single 0 0) xs ys
        return (front ++ y :: merged ++ back, patience)
      else do
        let (merged, patience) ← mergeFrom before true (xs.length + (y :: ys).length) patience (.single 0 0)
          (y :: ys).reverse (xs.reverse.drop 1)
        return (front ++ (x :: merged).reverse ++ back, patience) := by
  have hlength : (y :: (ys ++ back)).length - back.length = (y :: ys).length := by simp; omega
  rw [mergeRuns]
  simp only [hfront, ok_bind, List.take_left, List.drop_left, hlast, hback, hlength]
  rw [← List.cons_append, List.take_left, List.drop_left]
  rfl

/-- What lies between the ends is merged stably, from either side. -/
theorem IsBetween.exists_mergeRuns_eq_ok {front back : List α} {x y : α} (h : IsBetween before key xs x y ys)
    (patience : Nat) (hfront : holding (fun a => (before y a).map (!·)) false (front ++ xs) = .ok front.length)
    (hback : holding (fun b => (before b x).map (!·)) true (y :: (ys ++ back)).reverse = .ok back.length) :
    ∃ merged patience', mergeRuns before patience (front ++ xs) (y :: (ys ++ back)) =
        .ok (front ++ merged ++ back, patience') ∧ IsStablySorted key (xs ++ y :: ys) merged := by
  rw [mergeRuns_eq patience hfront hback h.last]
  split
  · obtain ⟨merged, patience', hmerged, hsorted⟩ :=
      exists_mergeFrom_eq_ok false (xs.length + (y :: ys).length) patience h.isMergeable h.first (by simp)
    refine ⟨y :: merged, patience', ?_, hsorted⟩
    rw [hmerged]
    rfl
  · obtain ⟨merged, patience', hmerged, hsorted⟩ := h.exists_mergeFrom_reverse_eq_ok patience
    refine ⟨(x :: merged).reverse, patience', ?_, hsorted⟩
    rw [hmerged]
    rfl

/-- **Two runs are merged stably**: what both ends have in its place already stays there, and what lies between is
merged. -/
theorem exists_mergeRuns_eq_ok (patience : Nat) (h : GoesBy before key (xs ++ ys))
    (hxs : xs.Pairwise fun a b => key a ≤ key b) (hys : ys.Pairwise fun a b => key a ≤ key b) :
    ∃ merged patience', mergeRuns before patience xs ys = .ok (merged, patience') ∧
      IsStablySorted key (xs ++ ys) merged := by
  match ys, hys with
  | [], _ =>
    refine ⟨xs, patience, rfl, ?_⟩
    rw [List.append_nil]
    exact .of_pairwise hxs
  | y :: ys, hys =>
    have hfrontTest (a : α) (ha : a ∈ xs) : (before y a).map (!·) = .ok (decide (key a ≤ key y)) := by
      rw [h y (by simp) a (by simp [ha]), map_ok, not_decide_lt]
    obtain ⟨front, xs', rfl, hcount, hfront, hxs'⟩ :=
      exists_holding_eq_ok false hfrontTest (hxs.imp fun hab => le_trans hab)
    obtain ⟨hfrontOrdered, hxsOrdered, hfrontLe⟩ := List.pairwise_append.1 hxs
    have hfrontRest : ∀ a ∈ front, ∀ b ∈ xs' ++ y :: ys, key a ≤ key b := by
      intro a ha b hb
      rcases List.mem_append.1 hb with hb | hb
      · exact hfrontLe a ha b hb
      · exact (hfront a ha).trans (key_le_of_mem_cons hys hb)
    rw [List.append_assoc]
    cases hlast : xs'.getLast? with
    | none =>
      -- All of the first run is in its place, before all of the second one.
      obtain rfl := List.getLast?_eq_none_iff.1 hlast
      refine ⟨front ++ y :: ys, patience, ?_, ?_⟩
      · rw [mergeRuns]
        simp only [hcount, ok_bind, List.take_left, List.drop_left, hlast]
        rfl
      · exact (IsStablySorted.of_pairwise hfrontOrdered).append (.of_pairwise hys) hfrontRest
    | some x =>
      have hx : x ∈ xs' := List.mem_of_getLast? hlast
      have hbackTest (b : α) (hb : b ∈ y :: ys) : (before b x).map (!·) = .ok (decide (key x ≤ key b)) := by
        rw [h b (List.mem_append_right _ hb) x (by simp [hx]), map_ok, not_decide_lt]
      obtain ⟨ys', back, hcut, hcount', hys', hback⟩ :=
        exists_holding_reverse_eq_ok true hbackTest (hys.imp fun hab ha => ha.trans hab)
      cases ys' with
      | nil =>
        -- `y` would go behind `x`, but it goes before all that is left of the first run.
        have hy : y ∈ back := by
          rw [List.nil_append] at hcut
          exact hcut ▸ List.mem_cons_self
        exact absurd (hback y hy) (hxs' x hx)
      | cons y' ys' =>
        rw [List.cons_append] at hcut
        obtain ⟨rfl, rfl⟩ := List.cons.inj hcut
        rw [← List.cons_append] at hys
        obtain ⟨hysOrdered, hbackOrdered, hysLe⟩ := List.pairwise_append.1 hys
        have hbackRest : ∀ a ∈ xs' ++ y :: ys', ∀ b ∈ back, key a ≤ key b := by
          intro a ha b hb
          rcases List.mem_append.1 ha with ha | ha
          · exact (key_le_of_getLast? hxsOrdered hlast ha).trans (hback b hb)
          · exact hysLe a ha b hb
        have hbetween : IsBetween before key xs' x y ys' :=
          ⟨h.mono fun a ha => by simp at ha ⊢; tauto, hxsOrdered, hysOrdered, fun a ha => not_le.1 (hxs' a ha), hlast,
            fun b hb => not_le.1 (hys' b hb)⟩
        obtain ⟨merged, patience', hmerged, hsorted⟩ := hbetween.exists_mergeRuns_eq_ok patience hcount hcount'
        refine ⟨_, patience', hmerged, ?_⟩
        rw [List.append_assoc, ← List.cons_append, ← List.append_assoc xs']
        exact hsorted.between hfrontOrdered hbackOrdered (by simpa using hfrontRest) hbackRest

/-! ## Piles -/

/-- The runs on a pile, last one first, are sorted parts of a list. -/
inductive IsPileOf (key : α → κ) : List (Waiting α) → List α → Prop
  | nil : IsPileOf key [] []
  | cons {runs : List (Waiting α)} {given part : List α} {run : Waiting α} :
    IsPileOf key runs given → IsStablySorted key part run.entries → IsPileOf key (run :: runs) (given ++ part)

/-- Two neighbouring parts may be one. -/
theorem IsPileOf.cons_append {runs : List (Waiting α)} {given part part' : List α} {run : Waiting α}
    (hruns : IsPileOf key runs given) (hrun : IsStablySorted key (part ++ part') run.entries) :
    IsPileOf key (run :: runs) (given ++ part ++ part') := by
  rw [List.append_assoc]
  exact .cons hruns hrun

namespace Pile

theorem exists_join_eq_ok {left right : Waiting α} (patience : Nat) (h : GoesBy before key (xs ++ ys))
    (hleft : IsStablySorted key xs left.entries) (hright : IsStablySorted key ys right.entries) :
    ∃ joined patience', join before patience left right = .ok (joined, patience') ∧
      IsStablySorted key (xs ++ ys) joined.entries := by
  have hentries : GoesBy before key (left.entries ++ right.entries) :=
    h.mono (hleft.perm.append hright.perm).subset
  obtain ⟨merged, patience', hmerged, hsorted⟩ :=
    exists_mergeRuns_eq_ok patience hentries hleft.ordered hright.ordered
  refine ⟨{ left with entries := merged }, patience', ?_, hleft.of_append hright hsorted⟩
  rw [join, hmerged]
  rfl

/-- The last run is merged with those before it, as many as it takes; how many makes no difference here. -/
theorem exists_settle_eq_ok {runs : List (Waiting α)} {last : Waiting α} (power patience : Nat)
    (h : GoesBy before key (xs ++ ys)) (hruns : IsPileOf key runs xs) (hlast : IsStablySorted key ys last.entries) :
    ∃ settled, settle before power patience last runs = .ok settled ∧ IsPileOf key settled.runs (xs ++ ys) := by
  induction hruns generalizing patience last ys with
  | nil => exact ⟨_, rfl, .cons .nil hlast⟩
  | @cons runs given part left hruns hleft ih =>
    rw [settle]
    split
    · rw [List.append_assoc] at h ⊢
      obtain ⟨joined, patience', hjoined, hsorted⟩ :=
        exists_join_eq_ok patience (h.mono (List.subset_append_right _ _)) hleft hlast
      rw [hjoined]
      exact ih patience' h hsorted
    · exact ⟨_, rfl, .cons (.cons hruns hleft) hlast⟩

theorem exists_push_eq_ok {pile : Pile α} {run : List α} (total : Nat) (h : GoesBy before key xs)
    (hpile : IsPileOf key pile.runs xs) (hrun : IsStablySorted key ys run) :
    ∃ pushed, pile.push before total run = .ok pushed ∧ IsPileOf key pushed.runs (xs ++ ys) := by
  obtain ⟨runs, patience⟩ := pile
  cases hpile with
  | nil => exact ⟨_, rfl, .cons .nil hrun⟩
  | @cons runs given part last hrest hlast =>
    obtain ⟨settled, hsettled, hruns⟩ := exists_settle_eq_ok _ patience h hrest hlast
    refine ⟨{ settled with runs := ⟨run, last.start + last.entries.length, 0⟩ :: settled.runs }, ?_,
      .cons hruns hrun⟩
    rw [push]
    dsimp only
    rw [hsettled]
    rfl

/-- All runs are merged into one. -/
theorem exists_collapse_eq_ok {pile : Pile α} {fuel : Nat} (h : GoesBy before key xs)
    (hpile : IsPileOf key pile.runs xs) (hfuel : pile.runs.length ≤ fuel) :
    ∃ merged, collapse before fuel pile = .ok merged ∧ IsStablySorted key xs merged := by
  induction fuel generalizing pile with
  | zero =>
    obtain ⟨runs, patience⟩ := pile
    obtain rfl := List.eq_nil_of_length_eq_zero (Nat.le_zero.1 hfuel)
    cases hpile
    exact ⟨[], rfl, .of_pairwise .nil⟩
  | succ fuel ih =>
    match pile, hpile with
    | ⟨[], _⟩, .nil => exact ⟨[], rfl, .of_pairwise .nil⟩
    | ⟨[run], _⟩, .cons .nil hrun =>
      refine ⟨run.entries, ?_, hrun⟩
      rw [collapse]
      · simp
      · simp
      · simp
    | ⟨[last, first], patience⟩, .cons (.cons .nil hfirst) hlast =>
      obtain ⟨joined, patience', hjoined, hsorted⟩ := exists_join_eq_ok patience h hfirst hlast
      rw [collapse, hjoined]
      exact ih (.cons_append .nil hsorted) (by simp at hfuel ⊢; omega)
    | ⟨last :: middle :: first :: rest, patience⟩, .cons (.cons (.cons hrest hfirst) hmiddle) hlast =>
      rw [collapse]
      split
      · obtain ⟨joined, patience', hjoined, hsorted⟩ :=
          exists_join_eq_ok patience (h.mono fun a ha => by simp at ha ⊢; tauto) hfirst hmiddle
        rw [hjoined]
        exact ih (.cons (.cons_append hrest hsorted) hlast) (by simp at hfuel ⊢; omega)
      · obtain ⟨joined, patience', hjoined, hsorted⟩ :=
          exists_join_eq_ok patience (h.mono fun a ha => by simp at ha ⊢; tauto) hmiddle hlast
        rw [hjoined]
        exact ih (.cons_append (.cons hrest hfirst) hsorted) (by simp at hfuel ⊢; omega)

/-- All of a list is cut into runs. -/
theorem exists_fill_eq_ok {pile : Pile α} {fuel : Nat} (total least : Nat) (h : GoesBy before key (xs ++ ys))
    (hpile : IsPileOf key pile.runs xs) (hfuel : ys.length ≤ fuel) :
    ∃ filled, fill before total least fuel pile ys = .ok filled ∧ IsPileOf key filled.runs (xs ++ ys) := by
  induction fuel generalizing pile xs ys with
  | zero =>
    obtain rfl := List.eq_nil_of_length_eq_zero (Nat.le_zero.1 hfuel)
    exact ⟨pile, rfl, by rwa [List.append_nil]⟩
  | succ fuel ih =>
    cases hys : ys with
    | nil => exact ⟨pile, rfl, by rwa [List.append_nil]⟩
    | cons y rest =>
      rw [← hys]
      have hne : ys ≠ [] := hys ▸ List.cons_ne_nil y rest
      obtain ⟨used, run, more, hrun, rfl, hsorted, hused⟩ :=
        exists_nextRun_eq_ok (h.mono (List.subset_append_right _ _)) least
      have hpositive := List.length_pos_iff.2 (hused hne)
      rw [← List.append_assoc] at h ⊢
      have hgiven : GoesBy before key xs :=
        h.mono fun a ha => List.mem_append_left _ (List.mem_append_left _ ha)
      obtain ⟨pushed, hpushed, hpile'⟩ := exists_push_eq_ok total hgiven hpile hsorted
      obtain ⟨filled, hfilled, hruns⟩ := ih h hpile' (by simp at hfuel ⊢; omega)
      refine ⟨filled, ?_, hruns⟩
      rw [fill, hrun, ok_bind]
      · dsimp only
        rw [hpushed]
        exact hfilled
      · exact hne

end Pile

/-- **Sorting finds the stable order** if no comparison fails. -/
theorem exists_sorted_eq_ok (h : GoesBy before key xs) :
    ∃ ys, sorted before xs = .ok ys ∧ IsStablySorted key xs ys := by
  have hempty : IsPileOf key ({} : Pile α).runs [] := .nil
  have hall : GoesBy before key ([] ++ xs) := h
  obtain ⟨pile, hpile, hruns⟩ := Pile.exists_fill_eq_ok xs.length (leastRun xs.length 0) hall hempty le_rfl
  obtain ⟨merged, hmerged, hsorted⟩ := Pile.exists_collapse_eq_ok h hruns le_rfl
  refine ⟨merged, ?_, hsorted⟩
  rw [sorted, hpile]
  exact hmerged

end Sorting

/-! ## Text keys -/

/-- An entry with a text as its key. -/
def keyedByText {α : Type} (entry : String × α) : Keyed α := (.str entry.1, entry.2)

theorem eq_map_of_textKeys? {α : Type} {xs : List (Keyed α)} {entries : List (String × α)}
    (h : textKeys? xs = some entries) : xs = entries.map keyedByText := by
  induction xs using textKeys?.induct generalizing entries with
  | case1 =>
    cases h
    rfl
  | case2 s a rest ih =>
    obtain ⟨entries, hrest, rfl⟩ := Option.map_eq_some_iff.1 h
    rw [ih hrest]
    rfl
  | case3 xs hnil hcons =>
    rw [textKeys?] at h
    · cases h
    · exact hnil
    · exact hcons

theorem goesBy_keyedByText {α : Type} (entries : List (String × α)) :
    Sorting.GoesBy (fun a b => a.1.before b.1) (fun entry => entry.1.display) (entries.map keyedByText) := by
  intro a ha b hb
  obtain ⟨p, -, rfl⟩ := List.mem_map.1 ha
  obtain ⟨q, -, rfl⟩ := List.mem_map.1 hb
  rfl

/-- **Text keys may be sorted by runs as well**: the two ways to sort agree. -/
theorem sortByKey_eq_sorted {α : Type} (xs : List (Keyed α)) :
    sortByKey xs = (Sorting.sorted (fun a b => a.1.before b.1) xs).map (·.map Prod.snd) := by
  rw [sortByKey]
  cases htexts : textKeys? xs with
  | none => rfl
  | some entries =>
    obtain rfl := eq_map_of_textKeys? htexts
    obtain ⟨sorted, hsorted, hstable⟩ := Sorting.exists_sorted_eq_ok (goesBy_keyedByText entries)
    have htext : IsStablySorted (fun entry => entry.1.display) (entries.map keyedByText)
        ((sortByText entries).map keyedByText) :=
      (isStablySorted_mergeSort Prod.fst entries).map keyedByText
    rw [hsorted, hstable.unique htext, map_ok, List.map_map]
    rfl

end WorkspaceTools
