import Mathlib.Data.String.Basic
import WorkspaceTools.Json.Order

/-!
# Stable orders

`IsStablySorted key given sorted` says that a list has the entries of another one in the order of their keys, and
those with one key in the given order. There is one such list (`IsStablySorted.unique`), and to sort by a key that
is a text finds it (`isStablySorted_sortByText`, `exists_sortByKey_eq_ok`).
-/

namespace WorkspaceTools

variable {α κ : Type} [LinearOrder κ] {key : α → κ} {given given' sorted sorted' : List α}

/-- The entries of a list in the order of their keys, and those with one key in the given order. -/
structure IsStablySorted (key : α → κ) (given sorted : List α) : Prop where
  perm : sorted.Perm given
  ordered : sorted.Pairwise fun a b => key a ≤ key b
  stable : ∀ k, sorted.filter (fun a => key a = k) = given.filter (fun a => key a = k)

/-! ## One order -/

/-- Two lists that agree on the entries of every key have the same entries. -/
theorem subset_of_filter_eq (h : ∀ k, sorted.filter (fun a => key a = k) = sorted'.filter (fun a => key a = k)) :
    sorted ⊆ sorted' := by
  intro a ha
  have hfilter : a ∈ sorted.filter fun b => key b = key a := List.mem_filter.2 ⟨ha, decide_eq_true rfl⟩
  rw [h] at hfilter
  exact List.mem_of_mem_filter hfilter

/-- The first key of an ordered list is the least one. -/
theorem key_le_of_mem_cons {a b : α} {rest : List α} (hordered : (a :: rest).Pairwise fun a b => key a ≤ key b)
    (hb : b ∈ a :: rest) : key a ≤ key b := by
  rcases List.mem_cons.1 hb with rfl | hb
  · exact le_rfl
  · exact List.rel_of_pairwise_cons hordered hb

/-- The last key of an ordered list is the greatest one. -/
theorem key_le_of_getLast? {a b : α} (hordered : given.Pairwise fun a b => key a ≤ key b)
    (hlast : given.getLast? = some b) (ha : a ∈ given) : key a ≤ key b := by
  obtain ⟨front, rfl⟩ := List.getLast?_eq_some_iff.1 hlast
  rcases List.mem_append.1 ha with ha | ha
  · exact (List.pairwise_append.1 hordered).2.2 a ha b List.mem_cons_self
  · exact (congrArg key (List.mem_singleton.1 ha)).le

/-- An ordered list is determined by what it has of every key. -/
theorem eq_of_filter_eq (hordered : sorted.Pairwise fun a b => key a ≤ key b)
    (hordered' : sorted'.Pairwise fun a b => key a ≤ key b)
    (h : ∀ k, sorted.filter (fun a => key a = k) = sorted'.filter (fun a => key a = k)) : sorted = sorted' := by
  induction sorted generalizing sorted' with
  | nil => exact (List.subset_nil.1 (subset_of_filter_eq fun k => (h k).symm)).symm
  | cons a rest ih =>
    cases sorted' with
    | nil => exact absurd (List.subset_nil.1 (subset_of_filter_eq h)) (List.cons_ne_nil a rest)
    | cons b rest' =>
      -- Both first keys are the least ones of the same entries.
      have hb : b ∈ a :: rest := subset_of_filter_eq (fun k => (h k).symm) List.mem_cons_self
      have ha : a ∈ b :: rest' := subset_of_filter_eq h List.mem_cons_self
      have hkey : key b = key a := le_antisymm (key_le_of_mem_cons hordered' ha) (key_le_of_mem_cons hordered hb)
      have hfirst := h (key a)
      simp only [List.filter_cons, hkey, decide_true, if_true] at hfirst
      obtain ⟨rfl, -⟩ := List.cons.inj hfirst
      rw [ih hordered.of_cons hordered'.of_cons fun k => ?_]
      have hk := h k
      rw [List.filter_cons, List.filter_cons] at hk
      split at hk
      · exact (List.cons.inj hk).2
      · exact hk

/-- **There is one stable order.** -/
theorem IsStablySorted.unique (h : IsStablySorted key given sorted) (h' : IsStablySorted key given sorted') :
    sorted = sorted' :=
  eq_of_filter_eq h.ordered h'.ordered fun k => (h.stable k).trans (h'.stable k).symm

theorem isStablySorted_singleton (key : α → κ) (a : α) : IsStablySorted key [a] [a] :=
  ⟨.refl _, List.pairwise_singleton _ _, fun _ => rfl⟩

/-- A smaller key goes before two equal ones, which stay as they are. -/
theorem isStablySorted_triple {a b c : α} (hac : key a = key c) (hba : key b < key a) :
    IsStablySorted key [a, b, c] [b, a, c] := by
  refine ⟨.swap a b [c], ?_, fun k => ?_⟩
  · simp [← hac, hba.le]
  · by_cases ha : key a = k
    · simp [← hac, ha, (ha ▸ hba).ne]
    · simp [List.filter_cons, ← hac, ha]

/-! ## Orders that are put together -/

namespace IsStablySorted

theorem mem_iff (h : IsStablySorted key given sorted) {a : α} : a ∈ sorted ↔ a ∈ given := h.perm.mem_iff

/-- A list in order stays as it is. -/
theorem of_pairwise (h : given.Pairwise fun a b => key a ≤ key b) : IsStablySorted key given given :=
  ⟨.refl given, h, fun _ => rfl⟩

/-- Of two lists, the one after the other, if nothing in the second one goes before anything in the first one. -/
theorem append (h : IsStablySorted key given sorted) (h' : IsStablySorted key given' sorted')
    (hle : ∀ a ∈ given, ∀ b ∈ given', key a ≤ key b) : IsStablySorted key (given ++ given') (sorted ++ sorted') where
  perm := h.perm.append h'.perm
  ordered := List.pairwise_append.2
    ⟨h.ordered, h'.ordered, fun a ha b hb => hle a (h.mem_iff.1 ha) b (h'.mem_iff.1 hb)⟩
  stable k := by rw [List.filter_append, List.filter_append, h.stable, h'.stable]

/-- Between two lists in order, if everything is in its place there. -/
theorem between {front back : List α} (h : IsStablySorted key given sorted)
    (hfront : front.Pairwise fun a b => key a ≤ key b) (hback : back.Pairwise fun a b => key a ≤ key b)
    (hle : ∀ a ∈ front, ∀ b ∈ given ++ back, key a ≤ key b) (hle' : ∀ a ∈ given, ∀ b ∈ back, key a ≤ key b) :
    IsStablySorted key (front ++ (given ++ back)) (front ++ (sorted ++ back)) :=
  (of_pairwise hfront).append (h.append (of_pairwise hback) hle') hle

/-- What was sorted in two parts may be sorted once more as a whole. -/
theorem of_append {whole : List α} (h : IsStablySorted key given sorted) (h' : IsStablySorted key given' sorted')
    (hwhole : IsStablySorted key (sorted ++ sorted') whole) : IsStablySorted key (given ++ given') whole where
  perm := hwhole.perm.trans (h.perm.append h'.perm)
  ordered := hwhole.ordered
  stable k := by rw [hwhole.stable, List.filter_append, List.filter_append, h.stable, h'.stable]

/-- Parts of which the one goes before the other may be given in either order. -/
theorem swap {first second rest : List α} (h : IsStablySorted key (first ++ (second ++ rest)) sorted)
    (hlt : ∀ a ∈ first, ∀ b ∈ second, key a < key b) : IsStablySorted key (second ++ (first ++ rest)) sorted where
  perm := h.perm.trans (List.perm_append_comm_assoc first second rest)
  ordered := h.ordered
  stable k := by
    rw [h.stable]
    simp only [List.filter_append]
    by_cases hk : ∃ a ∈ first, key a = k
    · obtain ⟨a, ha, rfl⟩ := hk
      have hnone : second.filter (fun b => key b = key a) = [] :=
        List.filter_eq_nil_iff.2 fun b hb => by simpa using (hlt a ha b hb).ne'
      rw [hnone, List.nil_append, List.nil_append]
    · have hnone : first.filter (fun a => key a = k) = [] :=
        List.filter_eq_nil_iff.2 fun a ha => by simpa using fun hak => hk ⟨a, ha, hak⟩
      rw [hnone, List.nil_append, List.nil_append]

/-- What is sorted by the keys of its values. -/
theorem map {β : Type} (f : β → α) {given sorted : List β} (h : IsStablySorted (key ∘ f) given sorted) :
    IsStablySorted key (given.map f) (sorted.map f) where
  perm := h.perm.map f
  ordered := List.pairwise_map.2 h.ordered
  stable k := by
    rw [List.filter_map, List.filter_map]
    exact congrArg (List.map f) (h.stable k)

/-- What is sorted from its end, the other way round, is sorted. -/
theorem reverse (h : IsStablySorted (OrderDual.toDual ∘ key) given.reverse sorted) :
    IsStablySorted key given sorted.reverse where
  perm := (List.reverse_perm sorted).trans (h.perm.trans (List.reverse_perm given))
  ordered := List.pairwise_reverse.2 h.ordered
  stable k := by
    rw [List.filter_reverse]
    have hdual := congrArg List.reverse (h.stable (OrderDual.toDual k))
    rwa [List.filter_reverse, List.reverse_reverse] at hdual

end IsStablySorted

/-! ## Sorting by text keys -/

/-- To merge keeps what is in order as it is, so the entries of one key too. -/
theorem isStablySorted_mergeSort (key : α → κ) (given : List α) :
    IsStablySorted key given (given.mergeSort fun a b => decide (key a ≤ key b)) := by
  have htrans (a b c : α) (hab : decide (key a ≤ key b) = true) (hbc : decide (key b ≤ key c) = true) :
      decide (key a ≤ key c) = true :=
    decide_eq_true (le_trans (of_decide_eq_true hab) (of_decide_eq_true hbc))
  have htotal (a b : α) : (decide (key a ≤ key b) || decide (key b ≤ key a)) = true := by
    rw [Bool.or_eq_true, decide_eq_true_eq, decide_eq_true_eq]
    exact le_total _ _
  refine ⟨List.mergeSort_perm _ _, ?_, fun k => ?_⟩
  · exact (List.pairwise_mergeSort htrans htotal given).imp of_decide_eq_true
  · have hkey : (given.filter fun a => key a = k).Pairwise fun a b => decide (key a ≤ key b) = true := by
      refine List.pairwise_of_forall_mem_list fun a ha b hb => decide_eq_true (le_of_eq ?_)
      rw [of_decide_eq_true (List.mem_filter.1 ha).2, of_decide_eq_true (List.mem_filter.1 hb).2]
    have hsub := (List.sublist_mergeSort htrans htotal hkey List.filter_sublist).filter fun a => key a = k
    simp only [List.filter_filter, Bool.and_self] at hsub
    exact (hsub.eq_of_length ((List.mergeSort_perm given _).filter _).length_eq.symm).symm

/-- What is sorted with its keys is sorted by them. -/
theorem isStablySorted_sortByText (key : α → String) (given : List α) :
    IsStablySorted key given ((sortByText (given.map fun a => (key a, a))).map Prod.snd) := by
  have hmap := List.map_mergeSort (r := fun a b => decide (key a ≤ key b))
    (s := fun a b => decide (a.1 ≤ b.1)) (f := fun a => (key a, a)) (l := given) fun a _ b _ => rfl
  have hsorted := isStablySorted_mergeSort key given
  rw [sortByText, ← hmap, List.map_map]
  rwa [show (Prod.snd ∘ fun a => (key a, a)) = id from rfl, List.map_id]

/-- Keys that are all texts. -/
theorem textKeys?_map (key : α → Json) (name : α → String) (given : List α)
    (h : ∀ a ∈ given, key a = .str (name a)) :
    textKeys? (given.map fun a => (key a, a)) = some (given.map fun a => (name a, a)) := by
  induction given with
  | nil => rfl
  | cons a rest ih =>
    obtain ⟨ha, hrest⟩ := List.forall_mem_cons.1 h
    rw [List.map_cons, ha, textKeys?, ih hrest]
    rfl

/-- **Keys that are all texts** have an order, and the values are sorted by it. -/
theorem exists_sortByKey_eq_ok (key : α → Json) (name : α → String) (given : List α)
    (h : ∀ a ∈ given, key a = .str (name a)) :
    ∃ sorted, sortByKey (given.map fun a => (key a, a)) = .ok sorted ∧ IsStablySorted name given sorted := by
  refine ⟨_, ?_, isStablySorted_sortByText name given⟩
  rw [sortByKey, textKeys?_map key name given h]

end WorkspaceTools
