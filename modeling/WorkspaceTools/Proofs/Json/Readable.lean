import WorkspaceTools.Json.Wide
import WorkspaceTools.Proofs.Json.RoundTrip
import WorkspaceTools.Proofs.Outcome

/-!
# What a reader gives can be read again

Every document that was read is readable at the depth at which it was read (`isReadable_readValue`), and so
is an object with one member set anew (`isReadable_set`). A document of characters is as readable as one of
units (`isReadable_widen`).
-/

namespace WorkspaceTools.Json

open Number Text

/-! ## Items and members -/

variable {τ : Type}

theorem areReadable_iff {depth : Nat} {vs : List (Json τ)} :
    AreReadable depth vs ↔ ∀ v ∈ vs, IsReadable depth v := by
  induction vs with
  | nil => simp [AreReadable]
  | cons v vs ih => simp [AreReadable, ih]

theorem areReadableMembers_iff {depth : Nat} {ms : Members τ} :
    AreReadableMembers depth ms ↔ ∀ m ∈ ms, IsReadable depth m.2 := by
  induction ms with
  | nil => simp [AreReadableMembers]
  | cons m ms ih => simp [AreReadableMembers, ih]

section

variable [DecidableEq τ]

/-- A member that is set is the new one or was there before. -/
theorem mem_set {k : τ} {v : Json τ} {ms : Members τ} {m : τ × Json τ} (h : m ∈ ms.set k v) :
    m = (k, v) ∨ m ∈ ms := by
  induction ms with
  | nil => exact .inl (List.mem_singleton.1 h)
  | cons n ms ih =>
    obtain ⟨name, w⟩ := n
    rw [Members.set] at h
    split at h
    · rename_i hk
      obtain rfl : name = k := by simpa using hk
      rcases List.mem_cons.1 h with h | h
      · exact .inl h
      · exact .inr (List.mem_cons_of_mem _ h)
    · rcases List.mem_cons.1 h with h | h
      · exact .inr (h ▸ List.mem_cons_self ..)
      · exact (ih h).imp_right (List.mem_cons_of_mem _)

theorem nodup_names_set {k : τ} {ms : Members τ} (h : ms.names.Nodup) (v : Json τ) :
    (ms.set k v).names.Nodup := by
  induction ms with
  | nil => simp [Members.set, Members.names]
  | cons n ms ih =>
    obtain ⟨name, w⟩ := n
    obtain ⟨hname, hms⟩ := List.nodup_cons.1 h
    rw [Members.set]
    split
    · rename_i hk
      obtain rfl : name = k := by simpa using hk
      exact h
    · rename_i hk
      refine List.nodup_cons.2 ⟨fun hmem => ?_, ih hms⟩
      obtain ⟨m, hm, hm'⟩ := List.mem_map.1 hmem
      rcases mem_set hm with rfl | hm
      · exact hk (by simpa using hm'.symm)
      · exact hname (List.mem_map.2 ⟨m, hm, hm'⟩)

/-- An object with one member set anew. -/
theorem isReadable_set {depth : Nat} (k : τ) {v : Json τ} {ms : Members τ}
    (h : IsReadable (depth + 1) (.obj ms)) (hv : IsReadable depth v) :
    IsReadable (depth + 1) (.obj (ms.set k v)) := by
  obtain ⟨hdepth, hnames, hms⟩ := h
  refine ⟨hdepth, nodup_names_set hnames v, areReadableMembers_iff.2 fun m hm => ?_⟩
  rcases mem_set hm with rfl | hm
  · exact hv
  · exact areReadableMembers_iff.1 hms m hm

end

/-! ## Documents of units -/

theorem names_widenMembers (ms : Members) : (widenMembers ms).names = ms.names.map WideText.ofString := by
  induction ms with
  | nil => rfl
  | cons m ms ih => exact congrArg (WideText.ofString m.1 :: ·) ih

mutual

theorem isReadable_widen {depth : Nat} {v : Json} (h : IsReadable depth v) : IsReadable depth v.widen := by
  match v, h with
  | .null, _ => trivial
  | .bool _, _ => trivial
  | .int _, h => exact h
  | .float _, h => exact h
  | .str _, _ => trivial
  | .arr vs, ⟨hdepth, hvs⟩ => exact ⟨hdepth, areReadable_widen hvs⟩
  | .obj ms, ⟨hdepth, hnames, hms⟩ =>
    refine ⟨hdepth, ?_, areReadableMembers_widen hms⟩
    rw [names_widenMembers]
    exact hnames.map fun s t h => WideText.ofString_inj.1 h

theorem areReadable_widen {depth : Nat} {vs : List Json} (h : AreReadable depth vs) :
    AreReadable depth (widenItems vs) := by
  match vs, h with
  | [], _ => trivial
  | _ :: _, ⟨hv, hvs⟩ => exact ⟨isReadable_widen hv, areReadable_widen hvs⟩

theorem areReadableMembers_widen {depth : Nat} {ms : Members} (h : AreReadableMembers depth ms) :
    AreReadableMembers depth (widenMembers ms) := by
  match ms, h with
  | [], _ => trivial
  | (_, _) :: _, ⟨hv, hms⟩ => exact ⟨isReadable_widen hv, areReadableMembers_widen hms⟩

end

/-! ## Numbers -/

theorem isReadable_natOfDigits {depth : Nat} (negative : Bool) {ds : List Char} (hne : ds ≠ [])
    (hlen : ds.length ≤ maxIntDigits) :
    IsReadable depth (.int (if negative then -(natOfDigits ds : Int) else natOfDigits ds) : Json τ) := by
  have hdigits : (natDigits (natOfDigits ds)).length ≤ maxIntDigits :=
    Nat.le_trans (length_natDigits_le (List.length_pos_iff.2 hne) (natOfDigits_lt ds)) hlen
  cases negative <;> simpa [IsReadable] using hdigits

theorem isReadable_readNumber {depth : Nat} {negative : Bool} {start cs rest : List Char} {v : Json τ}
    (h : readNumber negative start cs = .ok (v, rest)) : IsReadable depth v := by
  rw [readNumber_eq, readParts] at h
  split at h
  · cases h
  · rename_i hne
    simp only at h
    split at h
    · cases h
      exact isCanonical_ofDecimal _ _ _
    · cases h
      exact isCanonical_ofDecimal _ _ _
    · split at h
      · cases h
      · rename_i hlen
        cases h
        exact isReadable_natOfDigits negative (by simpa using hne) (Nat.not_lt.1 hlen)

/-! ## Values -/

variable [UnitText τ] [DecidableEq τ]

mutual

/-- **What was read can be read again.** -/
theorem isReadable_readValue {fuel depth : Nat} {cs rest : List Char} {v : Json τ}
    (h : readValue fuel depth cs = .ok (v, rest)) : IsReadable depth v := by
  cases fuel with
  | zero => cases h
  | succ fuel =>
    rw [readValue.eq_def] at h
    dsimp only at h
    split at h
    · obtain ⟨⟨s, r⟩, -, h⟩ := map_eq_ok.1 h
      cases h
      trivial
    · split at h
      · cases h
      · rename_i hdepth _
        cases h
        exact ⟨Nat.pos_of_ne_zero hdepth, trivial⟩
      · exact isReadable_readItems h trivial
    · split at h
      · cases h
      · rename_i hdepth _
        cases h
        exact ⟨Nat.pos_of_ne_zero hdepth, List.nodup_nil, trivial⟩
      · exact isReadable_readMembers h ⟨Nat.succ_pos _, List.nodup_nil, trivial⟩
    all_goals first
      | cases h; trivial
      | exact isReadable_readNumber h

theorem isReadable_readItems {fuel depth : Nat} {acc : List (Json τ)} {cs rest : List Char} {v : Json τ}
    (h : readItems fuel depth acc cs = .ok (v, rest)) (hacc : AreReadable depth acc) :
    IsReadable (depth + 1) v := by
  cases fuel with
  | zero => cases h
  | succ fuel =>
    rw [readItems] at h
    split at h
    · cases h
    · rename_i w r hw
      have hitem := isReadable_readValue hw
      have hacc' : AreReadable depth (w :: acc) := ⟨hitem, hacc⟩
      split at h
      · cases h
        exact ⟨Nat.succ_pos _, areReadable_iff.2 fun v hv =>
          areReadable_iff.1 hacc' v (List.mem_reverse.1 hv)⟩
      · exact isReadable_readItems h hacc'
      · cases h

theorem isReadable_readMembers {fuel depth : Nat} {acc : Members τ} {cs rest : List Char} {v : Json τ}
    (h : readMembers fuel depth acc cs = .ok (v, rest)) (hacc : IsReadable (depth + 1) (.obj acc)) :
    IsReadable (depth + 1) v := by
  cases fuel with
  | zero => cases h
  | succ fuel =>
    rw [readMembers.eq_def] at h
    dsimp only at h
    split at h
    · split at h
      · cases h
      · split at h
        · split at h
          · cases h
          · rename_i w r hw
            have hset k := isReadable_set k hacc (isReadable_readValue hw)
            split at h
            · cases h
              exact hset _
            · exact isReadable_readMembers h (hset _)
            · cases h
        · cases h
    · cases h

end

theorem isReadable_readWhole {depth : Nat} {cs : List Char} {v : Json τ}
    (h : readWhole depth cs = .ok v) : IsReadable depth v := by
  unfold readWhole readChars at h
  cases hr : (readValue (2 * cs.length + 2) depth (skipBlanks cs) : Reading (Json τ)) with
  | error e => simp [hr] at h
  | ok found =>
    obtain ⟨w, rest⟩ := found
    rw [hr] at h
    dsimp only at h
    split at h
    · rename_i hw
      split at hw
      · cases hw
        cases h
        exact isReadable_readValue hr
      · cases hw
    · cases h

theorem isReadable_read? {depth : Nat} {s : String} {v : Json τ} (h : read? depth s = .ok v) :
    IsReadable depth v := by
  unfold read? at h
  split at h
  · cases h
  · exact isReadable_readWhole h

end WorkspaceTools.Json
