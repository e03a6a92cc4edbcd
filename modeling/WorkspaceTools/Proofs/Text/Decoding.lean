import WorkspaceTools.Proofs.Text.Utf8

/-!
# Bytes that are a text

Bytes are read as a text exactly if they are the bytes of that text (`decodeUtf8?_eq_ok_iff`). The
invariant is `Begun.Encodes`: however a character that has begun goes on, its bytes are those of the
character that is read (`Begun.Encodes.next`, `eq_encodeUtf8Chars_of_piecesFrom`).
-/

namespace WorkspaceTools.Text

/-! ## The bytes of a character -/

section Characters

variable {n : Nat} {b₁ b₂ b₃ b₄ : UInt8}

theorem ofNat_eq_of_toNat {b : UInt8} {k : Nat} (h : b.toNat = k) : UInt8.ofNat k = b := by
  rw [← h, UInt8.ofNat_toNat]

theorem utf8EncodeChar_one (h₁ : b₁.toNat = n) (h : n < 0x80) :
    String.utf8EncodeChar (Char.ofNat n) = [b₁] := by
  unfold String.utf8EncodeChar
  rw [toNat_ofNat_of_valid (by omega)]
  dsimp only
  rw [if_pos (by omega), ofNat_eq_of_toNat h₁]

theorem utf8EncodeChar_two (hl : 0x80 ≤ n) (hh : n < 0x800) (h₁ : b₁.toNat = n / 64 + 0xC0)
    (h₂ : b₂.toNat = n % 64 + 0x80) : String.utf8EncodeChar (Char.ofNat n) = [b₁, b₂] := by
  unfold String.utf8EncodeChar
  rw [toNat_ofNat_of_valid (by omega)]
  dsimp only
  rw [if_neg (by omega), if_pos (by omega), ofNat_eq_of_toNat (b := b₁) (by omega), ofNat_eq_of_toNat h₂]

theorem utf8EncodeChar_three (hl : 0x800 ≤ n) (hh : n < 0x10000) (hs : n < 0xD800 ∨ 0xDFFF < n)
    (h₁ : b₁.toNat = n / 4096 + 0xE0) (h₂ : b₂.toNat = n / 64 % 64 + 0x80)
    (h₃ : b₃.toNat = n % 64 + 0x80) : String.utf8EncodeChar (Char.ofNat n) = [b₁, b₂, b₃] := by
  unfold String.utf8EncodeChar
  rw [toNat_ofNat_of_valid (by omega)]
  dsimp only
  rw [if_neg (by omega), if_neg (by omega), if_pos (by omega), ofNat_eq_of_toNat (b := b₁) (by omega),
    ofNat_eq_of_toNat h₂, ofNat_eq_of_toNat h₃]

theorem utf8EncodeChar_four (hl : 0x10000 ≤ n) (hh : n < 0x110000) (h₁ : b₁.toNat = n / 262144 + 0xF0)
    (h₂ : b₂.toNat = n / 4096 % 64 + 0x80) (h₃ : b₃.toNat = n / 64 % 64 + 0x80)
    (h₄ : b₄.toNat = n % 64 + 0x80) : String.utf8EncodeChar (Char.ofNat n) = [b₁, b₂, b₃, b₄] := by
  unfold String.utf8EncodeChar
  rw [toNat_ofNat_of_valid (by omega)]
  dsimp only
  rw [if_neg (by omega), if_neg (by omega), if_neg (by omega), ofNat_eq_of_toNat (b := b₁) (by omega),
    ofNat_eq_of_toNat h₂, ofNat_eq_of_toNat h₃, ofNat_eq_of_toNat h₄]

end Characters

/-! ## Characters that have begun -/

/-- The code of a character after some more of its bytes. -/
def codeAfter (code : Nat) (bs : Bytes) : Nat := bs.foldl (fun n b => n * 64 + (b.toNat - 0x80)) code

@[simp] theorem codeAfter_nil (code : Nat) : codeAfter code [] = code := rfl

@[simp] theorem codeAfter_cons (code : Nat) (b : UInt8) (bs : Bytes) :
    codeAfter code (b :: bs) = codeAfter (code * 64 + (b.toNat - 0x80)) bs := by
  rw [codeAfter, List.foldl_cons, codeAfter]

/-- Whatever completes the character, the bytes are those of the character that is read. -/
def Begun.Encodes (s : Begun) : Prop :=
  ∀ next rest, s.low ≤ UInt8.toNat next → UInt8.toNat next ≤ s.high →
    (∀ b ∈ rest, 0x80 ≤ UInt8.toNat b ∧ UInt8.toNat b ≤ 0xBF) → rest.length + 1 = s.missing →
    s.bytes.reverse ++ next :: rest = String.utf8EncodeChar (Char.ofNat (codeAfter s.code (next :: rest)))

/-- One more byte that is not the last one. -/
theorem Begun.Encodes.next {s : Begun} (h : s.Encodes) {b : UInt8} (hl : s.low ≤ b.toNat)
    (hh : b.toNat ≤ s.high) :
    Begun.Encodes ⟨b :: s.bytes, s.missing - 1, s.code * 64 + (b.toNat - 0x80), 0x80, 0xBF⟩ := by
  intro next rest hnextl hnexth hrest hlen
  have hbounds : ∀ c ∈ next :: rest, 0x80 ≤ UInt8.toNat c ∧ UInt8.toNat c ≤ 0xBF := by
    intro c hc
    rcases List.mem_cons.1 hc with rfl | hc
    · exact ⟨hnextl, hnexth⟩
    · exact hrest c hc
  dsimp only at hlen
  have hall := h b (next :: rest) hl hh hbounds (by rw [List.length_cons]; omega)
  rw [codeAfter_cons] at hall
  rw [List.reverse_cons, List.append_assoc, List.singleton_append]
  exact hall

theorem Begun.Encodes.last {s : Begun} (h : s.Encodes) {b : UInt8} (hl : s.low ≤ b.toNat)
    (hh : b.toNat ≤ s.high) (hm : s.missing = 1) :
    s.bytes.reverse ++ [b] = String.utf8EncodeChar (Char.ofNat (s.code * 64 + (b.toNat - 0x80))) := by
  have hall := h b [] hl hh (fun c hc => by cases hc) hm.symm
  rwa [codeAfter_cons, codeAfter_nil] at hall

theorem encodes_of_firstByte {b : UInt8} {s : Begun} (h : firstByte b = .inr s) : s.Encodes := by
  have hb : b.toNat < 256 := b.toNat_lt
  unfold firstByte at h
  dsimp only at h
  split at h
  · cases h
  split at h
  · cases h
  split at h
  · cases h
    intro c rest hl hh hrest hlen
    obtain rfl : rest = [] := List.length_eq_zero_iff.1 (by simpa using hlen)
    rw [codeAfter_cons, codeAfter_nil]
    dsimp only at hl hh ⊢
    exact (utf8EncodeChar_two (by omega) (by omega) (by omega) (by omega)).symm
  split at h
  · cases h
    intro c rest hl hh hrest hlen
    obtain ⟨d, rfl⟩ : ∃ d, rest = [d] := List.length_eq_one_iff.1 (by simpa using hlen)
    have hd := hrest d (by simp)
    rw [codeAfter_cons, codeAfter_cons, codeAfter_nil]
    dsimp only at hl hh ⊢
    have hlow : 0x80 ≤ c.toNat ∧ (b.toNat = 0xE0 → 0xA0 ≤ c.toNat) := by split at hl <;> omega
    have hhigh : c.toNat ≤ 0xBF ∧ (b.toNat = 0xED → c.toNat ≤ 0x9F) := by split at hh <;> omega
    clear hl hh
    exact (utf8EncodeChar_three (by omega) (by omega) (by omega) (by omega) (by omega) (by omega)).symm
  split at h
  · cases h
    intro c rest hl hh hrest hlen
    obtain ⟨d, e, rfl⟩ : ∃ d e, rest = [d, e] := List.length_eq_two.1 (by simpa using hlen)
    have hd := hrest d (by simp)
    have he := hrest e (by simp)
    rw [codeAfter_cons, codeAfter_cons, codeAfter_cons, codeAfter_nil]
    dsimp only at hl hh ⊢
    have hlow : 0x80 ≤ c.toNat ∧ (b.toNat = 0xF0 → 0x90 ≤ c.toNat) := by split at hl <;> omega
    have hhigh : c.toNat ≤ 0xBF ∧ (b.toNat = 0xF4 → c.toNat ≤ 0x8F) := by split at hh <;> omega
    clear hl hh
    exact (utf8EncodeChar_four (by omega) (by omega) (by omega) (by omega) (by omega) (by omega)).symm
  · cases h

/-! ## Texts -/

theorem encode_of_firstByte {b : UInt8} {c : Char} (h : firstByte b = .inl (.char c)) :
    [b] = String.utf8EncodeChar c := by
  unfold firstByte at h
  dsimp only at h
  split at h
  · cases h
    rename_i hb
    exact (utf8EncodeChar_one rfl hb).symm
  all_goals
    repeat' split at h
    all_goals cases h

theorem bytes_of_firstByte {b : UInt8} {s : Begun} (h : firstByte b = .inr s) : s.bytes = [b] := by
  unfold firstByte at h
  dsimp only at h
  repeat' split at h
  all_goals cases h
  all_goals rfl

/-- Bytes that are characters only are the bytes of these characters. -/
theorem eq_encodeUtf8Chars_of_piecesFrom (state : Option Begun) (bs : Bytes) (cs : List Char)
    (hstate : ∀ s ∈ state, s.Encodes) (h : piecesFrom state bs = cs.map .char) :
    (state.elim [] fun s => s.bytes.reverse) ++ bs = encodeUtf8Chars cs := by
  have hnone : ∀ s ∈ (none : Option Begun), s.Encodes := fun s hs => by cases hs
  fun_induction piecesFrom state bs generalizing cs with
  | case1 =>
    rw [List.map_eq_nil_iff.1 h.symm]
    rfl
  | case2 s => cases cs <;> cases h
  | case3 b rest p hp ih =>
    obtain ⟨c, cs, rfl, rfl, hrest⟩ := List.map_eq_cons_iff.1 h.symm
    have htail := ih cs hnone hrest.symm
    rw [encodeUtf8Chars, List.flatMap_cons, ← encode_of_firstByte hp]
    exact congrArg (b :: ·) htail
  | case4 b rest s hs ih =>
    have hbytes := ih cs (fun t ht => by cases ht; exact encodes_of_firstByte hs) h
    rw [← hbytes, Option.elim_some, bytes_of_firstByte hs]
    rfl
  | case5 s b rest hb code hm ih =>
    obtain ⟨c, cs, rfl, hc, hrest⟩ := List.map_eq_cons_iff.1 h.symm
    have hlast := (hstate s rfl).last hb.1 hb.2 hm
    have htail := ih cs hnone hrest.symm
    rw [encodeUtf8Chars, List.flatMap_cons, Piece.char.inj hc, ← hlast, ← encodeUtf8Chars, ← htail,
      List.append_assoc]
    rfl
  | case6 s b rest hb code hm ih =>
    have hbytes := ih cs (fun t ht => by cases ht; exact (hstate s rfl).next hb.1 hb.2) h
    rw [← hbytes, Option.elim_some, Option.elim_some, List.reverse_cons, List.append_assoc]
    rfl
  | case7 => cases cs <;> cases h

/-- What counts as whole characters is characters only. -/
theorem eq_map_char_of_wholeChars {position : Nat} {acc cs : List Char} {ps : List Piece}
    (h : wholeChars position acc ps = .ok cs) :
    ∃ tail : List Char, ps = tail.map .char ∧ cs = acc.reverse ++ tail := by
  fun_induction wholeChars position acc ps with
  | case1 position acc =>
    cases h
    exact ⟨[], rfl, (List.append_nil _).symm⟩
  | case2 position acc c rest ih =>
    obtain ⟨tail, rfl, rfl⟩ := ih h
    exact ⟨c :: tail, rfl, by simp⟩
  | case3 => cases h

/-- **Bytes are read as a text exactly if they are the bytes of that text.** -/
theorem decodeUtf8?_eq_ok_iff {bs : Bytes} {s : String} :
    decodeUtf8? bs = .ok s ↔ bs = encodeUtf8 s := by
  constructor
  · intro h
    obtain ⟨cs, hcs, rfl⟩ := map_eq_ok.1 h
    obtain ⟨tail, hpieces, htail⟩ := eq_map_char_of_wholeChars hcs
    have hbytes := eq_encodeUtf8Chars_of_piecesFrom none bs tail (fun s hs => by cases hs) hpieces
    rw [encodeUtf8, String.toList_ofList, htail]
    exact hbytes
  · rintro rfl
    exact decodeUtf8?_encodeUtf8 s

/-- No two texts have the same bytes. -/
theorem encodeUtf8_injective {s t : String} (h : encodeUtf8 s = encodeUtf8 t) : s = t := by
  have hread := decodeUtf8?_encodeUtf8 t
  rw [← h, decodeUtf8?_encodeUtf8] at hread
  exact Except.ok.inj hread

end WorkspaceTools.Text
