import WorkspaceTools.Proofs.Outcome
import WorkspaceTools.Text.Unit
import WorkspaceTools.Text.Utf8

/-!
# Reading UTF-8 back

A character is written in one to four bytes, which read as that character whatever follows them
(`piecesFrom_encodeChar`). Hence every text reads back from its bytes (`decodeUtf8?_encodeUtf8`).
-/

namespace WorkspaceTools.Text

/-- A first byte that begins a longer character. -/
theorem piecesFrom_none_of_inr {b : UInt8} {s : Begun} (h : firstByte b = .inr s) (rest : Bytes) :
    piecesFrom none (b :: rest) = piecesFrom (some s) rest := by
  rw [piecesFrom, h]

/-- A byte in bounds that is not the last one of its character. -/
theorem piecesFrom_some_of_lt {s : Begun} {b : UInt8} (hl : s.low ≤ b.toNat) (hh : b.toNat ≤ s.high)
    (hm : s.missing ≠ 1) (rest : Bytes) :
    piecesFrom (some s) (b :: rest) =
      piecesFrom (some ⟨b :: s.bytes, s.missing - 1, s.code * 64 + (b.toNat - 0x80), 0x80, 0xBF⟩)
        rest := by
  rw [piecesFrom, if_pos ⟨hl, hh⟩, if_neg hm]

/-- The last byte of a character. -/
theorem piecesFrom_some_last {s : Begun} {b : UInt8} (hl : s.low ≤ b.toNat) (hh : b.toNat ≤ s.high)
    (hm : s.missing = 1) (rest : Bytes) :
    piecesFrom (some s) (b :: rest) =
      .char (Char.ofNat (s.code * 64 + (b.toNat - 0x80))) :: piecesFrom none rest := by
  rw [piecesFrom, if_pos ⟨hl, hh⟩, if_pos hm]

theorem firstByte_one {b : UInt8} (h : b.toNat < 0x80) :
    firstByte b = .inl (.char (Char.ofNat b.toNat)) := by
  simp [firstByte, h]

theorem firstByte_two {b : UInt8} {k : Nat} (hb : b.toNat = k + 0xC0) (hl : 2 ≤ k) (hh : k < 32) :
    firstByte b = .inr ⟨[b], 1, k, 0x80, 0xBF⟩ := by
  unfold firstByte
  simp only [hb, Nat.add_sub_cancel]
  rw [if_neg (by omega), if_neg (by omega), if_pos (by omega)]

theorem firstByte_three {b : UInt8} {k : Nat} (hb : b.toNat = k + 0xE0) (hk : k < 16) :
    firstByte b =
      .inr ⟨[b], 2, k, if k = 0 then 0xA0 else 0x80, if k = 13 then 0x9F else 0xBF⟩ := by
  unfold firstByte
  simp only [hb, Nat.add_sub_cancel]
  rw [if_neg (by omega), if_neg (by omega), if_neg (by omega), if_pos (by omega)]
  simp

theorem firstByte_four {b : UInt8} {k : Nat} (hb : b.toNat = k + 0xF0) (hk : k < 5) :
    firstByte b =
      .inr ⟨[b], 3, k, if k = 0 then 0x90 else 0x80, if k = 4 then 0x8F else 0xBF⟩ := by
  unfold firstByte
  simp only [hb, Nat.add_sub_cancel]
  rw [if_neg (by omega), if_neg (by omega), if_neg (by omega), if_neg (by omega), if_pos (by omega)]
  simp

/-! ## Whole characters -/

section Characters

variable {n : Nat} {b₁ b₂ b₃ b₄ : UInt8} (rest : Bytes)

theorem piecesFrom_two (hl : 0x80 ≤ n) (hh : n < 0x800) (h₁ : b₁.toNat = n / 64 + 0xC0)
    (h₂ : b₂.toNat = n % 64 + 0x80) :
    piecesFrom none (b₁ :: b₂ :: rest) = .char (Char.ofNat n) :: piecesFrom none rest := by
  have hb := firstByte_two h₁ (by omega) (by omega)
  have hn : n / 64 * 64 + (b₂.toNat - 0x80) = n := by omega
  rw [piecesFrom_none_of_inr hb, piecesFrom_some_last _ _ rfl]
  · rw [hn]
  · dsimp only
    omega
  · dsimp only
    omega

theorem piecesFrom_three (hl : 0x800 ≤ n) (hh : n < 0x10000) (hs : n < 0xD800 ∨ 0xDFFF < n)
    (h₁ : b₁.toNat = n / 4096 + 0xE0) (h₂ : b₂.toNat = n / 64 % 64 + 0x80)
    (h₃ : b₃.toNat = n % 64 + 0x80) :
    piecesFrom none (b₁ :: b₂ :: b₃ :: rest) = .char (Char.ofNat n) :: piecesFrom none rest := by
  have hb := firstByte_three h₁ (by omega)
  have hn : (n / 4096 * 64 + (b₂.toNat - 0x80)) * 64 + (b₃.toNat - 0x80) = n := by omega
  rw [piecesFrom_none_of_inr hb, piecesFrom_some_of_lt _ _ (by simp), piecesFrom_some_last _ _ rfl]
  · rw [hn]
  · dsimp only
    omega
  · dsimp only
    omega
  · dsimp only
    split <;> omega
  · dsimp only
    split <;> omega

theorem piecesFrom_four (hl : 0x10000 ≤ n) (hh : n < 0x110000) (h₁ : b₁.toNat = n / 262144 + 0xF0)
    (h₂ : b₂.toNat = n / 4096 % 64 + 0x80) (h₃ : b₃.toNat = n / 64 % 64 + 0x80)
    (h₄ : b₄.toNat = n % 64 + 0x80) :
    piecesFrom none (b₁ :: b₂ :: b₃ :: b₄ :: rest) =
      .char (Char.ofNat n) :: piecesFrom none rest := by
  have hb := firstByte_four h₁ (by omega)
  have hn : ((n / 262144 * 64 + (b₂.toNat - 0x80)) * 64 + (b₃.toNat - 0x80)) * 64
      + (b₄.toNat - 0x80) = n := by omega
  rw [piecesFrom_none_of_inr hb, piecesFrom_some_of_lt _ _ (by simp),
    piecesFrom_some_of_lt _ _ (by simp), piecesFrom_some_last _ _ rfl]
  · rw [hn]
  · dsimp only
    omega
  · dsimp only
    omega
  · dsimp only
    omega
  · dsimp only
    omega
  · dsimp only
    split <;> omega
  · dsimp only
    split <;> omega

end Characters

theorem toNat_ofNat_of_lt {n : Nat} (h : n < 256) : (UInt8.ofNat n).toNat = n := by
  rw [UInt8.toNat_ofNat', Nat.mod_eq_of_lt h]

/-- The bytes of a character read as that character. -/
theorem piecesFrom_encodeChar (c : Char) (rest : Bytes) :
    piecesFrom none (String.utf8EncodeChar c ++ rest) = .char c :: piecesFrom none rest := by
  have hc := toNat_bounds c
  have hof : Char.ofNat c.toNat = c := Char.ofNat_toNat c
  generalize hbytes : String.utf8EncodeChar c = bytes
  unfold String.utf8EncodeChar at hbytes
  simp only [show c.val.toNat = c.toNat from rfl] at hbytes
  split at hbytes
  · subst hbytes
    have h₁ := toNat_ofNat_of_lt (show c.toNat < 256 by omega)
    rw [List.singleton_append, piecesFrom, firstByte_one (by omega), h₁, hof]
  split at hbytes
  · subst hbytes
    have h₁ := toNat_ofNat_of_lt (show c.toNat / 64 % 32 + 0xC0 < 256 by omega)
    have h₂ := toNat_ofNat_of_lt (show c.toNat % 64 + 0x80 < 256 by omega)
    rw [List.cons_append, List.singleton_append,
      piecesFrom_two (n := c.toNat) rest (by omega) (by omega) (by omega) h₂, hof]
  split at hbytes
  · subst hbytes
    have h₁ := toNat_ofNat_of_lt (show c.toNat / 4096 % 16 + 0xE0 < 256 by omega)
    have h₂ := toNat_ofNat_of_lt (show c.toNat / 64 % 64 + 0x80 < 256 by omega)
    have h₃ := toNat_ofNat_of_lt (show c.toNat % 64 + 0x80 < 256 by omega)
    rw [List.cons_append, List.cons_append, List.singleton_append,
      piecesFrom_three (n := c.toNat) rest (by omega) (by omega) (by omega) (by omega) h₂ h₃, hof]
  · subst hbytes
    have h₁ := toNat_ofNat_of_lt (show c.toNat / 262144 % 8 + 0xF0 < 256 by omega)
    have h₂ := toNat_ofNat_of_lt (show c.toNat / 4096 % 64 + 0x80 < 256 by omega)
    have h₃ := toNat_ofNat_of_lt (show c.toNat / 64 % 64 + 0x80 < 256 by omega)
    have h₄ := toNat_ofNat_of_lt (show c.toNat % 64 + 0x80 < 256 by omega)
    rw [List.cons_append, List.cons_append, List.cons_append, List.singleton_append,
      piecesFrom_four (n := c.toNat) rest (by omega) (by omega) (by omega) h₂ h₃ h₄, hof]

/-! ## Texts -/

theorem pieces_encodeUtf8Chars (cs : List Char) : pieces (encodeUtf8Chars cs) = cs.map .char := by
  induction cs with
  | nil => rfl
  | cons c cs ih =>
    rw [encodeUtf8Chars, List.flatMap_cons, pieces, piecesFrom_encodeChar, List.map_cons, ← ih]
    rfl

theorem toList_decodeLossy_encodeUtf8Chars (cs : List Char) :
    (decodeLossy (encodeUtf8Chars cs)).toList = cs := by
  rw [decodeLossy, pieces_encodeUtf8Chars, List.map_map, String.toList_ofList]
  exact List.map_id cs

theorem wholeChars_map_char (position : Nat) (acc cs : List Char) :
    wholeChars position acc (cs.map .char) = .ok (acc.reverse ++ cs) := by
  induction cs generalizing position acc with
  | nil => simp [wholeChars]
  | cons c cs ih => simp [wholeChars, ih]

/-- Nothing of a text is replaced when its bytes are read. -/
theorem decodeLossy_encodeUtf8 (s : String) : decodeLossy (encodeUtf8 s) = s := by
  rw [← String.toList_inj, encodeUtf8, toList_decodeLossy_encodeUtf8Chars]

/-- **A text reads back from its bytes.** -/
theorem decodeUtf8?_encodeUtf8 (s : String) : decodeUtf8? (encodeUtf8 s) = .ok s := by
  rw [decodeUtf8?, encodeUtf8, pieces_encodeUtf8Chars, wholeChars_map_char, map_ok, List.reverse_nil,
    List.nil_append, String.ofList_toList]

end WorkspaceTools.Text
