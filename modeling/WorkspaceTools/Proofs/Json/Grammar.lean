import WorkspaceTools.Proofs.Json.RoundTrip

/-!
# The grammar of documents

What text is a document, stated without a reader.

* `IsNumeral`, `IsTextBody` and `IsValue` are the numerals, the inside of texts and the values of the
  grammar. The grammar is strict: it has no infinities, and nothing but digits follows a leading zero.
* `IsPlain v` says that `v` has a text in the grammar: its integers have not too many digits, its
  numbers are finite, and no object has two members of one name. `nesting v` is how many lists and objects
  stand in one another (`isReadable_of_isPlain`).
* `isValue_renderAt`: a plain document is written in the grammar, on one line or over several.
-/

namespace WorkspaceTools.Json

open Number Text

/-! ## Numerals -/

/-- One or more digits. -/
def IsDigits (cs : List Char) : Prop := cs ≠ [] ∧ ∀ c ∈ cs, isAsciiDigit c = true

/-- Nothing, or a point and digits. -/
inductive IsFractionPart : List Char → Prop
  | none : IsFractionPart []
  | some {ds : List Char} (h : IsDigits ds) : IsFractionPart ('.' :: ds)

/-- Nothing, or a mark, perhaps a sign, and digits. -/
inductive IsExponentPart : List Char → Prop
  | none : IsExponentPart []
  | unsigned {mark : Char} {ds : List Char} (hmark : mark = 'e' ∨ mark = 'E') (h : IsDigits ds) :
    IsExponentPart (mark :: ds)
  | signed {mark sign : Char} {ds : List Char} (hmark : mark = 'e' ∨ mark = 'E')
    (hsign : sign = '+' ∨ sign = '-') (h : IsDigits ds) : IsExponentPart (mark :: sign :: ds)

/-- A numeral without a sign. -/
inductive IsMagnitude : List Char → Prop
  | mk {whole fraction exponent : List Char} (hw : IsWhole whole) (hf : IsFractionPart fraction)
    (he : IsExponentPart exponent) : IsMagnitude (whole ++ (fraction ++ exponent))

/-- A numeral, with a minus sign if it is negative. -/
inductive IsNumeral : List Char → Prop
  | unsigned {cs : List Char} (h : IsMagnitude cs) : IsNumeral cs
  | negative {cs : List Char} (h : IsMagnitude cs) : IsNumeral ('-' :: cs)

theorem IsMagnitude.signed {cs : List Char} (h : IsMagnitude cs) (negative : Bool) :
    IsNumeral (if negative then '-' :: cs else cs) := by
  cases negative with
  | false => exact .unsigned h
  | true => exact .negative h

theorem IsWhole.isMagnitude {cs : List Char} (h : IsWhole cs) : IsMagnitude cs := by
  have hmagnitude := IsMagnitude.mk h .none .none
  rwa [List.append_nil, List.append_nil] at hmagnitude

theorem isNumeral_intDigits (i : Int) : IsNumeral (intDigits i) := by
  rw [intDigits_eq]
  exact (isWhole_natDigits _).isMagnitude.signed _

section Magnitudes

variable {ds : List Char} {place : Int} {x : ℚ}

theorem isDigits_zeros_append (h : IsSignificant ds place x) (k : Nat) :
    IsDigits (List.replicate k '0' ++ ds) := by
  refine ⟨by simp [h.ne_nil], fun c hc => ?_⟩
  rcases List.mem_append.1 hc with hc | hc
  · rw [List.eq_of_mem_replicate hc]
    rfl
  · exact h.digits c hc

/-- The digits above the point, filled up with zeros. -/
theorem isWhole_take_append_zeros (h : IsSignificant ds place x) (n k : Nat) :
    IsWhole (ds.take (n + 1) ++ List.replicate k '0') := by
  obtain ⟨d, more, rfl, -⟩ := h.head_digit
  refine ⟨fun c hc => ?_, by simp, .inr h.head⟩
  rcases List.mem_append.1 hc with hc | hc
  · exact h.digits c (List.mem_of_mem_take hc)
  · rw [List.eq_of_mem_replicate hc]
    rfl

theorem isMagnitude_positional (h : IsSignificant ds place x) : IsMagnitude (positional ds place) := by
  unfold positional
  split
  · have hmagnitude := IsMagnitude.mk isWhole_zero (.some (isDigits_zeros_append h (-place - 1).toNat)) .none
    rwa [List.append_nil] at hmagnitude
  · have hfraction : IsDigits (if (ds.drop (place.toNat + 1)).isEmpty then ['0']
        else ds.drop (place.toNat + 1)) := by
      split
      · exact ⟨by simp, isWhole_zero.digits⟩
      · rename_i hne
        exact ⟨by simpa using hne, fun c hc => h.digits c (List.mem_of_mem_drop hc)⟩
    have hmagnitude := IsMagnitude.mk
      (isWhole_take_append_zeros h place.toNat (place.toNat + 1 - ds.length)) (.some hfraction) .none
    rwa [List.append_nil] at hmagnitude

theorem isMagnitude_scientific (width : Nat) (h : IsSignificant ds place x) :
    IsMagnitude (scientific width ds place) := by
  obtain ⟨d, more, rfl, hd⟩ := h.head_digit
  have hwhole : IsWhole [d] := by
    refine ⟨fun c hc => ?_, by simp, .inr h.head⟩
    rw [List.mem_singleton.1 hc]
    exact hd
  have hsign : (if place < 0 then '-' else '+') = '+' ∨ (if place < 0 then '-' else '+') = '-' := by
    split
    · exact .inr rfl
    · exact .inl rfl
  have hdigits : IsDigits (paddedText width place.natAbs).toList :=
    ⟨by simp [toList_paddedText, natDigits_ne_nil], fun c hc => isAsciiDigit_of_mem_paddedText hc⟩
  have hexponent := IsExponentPart.signed (.inl rfl) hsign hdigits
  cases more with
  | nil => exact .mk hwhole .none hexponent
  | cons e more =>
    have hfraction : IsDigits (e :: more) :=
      ⟨by simp, fun c hc => h.digits c (List.mem_cons_of_mem _ hc)⟩
    exact .mk hwhole (.some hfraction) hexponent

end Magnitudes

theorem isMagnitude_floatBody (layout : FloatLayout) {negative : Bool} {m : Nat} {e : Int}
    (hc : (Binary64.finite negative m e).IsCanonical) : IsMagnitude (floatBody layout m e) := by
  unfold floatBody
  split
  · have hzero : IsDigits ['0'] := ⟨by simp, isWhole_zero.digits⟩
    exact .mk isWhole_zero (.some hzero) .none
  · rename_i hm
    have hsig := isSignificant_shortest (Nat.pos_of_ne_zero hm) hc
    dsimp only
    split
    · exact isMagnitude_positional hsig
    · exact isMagnitude_scientific _ hsig

theorem isNumeral_floatText (layout : FloatLayout) {x : Binary64} (hc : x.IsCanonical)
    (hfinite : x.isFinite = true) : IsNumeral (floatText layout x).toList := by
  cases x with
  | nan => cases hfinite
  | infinite negative => cases hfinite
  | finite negative m e =>
    rw [toList_floatText]
    exact (isMagnitude_floatBody layout hc).signed negative

/-! ## Texts -/

/-- What may follow a backslash alone. -/
def escapeLetters : List Char := ['"', '\\', '/', 'b', 'f', 'n', 'r', 't']

/-- The characters of a text between its quotes. -/
inductive IsTextBody : List Char → Prop
  | nil : IsTextBody []
  | plain {c : Char} {cs : List Char} (hc : 0x20 ≤ c.toNat) (hq : c ≠ '"') (hb : c ≠ '\\')
    (h : IsTextBody cs) : IsTextBody (c :: cs)
  | escape {c : Char} {cs : List Char} (hc : c ∈ escapeLetters) (h : IsTextBody cs) :
    IsTextBody ('\\' :: c :: cs)
  | unit {ds cs : List Char} (hlen : ds.length = 4) (hd : ∀ d ∈ ds, (hexValue? d).isSome)
    (h : IsTextBody cs) : IsTextBody ('\\' :: 'u' :: (ds ++ cs))

theorem hexValue?_isSome_of_mem_hexPadded {width n : Nat} {d : Char} (h : d ∈ hexPadded width n) :
    (hexValue? d).isSome := by
  induction width generalizing n with
  | zero => cases h
  | succ width ih =>
    rcases List.mem_append.1 h with h | h
    · exact ih h
    · rw [List.mem_singleton.1 h, hexValue?_hexDigit (Nat.mod_lt _ (by decide))]
      rfl

theorem isTextBody_unicodeEscape (u : UInt16) {cs : List Char} (h : IsTextBody cs) :
    IsTextBody (unicodeEscape u ++ cs) := by
  refine .unit ?_ (fun d hd => hexValue?_isSome_of_mem_hexPadded hd) h
  rw [hexPadded_four]
  rfl

theorem isTextBody_escapeUnit (u : UInt16) {cs : List Char} (h : IsTextBody cs) :
    IsTextBody (escapeUnit u ++ cs) := by
  unfold escapeUnit
  split
  · rename_i c hc
    have hall : ∀ e ∈ shortEscapes, e.2 ∈ escapeLetters := by decide
    exact .escape (hall (u, c) (mem_shortEscapes hc)) h
  · rename_i hnone
    split
    · rename_i hprintable
      rw [Bool.and_eq_true, decide_eq_true_eq, decide_eq_true_eq] at hprintable
      have hplain := isPlainUnit_of_lookup hnone hprintable
      exact .plain (by rw [hplain.toNat_char]; exact hprintable.1) hplain.ne_quote hplain.ne_slash h
    · exact isTextBody_unicodeEscape u h

theorem isTextBody_escaped (us : List UInt16) : IsTextBody (us.flatMap escapeUnit) := by
  induction us with
  | nil => exact .nil
  | cons u us ih => exact isTextBody_escapeUnit u ih

/-! ## Values -/

/-- The values that are words. -/
def valueWords : List (List Char) :=
  [['n', 'u', 'l', 'l'], ['t', 'r', 'u', 'e'], ['f', 'a', 'l', 's', 'e']]

/-- Blanks between tokens. -/
def IsBlanks (cs : List Char) : Prop := ∀ c ∈ cs, isSeparator c = true

mutual

/-- A value of the grammar, without blanks around it. -/
inductive IsValue : List Char → Prop
  | word {cs : List Char} (h : cs ∈ valueWords) : IsValue cs
  | numeral {cs : List Char} (h : IsNumeral cs) : IsValue cs
  | text {cs : List Char} (h : IsTextBody cs) : IsValue ('"' :: (cs ++ ['"']))
  | emptyList {blanks : List Char} (h : IsBlanks blanks) : IsValue ('[' :: (blanks ++ [']']))
  | list {items : List Char} (h : IsItems items) : IsValue ('[' :: items)
  | emptyObject {blanks : List Char} (h : IsBlanks blanks) : IsValue ('\x7b' :: (blanks ++ ['\x7d']))
  | object {members : List Char} (h : IsMembers members) : IsValue ('\x7b' :: members)

/-- One or more items with commas between them, and the closing bracket. -/
inductive IsItems : List Char → Prop
  | last {before value after : List Char} (hbefore : IsBlanks before) (h : IsValue value)
    (hafter : IsBlanks after) : IsItems (before ++ (value ++ (after ++ [']'])))
  | next {before value after items : List Char} (hbefore : IsBlanks before) (h : IsValue value)
    (hafter : IsBlanks after) (hitems : IsItems items) :
    IsItems (before ++ (value ++ (after ++ ',' :: items)))

/-- One or more members with commas between them, and the closing brace. -/
inductive IsMembers : List Char → Prop
  | last {member : List Char} (h : IsMember member) : IsMembers (member ++ ['\x7d'])
  | next {member members : List Char} (h : IsMember member) (hmembers : IsMembers members) :
    IsMembers (member ++ ',' :: members)

/-- A name, a colon and a value. -/
inductive IsMember : List Char → Prop
  | mk {before name between space value after : List Char} (hbefore : IsBlanks before)
    (hname : IsTextBody name) (hbetween : IsBlanks between) (hspace : IsBlanks space)
    (h : IsValue value) (hafter : IsBlanks after) :
    IsMember (before ++ ('"' :: (name ++ '"' :: (between ++ ':' :: (space ++ (value ++ after))))))

end

/-! ## Plain documents -/

mutual

/-- A document that has a text in the grammar. -/
def IsPlain : Json → Prop
  | .null => True
  | .bool _ => True
  | .int i => (natDigits i.natAbs).length ≤ maxIntDigits
  | .float x => x.IsCanonical ∧ x.isFinite = true
  | .str _ => True
  | .arr vs => ArePlain vs
  | .obj ms => (Members.names ms).Nodup ∧ ArePlainMembers ms

/-- Items that have texts in the grammar. -/
def ArePlain : List Json → Prop
  | [] => True
  | v :: vs => IsPlain v ∧ ArePlain vs

/-- Members that have texts in the grammar. -/
def ArePlainMembers : List (String × Json) → Prop
  | [] => True
  | (_, v) :: ms => IsPlain v ∧ ArePlainMembers ms

end

mutual

/-- How many lists and objects stand in one another. -/
def nesting : Json → Nat
  | .null => 0
  | .bool _ => 0
  | .int _ => 0
  | .float _ => 0
  | .str _ => 0
  | .arr vs => nestingOfItems vs + 1
  | .obj ms => nestingOfMembers ms + 1

/-- How many stand in one another in some items. -/
def nestingOfItems : List Json → Nat
  | [] => 0
  | v :: vs => max (nesting v) (nestingOfItems vs)

/-- How many stand in one another in some members. -/
def nestingOfMembers : List (String × Json) → Nat
  | [] => 0
  | (_, v) :: ms => max (nesting v) (nestingOfMembers ms)

end

mutual

/-- A plain document can be read where as many lists and objects may stand in one another. -/
theorem isReadable_of_isPlain {depth : Nat} {v : Json} (h : IsPlain v) (hdepth : nesting v ≤ depth) :
    IsReadable depth v := by
  match v, h with
  | .null, _ => trivial
  | .bool _, _ => trivial
  | .int _, h => exact h
  | .float _, h => exact h.1
  | .str _, _ => trivial
  | .arr vs, h =>
    have hitems : nestingOfItems vs + 1 ≤ depth := hdepth
    exact ⟨by omega, areReadable_of_arePlain h (by omega)⟩
  | .obj ms, h =>
    have hmembers : nestingOfMembers ms + 1 ≤ depth := hdepth
    exact ⟨by omega, h.1, areReadableMembers_of_arePlain h.2 (by omega)⟩

theorem areReadable_of_arePlain {depth : Nat} {vs : List Json} (h : ArePlain vs)
    (hdepth : nestingOfItems vs ≤ depth) : AreReadable depth vs := by
  match vs, h with
  | [], _ => trivial
  | v :: vs, ⟨hv, hvs⟩ =>
    obtain ⟨hfirst, hrest⟩ := max_le_iff.1 hdepth
    exact ⟨isReadable_of_isPlain hv hfirst, areReadable_of_arePlain hvs hrest⟩

theorem areReadableMembers_of_arePlain {depth : Nat} {ms : Members} (h : ArePlainMembers ms)
    (hdepth : nestingOfMembers ms ≤ depth) : AreReadableMembers depth ms := by
  match ms, h with
  | [], _ => trivial
  | (_, v) :: ms, ⟨hv, hms⟩ =>
    obtain ⟨hfirst, hrest⟩ := max_le_iff.1 hdepth
    exact ⟨isReadable_of_isPlain hv hfirst, areReadableMembers_of_arePlain hms hrest⟩

end

/-! ## Writing in the grammar -/

theorem isBlanks_nil : IsBlanks [] := fun c hc => by cases hc

theorem isBlanks_space : IsBlanks [' '] := fun c hc => by
  rw [List.mem_singleton.1 hc]
  rfl

theorem isBlanks_lineBreak (indent : Option Nat) (level : Nat) : IsBlanks (lineBreak indent level) := by
  cases indent with
  | none => exact isBlanks_nil
  | some n =>
    intro c hc
    rcases List.mem_cons.1 hc with rfl | hc
    · rfl
    · rw [List.eq_of_mem_replicate hc]
      rfl

/-- A separator of items is a comma and blanks. -/
theorem itemSeparator_isBlanks (indent : Option Nat) (level : Nat) :
    ∃ blanks, itemSeparator indent level = ',' :: blanks ∧ IsBlanks blanks := by
  cases indent with
  | none => exact ⟨_, rfl, isBlanks_space⟩
  | some n => exact ⟨_, rfl, isBlanks_lineBreak (some n) level⟩

/-- A written name and a written value are a member. -/
theorem isMember_stringChars (k : String) {before value after : List Char} (hbefore : IsBlanks before)
    (hvalue : IsValue value) (hafter : IsBlanks after) :
    IsMember (before ++ (stringChars k ++ ':' :: ' ' :: (value ++ after))) := by
  have hmember := IsMember.mk hbefore (isTextBody_escaped (UnitText.units k)) isBlanks_nil isBlanks_space hvalue
    hafter
  simpa [stringChars] using hmember

mutual

/-- **A plain document is written in the grammar.** -/
theorem isValue_renderAt (indent : Option Nat) (level : Nat) {v : Json} (h : IsPlain v) :
    IsValue (renderAt indent level v) := by
  match v, h with
  | .null, _ => exact .word (by simp [renderAt, valueWords])
  | .bool b, _ => exact .word (by cases b <;> simp [renderAt, valueWords])
  | .int i, _ => exact .numeral (isNumeral_intDigits i)
  | .float _, h => exact .numeral (isNumeral_floatText documentFloat h.1 h.2)
  | .str s, _ => exact .text (isTextBody_escaped (UnitText.units s))
  | .arr [], _ => exact .emptyList isBlanks_nil
  | .arr (v :: vs), ⟨hv, hvs⟩ =>
    have hfirst := isValue_renderAt indent (level + 1) hv
    exact .list (isItems_renderItems indent level hvs (isBlanks_lineBreak indent (level + 1)) hfirst)
  | .obj [], _ => exact .emptyObject isBlanks_nil
  | .obj ((k, v) :: ms), ⟨_, hv, hms⟩ =>
    have hfirst := isValue_renderAt indent (level + 1) hv
    exact .object
      (isMembers_renderMembers indent level hms k (isBlanks_lineBreak indent (level + 1)) hfirst)

/-- The items of a list after a first one, up to the closing bracket. -/
theorem isItems_renderItems (indent : Option Nat) (level : Nat) {vs : List Json} (h : ArePlain vs)
    {before first : List Char} (hbefore : IsBlanks before) (hfirst : IsValue first) :
    IsItems (before ++ (first ++ renderItems indent level vs)) := by
  match vs, h with
  | [], _ => exact .last hbefore hfirst (isBlanks_lineBreak indent level)
  | w :: ws, ⟨hw, hws⟩ =>
    obtain ⟨blanks, hseparator, hblanks⟩ := itemSeparator_isBlanks indent (level + 1)
    have hnext := isValue_renderAt indent (level + 1) hw
    rw [renderItems, hseparator, List.cons_append]
    exact .next hbefore hfirst isBlanks_nil (isItems_renderItems indent level hws hblanks hnext)

/-- The members of an object after a first one, up to the closing brace. -/
theorem isMembers_renderMembers (indent : Option Nat) (level : Nat) {ms : Members}
    (h : ArePlainMembers ms) (k : String) {before first : List Char} (hbefore : IsBlanks before)
    (hfirst : IsValue first) :
    IsMembers (before ++
      (stringChars k ++ ':' :: ' ' :: (first ++ renderMembers indent level ms))) := by
  match ms, h with
  | [], _ =>
    have hmember := isMember_stringChars k hbefore hfirst (isBlanks_lineBreak indent level)
    simpa [renderMembers] using IsMembers.last hmember
  | (j, w) :: ms, ⟨hw, hms⟩ =>
    obtain ⟨blanks, hseparator, hblanks⟩ := itemSeparator_isBlanks indent (level + 1)
    have hmember := isMember_stringChars k hbefore hfirst isBlanks_nil
    have hnext := isValue_renderAt indent (level + 1) hw
    have hmembers := IsMembers.next hmember (isMembers_renderMembers indent level hms j hblanks hnext)
    rw [renderMembers, hseparator]
    simpa using hmembers

end

end WorkspaceTools.Json
