import WorkspaceTools.Mail.Folding
import WorkspaceTools.Proofs.Text.Base64

/-!
# Headers whose lines are headers

The value of a header is written over lines. A reader of messages takes a line that begins with a blank for a part
of the header before it, and an empty line for the end of all headers.

* `Folding.Continues` is what holds of a folding at every step: no character of a line ends it, and the lines behind
  the first one have a property that a space at the beginning gives and that further characters keep
  (`IsLineStart`).
* So no line behind the first is empty, whatever the value is (`foldedLines_isLine`).
* A value of printable characters is folded before blanks alone (`foldedLines_beginsWithBlank`), so that it never
  holds another header (`foldHeader_of_isPrintable`).
-/

namespace WorkspaceTools.Mail

open Text

/-! ## Lines -/

/-- No character ends the line. -/
def IsLine (cs : List Char) : Prop := ∀ c ∈ cs, endsLine c = false

instance (cs : List Char) : Decidable (IsLine cs) :=
  List.decidableBAll (fun c : Char => endsLine c = false) cs

theorem isLine_nil : IsLine [] := List.forall_mem_nil _

theorem IsLine.append {cs ds : List Char} (hcs : IsLine cs) (hds : IsLine ds) : IsLine (cs ++ ds) :=
  List.forall_mem_append.2 ⟨hcs, hds⟩

theorem IsLine.reverse {cs : List Char} (h : IsLine cs) : IsLine cs.reverse := fun c hc => h c (List.mem_reverse.1 hc)

theorem IsLine.space {cs : List Char} (h : IsLine cs) : IsLine (' ' :: cs) := List.forall_mem_cons.2 ⟨rfl, h⟩

theorem IsLine.not_mem {cs : List Char} (h : IsLine cs) : '\n' ∉ cs := fun hc => Bool.noConfusion (h _ hc)

/-- The lines of a value are lines. -/
theorem isLine_of_mem_valueLines (cs : List Char) : ∀ line ∈ valueLines cs, IsLine line := by
  have hfrom (line cs : List Char) (h : IsLine line) : ∀ l ∈ valueLinesFrom line cs, IsLine l := by
    fun_induction valueLinesFrom line cs with
    | case1 line hempty => exact List.forall_mem_nil _
    | case2 line hsome => exact List.forall_mem_singleton.2 h.reverse
    | case3 line rest ih => exact List.forall_mem_cons.2 ⟨h.reverse, ih isLine_nil⟩
    | case4 line c rest hbreak hends ih => exact List.forall_mem_cons.2 ⟨h.reverse, ih isLine_nil⟩
    | case5 line c rest hbreak hends ih =>
      exact ih (List.forall_mem_cons.2 ⟨Bool.eq_false_iff.2 hends, h⟩)
  exact hfrom [] cs isLine_nil

/-- A value that is a line has no other one. -/
theorem valueLines_of_isLine {cs : List Char} (h : IsLine cs) :
    valueLines cs = if cs.isEmpty then [] else [cs] := by
  have hfrom (line cs : List Char) (h : IsLine cs) :
      valueLinesFrom line cs = if (line.reverse ++ cs).isEmpty then [] else [line.reverse ++ cs] := by
    fun_induction valueLinesFrom line cs with
    | case1 line hempty => simp [List.isEmpty_iff.1 hempty]
    | case2 line hsome => simpa using hsome
    | case3 line rest ih => exact absurd (h '\r' List.mem_cons_self) (by decide)
    | case4 line c rest hbreak hends ih => exact absurd hends (by simp [h c List.mem_cons_self])
    | case5 line c rest hbreak hends ih =>
      rw [ih (List.forall_mem_cons.1 h).2, List.reverse_cons, List.append_assoc, List.singleton_append]
  exact hfrom [] cs h

/-! ## Encoded words -/

/-- A byte is written in letters, digits and signs. -/
theorem isLine_quotedByte (b : UInt8) : IsLine (quotedByte b) := by
  have hall : ∀ n : Fin 256, ((quotedByte (UInt8.ofNat n.val)).all fun c => !endsLine c) = true := by
    decide +kernel
  simpa [IsLine] using hall ⟨b.toNat, b.toNat_lt⟩

theorem isLine_base64 (bs : Bytes) : IsLine (base64 bs) := by
  have hall : ∀ n : Fin 64, endsLine (base64Char '+' '/' n.val) = false := by decide
  intro c hc
  rw [base64, base64With_eq, List.mem_append] at hc
  rcases hc with hc | hc
  · obtain ⟨n, hn, rfl⟩ := List.mem_map.1 hc
    exact hall ⟨n, lt_of_mem_sextetsOf hn⟩
  · rw [List.eq_of_mem_replicate hc]
    decide

theorem isLine_encodedWord (encoding : WordEncoding) (cs : List Char) : IsLine (encodedWord encoding cs) := by
  have hopen : IsLine "=?utf-8?".toList := by decide
  have hchars : IsLine (encoding.chars (encodeUtf8Chars cs)) := by
    cases encoding with
    | base64 => exact isLine_base64 _
    | quoted =>
      intro c hc
      obtain ⟨b, -, hc⟩ := List.mem_flatMap.1 hc
      exact isLine_quotedByte b c hc
  have hletter : endsLine encoding.letter = false := by cases encoding <;> rfl
  have hclose : IsLine ['?', '='] := by decide
  unfold encodedWord
  split
  · exact isLine_nil
  · exact hopen.append (List.forall_mem_cons.2 ⟨hletter, List.forall_mem_cons.2 ⟨rfl, hchars.append hclose⟩⟩)

theorem isLine_of_mem_encodedLines {first later : Int} {cs : List Char} {word : Option (List Char)}
    (h : word ∈ encodedLines first later cs) : IsLine (word.getD []) := by
  have hfrom (encoding : WordEncoding) (later room : Int) (isFirst : Bool) (begun cs : List Char)
      (h : word ∈ encodedLinesFrom encoding later room isFirst begun cs) : IsLine (word.getD []) := by
    fun_induction encodedLinesFrom encoding later room isFirst begun cs with
    | case1 room isFirst begun =>
      obtain rfl := List.mem_singleton.1 h
      exact isLine_encodedWord _ _
    | case2 room isFirst begun c rest hroom ih => exact ih h
    | case3 room isFirst begun c rest hroom ih =>
      rcases List.mem_cons.1 h with rfl | h
      · split
        · exact isLine_nil
        · exact isLine_encodedWord _ _
      · exact ih h
  exact hfrom _ _ _ _ _ _ h

/-! ## Beginnings of lines -/

/-- A property of lines that a space at the beginning gives and that further characters keep. -/
structure IsLineStart (Q : List Char → Prop) : Prop where
  space : ∀ cs, Q (' ' :: cs)
  append : ∀ {cs} (ds), Q cs → Q (cs ++ ds)

theorem isLineStart_ne_nil : IsLineStart (· ≠ []) :=
  ⟨fun _ => List.cons_ne_nil _ _, fun _ h => List.append_ne_nil_of_left_ne_nil h _⟩

/-- A line that belongs to the header before it. -/
def BeginsWithBlank (line : List Char) : Prop := ∃ c rest, line = c :: rest ∧ Folding.isFoldingBlank c = true

theorem isLineStart_beginsWithBlank : IsLineStart BeginsWithBlank where
  space cs := ⟨' ', cs, rfl, rfl⟩
  append := by
    rintro _ ds ⟨c, rest, rfl, hc⟩
    exact ⟨c, rest ++ ds, rfl, hc⟩

namespace Folding

variable {Q : List Char → Prop} {f : Folding} {blanks word : List Char}

/-- A line begins as its first chunk does. -/
theorem line_of_chunks (hQ : IsLineStart Q) {chunks : List Chunk} (hne : chunks ≠ [])
    (h : ∀ chunk ∈ chunks, Q chunk.chars) : Q (chunks.flatMap Chunk.chars) := by
  obtain ⟨chunk, rest, rfl⟩ := List.exists_cons_of_ne_nil hne
  exact hQ.append _ (h chunk List.mem_cons_self)

theorem isLine_flatMap {chunks : List Chunk} (h : ∀ chunk ∈ chunks, IsLine chunk.chars) :
    IsLine (chunks.flatMap Chunk.chars) := by
  intro c hc
  obtain ⟨chunk, hmem, hc⟩ := List.mem_flatMap.1 hc
  exact h chunk hmem c hc

/-- A line is a further one unless it is the first. -/
theorem dropLast_cons {lines : List (List Char)} {line : List Char} (h : ∀ line ∈ lines.dropLast, Q line)
    (hline : lines ≠ [] → Q line) : ∀ l ∈ (line :: lines).dropLast, Q l := by
  cases lines with
  | nil => exact List.forall_mem_nil _
  | cons next rest => exact List.forall_mem_cons.2 ⟨hline (List.cons_ne_nil _ _), h⟩

theorem mem_of_mem_dropEndMark {chunks : List Chunk} {chunk : Chunk} (h : chunk ∈ dropEndMark chunks) :
    chunk ∈ chunks := by
  unfold dropEndMark at h
  split at h
  · exact List.dropLast_subset _ h
  · exact h

/-- A line is broken into two, and something is left on the first. -/
theorem lastBreak?_eq_some {mark : Char} {chunks before after : List Chunk}
    (h : lastBreak? mark chunks = some (before, after)) : before ≠ [] ∧ before ++ after = chunks := by
  fun_induction lastBreak? mark chunks generalizing before after with
  | case1 previous chunk rest before' after' hfound ih =>
    obtain ⟨-, hchunks⟩ := ih hfound
    cases h
    exact ⟨List.cons_ne_nil _ _, by rw [List.cons_append, hchunks]⟩
  | case2 previous chunk rest hnone hbreaks ih =>
    cases h
    exact ⟨List.cons_ne_nil _ _, rfl⟩
  | case3 previous chunk rest hnone hbreaks ih => cases h
  | case4 chunks hshort => cases h

theorem bestBreak?_eq_some {chunks before after : List Chunk} (h : bestBreak? chunks = some (before, after)) :
    before ≠ [] ∧ before ++ after = chunks := by
  obtain ⟨mark, -, hbreak⟩ := List.exists_of_findSome?_eq_some h
  exact lastBreak?_eq_some hbreak

/-- A chunk has characters. -/
theorem ne_nil_of_mem_chunksFrom {cs : List Char} {chunk : Chunk} (h : chunk ∈ chunksFrom blanks word cs) :
    chunk.chars ≠ [] := by
  fun_induction chunksFrom blanks word cs with
  | case1 blanks word hnone => cases h
  | case2 blanks word hsome =>
    obtain rfl := List.mem_singleton.1 h
    intro hnil
    obtain ⟨hblanks, hword⟩ := List.append_eq_nil_iff.1 hnil
    exact hsome (by simp [List.reverse_eq_nil_iff.1 hblanks, List.reverse_eq_nil_iff.1 hword])
  | case3 blanks word c rest hblank hword ih => exact ih h
  | case4 blanks word c rest hblank hword ih =>
    rcases List.mem_cons.1 h with rfl | h
    · intro hnil
      exact hword (by simpa using (List.append_eq_nil_iff.1 hnil).2)
    · exact ih h
  | case5 blanks word c rest hblank ih => exact ih h

/-- Behind a blank every chunk begins with one. -/
theorem beginsWithBlank_of_mem_chunksFrom {cs : List Char} {chunk : Chunk} (hne : blanks ≠ [])
    (hblanks : ∀ b ∈ blanks, isFoldingBlank b = true) (h : chunk ∈ chunksFrom blanks word cs) :
    BeginsWithBlank chunk.chars := by
  have hbegins (blanks word : List Char) (hne : blanks ≠ []) (hblanks : ∀ b ∈ blanks, isFoldingBlank b = true) :
      BeginsWithBlank (Chunk.mk blanks.reverse word.reverse).chars := by
    obtain ⟨b, rest, hreverse⟩ := List.exists_cons_of_ne_nil (mt List.reverse_eq_nil_iff.1 hne)
    have hmem : b ∈ blanks.reverse := hreverse ▸ List.mem_cons_self
    refine ⟨b, rest ++ word.reverse, ?_, hblanks b (List.mem_reverse.1 hmem)⟩
    rw [Chunk.chars, hreverse, List.cons_append]
  fun_induction chunksFrom blanks word cs with
  | case1 blanks word hnone => cases h
  | case2 blanks word hsome =>
    obtain rfl := List.mem_singleton.1 h
    exact hbegins _ _ hne hblanks
  | case3 blanks word c rest hblank hword ih =>
    exact ih (List.cons_ne_nil _ _) (List.forall_mem_cons.2 ⟨hblank, hblanks⟩) h
  | case4 blanks word c rest hblank hword ih =>
    rcases List.mem_cons.1 h with rfl | h
    · exact hbegins _ _ hne hblanks
    · exact ih (List.cons_ne_nil _ _) (by simpa using hblank) h
  | case5 blanks word c rest hblank ih => exact ih hne hblanks h

/-- A chunk behind the first one begins with a blank, and the first one has no blanks if a word has begun. -/
theorem chunksFrom_of_word (hword : word ≠ []) (cs : List Char) :
    ∃ first rest, chunksFrom [] word cs = first :: rest ∧ first.blanks = [] ∧
      ∀ chunk ∈ rest, BeginsWithBlank chunk.chars := by
  induction cs generalizing word with
  | nil =>
    refine ⟨⟨[], word.reverse⟩, [], ?_, rfl, fun _ h => absurd h List.not_mem_nil⟩
    rw [chunksFrom, if_neg (by simpa using hword)]
    rfl
  | cons c cs ih =>
    rw [chunksFrom]
    split
    · rename_i hblank
      rw [if_neg (by simpa using hword)]
      exact ⟨_, _, rfl, rfl, fun chunk hmem =>
        beginsWithBlank_of_mem_chunksFrom (List.cons_ne_nil _ _) (by simpa using hblank) hmem⟩
    · exact ih (List.cons_ne_nil _ _)

/-- The chunks of a line are the line. -/
theorem flatMap_chunksFrom (blanks word cs : List Char) :
    (chunksFrom blanks word cs).flatMap Chunk.chars = blanks.reverse ++ word.reverse ++ cs := by
  fun_induction chunksFrom blanks word cs with
  | case1 blanks word hnone =>
    obtain ⟨hblanks, hword⟩ := Bool.and_eq_true_iff.1 hnone
    rw [List.isEmpty_iff.1 hblanks, List.isEmpty_iff.1 hword]
    rfl
  | case2 blanks word hsome => simp [Chunk.chars]
  | case3 blanks word c rest hblank hword ih =>
    rw [ih, List.isEmpty_iff.1 hword]
    simp
  | case4 blanks word c rest hblank hword ih =>
    rw [List.flatMap_cons, ih]
    simp [Chunk.chars]
  | case5 blanks word c rest hblank ih =>
    rw [ih]
    simp

/-! ## Steps of a folding -/

/-- No character of a line ends it; the further lines have a property, and so have the chunks that one can begin
with. The lines of a folding stand in reverse, and the first one has room taken by the name of its header. -/
structure Continues (Q : List Char → Prop) (f : Folding) : Prop where
  first : f.lines = [] ∨ f.taken = 0
  whole : ∀ line ∈ f.lines, IsLine line
  further : ∀ line ∈ f.lines.dropLast, Q line
  parts : ∀ chunk ∈ f.chunks, IsLine chunk.chars
  breaks : ∀ chunk ∈ f.chunks.tail, Q chunk.chars
  begins : f.taken = 0 → ∀ chunk ∈ f.chunks, Q chunk.chars

namespace Continues

/-- Nothing has been written yet. -/
theorem start (taken : Nat) : Continues Q { taken } :=
  ⟨.inl rfl, List.forall_mem_nil _, List.forall_mem_nil _, List.forall_mem_nil _, List.forall_mem_nil _,
    fun _ => List.forall_mem_nil _⟩

theorem push (h : f.Continues Q) (hline : IsLine (blanks ++ word))
    (hchunk : Q (blanks ++ word) ∨ f.chunks = [] ∧ f.taken ≠ 0) : (f.push blanks word).Continues Q := by
  refine ⟨h.first, h.whole, h.further, ?_, ?_, ?_⟩
  · exact List.forall_mem_append.2 ⟨h.parts, List.forall_mem_singleton.2 hline⟩
  · intro chunk hmem
    cases hchunks : f.chunks with
    | nil =>
      rw [Folding.push, hchunks] at hmem
      exact absurd hmem List.not_mem_nil
    | cons begun rest =>
      rw [Folding.push, hchunks] at hmem
      rcases List.mem_append.1 hmem with hmem | hmem
      · exact h.breaks chunk (by rwa [hchunks])
      · obtain rfl := List.mem_singleton.1 hmem
        exact hchunk.resolve_right fun hnone => List.cons_ne_nil _ _ (hchunks.symm.trans hnone.1)
  · intro htaken
    exact List.forall_mem_append.2 ⟨h.begins htaken, List.forall_mem_singleton.2
      (hchunk.resolve_right fun hnone => hnone.2 htaken)⟩

theorem newLine (hQ : IsLineStart Q) (h : f.Continues Q) : f.newLine.Continues Q := by
  have hline : IsLine ((dropEndMark f.chunks).flatMap Chunk.chars) :=
    isLine_flatMap fun chunk hmem => h.parts chunk (mem_of_mem_dropEndMark hmem)
  suffices hlines : (∀ line ∈ f.newLine.lines, IsLine line) ∧ ∀ line ∈ f.newLine.lines.dropLast, Q line from
    ⟨.inr rfl, hlines.1, hlines.2, List.forall_mem_nil _, List.forall_mem_nil _, fun _ => List.forall_mem_nil _⟩
  unfold Folding.newLine
  dsimp only
  split
  · exact ⟨h.whole, h.further⟩
  rename_i hlength
  -- a line behind the first one has a chunk, since nothing is taken on it
  have hbegins : f.lines ≠ [] → Q ((dropEndMark f.chunks).flatMap Chunk.chars) := by
    intro hlines
    have htaken := h.first.resolve_left hlines
    refine line_of_chunks hQ ?_ fun chunk hmem => h.begins htaken chunk (mem_of_mem_dropEndMark hmem)
    intro hnone
    exact hlength (by simp [Folding.length, Folding.line, hnone, htaken])
  split
  · rename_i before rest hlines
    split
    · have hwhole := h.whole
      have hfurther := h.further
      rw [hlines] at hwhole hfurther
      obtain ⟨hbefore, hrest⟩ := List.forall_mem_cons.1 hwhole
      refine ⟨List.forall_mem_cons.2 ⟨hbefore.append hline, hrest⟩, ?_⟩
      cases rest with
      | nil => exact List.forall_mem_nil _
      | cons next rest =>
        obtain ⟨hbefore, hrest⟩ := List.forall_mem_cons.1 hfurther
        exact List.forall_mem_cons.2 ⟨hQ.append _ hbefore, hrest⟩
    · exact ⟨List.forall_mem_cons.2 ⟨hline, h.whole⟩, dropLast_cons h.further hbegins⟩
  · exact ⟨List.forall_mem_singleton.2 hline, List.forall_mem_nil _⟩

theorem append (hQ : IsLineStart Q) (h : f.Continues Q) (hline : IsLine (blanks ++ word))
    (hchunk : Q (blanks ++ word) ∨ blanks = [] ∧ f.chunks = [] ∧ f.taken ≠ 0) :
    (f.append blanks word).Continues Q := by
  have hpush := h.push hline (hchunk.imp_right And.right)
  unfold Folding.append
  dsimp only
  split
  · exact hpush
  split
  · rename_i before after hbreak
    obtain ⟨hne, hchunks⟩ := bestBreak?_eq_some hbreak
    obtain ⟨first, rest, rfl⟩ := List.exists_cons_of_ne_nil hne
    obtain ⟨hbefore, hafter⟩ : (∀ chunk ∈ first :: rest, IsLine chunk.chars) ∧
        ∀ chunk ∈ after, IsLine chunk.chars := by
      rw [← List.forall_mem_append, hchunks]
      exact hpush.parts
    have hbreaks : ∀ chunk ∈ after, Q chunk.chars := fun chunk hmem =>
      hpush.breaks chunk (hchunks ▸ List.mem_append_right rest hmem)
    refine ⟨.inr rfl, List.forall_mem_cons.2 ⟨isLine_flatMap hbefore, h.whole⟩,
      dropLast_cons h.further fun hlines => ?_, hafter, fun chunk hmem => hbreaks chunk (List.mem_of_mem_tail hmem), fun _ => hbreaks⟩
    refine line_of_chunks hQ hne fun chunk hmem => hpush.begins (h.first.resolve_left hlines) chunk ?_
    exact hchunks ▸ List.mem_append_left after hmem
  · split
    · cases blanks with
      | nil => exact (h.newLine hQ).push hline.space (.inl (hQ.space _))
      | cons b rest =>
        exact (h.newLine hQ).push hline (.inl (hchunk.resolve_right fun hnone => List.cons_ne_nil _ _ hnone.1))
    · exact hpush

/-- Chunks on a line that has begun. -/
theorem appendAll (hQ : IsLineStart Q) (h : f.Continues Q) {chunks : List Chunk}
    (hchunks : ∀ chunk ∈ chunks, IsLine chunk.chars ∧ Q chunk.chars) :
    (chunks.foldl (fun f c => f.append c.blanks c.word) f).Continues Q :=
  List.foldlRecOn chunks _ h fun _ hf chunk hmem => hf.append hQ (hchunks chunk hmem).1 (.inl (hchunks chunk hmem).2)

/-- A further line that begins with a space, behind complete ones. -/
theorem nextLine (hQ : IsLineStart Q) (h : f.Continues Q) {lines : List (List Char)} (hword : IsLine word)
    (hlines : ∀ line ∈ lines, IsLine line ∧ Q line) :
    ({ f.newLine.push [' '] word with
      lines := lines ++ (f.newLine.push [' '] word).lines } : Folding).Continues Q := by
  have hpush : (f.newLine.push [' '] word).Continues Q :=
    (h.newLine hQ).push hword.space (.inl (hQ.space word))
  refine ⟨.inr rfl, List.forall_mem_append.2 ⟨fun line hmem => (hlines line hmem).1, hpush.whole⟩, ?_, hpush.parts,
    hpush.breaks, hpush.begins⟩
  induction lines with
  | nil => exact hpush.further
  | cons line rest ih =>
    obtain ⟨hline, hrest⟩ := List.forall_mem_cons.1 hlines
    exact dropLast_cons (ih hrest) fun _ => hline.2

theorem appendEncoded (hQ : IsLineStart Q) (h : f.Continues Q) (cs : List Char)
    (hblanks : blanks = [' '] ∨ blanks = [] ∧ f.chunks = [] ∧ f.taken ≠ 0) :
    (f.appendEncoded blanks cs).Continues Q := by
  have hfirst (word : List Char) (hword : IsLine word) : (f.append blanks word).Continues Q := by
    rcases hblanks with rfl | ⟨rfl, hstart⟩
    · exact h.append hQ hword.space (.inl (hQ.space word))
    · exact h.append hQ hword (.inr ⟨rfl, hstart⟩)
  unfold Folding.appendEncoded
  split
  · exact h
  rename_i first rest hlines
  obtain ⟨hword, hrest⟩ : IsLine (first.getD []) ∧ ∀ word ∈ rest, IsLine (word.getD []) :=
    List.forall_mem_cons.1 fun word hmem => isLine_of_mem_encodedLines (hlines ▸ hmem)
  have hbetween : ∀ line ∈ (rest.dropLast.map fun w => ' ' :: w.getD []).reverse, IsLine line ∧ Q line := by
    intro line hmem
    obtain ⟨word, hword, rfl⟩ := List.mem_map.1 (List.mem_reverse.1 hmem)
    exact ⟨(hrest word (List.dropLast_subset _ hword)).space, hQ.space _⟩
  cases first with
  | none =>
    dsimp only
    split
    · exact h
    · exact h.nextLine hQ (hrest _ (List.mem_of_getLast? ‹_›)) hbetween
  | some word =>
    dsimp only
    split
    · exact hfirst word hword
    · exact (hfirst word hword).nextLine hQ (hrest _ (List.mem_of_getLast? ‹_›)) hbetween

end Continues

theorem isLine_of_mem_chunksFrom {cs : List Char} (h : IsLine cs) {chunk : Chunk}
    (hmem : chunk ∈ chunksFrom [] [] cs) : IsLine chunk.chars := by
  intro c hc
  have hline : c ∈ (chunksFrom [] [] cs).flatMap Chunk.chars := List.mem_flatMap.2 ⟨chunk, hmem, hc⟩
  rw [flatMap_chunksFrom] at hline
  exact h c hline

/-- No further line is empty when a plain line is written. -/
theorem Continues.appendPlain (h : f.Continues (· ≠ [])) {cs : List Char} (hcs : IsLine cs) :
    (f.appendPlain cs).Continues (· ≠ []) :=
  h.appendAll isLineStart_ne_nil fun _ hmem => ⟨isLine_of_mem_chunksFrom hcs hmem, ne_nil_of_mem_chunksFrom hmem⟩

/-- Every further line begins with a blank when a plain value of one line is written. -/
theorem continues_appendPlain {cs : List Char} (hcs : IsLine cs) {taken : Nat} (htaken : taken ≠ 0) :
    (appendPlain cs { taken }).Continues BeginsWithBlank := by
  have hQ := isLineStart_beginsWithBlank
  have hline : ∀ chunk ∈ chunksFrom [] [] cs, IsLine chunk.chars := fun chunk => isLine_of_mem_chunksFrom hcs
  rw [appendPlain]
  cases cs with
  | nil => exact .start taken
  | cons c cs =>
    rw [chunksFrom] at hline ⊢
    split at hline
    · rename_i hblank
      rw [if_pos hblank]
      exact (Continues.start taken).appendAll hQ fun chunk hmem => ⟨hline chunk hmem,
        beginsWithBlank_of_mem_chunksFrom (List.cons_ne_nil _ _) (by simpa using hblank) hmem⟩
    · rename_i hblank
      rw [if_neg hblank]
      obtain ⟨first, rest, hchunks, hblanks, hrest⟩ := chunksFrom_of_word (List.cons_ne_nil c []) cs
      rw [hchunks] at hline ⊢
      obtain ⟨hfirst, hline⟩ := List.forall_mem_cons.1 hline
      rw [List.foldl_cons]
      exact ((Continues.start taken).append hQ hfirst (.inr ⟨hblanks, rfl, htaken⟩)).appendAll hQ fun chunk hmem =>
        ⟨hline chunk hmem, hrest chunk hmem⟩

end Folding

/-! ## Folded values -/

section Values

variable {plain : Bool} {f : Folding} {cs : List Char}

theorem continues_feedFirst (hcs : IsLine cs) {taken : Nat} (htaken : taken ≠ 0) :
    (feedFirst plain cs { taken }).Continues (· ≠ []) := by
  unfold feedFirst
  split
  · exact (Folding.Continues.start taken).appendPlain hcs
  · exact (Folding.Continues.start taken).appendEncoded isLineStart_ne_nil _ (.inr ⟨rfl, rfl, htaken⟩)

theorem continues_feedNext (h : f.Continues (· ≠ [])) (hcs : IsLine cs) :
    (feedNext plain f cs).Continues (· ≠ []) := by
  have hnext := h.newLine isLineStart_ne_nil
  unfold feedNext
  dsimp only
  split
  · exact hnext.appendPlain hcs
  · exact hnext.appendEncoded isLineStart_ne_nil _ (.inl rfl)

/-- The last step of a folding. -/
theorem lines_of_continues {Q : List Char → Prop} (hQ : IsLineStart Q) (h : f.Continues Q) :
    let lines := (f.push [' '] []).newLine.lines.reverse
    (∀ line ∈ lines, IsLine line) ∧ ∀ line ∈ lines.tail, Q line := by
  have hpush : (f.push [' '] []).Continues Q := h.push isLine_nil.space (.inl (hQ.space []))
  have hlast := hpush.newLine hQ
  refine ⟨fun line hmem => hlast.whole line (List.mem_reverse.1 hmem), fun line hmem => ?_⟩
  rw [List.tail_reverse, List.mem_reverse] at hmem
  exact hlast.further line hmem

/-- **No character of a line ends it, and no line behind the first one is empty**, whatever the value is. -/
theorem foldedLines_isLine (nameLength : Nat) (cs : List Char) :
    (∀ line ∈ foldedLines nameLength cs, IsLine line) ∧ ∀ line ∈ (foldedLines nameLength cs).tail, line ≠ [] := by
  have hlines := isLine_of_mem_valueLines cs
  have hhead : IsLine ((valueLines cs).head?.getD []) := by
    cases hvalue : valueLines cs with
    | nil => exact isLine_nil
    | cons first rest => exact hlines first (hvalue ▸ List.mem_cons_self)
  have hfed : (((valueLines cs).drop 1).foldl (feedNext (isPlain cs))
      (feedFirst (isPlain cs) ((valueLines cs).head?.getD []) { taken := nameLength + 2 })).Continues (· ≠ []) :=
    List.foldlRecOn _ _ (continues_feedFirst hhead (Nat.succ_ne_zero _)) fun _ h line hmem =>
      continues_feedNext h (hlines line (List.mem_of_mem_drop hmem))
  unfold foldedLines
  dsimp only
  split
  · exact lines_of_continues isLineStart_ne_nil (hfed.newLine isLineStart_ne_nil)
  · exact lines_of_continues isLineStart_ne_nil hfed

end Values

/-! ## Values of printable characters -/

/-- The characters of a text are printable and in ASCII. -/
def IsPrintable (s : String) : Prop := ∀ c ∈ s.toList, 0x20 ≤ c.toNat ∧ c.toNat ≤ 0x7e

instance (s : String) : Decidable (IsPrintable s) :=
  List.decidableBAll (fun c : Char => 0x20 ≤ c.toNat ∧ c.toNat ≤ 0x7e) s.toList

theorem IsPrintable.isLine {s : String} (h : IsPrintable s) : IsLine s.toList := by
  intro c hc
  obtain ⟨hlow, hhigh⟩ := h c hc
  simp [endsLine]
  omega

theorem IsPrintable.isPlain {s : String} (h : IsPrintable s) : isPlain s.toList = true := by
  rw [Mail.isPlain, List.all_eq_true]
  intro c hc
  have hhigh := (h c hc).2
  rw [decide_eq_true_eq]
  omega

/-- **A printable value is folded before blanks alone.** -/
theorem foldedLines_beginsWithBlank (nameLength : Nat) {s : String} (h : IsPrintable s) :
    ∀ line ∈ (foldedLines nameLength s.toList).tail, BeginsWithBlank line := by
  have hline := valueLines_of_isLine h.isLine
  have hlength : ¬ 1 < (valueLines s.toList).length := by
    rw [hline]
    split <;> simp
  have hfed : (valueLines s.toList).drop 1 = [] ∧ (valueLines s.toList).head?.getD [] = s.toList := by
    rw [hline]
    split
    · rename_i hempty
      simpa using (List.isEmpty_iff.1 hempty).symm
    · simp
  unfold foldedLines
  dsimp only
  rw [if_neg hlength, hfed.1, hfed.2, h.isPlain, List.foldl_nil, feedFirst, if_pos rfl]
  exact (lines_of_continues isLineStart_beginsWithBlank
    (Folding.continues_appendPlain h.isLine (Nat.succ_ne_zero _))).2

/-- Only behind the end of a line a header is looked for. -/
theorem holdsHeader_append {cs : List Char} (h : '\n' ∉ cs) (rest : List Char) :
    holdsHeader (cs ++ rest) = holdsHeader rest := by
  induction cs with
  | nil => rfl
  | cons c cs ih =>
    have hne : (c == '\n') = false := beq_eq_false_iff_ne.2 fun hc => h (hc ▸ List.mem_cons_self)
    rw [List.cons_append, holdsHeader, hne, ih fun hmem => h (List.mem_cons_of_mem _ hmem)]
    simp

/-- Lines that begin with blanks hold no header. -/
theorem holdsHeader_intercalate {lines : List (List Char)} (hlines : ∀ line ∈ lines, '\n' ∉ line)
    (hblank : ∀ line ∈ lines.tail, BeginsWithBlank line) : holdsHeader (['\n'].intercalate lines) = false := by
  induction lines with
  | nil => rfl
  | cons line rest ih =>
    obtain ⟨hline, hrest⟩ := List.forall_mem_cons.1 hlines
    cases rest with
    | nil =>
      have hnone := holdsHeader_append hline []
      rw [List.append_nil] at hnone
      rwa [List.intercalate_singleton]
    | cons next rest =>
      obtain ⟨⟨b, next, rfl, hb⟩, htail⟩ := List.forall_mem_cons.1 hblank
      have hhead (others : List Char) : holdsHeader ('\n' :: b :: others) = holdsHeader (b :: others) := by
        rw [Folding.isFoldingBlank] at hb
        rw [holdsHeader, List.head?_cons, Option.any_some, hb]
        simp
      have hnext := ih hrest htail
      rw [List.intercalate_cons_cons, List.append_assoc, holdsHeader_append hline]
      cases rest with
      | nil =>
        rw [List.intercalate_singleton] at hnext ⊢
        exact (hhead _).trans hnext
      | cons other rest =>
        rw [List.intercalate_cons_cons] at hnext ⊢
        exact (hhead _).trans hnext

theorem foldHeader_eq_ok {name value folded : String} (h : foldHeader name value = .ok folded) :
    folded = String.ofList (['\n'].intercalate (foldedLines name.length value.toList)) := by
  rw [foldHeader] at h
  split at h
  · cases h
  · exact (Except.ok.inj h).symm

/-- **A printable value is written as a header.** -/
theorem foldHeader_of_isPrintable (name : String) {s : String} (h : IsPrintable s) :
    foldHeader name s = .ok (String.ofList (['\n'].intercalate (foldedLines name.length s.toList))) := by
  have hlines : ∀ line ∈ foldedLines name.length s.toList, '\n' ∉ line := fun line hmem =>
    ((foldedLines_isLine _ _).1 line hmem).not_mem
  rw [foldHeader, holdsHeader_intercalate hlines (foldedLines_beginsWithBlank _ h), if_neg Bool.false_ne_true]

end WorkspaceTools.Mail
