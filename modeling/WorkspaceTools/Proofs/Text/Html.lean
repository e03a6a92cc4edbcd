import Mathlib.Data.List.Chain
import WorkspaceTools.Text.Html

/-!
# What is left of a marked-up text

* `Untagged` says what is left of a text outside of its tags; `dropTags` gives just that (`untagged_dropTags`).
  Nothing that is left is a tag (`Untagged.isTagFree`), also where the text before a tag and the text after it
  meet, and a text without tags is left as it is (`Untagged.eq_of_isTagFree`).
* `IsTidy` texts have single spaces for blanks, none at either end. Words that are put together are tidy
  (`isTidy_intercalate`) and can be told apart again (`words_intercalate`).
* `stripHtml_isTidy`: the text of a document has no tag and no untidy blank, stays as it is when it is taken for
  a document again, and loses no character but tags and blanks.
-/

namespace WorkspaceTools.Text

/-! ## Tags -/

/-- What is left of a text outside of its tags. A tag begins with the first `<` and ends with the next `>`; where
no `>` follows there is none. -/
inductive Untagged : List Char → List Char → Prop
  | nil : Untagged [] []
  | char {c : Char} {cs rest : List Char} (hc : c ≠ '<') (h : Untagged cs rest) : Untagged (c :: cs) (c :: rest)
  | tag {inside cs rest : List Char} (hinside : '>' ∉ inside) (h : Untagged cs rest) :
    Untagged ('<' :: (inside ++ '>' :: cs)) rest
  | unclosed {cs : List Char} (hcs : '>' ∉ cs) : Untagged ('<' :: cs) ('<' :: cs)

/-- No `<` is followed by a `>`, however far behind. -/
def IsTagFree (cs : List Char) : Prop := cs.Pairwise fun c d => ¬(c = '<' ∧ d = '>')

/-- The scan gives what is left. A tag that has begun is still part of the text, since it may stay open. -/
theorem untagged_dropTagsFrom (opened : Option (List Char)) (cs : List Char)
    (h : ∀ tag ∈ opened, ∃ inside, tag.reverse = '<' :: inside ∧ '>' ∉ inside) :
    Untagged (opened.elim [] List.reverse ++ cs) (dropTagsFrom opened cs) := by
  fun_induction dropTagsFrom opened cs with
  | case1 => exact .nil
  | case2 tag =>
    obtain ⟨inside, htag, hinside⟩ := h tag rfl
    rw [Option.elim_some, List.append_nil, htag]
    exact .unclosed hinside
  | case3 c rest hc ih =>
    obtain rfl : c = '<' := by simpa using hc
    refine ih ?_
    rintro tag ⟨⟩
    exact ⟨[], rfl, List.not_mem_nil⟩
  | case4 c rest hc ih =>
    refine .char (by simpa using hc) (ih ?_)
    rintro tag ⟨⟩
  | case5 tag c rest hc ih =>
    obtain rfl : c = '>' := by simpa using hc
    obtain ⟨inside, htag, hinside⟩ := h tag rfl
    rw [Option.elim_some, htag]
    refine .tag hinside (ih ?_)
    rintro tag ⟨⟩
  | case6 tag c rest hc ih =>
    obtain ⟨inside, htag, hinside⟩ := h tag rfl
    have hnext : Untagged ((c :: tag).reverse ++ rest) (dropTagsFrom (some (c :: tag)) rest) := by
      refine ih ?_
      rintro tag' ⟨⟩
      refine ⟨inside ++ [c], by rw [List.reverse_cons, htag, List.cons_append], ?_⟩
      have hne : c ≠ '>' := by simpa using hc
      simpa [hinside] using hne.symm
    rwa [List.reverse_cons, List.append_assoc, List.singleton_append] at hnext

theorem untagged_dropTags (cs : List Char) : Untagged cs (dropTags cs) := by
  refine untagged_dropTagsFrom none cs ?_
  rintro tag ⟨⟩

namespace Untagged

variable {cs rest : List Char}

/-- **Nothing that is left is a tag.** A `<` is only left where no `>` follows in the text itself. -/
theorem isTagFree (h : Untagged cs rest) : IsTagFree rest := by
  induction h with
  | nil => exact .nil
  | char hc _ ih => exact .cons (fun d _ hd => hc hd.1) ih
  | tag _ _ ih => exact ih
  | @unclosed cs hcs =>
    have hnone : ∀ d ∈ cs, d ≠ '>' := fun d hd hd' => hcs (hd' ▸ hd)
    refine .cons (fun d hd hd' => hnone d hd hd'.2) ?_
    exact List.pairwise_of_forall_mem_list fun c _ d hd hcd => hnone d hd hcd.2

/-- A text without tags is left as it is. -/
theorem eq_of_isTagFree (h : Untagged cs rest) (hcs : IsTagFree cs) : rest = cs := by
  induction h with
  | nil => rfl
  | char _ _ ih => rw [ih (List.pairwise_cons.1 hcs).2]
  | tag =>
    have hlater := (List.pairwise_cons.1 hcs).1 '>' (by simp)
    exact absurd ⟨rfl, rfl⟩ hlater
  | unclosed => rfl

end Untagged

/-! ## Words -/

/-- A word: some characters, none of which is a blank. -/
def IsWord (w : List Char) : Prop := w ≠ [] ∧ ∀ c ∈ w, isBlank c = false

/-- The only blanks are single spaces between characters that are none. -/
structure IsTidy (cs : List Char) : Prop where
  isSpace : ∀ c ∈ cs, isBlank c = true → c = ' '
  isSingle : cs.IsChain fun c d => ¬(isBlank c = true ∧ isBlank d = true)
  first : ∀ c ∈ cs.head?, isBlank c = false
  last : ∀ c ∈ cs.getLast?, isBlank c = false

/-- The characters that are no blanks. -/
def inked (cs : List Char) : List Char := cs.filter fun c => !isBlank c

/-- Words begin and end with characters that are no blanks, and cutting a text at its blanks keeps all others. -/
theorem wordsFrom_spec (word cs : List Char) (h : ∀ c ∈ word, isBlank c = false) :
    (∀ w ∈ wordsFrom word cs, IsWord w) ∧ (wordsFrom word cs).flatten = word.reverse ++ inked cs := by
  fun_induction wordsFrom word cs with
  | case1 => exact ⟨by simp, rfl⟩
  | case2 word hne =>
    have hword : IsWord word.reverse := ⟨by simpa using hne, by simpa using h⟩
    exact ⟨by simpa using hword, by simp [inked]⟩
  | case3 c rest hc ih =>
    obtain ⟨hwords, hflat⟩ := ih (by simp)
    exact ⟨hwords, by rw [hflat, inked, inked, List.filter_cons_of_neg (by simp [hc])]⟩
  | case4 c rest hc ih =>
    obtain ⟨hwords, hflat⟩ := ih (by simpa using hc)
    exact ⟨hwords, by rw [hflat, inked, inked, List.filter_cons_of_pos (by simpa using hc)]; rfl⟩
  | case5 word c rest hne hc ih =>
    obtain ⟨hwords, hflat⟩ := ih (by simp)
    have hword : IsWord word.reverse := ⟨by simpa using hne, by simpa using h⟩
    refine ⟨List.forall_mem_cons.2 ⟨hword, hwords⟩, ?_⟩
    rw [List.flatten_cons, hflat, inked, inked, List.filter_cons_of_neg (by simp [hc])]
    rfl
  | case6 word c rest hne hc ih =>
    have hc : isBlank c = false := by simpa using hc
    obtain ⟨hwords, hflat⟩ := ih (List.forall_mem_cons.2 ⟨hc, h⟩)
    refine ⟨hwords, ?_⟩
    rw [hflat, inked, inked, List.filter_cons_of_pos (by simpa using hc), List.reverse_cons, List.append_assoc]
    rfl

theorem isWord_of_mem_words {cs w : List Char} (h : w ∈ words cs) : IsWord w :=
  (wordsFrom_spec [] cs (by simp)).1 w h

theorem flatten_words (cs : List Char) : (words cs).flatten = inked cs :=
  (wordsFrom_spec [] cs (by simp)).2

/-- A character that is no blank belongs to the word that has begun. -/
theorem wordsFrom_cons_of_not {c : Char} (hc : isBlank c = false) (word rest : List Char) :
    wordsFrom word (c :: rest) = wordsFrom (c :: word) rest := by
  rw [wordsFrom.eq_def]
  cases word <;> simp only [hc, Bool.false_eq_true, if_false]

/-- The word that has begun ends before a blank. -/
theorem wordsFrom_cons_of_isBlank {c : Char} (hc : isBlank c = true) {word : List Char} (hne : word ≠ [])
    (rest : List Char) : wordsFrom word (c :: rest) = word.reverse :: wordsFrom [] rest := by
  rw [wordsFrom.eq_def]
  cases word with
  | nil => exact absurd rfl hne
  | cons d word => simp only [hc, if_true]

/-- The word that has begun ends with the text. -/
theorem wordsFrom_nil {word : List Char} (hne : word ≠ []) : wordsFrom word [] = [word.reverse] := by
  rw [wordsFrom.eq_def]
  cases word with
  | nil => exact absurd rfl hne
  | cons d word => rfl

/-- The characters of a word are taken together. -/
theorem wordsFrom_append {w : List Char} (h : ∀ c ∈ w, isBlank c = false) (word rest : List Char) :
    wordsFrom word (w ++ rest) = wordsFrom (w.reverse ++ word) rest := by
  induction w generalizing word with
  | nil => rw [List.nil_append, List.reverse_nil, List.nil_append]
  | cons c w ih =>
    obtain ⟨hc, hw⟩ := List.forall_mem_cons.1 h
    rw [List.cons_append, wordsFrom_cons_of_not hc, ih hw, List.reverse_cons, List.append_assoc,
      List.singleton_append]

/-- A word at the end of a text. -/
theorem words_of_isWord {w : List Char} (h : IsWord w) : words w = [w] := by
  have hne : w.reverse ≠ [] := List.reverse_ne_nil_iff.2 h.1
  calc words w = wordsFrom [] (w ++ []) := by rw [List.append_nil, words]
    _ = wordsFrom w.reverse [] := by rw [wordsFrom_append h.2, List.append_nil]
    _ = [w] := by rw [wordsFrom_nil hne, List.reverse_reverse]

/-- A word before a space. -/
theorem words_append_space {w : List Char} (h : IsWord w) (rest : List Char) :
    words (w ++ ' ' :: rest) = w :: words rest := by
  have hne : w.reverse ≠ [] := List.reverse_ne_nil_iff.2 h.1
  have hspace : isBlank ' ' = true := by decide
  rw [words, wordsFrom_append h.2, List.append_nil, wordsFrom_cons_of_isBlank hspace hne, List.reverse_reverse,
    words]

section Joined

variable {ws : List (List Char)}

/-- **Words that are put together can be told apart again.** -/
theorem words_intercalate (h : ∀ w ∈ ws, IsWord w) : words ([' '].intercalate ws) = ws := by
  induction ws with
  | nil => rfl
  | cons w rest ih =>
    obtain ⟨hw, hrest⟩ := List.forall_mem_cons.1 h
    cases rest with
    | nil => rw [List.intercalate_singleton, words_of_isWord hw]
    | cons next rest =>
      rw [List.intercalate_cons_cons, List.append_assoc, List.singleton_append, words_append_space hw, ih hrest]

/-- Only spaces come between words. -/
theorem inked_intercalate (h : ∀ w ∈ ws, IsWord w) : inked ([' '].intercalate ws) = ws.flatten := by
  rw [← flatten_words, words_intercalate h]

theorem IsWord.isTidy {w : List Char} (h : IsWord w) : IsTidy w where
  isSpace c hc hblank := absurd hblank (by rw [h.2 c hc]; exact Bool.false_ne_true)
  isSingle := by
    refine List.Pairwise.isChain (List.pairwise_of_forall_mem_list fun c hc d _ hcd => ?_)
    rw [h.2 c hc] at hcd
    exact Bool.false_ne_true hcd.1
  first c hc := h.2 c (List.mem_of_mem_head? hc)
  last c hc := h.2 c (List.mem_of_mem_getLast? hc)

/-- A word and a space before a tidy text. -/
theorem IsTidy.append_space {w rest : List Char} (h : IsTidy rest) (hne : rest ≠ []) (hw : IsWord w) :
    IsTidy (w ++ ' ' :: rest) where
  isSpace c hc hblank := by
    rcases List.mem_append.1 hc with hc | hc
    · exact hw.isTidy.isSpace c hc hblank
    · rcases List.mem_cons.1 hc with rfl | hc
      · rfl
      · exact h.isSpace c hc hblank
  isSingle := by
    refine .append hw.isTidy.isSingle (.cons h.isSingle ?_) ?_
    · rintro d hd ⟨-, hblank⟩
      rw [h.first d hd] at hblank
      exact Bool.false_ne_true hblank
    · rintro c hc d - ⟨hblank, -⟩
      rw [hw.isTidy.last c hc] at hblank
      exact Bool.false_ne_true hblank
  first := by
    rw [List.head?_append_of_ne_nil _ hw.1]
    exact hw.isTidy.first
  last := by
    obtain ⟨d, ds, rfl⟩ := List.exists_cons_of_ne_nil hne
    rw [List.getLast?_append_of_ne_nil _ (List.cons_ne_nil _ _), List.getLast?_cons_cons]
    exact h.last

/-- **Words that are put together are tidy.** -/
theorem isTidy_intercalate (h : ∀ w ∈ ws, IsWord w) : IsTidy ([' '].intercalate ws) := by
  induction ws with
  | nil => exact ⟨by simp, .nil, by simp, by simp⟩
  | cons w rest ih =>
    obtain ⟨hw, hrest⟩ := List.forall_mem_cons.1 h
    cases rest with
    | nil =>
      rw [List.intercalate_singleton]
      exact hw.isTidy
    | cons next rest =>
      obtain ⟨c, cs, hnext⟩ := List.exists_cons_of_ne_nil (List.forall_mem_cons.1 hrest).1.1
      have hne : [' '].intercalate (next :: rest) ≠ [] := by
        cases rest <;> simp [hnext, List.intercalate_cons_cons]
      rw [List.intercalate_cons_cons, List.append_assoc, List.singleton_append]
      exact (ih hrest).append_space hne hw

end Joined

/-! ## Documents -/

/-- Blanks make no difference to tags. -/
theorem isTagFree_inked_iff {cs : List Char} : IsTagFree (inked cs) ↔ IsTagFree cs := by
  rw [IsTagFree, inked, List.pairwise_filter, IsTagFree]
  constructor
  · rintro h
    refine h.imp ?_
    rintro c d hcd ⟨rfl, rfl⟩
    exact hcd (by decide) (by decide) ⟨rfl, rfl⟩
  · exact fun h => h.imp fun hcd _ _ => hcd

/-- **The text of a document is tidy.** Of every text: no `<` in its result is followed by a `>`, all blanks in it
are single spaces between characters that are none, and for a document of its own it stays as it is. Nothing is
lost but blanks and what stands inside of tags. -/
theorem stripHtml_isTidy (s : String) :
    IsTagFree (stripHtml s).toList ∧ IsTidy (stripHtml s).toList ∧ stripHtml (stripHtml s) = stripHtml s ∧
      ∃ rest, Untagged s.toList rest ∧ inked (stripHtml s).toList = inked rest := by
  have hwords : ∀ w ∈ words (dropTags s.toList), IsWord w := fun w hw => isWord_of_mem_words hw
  have htext : (stripHtml s).toList = [' '].intercalate (words (dropTags s.toList)) := by
    rw [stripHtml, String.toList_ofList]
  have hrest : Untagged s.toList (dropTags s.toList) := untagged_dropTags s.toList
  have hinked : inked (stripHtml s).toList = inked (dropTags s.toList) := by
    rw [htext, inked_intercalate hwords, flatten_words]
  have hfree : IsTagFree (stripHtml s).toList := by
    rw [← isTagFree_inked_iff, hinked, isTagFree_inked_iff]
    exact hrest.isTagFree
  refine ⟨hfree, ?_, ?_, _, hrest, hinked⟩
  · rw [htext]
    exact isTidy_intercalate hwords
  · have hsame : dropTags (stripHtml s).toList = (stripHtml s).toList :=
      (untagged_dropTags _).eq_of_isTagFree hfree
    rw [stripHtml, hsame, htext, words_intercalate hwords, stripHtml]

/-- The tag begins with the first `<`; the last one has no end. -/
example : stripHtml " a<<b>i>\u2028 < c\x1cd " = "ai> < c d" := by decide

end WorkspaceTools.Text
