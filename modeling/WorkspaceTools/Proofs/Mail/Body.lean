import Mathlib.Data.List.Basic
import WorkspaceTools.Mail.Body
import WorkspaceTools.Proofs.Outcome

/-!
# Where the text of a message comes from

A message is a tree of parts (`IsTree`), each with a media type and perhaps with data of its own.

* `HasText` is the text that the data of a part stand for. A text is fit for a reader (`IsReadableBody`) if it
  is empty, that of a plain part, or that of a marked-up part without its tags.
* The search for the text looks at the media type of a part only where it has come to the part from the
  outside and stops there. A part that is searched itself gives its data whatever they are: `EndsAt` follows
  the search to the part, if any, where it ends in that way. There is at most one (`EndsAt.unique`).
* `IsTree.bodyText_spec` says what is found in every tree, and `bodyText_readable_or_unchecked` that it is fit
  for a reader exactly if the search does not end at a part of another type.
-/

namespace WorkspaceTools.Mail

open Json Text

/-! ## Trees of parts -/

/-- The data of a part are missing or empty, or a text in base64. -/
def HasReadableData (ms : Members) : Prop :=
  ∃ body : Members, (ms.find? "body").getD (.obj []) = .obj body ∧
    (((body.find? "data").getD .null).isTruthy = false ∨
      ∃ s bytes, body.find? "data" = some (.str s) ∧ decodeBase64Url? s = .ok bytes)

/-- The parts inside of a part; a part without a list of them has none. -/
def HasParts (ms : Members) (inner : List Json) : Prop :=
  (ms.find? "parts").getD (.arr []) = .arr inner

/-- A message whose parts are objects with readable data, all the way down. -/
inductive IsTree : Json → Prop
  | part {ms : Members} {inner : List Json} (hdata : HasReadableData ms) (hparts : HasParts ms inner)
      (hinner : ∀ part ∈ inner, IsTree part) : IsTree (.obj ms)

/-- A part of a message, which is one itself. -/
inductive IsPart : Json → Json → Prop
  | self (payload : Json) : IsPart payload payload
  | inside {ms : Members} {inner : List Json} {part node : Json} (hparts : HasParts ms inner)
      (hpart : part ∈ inner) (h : IsPart part node) : IsPart (.obj ms) node

/-- The media type of a part. -/
def HasType (part : Json) (mediaType : String) : Prop := part.member? "mimeType" = some (.str mediaType)

/-- The text of the data of a part. -/
inductive HasText : Json → String → Prop
  | data {ms body : Members} {s : String} {bytes : Bytes} (hbody : ms.find? "body" = some (.obj body))
      (hdata : body.find? "data" = some (.str s)) (hs : s ≠ "") (hbytes : decodeBase64Url? s = .ok bytes) :
      HasText (.obj ms) (decodeLossy bytes)

theorem HasText.unique {part : Json} {text other : String} (h : HasText part text)
    (h' : HasText part other) : text = other := by
  obtain ⟨hbody, hdata, -, hbytes⟩ := h
  obtain ⟨hbody', hdata', -, hbytes'⟩ := h'
  cases hbody.symm.trans hbody'
  cases hdata.symm.trans hdata'
  cases hbytes.symm.trans hbytes'
  rfl

theorem HasParts.unique {ms : Members} {inner others : List Json} (h : HasParts ms inner)
    (h' : HasParts ms others) : inner = others := by
  cases h.symm.trans h'
  rfl

theorem HasParts.parts_eq {ms : Members} {inner : List Json} (h : HasParts ms inner) :
    parts (.obj ms) = .ok inner := by
  rw [parts, lookup_obj, h]
  rfl

/-- A text that is fit for a reader of the message. -/
inductive IsReadableBody (payload : Json) : String → Prop
  | empty : IsReadableBody payload ""
  | plain {part : Json} {text : String} (hpart : IsPart payload part) (htype : HasType part "text/plain")
      (htext : HasText part text) : IsReadableBody payload text
  | markedUp {part : Json} {text : String} (hpart : IsPart payload part) (htype : HasType part "text/html")
      (htext : HasText part text) : IsReadableBody payload (stripHtml text)

theorem IsReadableBody.inside {ms : Members} {inner : List Json} {part : Json} {text : String}
    (hparts : HasParts ms inner) (hpart : part ∈ inner) (h : IsReadableBody part text) :
    IsReadableBody (.obj ms) text := by
  cases h with
  | empty => exact .empty
  | plain hnode htype htext => exact .plain (.inside hparts hpart hnode) htype htext
  | markedUp hnode htype htext => exact .markedUp (.inside hparts hpart hnode) htype htext

/-! ## One step of the search -/

variable {ms : Members} {inner : List Json} {mediaType : String}

/-- A body that is not empty is there. -/
theorem find?_body {body : Members} {data : Json} (hbody : (ms.find? "body").getD (.obj []) = .obj body)
    (hdata : body.find? "data" = some data) : ms.find? "body" = some (.obj body) := by
  cases hfind : ms.find? "body" with
  | none =>
    rw [hfind] at hbody
    cases hbody
    cases hdata
  | some v =>
    rw [hfind] at hbody
    exact congrArg some hbody

theorem HasText.isTruthy_data {body : Members} {text : String} (h : HasText (.obj ms) text)
    (hbody : (ms.find? "body").getD (.obj []) = .obj body) :
    ((body.find? "data").getD .null).isTruthy = true := by
  obtain ⟨hsome, hstr, hs, -⟩ := h
  rw [hsome] at hbody
  cases hbody
  rw [hstr]
  simpa [isTruthy] using hs

/-- The data of a part are empty and stand for no text, or they can be read. -/
theorem partData_cases (h : HasReadableData ms) :
    (∃ data, partData (.obj ms) = .ok data ∧ data.isTruthy = false ∧ ∀ text, ¬HasText (.obj ms) text) ∨
      ∃ s text, partData (.obj ms) = .ok (.str s) ∧ (Json.str s).isTruthy = true ∧
        dataText (.str s) = .ok text ∧ HasText (.obj ms) text := by
  obtain ⟨body, hbody, hdata⟩ := h
  have hpart : partData (.obj ms) = .ok ((body.find? "data").getD .null) := by
    rw [partData, lookup_obj, hbody]
    rfl
  cases htruthy : ((body.find? "data").getD .null).isTruthy with
  | false =>
    refine .inl ⟨_, hpart, htruthy, ?_⟩
    intro text htext
    rw [htext.isTruthy_data hbody] at htruthy
    cases htruthy
  | true =>
    rcases hdata with hfalse | ⟨s, bytes, hstr, hbytes⟩
    · rw [hfalse] at htruthy
      cases htruthy
    · rw [hstr] at hpart htruthy
      have hs : s ≠ "" := by simpa [isTruthy] using htruthy
      refine .inr ⟨s, _, hpart, htruthy, ?_, .data (find?_body hbody hstr) hstr hs hbytes⟩
      rw [dataText, dataBytes, hbytes]
      rfl

theorem isText_field (mediaType : String) {part v : Json} (h : part.field "mimeType" = .ok v) :
    v.isText mediaType = true ↔ HasType part mediaType := by
  rw [HasType]
  cases part with
  | obj ms =>
    cases h
    rw [member?]
    cases Members.find? "mimeType" ms with
    | none => simp [isText]
    | some w => cases w <;> simp [isText]
  | _ => cases h

/-- Some part of a media type has data with the given text. -/
def HasTyped (inner : List Json) (mediaType : String) (text : String) : Prop :=
  ∃ part ∈ inner, HasType part mediaType ∧ HasText part text

theorem hasTyped_cons {part : Json} {text : String} :
    HasTyped (part :: inner) mediaType text ↔
      HasType part mediaType ∧ HasText part text ∨ HasTyped inner mediaType text := by
  simp [HasTyped]

/-- A part is passed over, or its data are found. -/
theorem firstData_cons (h : HasReadableData ms) (mediaType : String) (rest : List Json) :
    (firstData mediaType (.obj ms :: rest) = firstData mediaType rest ∧
        ∀ text, ¬(HasType (.obj ms) mediaType ∧ HasText (.obj ms) text)) ∨
      ∃ data text, firstData mediaType (.obj ms :: rest) = .ok (some data) ∧ dataText data = .ok text ∧
        HasType (.obj ms) mediaType ∧ HasText (.obj ms) text := by
  have htype := isText_field mediaType (field_obj "mimeType" ms)
  rcases partData_cases h with ⟨data, hpart, hfalse, hnone⟩ | ⟨s, text, hpart, htrue, hread, htext⟩
  · refine .inl ⟨?_, fun text htyped => hnone text htyped.2⟩
    simp only [firstData, hpart, field_obj, ok_bind, hfalse, Bool.and_false, Bool.false_eq_true, if_false]
  · by_cases hm : HasType (.obj ms) mediaType
    · refine .inr ⟨.str s, text, ?_, hread, hm, htext⟩
      simp only [firstData, hpart, field_obj, ok_bind, htrue, htype.2 hm, Bool.and_self, if_true, pure_eq_ok]
    · refine .inl ⟨?_, fun text htyped => hm htyped.1⟩
      have hother := mt htype.1 hm
      simp only [firstData, hpart, field_obj, ok_bind, hother, Bool.false_and, Bool.false_eq_true, if_false]

/-- The first data of a media type are found unless there are none. -/
theorem firstData_cases (h : ∀ part ∈ inner, IsTree part) (mediaType : String) :
    (firstData mediaType inner = .ok none ∧ ∀ text, ¬HasTyped inner mediaType text) ∨
      ∃ data text, firstData mediaType inner = .ok (some data) ∧ dataText data = .ok text ∧
        HasTyped inner mediaType text := by
  induction inner with
  | nil => exact .inl ⟨rfl, by rintro text ⟨part, ⟨⟩, -⟩⟩
  | cons part rest ih =>
    simp only [hasTyped_cons]
    obtain ⟨hdata, -, -⟩ := h part List.mem_cons_self
    rcases firstData_cons hdata mediaType rest with ⟨hstep, hnone⟩ | ⟨data, text, hfound, hread, htyped⟩
    · rw [hstep]
      rcases ih fun other hother => h other (List.mem_cons_of_mem _ hother) with
        ⟨hrest, hothers⟩ | ⟨data, text, hfound, hread, htyped⟩
      · exact .inl ⟨hrest, fun text => not_or.2 ⟨hnone text, hothers text⟩⟩
      · exact .inr ⟨data, text, hfound, hread, .inr htyped⟩
    · exact .inr ⟨data, text, hfound, hread, .inl htyped⟩

/-- What a part gives before its parts are searched themselves. -/
inductive GivesText (ms : Members) (inner : List Json) : Option String → Prop
  | own {text : String} (h : HasText (.obj ms) text) : GivesText ms inner (some text)
  | plain {text : String} (hown : ∀ text, ¬HasText (.obj ms) text) (h : HasTyped inner "text/plain" text) :
      GivesText ms inner (some text)
  | markedUp {text : String} (hown : ∀ text, ¬HasText (.obj ms) text)
      (h : HasTyped inner "text/html" text) : GivesText ms inner (some (stripHtml text))
  | nothing (hown : ∀ text, ¬HasText (.obj ms) text) (hplain : ∀ text, ¬HasTyped inner "text/plain" text)
      (hmarked : ∀ text, ¬HasTyped inner "text/html" text) : GivesText ms inner none

theorem liftM_shaped_ok {α : Type} (a : α) : (liftM (Except.ok a : Shaped α) : Except Fault α) = .ok a := rfl

theorem givesText_outerText (hdata : HasReadableData ms) (hparts : HasParts ms inner)
    (hinner : ∀ part ∈ inner, IsTree part) :
    ∃ found, outerText (.obj ms) = .ok found ∧ GivesText ms inner found := by
  have hlist := hparts.parts_eq
  rcases partData_cases hdata with ⟨data, hpart, hfalse, hown⟩ | ⟨s, text, hpart, htrue, hread, htext⟩
  · rcases firstData_cases hinner "text/plain" with ⟨hnone, hplain⟩ | ⟨data, text, hfound, hread, htyped⟩
    · rcases firstData_cases hinner "text/html" with ⟨hnone', hmarked⟩ | ⟨data, text, hfound, hread, htyped⟩
      · refine ⟨none, ?_, .nothing hown hplain hmarked⟩
        simp only [outerText, hpart, hlist, liftM_shaped_ok, ok_bind, hfalse, Bool.false_eq_true, if_false,
          hnone, hnone', pure_eq_ok]
      · refine ⟨_, ?_, .markedUp hown htyped⟩
        simp only [outerText, hpart, hlist, liftM_shaped_ok, ok_bind, hfalse, Bool.false_eq_true, if_false,
          hnone, hfound, hread, pure_eq_ok]
    · refine ⟨_, ?_, .plain hown htyped⟩
      simp only [outerText, hpart, hlist, liftM_shaped_ok, ok_bind, hfalse, Bool.false_eq_true, if_false,
        hfound, hread, pure_eq_ok]
  · refine ⟨_, ?_, .own htext⟩
    simp only [outerText, hpart, liftM_shaped_ok, ok_bind, htrue, if_true, hread, pure_eq_ok]

/-! ## The whole search -/

theorem bodyText_obj (ms : Members) :
    bodyText (.obj ms) = outerText (.obj ms) >>= fun found =>
      match found with
      | some text => .ok text
      | none => innerText ms := by
  cases ms with
  | nil => rfl
  | cons m rest =>
    rw [bodyText]
    · rfl
    · simp

theorem innerText_eq (h : HasParts ms inner) : innerText ms = firstText inner := by
  induction ms with
  | nil =>
    cases h
    rfl
  | cons m rest ih =>
    obtain ⟨name, v⟩ := m
    rw [innerText]
    rw [HasParts, Members.find?] at h
    split
    · rename_i hname
      rw [if_pos hname] at h
      cases h
      rfl
    · rename_i hname
      rw [if_neg hname] at h
      exact ih h

/-- The search of a part finds a text that is not empty. -/
def findsText (part : Json) : Bool := (bodyText part).toOption != some ""

/-- The first text inside of some parts is that of the first part with one. -/
theorem firstText_eq (h : ∀ part ∈ inner, ∃ text, bodyText part = .ok text) :
    firstText inner =
      match inner.find? findsText with
      | some part => bodyText part
      | none => .ok "" := by
  induction inner with
  | nil => rfl
  | cons part rest ih =>
    obtain ⟨text, htext⟩ := h part List.mem_cons_self
    have ih := ih fun other hother => h other (List.mem_cons_of_mem _ hother)
    rw [firstText, htext, ok_bind]
    by_cases hempty : text = ""
    · have hpart : findsText part = false := by
        rw [findsText, htext, hempty]
        rfl
      rw [if_pos hempty, ih, List.find?_cons_of_neg (by simp [hpart])]
    · have hpart : findsText part = true := by
        rw [findsText, htext]
        simpa [Except.toOption] using hempty
      rw [if_neg hempty, List.find?_cons_of_pos hpart]
      exact htext.symm

/-- The search of a message ends at the own data of a part, of whatever media type they are: at those of the
message itself, or those of a part to which it comes when neither a plain nor a marked-up part of the same list
has data. -/
inductive EndsAt : Json → Json → Prop
  | own {payload : Json} {text : String} (h : HasText payload text) : EndsAt payload payload
  | inside {ms : Members} {inner : List Json} {part node : Json}
      (hown : ∀ text, ¬HasText (.obj ms) text) (hparts : HasParts ms inner)
      (hplain : ∀ text, ¬HasTyped inner "text/plain" text)
      (hmarked : ∀ text, ¬HasTyped inner "text/html" text)
      (hpart : inner.find? findsText = some part) (h : EndsAt part node) : EndsAt (.obj ms) node

theorem EndsAt.unique {payload node other : Json} (h : EndsAt payload node) (h' : EndsAt payload other) :
    node = other := by
  induction h with
  | own htext =>
    cases h' with
    | own htext' => rfl
    | inside hown => exact absurd htext (hown _)
  | inside hown hparts hplain hmarked hpart h ih =>
    cases h' with
    | own htext' => exact absurd htext' (hown _)
    | inside hown' hparts' hplain' hmarked' hpart' h' =>
      cases hparts.unique hparts'
      cases hpart.symm.trans hpart'
      exact ih h'

theorem EndsAt.isPart {payload node : Json} (h : EndsAt payload node) : IsPart payload node := by
  induction h with
  | own htext => exact .self _
  | inside hown hparts hplain hmarked hpart h ih => exact .inside hparts (List.mem_of_find?_eq_some hpart) ih

/-- Without own data, the search goes on in a part only where no plain and no marked-up part has data. -/
theorem EndsAt.exists_inside {node : Json} (h : EndsAt (.obj ms) node)
    (hown : ∀ text, ¬HasText (.obj ms) text) (hparts : HasParts ms inner) :
    (∀ text, ¬HasTyped inner "text/plain" text) ∧ (∀ text, ¬HasTyped inner "text/html" text) ∧
      ∃ part, inner.find? findsText = some part ∧ EndsAt part node := by
  cases h with
  | own htext => exact absurd htext (hown _)
  | inside _ hparts' hplain hmarked hpart h =>
    cases hparts.unique hparts'
    exact ⟨hplain, hmarked, _, hpart, h⟩

/-- **What is found in a tree**: the data of the part where the search ends, or a text that is fit for a
reader where it ends nowhere in that way. -/
theorem IsTree.bodyText_spec {payload : Json} (h : IsTree payload) :
    ∃ text, bodyText payload = .ok text ∧
      ((∃ node, EndsAt payload node ∧ HasText node text) ∨
        (∀ node, ¬EndsAt payload node) ∧ IsReadableBody payload text) := by
  induction h with
  | @part ms inner hdata hparts hinner ih =>
    obtain ⟨found, houter, hgives⟩ := givesText_outerText hdata hparts hinner
    rw [bodyText_obj, houter, ok_bind]
    cases hgives with
    | own htext => exact ⟨_, rfl, .inl ⟨_, .own htext, htext⟩⟩
    | plain hown htyped =>
      refine ⟨_, rfl, .inr ⟨?_, ?_⟩⟩
      · intro node hends
        exact (hends.exists_inside hown hparts).1 _ htyped
      · obtain ⟨part, hpart, htype, htext⟩ := htyped
        exact .plain (.inside hparts hpart (.self _)) htype htext
    | markedUp hown htyped =>
      refine ⟨_, rfl, .inr ⟨?_, ?_⟩⟩
      · intro node hends
        exact (hends.exists_inside hown hparts).2.1 _ htyped
      · obtain ⟨part, hpart, htype, htext⟩ := htyped
        exact .markedUp (.inside hparts hpart (.self _)) htype htext
    | nothing hown hplain hmarked =>
      rw [innerText_eq hparts]
      have hall : ∀ part ∈ inner, ∃ text, bodyText part = .ok text := by
        intro part hpart
        obtain ⟨text, htext, -⟩ := ih part hpart
        exact ⟨text, htext⟩
      rw [firstText_eq hall]
      cases hfind : inner.find? findsText with
      | none =>
        refine ⟨"", rfl, .inr ⟨?_, .empty⟩⟩
        intro node hends
        obtain ⟨-, -, part, hpart, -⟩ := hends.exists_inside hown hparts
        cases hfind.symm.trans hpart
      | some part =>
        obtain ⟨text, htext, hcase⟩ := ih part (List.mem_of_find?_eq_some hfind)
        refine ⟨text, htext, ?_⟩
        rcases hcase with ⟨node, hends, hnode⟩ | ⟨hnowhere, hreadable⟩
        · exact .inl ⟨node, .inside hown hparts hplain hmarked hfind hends, hnode⟩
        · refine .inr ⟨?_, hreadable.inside hparts (List.mem_of_find?_eq_some hfind)⟩
          intro node hends
          obtain ⟨-, -, other, hother, hinside⟩ := hends.exists_inside hown hparts
          cases hfind.symm.trans hother
          exact hnowhere node hinside

/-- **When the text of a message is fit for a reader.** Every tree has a text. If the search ends at the data
of a part that is not plain, the text is what they stand for: marked-up text with its tags, or any other
content. In all other trees the text is empty, or that of a plain part, or that of a marked-up part without its
tags. -/
theorem bodyText_readable_or_unchecked {payload : Json} (h : IsTree payload) :
    ∃ text, bodyText payload = .ok text ∧
      ((∃ node, EndsAt payload node ∧ IsPart payload node ∧ ¬HasType node "text/plain" ∧
          HasText node text) ∨
        (∀ node, EndsAt payload node → HasType node "text/plain") ∧ IsReadableBody payload text) := by
  obtain ⟨text, hbody, ⟨node, hends, htext⟩ | ⟨hnowhere, hreadable⟩⟩ := h.bodyText_spec
  · refine ⟨text, hbody, ?_⟩
    by_cases htype : HasType node "text/plain"
    · refine .inr ⟨?_, .plain hends.isPart htype htext⟩
      intro other hother
      rw [hother.unique hends]
      exact htype
    · exact .inl ⟨node, hends, hends.isPart, htype, htext⟩
  · refine ⟨text, hbody, .inr ⟨?_, hreadable⟩⟩
    intro node hends
    exact absurd hends (hnowhere node)

/-- A message of one marked-up part. -/
def markedUpMessage : Json :=
  .obj [("mimeType", .str "text/html"), ("body", .obj [("data", .str "PGI-aGk8L2I-")])]

/-- Its text still has its tags. -/
theorem bodyText_markedUpMessage :
    IsTree markedUpMessage ∧ HasType markedUpMessage "text/html" ∧
      bodyText markedUpMessage = .ok "<b>hi</b>" ∧ stripHtml "<b>hi</b>" = "hi" := by
  have hdecoded : decodeBase64Url? "PGI-aGk8L2I-" = .ok [60, 98, 62, 104, 105, 60, 47, 98, 62] := by decide
  have htext : decodeLossy [60, 98, 62, 104, 105, 60, 47, 98, 62] = "<b>hi</b>" := by decide
  have htree : IsTree markedUpMessage := by
    refine .part ⟨_, rfl, .inr ⟨_, _, rfl, hdecoded⟩⟩ rfl ?_
    rintro part ⟨⟩
  have hown : HasText markedUpMessage "<b>hi</b>" := by
    rw [← htext]
    exact .data rfl rfl (by decide) hdecoded
  obtain ⟨text, hbody, ⟨node, hends, -, -, hnode⟩ | ⟨hplain, -⟩⟩ := bodyText_readable_or_unchecked htree
  · cases hends.unique (.own hown)
    rw [hnode.unique hown] at hbody
    exact ⟨htree, rfl, hbody, by decide⟩
  · exact absurd (Json.str.inj (Option.some.inj (hplain _ (.own hown)))) (by decide)

end WorkspaceTools.Mail
