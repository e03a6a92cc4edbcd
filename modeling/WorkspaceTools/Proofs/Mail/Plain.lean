import WorkspaceTools.Proofs.Mail.Body
import WorkspaceTools.Proofs.Text.Base64

/-!
# The plain text of a message

The first plain part with data gives the text of a message that has no data of its own, whatever parts stand
beside it, and containers around the message change nothing.

* `HasData` reads the data of a part. The search among parts passes over those that have none, or that are of
  another media type (`firstData_append`, `firstData_of_first`).
* A container of one part without data has the text of that part, or the fault that it ends with
  (`bodyText_container`, `Wraps.bodyText_eq`).
* `bodyText_firstPlain`: a text that was written in UTF-8 and base64 as the data of the first plain part is the
  text of the message, in containers of any depth.
-/

namespace WorkspaceTools.Mail

open Json Text

/-! ## Data of parts -/

/-- The part is an object, and so is its body unless it is missing; its data are the given ones, or null where
there are none. -/
def HasData (part data : Json) : Prop :=
  ∃ ms body : Members, part = .obj ms ∧ (ms.find? "body").getD (.obj []) = .obj body ∧
    (body.find? "data").getD .null = data

theorem HasData.partData_eq {part data : Json} (h : HasData part data) : partData part = .ok data := by
  obtain ⟨ms, body, rfl, hbody, rfl⟩ := h
  rw [partData, lookup_obj, hbody]
  rfl

/-- The part has data, and they are of the media type. -/
def Offers (mediaType : String) (part : Json) : Prop :=
  HasType part mediaType ∧ ∃ data, HasData part data ∧ data.isTruthy = true

variable {ms : Members} {mediaType : String} {before after : List Json} {part data : Json}

/-- A part is taken or passed over by its media type and its data. -/
theorem firstData_cons_of_hasData (h : HasData part data) (mediaType : String) (rest : List Json) :
    (HasType part mediaType ∧ data.isTruthy = true ∧ firstData mediaType (part :: rest) = .ok (some data)) ∨
      ¬(HasType part mediaType ∧ data.isTruthy = true) ∧
        firstData mediaType (part :: rest) = firstData mediaType rest := by
  have hdata := h.partData_eq
  obtain ⟨ms, -, rfl, -⟩ := h
  have htype := isText_field mediaType (field_obj "mimeType" ms)
  by_cases hfits : HasType (.obj ms) mediaType ∧ data.isTruthy = true
  · refine .inl ⟨hfits.1, hfits.2, ?_⟩
    simp only [firstData, hdata, field_obj, ok_bind, htype.2 hfits.1, hfits.2, Bool.and_self, if_true,
      pure_eq_ok]
  · refine .inr ⟨hfits, ?_⟩
    rw [← htype, ← Bool.and_eq_true, Bool.not_eq_true] at hfits
    simp only [firstData, hdata, field_obj, ok_bind, hfits, Bool.false_eq_true, if_false]

/-- Parts that have no data of the media type are passed over. -/
theorem firstData_append (h : ∀ other ∈ before, (∃ data, HasData other data) ∧ ¬Offers mediaType other)
    (rest : List Json) : firstData mediaType (before ++ rest) = firstData mediaType rest := by
  induction before with
  | nil => rfl
  | cons other before ih =>
    obtain ⟨⟨data, hdata⟩, hother⟩ := h other List.mem_cons_self
    have hrest := ih fun part hpart => h part (List.mem_cons_of_mem _ hpart)
    rcases firstData_cons_of_hasData hdata mediaType (before ++ rest) with ⟨htype, htruthy, -⟩ | ⟨-, hnext⟩
    · exact absurd ⟨htype, data, hdata, htruthy⟩ hother
    · rw [List.cons_append, hnext, hrest]

/-- The first part that has data of the media type. -/
theorem firstData_of_first (h : ∀ other ∈ before, (∃ data, HasData other data) ∧ ¬Offers mediaType other)
    (htype : HasType part mediaType) (hdata : HasData part data) (htruthy : data.isTruthy = true) :
    firstData mediaType (before ++ part :: after) = .ok (some data) := by
  rw [firstData_append h]
  rcases firstData_cons_of_hasData hdata mediaType after with ⟨-, -, hfound⟩ | ⟨hother, -⟩
  · exact hfound
  · exact absurd ⟨htype, htruthy⟩ hother

/-! ## Containers -/

/-- A part without data of its own. -/
def HasNoData (part : Json) : Prop := ∃ data, HasData part data ∧ data.isTruthy = false

theorem HasNoData.not_offers (h : HasNoData part) : ¬Offers mediaType part := by
  rintro ⟨-, data, hdata, htruthy⟩
  obtain ⟨other, hother, hfalse⟩ := h
  have heq := hdata.partData_eq.symm.trans hother.partData_eq
  cases heq
  rw [htruthy] at hfalse
  cases hfalse

section

variable {inner : List Json} (h : HasNoData (.obj ms)) (hparts : HasParts ms inner)

include h hparts

/-- Without data of its own, a message has the text of the first plain part with data. -/
theorem outerText_of_plain (hplain : firstData "text/plain" inner = .ok (some data)) :
    outerText (.obj ms) = (dataText data).map some := by
  obtain ⟨own, hown, hfalse⟩ := h
  simp only [outerText, hown.partData_eq, hparts.parts_eq, liftM_shaped_ok, ok_bind, hfalse, Bool.false_eq_true,
    if_false, hplain]
  cases dataText data <;> rfl

/-- A message has no text outside of its parts where neither a plain nor a marked-up part has data. -/
theorem outerText_of_none (hplain : firstData "text/plain" inner = .ok none)
    (hmarked : firstData "text/html" inner = .ok none) : outerText (.obj ms) = .ok none := by
  obtain ⟨own, hown, hfalse⟩ := h
  simp only [outerText, hown.partData_eq, hparts.parts_eq, liftM_shaped_ok, ok_bind, hfalse, Bool.false_eq_true,
    if_false, hplain, hmarked, pure_eq_ok]

end

/-- The first text inside of one part is the text of that part. -/
theorem firstText_singleton (part : Json) : firstText [part] = bodyText part := by
  rw [firstText]
  cases bodyText part with
  | error fault => rfl
  | ok text =>
    rw [ok_bind]
    split
    · rename_i hempty
      rw [hempty, firstText]
    · rfl

/-- **A container of one part without data** has the text of that part. -/
theorem bodyText_container {inner : Json} (h : HasNoData (.obj ms)) (hparts : HasParts ms [inner])
    (hinner : HasNoData inner) : bodyText (.obj ms) = bodyText inner := by
  have hnone (mediaType : String) : firstData mediaType [inner] = .ok none := by
    have hskipped : ∀ other ∈ [inner], (∃ data, HasData other data) ∧ ¬Offers mediaType other := by
      intro other hother
      rw [List.mem_singleton.1 hother]
      exact ⟨hinner.imp fun data hdata => hdata.1, hinner.not_offers⟩
    exact firstData_append hskipped []
  rw [bodyText_obj, outerText_of_none h hparts (hnone _) (hnone _), ok_bind, innerText_eq hparts]
  exact firstText_singleton inner

/-- The message, or a container around it: a part without data of its own and with one part inside. -/
inductive Wraps (payload : Json) : Json → Prop
  | self : Wraps payload payload
  | container {ms : Members} {inner : Json} (hdata : HasNoData (.obj ms)) (hparts : HasParts ms [inner])
      (h : Wraps payload inner) : Wraps payload (.obj ms)

theorem Wraps.bodyText_eq {payload outer : Json} (h : Wraps payload outer) (hpayload : HasNoData payload) :
    HasNoData outer ∧ bodyText outer = bodyText payload := by
  induction h with
  | self => exact ⟨hpayload, rfl⟩
  | container hdata hparts h ih =>
    obtain ⟨hinner, htext⟩ := ih
    exact ⟨hdata, (bodyText_container hdata hparts hinner).trans htext⟩

/-! ## The first plain part -/

/-- A message without data of its own, whose parts have a first plain one with data: the given ones. All parts
are objects with objects as bodies. -/
inductive HasFirstPlain : Json → Json → Prop
  | parts {ms : Members} {before after : List Json} {part data : Json} (hown : HasNoData (.obj ms))
      (hparts : HasParts ms (before ++ part :: after))
      (hobjects : ∀ other ∈ before ++ part :: after, ∃ data, HasData other data)
      (hbefore : ∀ other ∈ before, ¬Offers "text/plain" other)
      (htype : HasType part "text/plain") (hdata : HasData part data) : HasFirstPlain (.obj ms) data

theorem HasFirstPlain.hasNoData {payload data : Json} (h : HasFirstPlain payload data) : HasNoData payload := by
  cases h with
  | parts hown => exact hown

theorem HasFirstPlain.bodyText_eq {payload data : Json} (h : HasFirstPlain payload data)
    (htruthy : data.isTruthy = true) : bodyText payload = dataText data := by
  cases h with
  | @parts ms before after part _ hown hparts hobjects hbefore htype hdata =>
    have hothers : ∀ other ∈ before, (∃ data, HasData other data) ∧ ¬Offers "text/plain" other :=
      fun other hother => ⟨hobjects other (List.mem_append_left _ hother), hbefore other hother⟩
    have hfound : firstData "text/plain" (before ++ part :: after) = .ok (some data) :=
      firstData_of_first hothers htype hdata htruthy
    rw [bodyText_obj, outerText_of_plain hown hparts hfound]
    cases dataText data <;> rfl

/-- Data that were written as a text in UTF-8 and in base64, with padding or without, are read as that text. -/
theorem dataText_base64Url {s text : String}
    (h : s.toList = base64Url (encodeUtf8 text) ∨ s.toList = withoutPadding (base64Url (encodeUtf8 text))) :
    dataText (.str s) = .ok text := by
  rw [dataText, dataBytes, decodeBase64Url?_eq_ok h]
  simp only [mapError_ok, map_ok, decodeLossy_encodeUtf8]

/-- A text that is written in UTF-8 and base64 is not empty unless the text is. -/
theorem ne_empty_of_base64Url {s text : String} (htext : text ≠ "")
    (h : s.toList = base64Url (encodeUtf8 text) ∨ s.toList = withoutPadding (base64Url (encodeUtf8 text))) :
    s ≠ "" := by
  rintro rfl
  have hread := dataText_base64Url h
  exact htext (Except.ok.inj hread).symm

/-- **The first plain part gives the text of a message.** Take a text that is not empty, written in UTF-8 and
base64 with padding or without, and a message without data of its own whose first plain part with data has
these: whatever the parts beside it are, the text of the message is that text, and so is that of all containers
around the message. -/
theorem bodyText_firstPlain {payload : Json} {s text : String} (htext : text ≠ "")
    (hs : s.toList = base64Url (encodeUtf8 text) ∨ s.toList = withoutPadding (base64Url (encodeUtf8 text)))
    (h : HasFirstPlain payload (.str s)) :
    bodyText payload = .ok text ∧ ∀ outer, Wraps payload outer → bodyText outer = .ok text := by
  have htruthy : (Json.str s).isTruthy = true := by
    rw [isTruthy, bne_iff_ne]
    exact ne_empty_of_base64Url htext hs
  have hpayload : bodyText payload = .ok text := (h.bodyText_eq htruthy).trans (dataText_base64Url hs)
  refine ⟨hpayload, ?_⟩
  intro outer houter
  exact (houter.bodyText_eq h.hasNoData).2.trans hpayload

/-- A part with data. -/
def dataPart (mediaType data : String) : Json :=
  .obj [("mimeType", .str mediaType), ("body", .obj [("data", .str data)])]

/-- A container of parts. -/
def container (inner : List Json) : Json :=
  .obj [("mimeType", .str "multipart/mixed"), ("body", .obj [("size", .int 0)]), ("parts", .arr inner)]

/-- The message has an empty plain part, a marked-up one, the one that counts, and another plain one. -/
def mixedMessage : Json :=
  container [dataPart "text/plain" "", dataPart "text/html" "PGI-", dataPart "text/plain" "w6k",
    dataPart "text/plain" "eA=="]

theorem hasData_dataPart (mediaType data : String) : HasData (dataPart mediaType data) (.str data) :=
  ⟨_, [("data", .str data)], rfl, rfl, rfl⟩

theorem hasNoData_container (inner : List Json) : HasNoData (container inner) :=
  ⟨.null, ⟨_, [("size", .int 0)], rfl, rfl, rfl⟩, rfl⟩

/-- Its text is found in two containers, too; its data lack their padding. -/
theorem bodyText_firstPlain_mixed :
    "é" ≠ "" ∧ "w6k".toList = withoutPadding (base64Url (encodeUtf8 "é")) ∧
      HasFirstPlain mixedMessage (.str "w6k") ∧ Wraps mixedMessage (container [container [mixedMessage]]) ∧
      bodyText mixedMessage = .ok "é" ∧ bodyText (container [container [mixedMessage]]) = .ok "é" := by
  have htext : "é" ≠ "" := by decide
  have hs : "w6k".toList = withoutPadding (base64Url (encodeUtf8 "é")) := by decide
  have hempty : ¬Offers "text/plain" (dataPart "text/plain" "") :=
    HasNoData.not_offers ⟨_, hasData_dataPart _ _, rfl⟩
  have hmarked : ¬Offers "text/plain" (dataPart "text/html" "PGI-") := by
    rintro ⟨htype, -⟩
    exact absurd (Json.str.inj (Option.some.inj htype)) (by decide)
  have hobjects : ∀ other ∈ [dataPart "text/plain" "", dataPart "text/html" "PGI-"] ++
      dataPart "text/plain" "w6k" :: [dataPart "text/plain" "eA=="], ∃ data, HasData other data := by
    intro other hother
    simp only [List.cons_append, List.nil_append, List.mem_cons, List.not_mem_nil, or_false] at hother
    rcases hother with rfl | rfl | rfl | rfl <;> exact ⟨_, hasData_dataPart _ _⟩
  have hbefore : ∀ other ∈ [dataPart "text/plain" "", dataPart "text/html" "PGI-"],
      ¬Offers "text/plain" other := by
    intro other hother
    rcases List.mem_pair.1 hother with rfl | rfl
    · exact hempty
    · exact hmarked
  have hfirst : HasFirstPlain mixedMessage (.str "w6k") := by
    refine .parts (hasNoData_container _) ?_ hobjects hbefore rfl (hasData_dataPart _ _)
    rfl
  have hwraps : Wraps mixedMessage (container [container [mixedMessage]]) :=
    .container (hasNoData_container _) rfl (.container (hasNoData_container _) rfl .self)
  obtain ⟨hbody, houter⟩ := bodyText_firstPlain htext (.inr hs) hfirst
  exact ⟨htext, hs, hfirst, hwraps, hbody, houter _ hwraps⟩

end WorkspaceTools.Mail
