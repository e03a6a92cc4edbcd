import WorkspaceTools.Proofs.Outcome
import WorkspaceTools.Tool.Mail

/-!
# Headers that are looked up

* `HasHeaders` reads the headers of a message off its document, in their order: each has a name, and a value of
  any kind.
* `headerValue` is the value of the first header of a name, in any case of letters.
* `exists_headersOf`: the tools look up these values, and no lookup fails.
-/

namespace WorkspaceTools.Mail

open Json Text

/-- A header with its name and its value. One without a name has the empty name, and one without a value has
null. -/
def IsHeader (item : Json) (header : String × Json) : Prop :=
  ∃ ms : Members, item = .obj ms ∧ (ms.find? "name").getD (.str "") = .str header.1 ∧
    (ms.find? "value").getD .null = header.2

/-- The payload of a message. One without is empty. -/
def HasPayload (message payload : Json) : Prop :=
  ∃ ms : Members, message = .obj ms ∧ (ms.find? "payload").getD (.obj []) = payload

/-- The headers of a message in their order. A payload without a list of them has none. -/
def HasHeaders (message : Json) (headers : List (String × Json)) : Prop :=
  ∃ (payload : Members) (items : List Json), HasPayload message (.obj payload) ∧
    ((payload.find? "headers").getD .null).orElse (.arr []) = .arr items ∧ List.Forall₂ IsHeader items headers

/-- The value of the first header of a name, in any case of letters, or null. -/
def headerValue (name : String) (headers : List (String × Json)) : Json :=
  ((headers.find? fun header => lowerCase header.1 = lowerCase name).map Prod.snd).getD .null

/-! ## What a message has is determined -/

theorem HasPayload.unique {message payload other : Json} (h : HasPayload message payload)
    (hother : HasPayload message other) : payload = other := by
  obtain ⟨ms, rfl, rfl⟩ := h
  obtain ⟨_, ⟨⟩, rfl⟩ := hother
  rfl

theorem rightUnique_isHeader : Relator.RightUnique IsHeader := by
  rintro item header other ⟨ms, rfl, hname, hvalue⟩ ⟨_, ⟨⟩, hname', hvalue'⟩
  exact Prod.ext (Json.str.inj (hname.symm.trans hname')) (hvalue.symm.trans hvalue')

/-- A message has its headers only. -/
theorem HasHeaders.unique {message : Json} {headers others : List (String × Json)} (h : HasHeaders message headers)
    (hothers : HasHeaders message others) : headers = others := by
  obtain ⟨payload, items, hpayload, hitems, hheaders⟩ := h
  obtain ⟨payload', items', hpayload', hitems', hheaders'⟩ := hothers
  cases hpayload.unique hpayload'
  cases hitems.symm.trans hitems'
  exact rightUnique_isHeader.forall₂ hheaders hheaders'

/-! ## Lookups -/

theorem headerValue_cons (name : String) (header : String × Json) (rest : List (String × Json)) :
    headerValue name (header :: rest) =
      if lowerCase header.1 = lowerCase name then header.2 else headerValue name rest := by
  rw [headerValue, List.find?_cons]
  by_cases h : lowerCase header.1 = lowerCase name <;> simp [h, headerValue]

theorem lookup_of_hasPayload {message payload : Json} (h : HasPayload message payload) :
    message.lookup "payload" (.obj []) = .ok payload := by
  obtain ⟨ms, rfl, hpayload⟩ := h
  rw [lookup_obj, hpayload]

theorem findLowered_eq {items : List Json} {headers : List (String × Json)}
    (h : List.Forall₂ IsHeader items headers) (name : String) :
    findLowered (lowerCase name) items = .ok (headerValue name headers) := by
  induction h with
  | nil => rfl
  | @cons item header items headers hitem _ ih =>
    obtain ⟨ms, rfl, hname, hvalue⟩ := hitem
    rw [findLowered, lookup_obj, hname, ih, headerValue_cons]
    simp only [ok_bind, lowerText, field_obj, hvalue]
    split <;> rfl

/-- **The headers of a message** are found, each name with the value of its first header. -/
theorem exists_headersOf {message : Json} {headers : List (String × Json)} (h : HasHeaders message headers) :
    ∃ v, Tool.headersOf message = .ok v ∧ ∀ name, findHeader v name = .ok (headerValue name headers) := by
  obtain ⟨payload, items, hpayload, hitems, hheaders⟩ := h
  refine ⟨(payload.find? "headers").getD .null, ?_, fun name => ?_⟩
  · rw [Tool.headersOf, lookup_of_hasPayload hpayload]
    rfl
  · rw [findHeader, hitems, elements_arr, ok_bind, findLowered_eq hheaders]

end WorkspaceTools.Mail
