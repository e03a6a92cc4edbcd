import WorkspaceTools.Proofs.Text.Percent
import WorkspaceTools.Proofs.Tool.Endpoint
import WorkspaceTools.Proofs.Tool.Listing

/-!
# Ranges in addresses

The values of a range have an address in which the range stands with escapes, and the operation behind it.

* The range reads back, so that two ranges of a spreadsheet have two addresses (`rangeValues_inj`).
* Colons are left as they are, and the operation begins with one. Hence an operation at the end of an address may
  as well be the end of the range (`rangeValues_append`, `rangeValues_eq_iff`).
* Two operations are told apart by their last characters (`getLast?_rangeValues`).
-/

namespace WorkspaceTools.Tool

open Json Text

/-- A character that stands for itself in the address of a range. -/
def IsRangeCharacter (c : Char) : Prop :=
  isAsciiLetter c = true ∨ isAsciiDigit c = true ∨ c ∈ "_.-~!:'".toList

theorem isRangeCharacter_of_kept {c : Char} (h : isUnreserved c = true ∨ c ∈ Service.rangeSafe.toList) :
    IsRangeCharacter c := by
  simp only [isUnreserved, Service.rangeSafe, Bool.or_eq_true, beq_iff_eq] at h
  simp only [IsRangeCharacter]
  grind

theorem not_mem_rangeSafe : '%' ∉ Service.rangeSafe.toList := by decide

/-! ## Addresses with an operation -/

variable {id range range' ending ending' : String}

/-- An operation of characters that are kept could be the end of the range. -/
theorem rangeValues_append (id range : String) (h : IsKept Service.rangeSafe ending) :
    Service.rangeValues id range ending = Service.rangeValues id (range ++ ending) "" := by
  rw [Service.rangeValues, Service.rangeValues, percentEncode_append, percentEncode_of_isKept h,
    String.append_empty]
  simp only [String.append_assoc]

theorem rangeValues_inj :
    Service.rangeValues id range ending = Service.rangeValues id range' ending ↔ range = range' := by
  rw [Service.rangeValues, Service.rangeValues, String.append_left_inj, String.append_right_inj,
    percentEncode_inj not_mem_rangeSafe]

/-- **When two addresses of a spreadsheet are the same**: the ranges, each with its operation, are one text. -/
theorem rangeValues_eq_iff (h : IsKept Service.rangeSafe ending) (h' : IsKept Service.rangeSafe ending') :
    Service.rangeValues id range ending = Service.rangeValues id range' ending' ↔
      range ++ ending = range' ++ ending' := by
  rw [rangeValues_append id range h, rangeValues_append id range' h', rangeValues_inj]

example : Service.rangeValues "book" "A1:append" "" = Service.rangeValues "book" "A1" ":append" := by decide

/-- An address ends as its operation does. -/
theorem getLast?_rangeValues (id range : String) (h : ending.toList ≠ []) :
    (Service.rangeValues id range ending).toList.getLast? = ending.toList.getLast? := by
  rw [Service.rangeValues, String.toList_append, List.getLast?_append_of_ne_nil _ h]

theorem rangeValues_append_ne_clear (id range id' range' : String) :
    Service.rangeValues id range ":append" ≠ Service.rangeValues id' range' ":clear" := by
  intro h
  have hlast := congrArg (fun address => address.toList.getLast?) h
  simp only [getLast?_rangeValues id range (show ":append".toList ≠ [] by decide),
    getLast?_rangeValues id' range' (show ":clear".toList ≠ [] by decide)] at hlast
  exact absurd hlast (by decide)

/-! ## What the tools send -/

section

variable {tool : Tool} {args : Members} {listed address : String} {method : Method}

/-- A path is written where its places have a text. -/
theorem exists_text_of_writePath {slot : Slot} {start : String} {rest : List Segment}
    (h : writePath args listed start (.place slot ending :: rest) = some address) :
    ∃ s, slot.text? args listed = some s := by
  cases hslot : slot.text? args listed with
  | none =>
    rw [writePath, Segment.written?, hslot] at h
    cases h
  | some s => exact ⟨s, rfl⟩

theorem find?_of_text?_escaped {name safe s : String}
    (h : (Slot.escaped name safe none).text? args listed = some s) : args.find? name = some (.str s) := by
  rw [Slot.text?] at h
  split at h
  · rename_i text hfind
    rw [hfind, Option.some.inj h]
  · cases h
  · cases h

/-- The address of the values of a range is made of the arguments. -/
theorem valuesAddress_of_address? (h : (valuesEndpoint method ending).address? args listed = some address) :
    ∃ id range, args.find? "spreadsheet_id" = some id ∧ args.find? "range" = some (.str range) ∧
      valuesAddress id (.str range) ending = .ok address := by
  obtain ⟨shown, hshown⟩ := exists_text_of_writePath h
  obtain ⟨id, hid, rfl⟩ := Option.map_eq_some_iff.1 hshown
  have hitem : Json.item "spreadsheet_id" (.obj args) = .ok id := by rw [item_obj, hid]
  have hrest := h
  rw [valuesEndpoint, address?_spreadsheet hitem, writePath_own] at hrest
  obtain ⟨range, hrange⟩ := exists_text_of_writePath hrest
  rw [address?_values hitem hrange] at h
  exact ⟨id, range, hid, find?_of_text?_escaped hrange, congrArg _ (Option.some.inj h)⟩

/-- A tool with the one endpoint for the values of a range sends requests to the address of its arguments
alone. -/
theorem sends_valuesAddress (h : tool.endpoints = [valuesEndpoint method ending]) :
    (dispatch tool.name args).Sends fun r =>
      ∃ id range, args.find? "spreadsheet_id" = some id ∧ args.find? "range" = some (.str range) ∧
        valuesAddress id (.str range) ending = .ok r.address := by
  rw [dispatch_name]
  refine (sends_program args tool).mono fun r hr => ?_
  obtain ⟨e, he, listed, -, haddress⟩ := hr
  rw [h, List.mem_singleton] at he
  subst he
  exact valuesAddress_of_address? haddress

end

/-- **Ranges in addresses.** In the address of the values of a range, the range is made of the characters that
stand for themselves and of whole escapes, and reads back. Hence different ranges of a spreadsheet have different
addresses for an operation, and no address to append to a range is one to clear a range. The tools that append and
clear send their requests to these addresses alone. -/
theorem valuesAddress_readsBack :
    (∀ (id : Json) (range ending : String), ∃ part,
      valuesAddress id (.str range) ending =
          .ok (Service.spreadsheet id.display ++ "/values/" ++ part ++ ending) ∧
        IsEscaped IsRangeCharacter part.toList ∧ decodeUtf8? (percentBytes part.toList) = .ok range ∧
          percentDecode part.toList = range.toList) ∧
    (∀ (id : Json) (range range' ending : String),
      valuesAddress id (.str range) ending = valuesAddress id (.str range') ending ↔ range = range') ∧
    (∀ (id id' : Json) (range range' : String),
      valuesAddress id (.str range) ":append" ≠ valuesAddress id' (.str range') ":clear") ∧
    ∀ args : Members,
      (dispatch appendValues.name args).Sends (fun r =>
        ∃ id range, args.find? "spreadsheet_id" = some id ∧ args.find? "range" = some (.str range) ∧
          valuesAddress id (.str range) ":append" = .ok r.address) ∧
      (dispatch clearValues.name args).Sends fun r =>
        ∃ id range, args.find? "spreadsheet_id" = some id ∧ args.find? "range" = some (.str range) ∧
          valuesAddress id (.str range) ":clear" = .ok r.address := by
  refine ⟨fun id range ending => ⟨percentEncode Service.rangeSafe range, rfl, ?_, ?_, ?_⟩, ?_, ?_, ?_⟩
  · exact (isEscaped_percentEncode Service.rangeSafe range).mono fun _ => isRangeCharacter_of_kept
  · exact decodeUtf8?_percentBytes_percentEncode not_mem_rangeSafe range
  · exact percentDecode_percentEncode not_mem_rangeSafe range
  · intro id range range' ending
    rw [valuesAddress, valuesAddress, Except.ok.injEq, rangeValues_inj]
  · intro id id' range range' h
    exact rangeValues_append_ne_clear _ _ _ _ (Except.ok.inj h)
  · exact fun args => ⟨sends_valuesAddress rfl, sends_valuesAddress rfl⟩

end WorkspaceTools.Tool
