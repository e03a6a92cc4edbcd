import WorkspaceTools.Proofs.Json.Grammar
import WorkspaceTools.Report.Render

/-!
# Whole results

A result that is shown as a document is shown whole (`renderResult_of_whole`): the text is in the grammar,
however long it is, and reads back as the result (`renderResult_readsBack`).
-/

namespace WorkspaceTools

open Json Number

theorem Tool.ofName?_eq_none_iff {name : String} : Tool.ofName? name = none ↔ ∀ t : Tool, t.name ≠ name := by
  rw [Tool.ofName?, List.find?_eq_none]
  constructor
  · intro h t
    simpa using h t t.mem_all
  · intro h t _
    simpa using h t

/-- A result is shown as a document where that is asked for, and where the tool is unknown. -/
theorem renderResult_of_whole {tool : String} {format : Json}
    (h : format = .str "json" ∨ ∀ t : Tool, t.name ≠ tool) (result : Json) :
    renderResult tool result format = .ok result.pretty := by
  unfold renderResult
  cases htool : Tool.ofName? tool with
  | none => rfl
  | some t =>
    have hformat : format = .str "json" :=
      h.resolve_right fun hnone => by simp [Tool.ofName?_eq_none_iff.2 hnone] at htool
    rw [hformat]
    rfl

/-- **A whole result reads back.** Where a result is shown as a document, there is a text for it: one value
of the grammar, which reads as that result, members in their order. A reader only has to admit as many lists
and objects in one another as the result has. -/
theorem renderResult_readsBack {tool : String} {result format : Json}
    (hwhole : format = .str "json" ∨ ∀ t : Tool, t.name ≠ tool) (h : result.IsPlain) :
    ∃ text, renderResult tool result format = .ok text ∧ IsValue text.toList ∧
      ∀ depth, result.nesting ≤ depth →
        readWhole depth text.toList = .ok result ∧ read? depth text = .ok result := by
  refine ⟨result.pretty, renderResult_of_whole hwhole result, ?_, fun depth hdepth => ⟨?_, ?_⟩⟩
  · rw [pretty, String.toList_ofList]
    exact isValue_renderAt (some 2) 0 h
  · rw [pretty, String.toList_ofList]
    exact readWhole_renderAt (some 2) (isReadable_of_isPlain h hdepth)
  · exact read?_pretty (isReadable_of_isPlain h hdepth)

/-- A message that is too long for a report, with names that are not in order and a number of many
binary places. -/
def longResult : Json :=
  .obj [("subject", .str "\x07 é 😀"), ("body", .str (String.ofList (List.replicate 30000 'x'))),
    ("attachments", .arr [.obj [], .float (.finite false 7205759403792794 (-56)), .int (-7)])]

/-- The long message is shown whole. -/
theorem renderResult_readsBack_long :
    longResult.IsPlain ∧ longResult.nesting = 3 ∧
      ∃ text, renderResult "gmail_get_message" longResult (.str "json") = .ok text ∧
        read? 3 text = .ok longResult := by
  have hint : (natDigits (-7 : Int).natAbs).length ≤ maxIntDigits :=
    Nat.le_trans (length_natDigits_le Nat.one_pos (by decide)) (by decide)
  have hfloat : (Binary64.finite false 7205759403792794 (-56)).IsCanonical :=
    ⟨by decide, by decide, by decide, .inl (by decide)⟩
  have hplain : longResult.IsPlain :=
    ⟨by decide, trivial, trivial, ⟨⟨List.nodup_nil, trivial⟩, ⟨hfloat, rfl⟩, hint, trivial⟩, trivial⟩
  obtain ⟨text, htext, -, hread⟩ := renderResult_readsBack (.inl rfl) hplain
  exact ⟨hplain, rfl, text, htext, (hread 3 (by decide)).2⟩

end WorkspaceTools
