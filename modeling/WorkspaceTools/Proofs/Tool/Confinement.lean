import WorkspaceTools.Proofs.Tool.Endpoint
import WorkspaceTools.Proofs.Tool.Format
import WorkspaceTools.Proofs.Web.Address

/-!
# Arguments that stay in their places

* `Endpoint.Confines` says that an address is one of an endpoint: it has neither query nor fragment, its path
  has the segments of the template, and what stands in each place is read as the text for that place.
* A text that is written with escapes is always confined, and one that is not exactly if it is plain
  (`Segment.isConfined_iff`, `Endpoint.confines_iff`).
* `call_confines_iff`: every request of a call goes to an endpoint of its tool, and is confined if and only if
  what stands in its places without escapes is plain.
-/

namespace WorkspaceTools.Tool

open Text

/-! ## Texts in a path -/

/-- The characters that end a segment of a path. -/
def delimiters : List Char := ['/', '?', '#']

/-- A text without a character that ends a segment. -/
def HasNoDelimiter (cs : List Char) : Prop := ∀ c ∈ delimiters, c ∉ cs

/-- A text that is a segment of a path as it stands: nothing ends it, and no escape is undone in it. -/
structure IsPlain (s : String) : Prop where
  delimiter : HasNoDelimiter s.toList
  readsBack : percentDecode s.toList = s.toList

theorem hasNoDelimiter_append_iff {cs ds : List Char} :
    HasNoDelimiter (cs ++ ds) ↔ HasNoDelimiter cs ∧ HasNoDelimiter ds := by
  simp only [HasNoDelimiter, List.mem_append, not_or]
  exact forall₂_and

theorem hasNoDelimiter_percentEncode {safe : String} (h : HasNoDelimiter safe.toList) (s : String) :
    HasNoDelimiter (percentEncode safe s).toList := by
  intro c hc
  have hreserved : ∀ d ∈ delimiters, d ≠ '%' ∧ isUnreserved d = false := by
    simp [delimiters, isUnreserved, isAsciiLetter, isAsciiDigit]
  obtain ⟨hpercent, hunreserved⟩ := hreserved c hc
  exact not_mem_percentEncode hpercent hunreserved (h c hc) s

/-! ## Well-formed templates -/

/-- Neither a percent sign nor a character that ends a segment is left without an escape. -/
def Slot.IsWellFormed : Slot → Prop
  | .escaped _ safe _ => '%' ∉ safe.toList ∧ HasNoDelimiter safe.toList
  | .given _ => True
  | .listed => True

/-- The own text of a segment, or its ending, ends no segment. -/
def Segment.IsWellFormed : Segment → Prop
  | .own text => HasNoDelimiter text.toList
  | .place slot ending => slot.IsWellFormed ∧ HasNoDelimiter ending.toList

/-- The template of an address has neither query nor fragment, and its segments are well formed. -/
structure Endpoint.IsWellFormed (e : Endpoint) : Prop where
  base : '?' ∉ e.base.toList ∧ '#' ∉ e.base.toList
  path : ∀ segment ∈ e.path, segment.IsWellFormed

theorem path_isWellFormed (tool : Tool) :
    ∀ e ∈ tool.endpoints, ∀ segment ∈ e.path, segment.IsWellFormed := by
  cases tool <;>
    simp [endpoints, mailEndpoint, entryEndpoint, eventsEndpoint, spreadsheetEndpoint, valuesEndpoint,
      Segment.IsWellFormed, Slot.IsWellFormed, HasNoDelimiter, delimiters, Service.rangeSafe]

theorem base_mem_of_mem_endpoints {tool : Tool} :
    ∀ e ∈ tool.endpoints, e.base ∈ [Service.mailBase, Service.calendarBase, Service.sheetsBase] := by
  cases tool <;> decide

theorem isWellFormed_of_mem_endpoints {tool : Tool} {e : Endpoint} (h : e ∈ tool.endpoints) :
    e.IsWellFormed where
  base := by
    have hbases : ∀ base ∈ [Service.mailBase, Service.calendarBase, Service.sheetsBase],
        '?' ∉ base.toList ∧ '#' ∉ base.toList := by
      simp [Service.mailBase, Service.calendarBase, Service.sheetsBase]
    exact hbases e.base (base_mem_of_mem_endpoints e h)
  path := path_isWellFormed tool e h

/-! ## Confined segments -/

section

variable {args : Members} {listed : String}

/-- A segment of an address is that of a template: its own text, or a text that is read as the one for its
place, with the ending behind it. -/
def Segment.IsReadAs (args : Members) (listed : String) : Segment → List Char → Prop
  | .own text, cs => cs = text.toList
  | .place slot ending, cs =>
    ∃ content value, cs = content ++ ending.toList ∧ slot.text? args listed = some value ∧
      percentDecode content = value.toList

/-- What stands in a segment without escapes is plain. -/
def Segment.HasPlainText (args : Members) (listed : String) : Segment → Prop
  | .place (.given name) _ => ∀ value, (Slot.given name).text? args listed = some value → IsPlain value
  | .place .listed _ => IsPlain listed
  | .place (.escaped ..) _ => True
  | .own _ => True

/-- A segment as it is written is one segment, and is read as that of the template. -/
def Segment.IsConfined (args : Members) (listed : String) (segment : Segment) (cs : List Char) : Prop :=
  segment.IsReadAs args listed cs ∧ HasNoDelimiter cs

/-- What is written in a place is confined if and only if it reads back and nothing ends it. -/
theorem isConfined_place_iff {slot : Slot} {value ending : String}
    (h : slot.text? args listed = some value) (hending : HasNoDelimiter ending.toList) :
    (Segment.place slot ending).IsConfined args listed (slot.write value ++ ending).toList ↔
      percentDecode (slot.write value).toList = value.toList ∧ HasNoDelimiter (slot.write value).toList := by
  rw [Segment.IsConfined, String.toList_append, hasNoDelimiter_append_iff]
  constructor
  · rintro ⟨⟨content, value', hcontent, hvalue, hread⟩, hwritten, -⟩
    obtain rfl := Option.some.inj (h.symm.trans hvalue)
    rw [List.append_cancel_right hcontent]
    exact ⟨hread, List.append_cancel_right hcontent ▸ hwritten⟩
  · rintro ⟨hread, hwritten⟩
    exact ⟨⟨_, value, rfl, h, hread⟩, hwritten, hending⟩

/-- **A written segment** is confined if and only if what stands in it without escapes is plain. -/
theorem Segment.isConfined_iff {segment : Segment} {text : String} (hform : segment.IsWellFormed)
    (h : segment.written? args listed = some text) :
    segment.IsConfined args listed text.toList ↔ segment.HasPlainText args listed := by
  cases segment with
  | own own =>
    obtain rfl := Option.some.inj h
    exact iff_of_true ⟨rfl, hform⟩ trivial
  | place slot ending =>
    obtain ⟨value, hvalue, rfl⟩ := Option.map_eq_some_iff.1 h
    rw [isConfined_place_iff hvalue hform.2]
    cases slot with
    | escaped name safe usual =>
      obtain ⟨hpercent, hsafe⟩ := hform.1
      exact iff_of_true ⟨percentDecode_percentEncode hpercent value, hasNoDelimiter_percentEncode hsafe value⟩
        trivial
    | given name =>
      constructor
      · rintro ⟨hread, hwritten⟩ value' hvalue'
        obtain rfl := Option.some.inj (hvalue.symm.trans hvalue')
        exact ⟨hwritten, hread⟩
      · intro hplain
        exact ⟨(hplain value hvalue).readsBack, (hplain value hvalue).delimiter⟩
    | listed =>
      obtain rfl := Option.some.inj hvalue
      exact ⟨fun hread => ⟨hread.2, hread.1⟩, fun hplain => ⟨hplain.readsBack, hplain.delimiter⟩⟩

/-! ## Confined addresses -/

/-- An address is one of an endpoint: there is no query and no fragment, the path has the segments of the
base and those of the template, and every segment of the template is read as it. -/
structure Endpoint.Confines (args : Members) (listed : String) (e : Endpoint) (address : String) : Prop where
  query : '?' ∉ address.toList
  fragment : '#' ∉ address.toList
  path : ∃ pieces, address.toList.splitOn '/' = e.base.toList.splitOn '/' ++ pieces ∧
    List.Forall₂ (Segment.IsReadAs args listed) e.path pieces

/-- A path is joined from its segments as they are written. -/
theorem exists_joined_of_writePath {path : List Segment} {start address : String}
    (h : writePath args listed start path = some address) :
    ∃ texts, List.Forall₂ (fun segment text => segment.written? args listed = some text) path texts ∧
      address.toList = joined '/' start.toList (texts.map String.toList) := by
  induction path generalizing start with
  | nil =>
    obtain rfl := Option.some.inj h
    exact ⟨[], .nil, (List.append_nil _).symm⟩
  | cons segment rest ih =>
    rw [writePath] at h
    split at h
    · rename_i text htext
      obtain ⟨texts, htexts, haddress⟩ := ih h
      refine ⟨text :: texts, .cons htext htexts, ?_⟩
      rw [haddress, List.map_cons, joined_cons, joined, joined, String.toList_append, String.toList_append,
        List.append_assoc, List.append_assoc]
      rfl
    · cases h

/-- All segments as they are written are confined if and only if what stands in them without escapes is
plain. -/
theorem forall₂_isConfined_iff {path : List Segment} {texts : List String}
    (hform : ∀ segment ∈ path, segment.IsWellFormed)
    (h : List.Forall₂ (fun segment text => segment.written? args listed = some text) path texts) :
    List.Forall₂ (Segment.IsConfined args listed) path (texts.map String.toList) ↔
      ∀ segment ∈ path, segment.HasPlainText args listed := by
  induction h with
  | nil => simp
  | cons hfirst _ ih =>
    obtain ⟨hsegment, hrest⟩ := List.forall_mem_cons.1 hform
    rw [List.map_cons, List.forall₂_cons, List.forall_mem_cons, Segment.isConfined_iff hsegment hfirst,
      ih hrest]

theorem forall₂_isConfined_iff_and {path : List Segment} {pieces : List (List Char)} :
    List.Forall₂ (Segment.IsConfined args listed) path pieces ↔
      List.Forall₂ (Segment.IsReadAs args listed) path pieces ∧ ∀ piece ∈ pieces, HasNoDelimiter piece := by
  constructor
  · intro h
    induction h with
    | nil => exact ⟨.nil, by simp⟩
    | cons hfirst _ ih => exact ⟨.cons hfirst.1 ih.1, List.forall_mem_cons.2 ⟨hfirst.2, ih.2⟩⟩
  · rintro ⟨hread, hplain⟩
    induction hread with
    | nil => exact .nil
    | cons hfirst _ ih =>
      obtain ⟨hpiece, hpieces⟩ := List.forall_mem_cons.1 hplain
      exact .cons ⟨hfirst, hpiece⟩ (ih hpieces)

/-- Joined pieces are the path of an endpoint exactly if each of them is one segment and read as that of the
template. -/
theorem Endpoint.confines_joined_iff {e : Endpoint} (hform : e.IsWellFormed) {address : String}
    {pieces : List (List Char)} (hlength : e.path.length = pieces.length)
    (h : address.toList = joined '/' e.base.toList pieces) :
    e.Confines args listed address ↔ List.Forall₂ (Segment.IsConfined args listed) e.path pieces := by
  have hmem : ∀ c, c ≠ '/' → (c ∉ address.toList ↔ c ∉ e.base.toList ∧ ∀ piece ∈ pieces, c ∉ piece) := by
    intro c hc
    rw [h]
    exact not_mem_joined_iff hc
  rw [forall₂_isConfined_iff_and]
  constructor
  · rintro ⟨hquery, hfragment, pieces', hsplit, hread⟩
    have hpieces : pieces.flatMap (List.splitOn '/') = pieces' := by
      rw [h, splitOn_joined] at hsplit
      exact List.append_cancel_left hsplit
    -- The pieces cannot fall apart, since the template has as many segments as they are.
    have hslash : ∀ piece ∈ pieces, '/' ∉ piece := by
      rw [← length_flatMap_splitOn_eq_iff, hpieces, ← hread.length_eq, hlength]
    rw [flatMap_splitOn_eq hslash] at hpieces
    subst hpieces
    refine ⟨hread, fun piece hpiece => ?_⟩
    have hquery := ((hmem '?' (by decide)).1 hquery).2 piece hpiece
    have hfragment := ((hmem '#' (by decide)).1 hfragment).2 piece hpiece
    simp [HasNoDelimiter, delimiters, hslash piece hpiece, hquery, hfragment]
  · rintro ⟨hread, hplain⟩
    have hslash : ∀ piece ∈ pieces, '/' ∉ piece := fun piece hpiece => hplain piece hpiece '/' (by decide)
    refine ⟨?_, ?_, pieces, ?_, hread⟩
    · exact (hmem '?' (by decide)).2 ⟨hform.base.1, fun piece hpiece => hplain piece hpiece '?' (by decide)⟩
    · exact (hmem '#' (by decide)).2 ⟨hform.base.2, fun piece hpiece => hplain piece hpiece '#' (by decide)⟩
    · rw [h, splitOn_joined, flatMap_splitOn_eq hslash]

/-- **The address of an endpoint** is confined if and only if what stands in its places without escapes is
plain. -/
theorem Endpoint.confines_iff {e : Endpoint} (hform : e.IsWellFormed) {address : String}
    (h : e.address? args listed = some address) :
    e.Confines args listed address ↔ ∀ segment ∈ e.path, segment.HasPlainText args listed := by
  obtain ⟨texts, htexts, haddress⟩ := exists_joined_of_writePath h
  have hlength : e.path.length = (texts.map String.toList).length := by
    rw [htexts.length_eq, List.length_map]
  rw [e.confines_joined_iff hform hlength haddress, forall₂_isConfined_iff hform.path htexts]

end

/-! ## Calls -/

/-- What a call sends goes to the endpoints of its tool. -/
theorem sends_dispatch (name : String) (args : Members) :
    (dispatch name args).Sends fun r => ∃ tool, ofName? name = some tool ∧ tool.Reaches args r := by
  unfold dispatch
  split
  · rename_i tool htool
    exact (sends_program args tool).mono fun r hr => ⟨tool, htool, hr⟩
  · exact trivial

/-- **Every request of a call** goes to an endpoint of the tool, with the arguments of the call in its places.
Its address is the template with each of them as one segment that reads back as it, without a query and
without a fragment, if and only if those that are written without escapes are plain. -/
theorem call_confines_iff (name : String) (args : Members) (s : Session) :
    ∃ sent, (s.call name args).2.requests = s.requests ++ sent ∧
      ∀ r ∈ sent, ∃ tool, ofName? name = some tool ∧
        ∃ e ∈ tool.endpoints, ∃ listed, e.Gets args listed r ∧
          (e.Confines args listed r.address ↔ ∀ segment ∈ e.path, segment.HasPlainText args listed) := by
  obtain ⟨sent, hsent, hreach⟩ := (sends_dispatch name args).run s
  refine ⟨sent, hsent, fun r hr => ?_⟩
  obtain ⟨tool, htool, e, he, listed, hgets⟩ := hreach r hr
  exact ⟨tool, htool, e, he, listed, hgets, e.confines_iff (isWellFormed_of_mem_endpoints he) hgets.2⟩

/-- An event of the primary calendar, with more of a path behind its name. -/
def instancesArguments : Members := [("event_id", .str "e1/instances")]

/-- The instances of an event are asked for in place of an event: the argument is two segments. -/
theorem call_confines_iff_instances :
    ∃ r, ((sessionWith []).call getEvent.name instancesArguments).2.requests = [r] ∧
      r.address = Service.calendarEvents "primary" ++ "/e1/instances" ∧
      ∃ e ∈ getEvent.endpoints, ∃ listed, e.Gets instancesArguments listed r ∧
        ¬ e.Confines instancesArguments listed r.address := by
  obtain ⟨token, htoken⟩ := isAuthorized_sessionWith []
  have hrequests : ((sessionWith []).call getEvent.name instancesArguments).2.requests =
      [⟨.get, Service.calendarEvents "primary" ++ "/" ++ "e1/instances", none, none⟩] := by
    rw [snd_call]
    exact Program.requests_of_authorized (getEvent.program instancesArguments) htoken
  obtain ⟨sent, hsent, hconfines⟩ := call_confines_iff getEvent.name instancesArguments (sessionWith [])
  obtain rfl := hsent.symm.trans hrequests
  obtain ⟨tool, htool, e, he, listed, hgets, hiff⟩ := hconfines _ (List.mem_singleton.2 rfl)
  obtain rfl : getEvent = tool := Option.some.inj htool
  obtain rfl := List.mem_singleton.1 he
  refine ⟨_, hrequests, rfl, _, he, listed, hgets, fun hconfined => ?_⟩
  have hevent : Segment.place (.given "event_id") "" ∈
      (eventsEndpoint [.place (.given "event_id") ""]).path := by
    simp [eventsEndpoint]
  have hplain : IsPlain "e1/instances" := hiff.1 hconfined _ hevent _ rfl
  exact hplain.delimiter '/' (by decide) (by decide)

end WorkspaceTools.Tool
