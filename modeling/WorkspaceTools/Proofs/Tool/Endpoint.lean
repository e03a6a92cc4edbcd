import WorkspaceTools.Proofs.Exchange.Requests
import WorkspaceTools.Proofs.Pivot.Modification

/-!
# The endpoints of the tools

* An `Endpoint` is a method and the template of an address: a base, and the segments of a path behind it. Some
  places of a path are filled by arguments, as they are given or with escapes.
* `Tool.endpoints` lists the endpoints of every tool.
* `sends_program`: whatever its arguments are and whatever it is told, a tool sends requests to its endpoints
  alone, with its own arguments in their places.
-/

namespace WorkspaceTools.Tool

open Json Text

/-! ## Templates of addresses -/

/-- What stands in a place of a path. -/
inductive Slot where
  /-- An argument as it is given. -/
  | given (name : String)
  /-- An argument that has to be a text, with escapes for all but the safe characters. When it is left out it
  may have a usual value. -/
  | escaped (name safe : String) (usual : Option String)
  /-- The identifier of an entry that the service listed. -/
  | listed

/-- The text for a place, before it is escaped. -/
def Slot.text? (args : Members) (listed : String) : Slot → Option String
  | .given name => (args.find? name).map Json.display
  | .escaped name _ usual =>
    match args.find? name with
    | some (.str s) => some s
    | some _ => none
    | none => usual
  | .listed => some listed

/-- A text as it is written in a place. -/
def Slot.write : Slot → String → String
  | .escaped _ safe _, s => percentEncode safe s
  | .given _, s => s
  | .listed, s => s

/-- A segment of a path. -/
inductive Segment where
  | own (text : String)
  | place (slot : Slot) (ending : String)

/-- A segment as it is written. -/
def Segment.written? (args : Members) (listed : String) : Segment → Option String
  | .own text => some text
  | .place slot ending => (slot.text? args listed).map fun s => slot.write s ++ ending

/-- A method and the template of an address. -/
structure Endpoint where
  method : Method
  base : String
  path : List Segment

/-- A text with the segments of a path behind it, where all places have a text. -/
def writePath (args : Members) (listed : String) : String → List Segment → Option String
  | address, [] => some address
  | address, segment :: rest =>
    match segment.written? args listed with
    | some text => writePath args listed (address ++ "/" ++ text) rest
    | none => none

/-- The address of an endpoint, where all its places have a text. -/
def Endpoint.address? (args : Members) (listed : String) (e : Endpoint) : Option String :=
  writePath args listed e.base e.path

/-! ## The endpoints -/

/-- All messages, all threads and so on. -/
def mailEndpoint (kind : String) : Endpoint := ⟨.get, Service.mailBase, [.own kind]⟩

/-- One message or one thread. -/
def entryEndpoint (kind : String) (slot : Slot) : Endpoint :=
  ⟨.get, Service.mailBase, [.own kind, .place slot ""]⟩

/-- The events of a calendar, or one of them. -/
def eventsEndpoint (rest : List Segment) : Endpoint :=
  ⟨.get, Service.calendarBase,
    [.own "calendars", .place (.escaped "calendar_id" "" (some "primary")) "", .own "events"] ++ rest⟩

/-- A spreadsheet, or a part of it. -/
def spreadsheetEndpoint (method : Method) (ending : String) (rest : List Segment) : Endpoint :=
  ⟨method, Service.sheetsBase, .place (.given "spreadsheet_id") ending :: rest⟩

/-- The values of a range. -/
def valuesEndpoint (method : Method) (ending : String) : Endpoint :=
  spreadsheetEndpoint method "" [.own "values", .place (.escaped "range" Service.rangeSafe none) ending]

/-- The endpoints of a tool. -/
def endpoints : Tool → List Endpoint
  | .listMessages => [mailEndpoint "messages", entryEndpoint "messages" .listed]
  | .getMessage => [entryEndpoint "messages" (.given "message_id")]
  | .listThreads => [mailEndpoint "threads", entryEndpoint "threads" .listed]
  | .getThread => [entryEndpoint "threads" (.given "thread_id")]
  | .listLabels => [mailEndpoint "labels"]
  | .createDraft =>
    [entryEndpoint "messages" (.given "reply_to_message_id"), ⟨.post, Service.mailBase, [.own "drafts"]⟩]
  | .listAttachments => [entryEndpoint "messages" (.given "message_id")]
  | .getAttachment =>
    [⟨.get, Service.mailBase, [.own "messages", .place (.given "message_id") "", .own "attachments",
      .place (.given "attachment_id") ""]⟩]
  | .listCalendars => [⟨.get, Service.calendarBase, [.own "users", .own "me", .own "calendarList"]⟩]
  | .listEvents => [eventsEndpoint []]
  | .getEvent => [eventsEndpoint [.place (.given "event_id") ""]]
  | .queryFreeBusy => [⟨.post, Service.calendarBase, [.own "freeBusy"]⟩]
  | .getSpreadsheet => [spreadsheetEndpoint .get "" []]
  | .getValues => [valuesEndpoint .get ""]
  | .batchGetValues => [spreadsheetEndpoint .get "" [.own "values:batchGet"]]
  | .updateValues => [valuesEndpoint .put ""]
  | .appendValues => [valuesEndpoint .post ":append"]
  | .createSpreadsheet => [⟨.post, Service.sheetsBase, []⟩]
  | .batchUpdate => [spreadsheetEndpoint .post ":batchUpdate" []]
  | .clearValues => [valuesEndpoint .post ":clear"]
  | .duplicateSheet => [spreadsheetEndpoint .post ":batchUpdate" []]
  | .createPivotTable => [spreadsheetEndpoint .get "" [], spreadsheetEndpoint .post ":batchUpdate" []]

/-- A request goes to an endpoint, with the arguments in their places. -/
def Endpoint.Gets (args : Members) (listed : String) (e : Endpoint) (r : Request) : Prop :=
  r.method = e.method ∧ e.address? args listed = some r.address

/-- A request goes to one of the endpoints of a tool. -/
def Reaches (tool : Tool) (args : Members) (r : Request) : Prop :=
  ∃ e ∈ tool.endpoints, ∃ listed, e.Gets args listed r

/-! ## Places and their texts -/

section

variable {args : Members} {listed : String}

@[simp] theorem writePath_nil (address : String) : writePath args listed address [] = some address := rfl

@[simp] theorem writePath_own (address text : String) (rest : List Segment) :
    writePath args listed address (.own text :: rest) =
      writePath args listed (address ++ "/" ++ text) rest := rfl

theorem writePath_place {slot : Slot} {s : String} (h : slot.text? args listed = some s)
    (address ending : String) (rest : List Segment) :
    writePath args listed address (.place slot ending :: rest) =
      writePath args listed (address ++ "/" ++ (slot.write s ++ ending)) rest := by
  rw [writePath, Segment.written?, h]
  rfl

theorem item_obj (name : String) (args : Members) :
    Json.item name (.obj args) =
      match args.find? name with
      | some v => .ok v
      | none => .error (.noMember (.str name)) := rfl

theorem find?_of_item {name : String} {v : Json} (h : Json.item name (.obj args) = .ok v) :
    args.find? name = some v := by
  rw [item_obj] at h
  split at h
  · rename_i w hfind
    cases h
    exact hfind
  · cases h

theorem text?_given {name : String} {v : Json} (h : Json.item name (.obj args) = .ok v) :
    (Slot.given name).text? args listed = some v.display := by
  rw [Slot.text?, find?_of_item h, Option.map_some]

/-- A calendar has to be a text; without one it is the primary one. -/
theorem text?_calendar (listed : String) {v : Json} {address : String}
    (h : (Json.obj args).lookup "calendar_id" (text "primary") = .ok v)
    (haddress : escapedCalendar v = .ok address) :
    ∃ id, (Slot.escaped "calendar_id" "" (some "primary")).text? args listed = some id ∧
      address = Service.calendarEvents id := by
  rw [lookup_obj] at h
  cases v with
  | str id =>
    refine ⟨id, ?_, (Except.ok.inj haddress).symm⟩
    rw [Slot.text?]
    cases hfind : args.find? "calendar_id" with
    | none =>
      rw [hfind] at h
      cases h
      rfl
    | some w =>
      rw [hfind] at h
      cases h
      rfl
  | _ => cases haddress

/-- A range has to be a text. -/
theorem text?_range (listed : String) {id v : Json} {ending address : String}
    (h : Json.item "range" (.obj args) = .ok v)
    (haddress : valuesAddress id v ending = .ok address) :
    ∃ range, (Slot.escaped "range" Service.rangeSafe none).text? args listed = some range ∧
      address = Service.rangeValues id.display range ending := by
  cases v with
  | str range =>
    refine ⟨range, ?_, (Except.ok.inj haddress).symm⟩
    rw [Slot.text?, find?_of_item h]
  | _ => cases haddress

/-! ## Addresses -/

theorem message_eq (id : String) :
    Service.message id = Service.mailBase ++ "/" ++ "messages" ++ "/" ++ id := by
  rw [Service.message, show "/messages/" = "/" ++ "messages" ++ "/" by decide]
  simp only [String.append_assoc]

theorem thread_eq (id : String) :
    Service.thread id = Service.mailBase ++ "/" ++ "threads" ++ "/" ++ id := by
  rw [Service.thread, show "/threads/" = "/" ++ "threads" ++ "/" by decide]
  simp only [String.append_assoc]

theorem calendarEvents_eq (calendar : String) :
    Service.calendarEvents calendar =
      Service.calendarBase ++ "/" ++ "calendars" ++ "/" ++ percentEncode "" calendar ++ "/" ++ "events" := by
  rw [Service.calendarEvents, show "/calendars/" = "/" ++ "calendars" ++ "/" by decide,
    show "/events" = "/" ++ "events" by decide]
  simp only [String.append_assoc]

theorem rangeValues_eq (id range ending : String) :
    Service.rangeValues id range ending =
      Service.sheetsBase ++ "/" ++ id ++ "/" ++ "values" ++ "/" ++
        (percentEncode Service.rangeSafe range ++ ending) := by
  rw [Service.rangeValues, Service.spreadsheet, show "/values/" = "/" ++ "values" ++ "/" by decide]
  simp only [String.append_assoc]

theorem address?_entry {slot : Slot} {s : String} (h : slot.text? args listed = some s)
    (hwrite : slot.write s = s) (kind : String) :
    (entryEndpoint kind slot).address? args listed =
      some (Service.mailBase ++ "/" ++ kind ++ "/" ++ s) := by
  rw [Endpoint.address?, entryEndpoint, writePath_own, writePath_place h, writePath_nil, hwrite,
    String.append_empty]

theorem address?_events {id : String}
    (h : (Slot.escaped "calendar_id" "" (some "primary")).text? args listed = some id) (rest : List Segment) :
    (eventsEndpoint rest).address? args listed =
      writePath args listed (Service.calendarEvents id) rest := by
  rw [Endpoint.address?, eventsEndpoint, calendarEvents_eq, List.cons_append, writePath_own,
    List.cons_append, writePath_place h, List.cons_append, writePath_own, String.append_empty]
  rfl

theorem address?_spreadsheet {id : Json} (h : Json.item "spreadsheet_id" (.obj args) = .ok id)
    (method : Method) (ending : String) (rest : List Segment) :
    (spreadsheetEndpoint method ending rest).address? args listed =
      writePath args listed (Service.spreadsheet id.display ++ ending) rest := by
  have hwrite : (Slot.given "spreadsheet_id").write id.display = id.display := rfl
  rw [Endpoint.address?, spreadsheetEndpoint, writePath_place (text?_given h), hwrite, ← String.append_assoc,
    Service.spreadsheet]

theorem address?_values {id : Json} {range : String} (h : Json.item "spreadsheet_id" (.obj args) = .ok id)
    (hrange : (Slot.escaped "range" Service.rangeSafe none).text? args listed = some range)
    (method : Method) (ending : String) :
    (valuesEndpoint method ending).address? args listed =
      some (Service.rangeValues id.display range ending) := by
  rw [valuesEndpoint, address?_spreadsheet h, String.append_empty, writePath_own, writePath_place hrange,
    writePath_nil, rangeValues_eq, Service.spreadsheet]
  rfl

end

/-! ## What the tools send -/

section

variable {tool : Tool} {args : Members} {r : Request}

/-- A request to an endpoint of a tool. -/
theorem reaches_of_mem (e : Endpoint) (listed : String) (he : e ∈ tool.endpoints)
    (hmethod : r.method = e.method) (haddress : e.address? args listed = some r.address) :
    tool.Reaches args r :=
  ⟨e, he, listed, hmethod, haddress⟩

/-- A request for one message or thread that an argument names. -/
theorem reaches_entry {kind name : String} {v : Json} {params : Option Members} {body : Option Json}
    (he : entryEndpoint kind (.given name) ∈ tool.endpoints)
    (h : (Slot.given name).text? args "" = some v.display) :
    tool.Reaches args ⟨.get, Service.mailBase ++ "/" ++ kind ++ "/" ++ v.display, params, body⟩ :=
  reaches_of_mem _ _ he rfl (address?_entry h rfl kind)

theorem reaches_spreadsheet {method : Method} {ending : String} {v : Json} {params : Option Members}
    {body : Option Json} (he : spreadsheetEndpoint method ending [] ∈ tool.endpoints)
    (h : Json.item "spreadsheet_id" (.obj args) = .ok v) :
    tool.Reaches args ⟨method, Service.spreadsheet v.display ++ ending, params, body⟩ :=
  reaches_of_mem _ "" he rfl (address?_spreadsheet h method ending [])

theorem reaches_values {method : Method} {ending address : String} {id range : Json}
    {params : Option Members} {body : Option Json} (he : valuesEndpoint method ending ∈ tool.endpoints)
    (hid : Json.item "spreadsheet_id" (.obj args) = .ok id)
    (hrange : Json.item "range" (.obj args) = .ok range)
    (haddress : valuesAddress id range ending = .ok address) :
    tool.Reaches args ⟨method, address, params, body⟩ := by
  obtain ⟨text, htext, rfl⟩ := text?_range "" hrange haddress
  exact reaches_of_mem _ _ he rfl (address?_values hid htext method ending)

end

open Program

variable (args : Members)

theorem sends_details {P : Request → Prop} {address : Json → String} {params : Members}
    (h : ∀ id, P ⟨.get, address id, params, none⟩) (ids : List Json) :
    (details address params ids).Sends P := by
  induction ids with
  | nil => exact trivial
  | cons id rest ih => exact .attempt (h id) fun detail => .bind ih fun details => trivial

theorem sends_withDetails {P : Request → Prop} {address : Json → String} {params : Members}
    (h : ∀ id, P ⟨.get, address id, params, none⟩) (list : Json) :
    (withDetails address params list).Sends P :=
  .shaped fun _ _ => .shaped fun _ _ => .bind (sends_details h _) fun _ => trivial

theorem sends_runListMessages : (runListMessages (.obj args)).Sends (listMessages.Reaches args) := by
  refine .shaped fun params _ => .ask ?_ fun response => .shaped fun list _ => ?_
  · exact reaches_of_mem (mailEndpoint "messages") "" (by simp [endpoints]) rfl rfl
  · refine .bind (sends_withDetails (fun id => ?_) _) fun entries => ?_
    · rw [message_eq]
      exact reaches_of_mem (entryEndpoint "messages" .listed) id.display (by simp [endpoints]) rfl
        (address?_entry rfl rfl "messages")
    · iterate 3 refine .shaped fun _ _ => ?_
      exact trivial

theorem sends_runGetMessage : (runGetMessage (.obj args)).Sends (getMessage.Reaches args) := by
  refine .shaped fun wanted hwanted => .ask ?_ fun response => ?_
  · rw [message_eq]
    exact reaches_entry (by simp [endpoints]) (text?_given hwanted)
  · iterate 10 refine .shaped fun _ _ => ?_
    exact .bind (.ofExcept _) fun body => trivial

theorem sends_runListThreads : (runListThreads (.obj args)).Sends (listThreads.Reaches args) := by
  refine .shaped fun params _ => .ask ?_ fun response => .shaped fun list _ => ?_
  · exact reaches_of_mem (mailEndpoint "threads") "" (by simp [endpoints]) rfl rfl
  · refine .bind (sends_withDetails (fun id => ?_) _) fun entries => ?_
    · rw [thread_eq]
      exact reaches_of_mem (entryEndpoint "threads" .listed) id.display (by simp [endpoints]) rfl
        (address?_entry rfl rfl "threads")
    · iterate 2 refine .shaped fun _ _ => ?_
      exact trivial

theorem sends_runGetThread : (runGetThread (.obj args)).Sends (getThread.Reaches args) := by
  refine .shaped fun wanted hwanted => .ask ?_ fun response => ?_
  · rw [thread_eq]
    exact reaches_entry (by simp [endpoints]) (text?_given hwanted)
  · refine .shaped fun _ _ => .shaped fun list _ => .bind (.ofExcept _) fun messages => ?_
    exact .shaped fun id _ => trivial

theorem sends_runListLabels : runListLabels.Sends (listLabels.Reaches args) := by
  refine .ask ?_ fun response => ?_
  · exact reaches_of_mem (mailEndpoint "labels") "" (by simp [endpoints]) rfl rfl
  · iterate 4 refine .shaped fun _ _ => ?_
    exact trivial

theorem sends_answered {id : Json} (h : Json.field "reply_to_message_id" (.obj args) = .ok id) :
    (answered id).Sends (createDraft.Reaches args) := by
  unfold answered
  split
  · exact trivial
  · rename_i hgiven
    refine .ask ?_ fun message => .shaped_end _
    rw [message_eq]
    have he : entryEndpoint "messages" (.given "reply_to_message_id") ∈ createDraft.endpoints := by
      simp [endpoints]
    refine reaches_entry he ?_
    rw [field_obj] at h
    rw [Slot.text?]
    cases hfind : args.find? "reply_to_message_id" with
    | some v =>
      rw [hfind] at h
      cases h
      rfl
    | none =>
      rw [hfind] at h
      cases h
      exact absurd rfl hgiven

theorem sends_runCreateDraft : (runCreateDraft (.obj args)).Sends (createDraft.Reaches args) := by
  refine .shaped fun recipients _ => .shaped fun subject _ => .shaped fun replyTo hreplyTo => ?_
  refine .bind (sends_answered args hreplyTo) fun answered => ?_
  iterate 3 refine .shaped fun _ _ => ?_
  refine .bind (.ofExcept _) fun raw => .ask ?_ fun response => ?_
  · exact reaches_of_mem ⟨.post, Service.mailBase, [.own "drafts"]⟩ "" (by simp [endpoints]) rfl rfl
  · iterate 4 refine .shaped fun _ _ => ?_
    exact trivial

theorem sends_runListAttachments :
    (runListAttachments (.obj args)).Sends (listAttachments.Reaches args) := by
  refine .shaped fun wanted hwanted => .ask ?_ fun response => ?_
  · rw [message_eq]
    exact reaches_entry (by simp [endpoints]) (text?_given hwanted)
  · iterate 3 refine .shaped fun _ _ => ?_
    exact trivial

theorem sends_runGetAttachment : (runGetAttachment (.obj args)).Sends (getAttachment.Reaches args) := by
  refine .shaped fun message hmessage => .shaped fun attachment hattachment => .shaped fun name _ => ?_
  refine .ask ?_ fun response => .shaped fun data _ => ?_
  · refine reaches_of_mem _ "" (List.mem_singleton.2 rfl) rfl ?_
    rw [Endpoint.address?, writePath_own, writePath_place (text?_given hmessage), writePath_own,
      writePath_place (text?_given hattachment), writePath_nil, message_eq,
      show "/attachments/" = "/" ++ "attachments" ++ "/" by decide]
    simp only [Slot.write, String.append_empty, String.append_assoc]
  · split
    · exact trivial
    · refine .bind (.ofExcept _) fun content => .bind (.ofExcept _) fun type => .shaped fun size _ => ?_
      split
      · exact trivial
      · exact fun path => trivial

theorem sends_runListCalendars : runListCalendars.Sends (listCalendars.Reaches args) := by
  refine .ask ?_ fun response => ?_
  · exact reaches_of_mem ⟨.get, Service.calendarBase, [.own "users", .own "me", .own "calendarList"]⟩ ""
      (by simp [endpoints]) rfl rfl
  · iterate 3 refine .shaped fun _ _ => ?_
    exact trivial

theorem sends_runListEvents : (runListEvents (.obj args)).Sends (listEvents.Reaches args) := by
  refine .shaped fun calendar hcalendar => .shaped fun address haddress => fun now => ?_
  refine .shaped fun params _ => .ask ?_ fun response => ?_
  · obtain ⟨id, hid, rfl⟩ := text?_calendar "" hcalendar haddress
    exact reaches_of_mem _ _ (by simp [endpoints]) rfl (address?_events hid [])
  · iterate 4 refine .shaped fun _ _ => ?_
    exact trivial

theorem sends_runGetEvent : (runGetEvent (.obj args)).Sends (getEvent.Reaches args) := by
  refine .shaped fun calendar hcalendar => .shaped fun event hevent => .shaped fun address haddress => ?_
  refine .ask ?_ fun item => .shaped_end _
  obtain ⟨id, hid, rfl⟩ := text?_calendar "" hcalendar haddress
  refine reaches_of_mem _ _ (List.mem_singleton.2 rfl) rfl ((address?_events hid _).trans ?_)
  rw [writePath_place (text?_given hevent), writePath_nil, String.append_empty]
  rfl

theorem sends_runQueryFreeBusy : (runQueryFreeBusy (.obj args)).Sends (queryFreeBusy.Reaches args) := by
  iterate 4 refine .shaped fun _ _ => ?_
  refine .ask ?_ fun response => ?_
  · exact reaches_of_mem ⟨.post, Service.calendarBase, [.own "freeBusy"]⟩ "" (by simp [endpoints]) rfl rfl
  · iterate 3 refine .shaped fun _ _ => ?_
    exact trivial

theorem sends_runGetSpreadsheet :
    (runGetSpreadsheet (.obj args)).Sends (getSpreadsheet.Reaches args) := by
  refine .shaped fun wanted hwanted => .shaped fun withGrid _ => .ask ?_ fun response => ?_
  · rw [← String.append_empty (s := Service.spreadsheet wanted.display)]
    exact reaches_spreadsheet (by simp [endpoints]) hwanted
  · iterate 9 refine .shaped fun _ _ => ?_
    exact trivial

theorem sends_runGetValues : (runGetValues (.obj args)).Sends (getValues.Reaches args) := by
  refine .shaped fun id hid => .shaped fun wanted hwanted => .shaped fun address haddress => ?_
  refine .shaped fun dimension _ => .ask ?_ fun response => ?_
  · exact reaches_values (by simp [endpoints]) hid hwanted haddress
  · iterate 4 refine .shaped fun _ _ => ?_
    exact trivial

theorem sends_runBatchGetValues :
    (runBatchGetValues (.obj args)).Sends (batchGetValues.Reaches args) := by
  refine .shaped fun wanted hwanted => .shaped fun ranges _ => .shaped fun dimension _ => ?_
  refine .ask ?_ fun response => ?_
  · refine reaches_of_mem _ "" (List.mem_singleton.2 rfl) rfl
      ((address?_spreadsheet hwanted _ _ _).trans ?_)
    rw [writePath_own, writePath_nil, String.append_empty, String.append_assoc]
    rfl
  · iterate 3 refine .shaped fun _ _ => ?_
    exact trivial

theorem sends_runUpdateValues : (runUpdateValues (.obj args)).Sends (updateValues.Reaches args) := by
  refine .shaped fun id hid => .shaped fun wanted hwanted => .shaped fun address haddress => ?_
  refine .shaped fun option _ => .shaped fun values _ => .ask ?_ fun response => ?_
  · exact reaches_values (by simp [endpoints]) hid hwanted haddress
  · iterate 4 refine .shaped fun _ _ => ?_
    exact trivial

theorem sends_runAppendValues : (runAppendValues (.obj args)).Sends (appendValues.Reaches args) := by
  refine .shaped fun id hid => .shaped fun wanted hwanted => .shaped fun address haddress => ?_
  iterate 3 refine .shaped fun _ _ => ?_
  refine .ask ?_ fun response => ?_
  · exact reaches_values (by simp [endpoints]) hid hwanted haddress
  · iterate 6 refine .shaped fun _ _ => ?_
    exact trivial

theorem sends_runClearValues : (runClearValues (.obj args)).Sends (clearValues.Reaches args) := by
  refine .shaped fun id hid => .shaped fun wanted hwanted => .shaped fun address haddress => ?_
  refine .ask ?_ fun response => .shaped fun range _ => trivial
  exact reaches_values (by simp [endpoints]) hid hwanted haddress

theorem sends_runCreateSpreadsheet :
    (runCreateSpreadsheet (.obj args)).Sends (createSpreadsheet.Reaches args) := by
  iterate 3 refine .shaped fun _ _ => ?_
  refine .ask ?_ fun response => ?_
  · exact reaches_of_mem ⟨.post, Service.sheetsBase, []⟩ "" (by simp [endpoints]) rfl rfl
  · iterate 6 refine .shaped fun _ _ => ?_
    exact trivial

theorem sends_runBatchUpdate : (runBatchUpdate (.obj args)).Sends (batchUpdate.Reaches args) := by
  refine .shaped fun wanted hwanted => .shaped fun requests _ => ?_
  split
  · exact trivial
  · refine .ask ?_ fun response => .shaped fun id _ => .shaped fun replies _ => trivial
    exact reaches_spreadsheet (by simp [endpoints]) hwanted

theorem sends_runDuplicateSheet :
    (runDuplicateSheet (.obj args)).Sends (duplicateSheet.Reaches args) := by
  refine .shaped fun wanted hwanted => .shaped fun newName _ => .shaped fun source _ => ?_
  refine .ask ?_ fun response => ?_
  · exact reaches_spreadsheet (by simp [endpoints]) hwanted
  · iterate 4 refine .shaped fun _ _ => ?_
    exact trivial

/-! ## Pivot tables -/

section

variable {P : Request → Prop} {id : String}

/-- All requests that a pivot table can take have a property. -/
structure ServesTable (P : Request → Prop) (id : String) : Prop where
  get : ∀ params, P ⟨.get, Service.spreadsheet id, params, none⟩
  post : ∀ body, P ⟨.post, Service.spreadsheetUpdate id, none, some body⟩

theorem ServesTable.listSheets (h : ServesTable P id) : (listSheets id).Sends P :=
  .ask (h.get _) fun _ => .shaped fun _ _ => .shaped_end _

theorem ServesTable.addSheet (h : ServesTable P id) (title : Json) : (addSheet id title).Sends P :=
  .ask (h.post _) fun _ => .shaped fun _ _ => .shaped fun _ _ => .shaped fun _ _ => trivial

theorem ServesTable.resolveSheet (h : ServesTable P id) (title : String) :
    (resolveSheet serviceSheets (.str id) title).run.Sends P := by
  rw [run_resolveSheet]
  split
  · exact .map _ h.listSheets
  · exact .map _ (.bind h.listSheets fun _ => trivial)

theorem ServesTable.placeTable {d : PivotDraft} (h : ServesTable P id) (hd : d.spreadsheetId = .str id) :
    (placeTable serviceSheets d).Sends P := by
  unfold WorkspaceTools.placeTable
  split
  · exact trivial
  · rw [hd]
    exact .bind (h.addSheet _) fun _ => trivial

theorem ServesTable.compileSpec {spec : PivotSpec} (h : ServesTable P spec.spreadsheetId) :
    (compileSpec serviceSheets spec).run.Sends P := by
  rw [WorkspaceTools.compileSpec, run_compileDraft]
  split
  · exact trivial
  · refine .bind (h.resolveSheet _) fun found => ?_
    cases found with
    | error e => exact trivial
    | ok sheet =>
      unfold placeDraft
      dsimp only
      split
      · exact trivial
      · exact .map _ (h.placeTable rfl)

end

theorem spreadsheetId_of_check {ms : Members} {spec : PivotSpec}
    (h : PivotSpec.check (.obj ms) = .ok spec) :
    required "spreadsheet_id" checkNonemptyText ms = .ok spec.spreadsheetId := by
  simp only [PivotSpec.check, checkObject] at h
  split at h
  · split at h
    · cases h
    · cases h
      assumption
  · cases h

/-- The spreadsheet of a pivot table is the one that the arguments name. -/
theorem item_of_pivotArguments {spec : PivotSpec} (h : pivotArguments args = .ok spec) :
    Json.item "spreadsheet_id" (.obj args) = .ok (.str spec.spreadsheetId) := by
  obtain ⟨v, hfind, hcheck⟩ := required_eq_ok.1 (spreadsheetId_of_check h)
  rw [withoutFormat, find?_filter_ne (by decide)] at hfind
  have htext := (ensure_eq_ok.1 hcheck).1
  rw [item_obj, hfind]
  cases v with
  | str s =>
    cases htext
    rfl
  | _ => cases htext

theorem sends_runCreatePivotTable : (runCreatePivotTable args).Sends (createPivotTable.Reaches args) := by
  rw [runCreatePivotTable_eq]
  split
  · exact trivial
  · rename_i spec hspec
    have hid := item_of_pivotArguments args hspec
    have hserves : ServesTable (createPivotTable.Reaches args) spec.spreadsheetId := by
      constructor
      · intro params
        have hget : spreadsheetEndpoint .get "" [] ∈ createPivotTable.endpoints := by simp [endpoints]
        have hreaches : createPivotTable.Reaches args
            ⟨.get, Service.spreadsheet (Json.str spec.spreadsheetId).display ++ "", params, none⟩ :=
          reaches_spreadsheet hget hid
        rwa [String.append_empty] at hreaches
      · intro body
        have hpost : spreadsheetEndpoint .post ":batchUpdate" [] ∈ createPivotTable.endpoints := by
          simp [endpoints]
        have hreaches : createPivotTable.Reaches args
            ⟨.post, Service.spreadsheet (Json.str spec.spreadsheetId).display ++ ":batchUpdate", none,
              some body⟩ :=
          reaches_spreadsheet hpost hid
        exact hreaches
    refine .bind hserves.compileSpec fun compiled => ?_
    cases compiled with
    | error e => exact trivial
    | ok table => exact .ask (hserves.post _) fun _ => trivial

/-! ## All tools -/

theorem sends_program (tool : Tool) : (tool.program args).Sends (tool.Reaches args) := by
  cases tool with
  | listMessages => exact sends_runListMessages args
  | getMessage => exact sends_runGetMessage args
  | listThreads => exact sends_runListThreads args
  | getThread => exact sends_runGetThread args
  | listLabels => exact sends_runListLabels args
  | createDraft => exact sends_runCreateDraft args
  | listAttachments => exact sends_runListAttachments args
  | getAttachment => exact sends_runGetAttachment args
  | listCalendars => exact sends_runListCalendars args
  | listEvents => exact sends_runListEvents args
  | getEvent => exact sends_runGetEvent args
  | queryFreeBusy => exact sends_runQueryFreeBusy args
  | getSpreadsheet => exact sends_runGetSpreadsheet args
  | getValues => exact sends_runGetValues args
  | batchGetValues => exact sends_runBatchGetValues args
  | updateValues => exact sends_runUpdateValues args
  | appendValues => exact sends_runAppendValues args
  | createSpreadsheet => exact sends_runCreateSpreadsheet args
  | batchUpdate => exact sends_runBatchUpdate args
  | clearValues => exact sends_runClearValues args
  | duplicateSheet => exact sends_runDuplicateSheet args
  | createPivotTable => exact sends_runCreatePivotTable args

end WorkspaceTools.Tool
