import WorkspaceTools.Proofs.Exchange.Series
import WorkspaceTools.Proofs.Pivot.Modification
import WorkspaceTools.Proofs.Sorting.Stable
import WorkspaceTools.Proofs.Tool.Listing

/-!
# Labels and calendars in order

Labels and calendars are listed in another order than the service gives them in, and nothing else is done to
them.

* `run_listLabels`: the labels of the system are told apart from the others, each group is sorted by the names.
* `run_listCalendars`: primary calendars come first, and both groups are sorted by the titles. A title that is
  neither a text nor left out has no lower-case form, and nothing is listed.
-/

namespace WorkspaceTools.Tool

open Json Text

/-- A response lists objects under a name; where it is left out, there are none. -/
def ListsObjects (name : String) (response : Json) (items : List Members) : Prop :=
  ∃ ms : Members, response = .obj ms ∧ (ms.find? name).getD (.arr []) = .arr (items.map .obj)

theorem lookup_of_listsObjects {name : String} {response : Json} {items : List Members}
    (h : ListsObjects name response items) :
    response.lookup name (.arr []) = .ok (.arr (items.map .obj)) := by
  obtain ⟨ms, rfl, hitems⟩ := h
  rw [lookup_obj, hitems]

/-- What is made of objects, where no object fails. -/
theorem mapItems_obj {α : Type} {f : Json → Shaped α} {g : Members → α} (h : ∀ ms, f (.obj ms) = .ok (g ms))
    (items : List Members) : mapItems f (.arr (items.map .obj)) = .ok (items.map g) := by
  change (items.map .obj).mapM f = _
  rw [mapM_eq_ok_iff, List.forall₂_map_left_iff, List.forall₂_map_right_iff]
  exact List.forall₂_same.2 fun ms _ => h ms

theorem eq_str_display {v : Json} (h : ∃ s, v = .str s) : v = .str v.display := by
  obtain ⟨s, rfl⟩ := h
  rfl

/-- Only texts have a lower-case form. -/
theorem exists_lowerText_iff {v : Json} : (∃ s, v.lowerText = .ok s) ↔ ∃ s, v = .str s := by
  cases v <;> simp [lowerText]

section

variable {α : Type} {key : α → Json} {given : List α}

/-- The lower-case forms of some names. -/
theorem mapM_lowerText (h : ∀ a ∈ given, ∃ name, key a = .str name) :
    (given.mapM fun a => (key a).lowerText.map fun lowered => (lowered, a)) =
      .ok (given.map fun a => (lowerCase (key a).display, a)) := by
  rw [mapM_eq_ok_iff, List.forall₂_map_right_iff]
  refine List.forall₂_same.2 fun a ha => ?_
  rw [eq_str_display (h a ha)]
  rfl

theorem exists_mapM_lowerText_iff :
    (∃ keyed, (given.mapM fun a => (key a).lowerText.map fun lowered => (lowered, a)) = .ok keyed) ↔
      ∀ a ∈ given, ∃ name, key a = .str name := by
  rw [exists_mapM_eq_ok_iff]
  refine forall₂_congr fun a _ => ?_
  rw [← exists_lowerText_iff]
  cases (key a).lowerText <;> simp

/-- Both halves of a list, sorted apart. -/
theorem append_perm_of_isStablySorted {sortKey sortKey' : α → String} {p : α → Bool} {first rest : List α}
    (hfirst : IsStablySorted sortKey (given.filter p) first)
    (hrest : IsStablySorted sortKey' (given.filter (!p ·)) rest) : (first ++ rest).Perm given :=
  (hfirst.perm.append hrest.perm).trans (List.filter_append_perm p given)

end

/-! ## Labels -/

/-- The label that an object describes. -/
def labelOf (ms : Members) : Label where
  id := (ms.find? "id").getD (text "")
  name := (ms.find? "name").getD (text "")
  type := (ms.find? "type").getD (text "user")

/-- The name of a label as it is shown. -/
def Label.shownName (l : Label) : String := l.name.display

/-- The name of a label is a text, be it the empty one in place of none. -/
def Label.HasTextName (l : Label) : Prop := ∃ name, l.name = .str name

/-- The request for all labels. -/
def labelsRequest : Request := ⟨.get, Service.mailBase ++ "/labels", none, none⟩

/-- The result that lists some labels. -/
def labelListing (total : Nat) (system user : List Label) : Json :=
  .obj [("total", .ofNat total), ("system_labels", .arr (system.map Label.toJson)),
    ("user_labels", .arr (user.map Label.toJson))]

/-- A result lists labels: all of them, once each, those of the system in the order of their names and the others
in the order of their names in lower case. -/
def IsLabelListing (labels : List Label) (result : Json) : Prop :=
  ∃ system user, result = labelListing (system.length + user.length) system user ∧
    (system ++ user).Perm labels ∧
    IsStablySorted Label.shownName (labels.filter Label.isSystem) system ∧
    IsStablySorted (fun l => lowerCase l.shownName) (labels.filter (!·.isSystem)) user

theorem exists_sortByName {labels : List Label} (h : ∀ l ∈ labels, l.HasTextName) :
    ∃ sorted, sortByName labels = .ok sorted ∧ IsStablySorted Label.shownName labels sorted :=
  exists_sortByKey_eq_ok Label.name Label.shownName labels fun l hl => eq_str_display (h l hl)

theorem exists_sortByLoweredName {labels : List Label} (h : ∀ l ∈ labels, l.HasTextName) :
    ∃ sorted, sortByLoweredName labels = .ok sorted ∧
      IsStablySorted (fun l => lowerCase l.shownName) labels sorted := by
  refine ⟨_, ?_, isStablySorted_sortByText _ labels⟩
  rw [sortByLoweredName, mapM_lowerText h]
  rfl

/-- **The labels of a mailbox** are all listed, sorted in two groups. -/
theorem run_listLabels {args : Members} {s : Session} {response : Json} {items : List Members}
    (hsend : (s.send labelsRequest).1 = .ok response) (hitems : ListsObjects "labels" response items)
    (hnames : ∀ ms ∈ items, (labelOf ms).HasTextName) :
    ∃ result, ((dispatch listLabels.name args).run s).1 = .ok result ∧
      IsLabelListing (items.map labelOf) result := by
  have hlabels : ∀ l ∈ items.map labelOf, l.HasTextName := List.forall_mem_map.2 hnames
  obtain ⟨system, hsystem, hsortedSystem⟩ := exists_sortByName fun l hl =>
    hlabels l (List.mem_of_mem_filter (p := Label.isSystem) hl)
  obtain ⟨user, huser, hsortedUser⟩ := exists_sortByLoweredName fun l hl =>
    hlabels l (List.mem_of_mem_filter (p := (!·.isSystem)) hl)
  have hperm := append_perm_of_isStablySorted hsortedSystem hsortedUser
  refine ⟨_, ?_, system, user, rfl, hperm, hsortedSystem, hsortedUser⟩
  rw [dispatch_name]
  change ((Program.ask labelsRequest >>= _).run s).1 = _
  rw [Program.run_ask_bind, hsend]
  simp only [Program.liftShaped_bind, lookup_of_listsObjects hitems,
    mapItems_obj (f := Label.of) (g := labelOf) (fun _ => rfl), hsystem, huser]
  rw [← List.length_append, hperm.length_eq]
  rfl

/-! ## Calendars -/

/-- The calendar that an object describes. -/
def calendarOf (ms : Members) : Calendar where
  id := (ms.find? "id").getD .null
  summary := ((ms.find? "summary").getD .null).orElse (text "(untitled)")
  description := (ms.find? "description").getD .null
  access := (ms.find? "accessRole").getD (text "reader")
  primary := (ms.find? "primary").getD (.bool false)

/-- The title of a calendar as it is shown. -/
def Calendar.title (c : Calendar) : String := c.summary.display

/-- The title of a calendar is a text, be it the one in place of none. -/
def Calendar.HasTextTitle (c : Calendar) : Prop := ∃ title, c.summary = .str title

/-- A calendar that is marked as primary. -/
def Calendar.isPrimary (c : Calendar) : Bool := c.primary.isTruthy

/-- The request for all calendars. -/
def calendarsRequest : Request := ⟨.get, Service.calendarBase ++ "/users/me/calendarList", none, none⟩

/-- The result that lists some calendars. -/
def calendarListing (calendars : List Calendar) : Json :=
  .obj [("calendars", .arr (calendars.map Calendar.toJson)), ("count", .ofNat calendars.length)]

/-- A result lists calendars: all of them, once each, first the primary ones and then the others, both in the order
of their titles in lower case. -/
def IsCalendarListing (calendars : List Calendar) (result : Json) : Prop :=
  ∃ primary others, result = calendarListing (primary ++ others) ∧
    (primary ++ others).Perm calendars ∧
    IsStablySorted (fun c => lowerCase c.title) (calendars.filter Calendar.isPrimary) primary ∧
    IsStablySorted (fun c => lowerCase c.title) (calendars.filter (!·.isPrimary)) others

/-- The calendars of one group with their lower-case titles. -/
theorem filter_keyed (calendars : List Calendar) (p : Calendar → Bool) :
    (calendars.map fun c => (lowerCase c.title, c)).filter (fun k => p k.2) =
      (calendars.filter p).map fun c => (lowerCase c.title, c) := by
  rw [List.filter_map]
  rfl

theorem exists_sortCalendars {calendars : List Calendar} (h : ∀ c ∈ calendars, c.HasTextTitle) :
    ∃ primary others, sortCalendars calendars = .ok (primary ++ others) ∧
      IsStablySorted (fun c => lowerCase c.title) (calendars.filter Calendar.isPrimary) primary ∧
      IsStablySorted (fun c => lowerCase c.title) (calendars.filter (!·.isPrimary)) others := by
  refine ⟨_, _, ?_, isStablySorted_sortByText _ _, isStablySorted_sortByText _ _⟩
  rw [sortCalendars, mapM_lowerText h, ← List.map_append, ← filter_keyed, ← filter_keyed]
  simp [Calendar.isPrimary, Calendar.title]

/-- Calendars have an order if their titles have lower-case forms. -/
theorem exists_sortCalendars_iff {calendars : List Calendar} :
    (∃ sorted, sortCalendars calendars = .ok sorted) ↔ ∀ c ∈ calendars, c.HasTextTitle := by
  rw [sortCalendars, exists_bind_eq_ok]
  simp only [pure_eq_ok, Except.ok.injEq, exists_eq', and_true]
  exact exists_mapM_lowerText_iff

/-- What becomes of a list of calendars. -/
theorem fst_run_listCalendars {args : Members} {s : Session} {response : Json} {items : List Members}
    (hsend : (s.send calendarsRequest).1 = .ok response) (hitems : ListsObjects "items" response items) :
    ((dispatch listCalendars.name args).run s).1 =
      ((sortCalendars (items.map calendarOf)).map calendarListing).mapError Fault.shape := by
  rw [dispatch_name]
  change ((Program.ask calendarsRequest >>= _).run s).1 = _
  rw [Program.run_ask_bind, hsend]
  simp only [Program.liftShaped_bind, lookup_of_listsObjects hitems,
    mapItems_obj (f := Calendar.of) (g := calendarOf) (fun _ => rfl)]
  cases sortCalendars (items.map calendarOf) <;> rfl

/-- **The calendars of the user** are all listed, in two sorted groups, if their titles are texts; else nothing is
listed. -/
theorem run_listCalendars {args : Members} {s : Session} {response : Json} {items : List Members}
    (hsend : (s.send calendarsRequest).1 = .ok response) (hitems : ListsObjects "items" response items) :
    ((∃ result, ((dispatch listCalendars.name args).run s).1 = .ok result) ↔
      ∀ ms ∈ items, (calendarOf ms).HasTextTitle) ∧
    ∀ result, ((dispatch listCalendars.name args).run s).1 = .ok result →
      IsCalendarListing (items.map calendarOf) result := by
  simp only [fst_run_listCalendars hsend hitems, mapError_eq_ok, map_eq_ok]
  constructor
  · rw [← List.forall_mem_map (f := calendarOf), ← exists_sortCalendars_iff]
    simp only [exists_comm (α := Json), exists_and_left, exists_eq', and_true]
  · rintro _ ⟨sorted, hsorted, rfl⟩
    obtain ⟨primary, others, hsort, hprimary, hothers⟩ :=
      exists_sortCalendars (exists_sortCalendars_iff.1 ⟨sorted, hsorted⟩)
    obtain rfl := Except.ok.inj (hsorted.symm.trans hsort)
    exact ⟨primary, others, rfl, append_perm_of_isStablySorted hprimary hothers, hprimary, hothers⟩

/-! ## Both lists -/

/-- **Labels and calendars are sorted, and none is lost or comes twice.** Labels whose names are texts are listed in
two groups by their type, those of the system in the order of their names and the others in the order of their names
in lower case. Calendars are listed if and only if their titles are texts, then with the primary ones first, in the
order of their titles in lower case. What compares equal stays in the order of the service. -/
theorem run_sortsListing :
    (∀ (args : Members) (s : Session) (response : Json) (items : List Members),
      (s.send labelsRequest).1 = .ok response → ListsObjects "labels" response items →
      (∀ ms ∈ items, (labelOf ms).HasTextName) →
        ∃ result, ((dispatch listLabels.name args).run s).1 = .ok result ∧
          IsLabelListing (items.map labelOf) result) ∧
    ∀ (args : Members) (s : Session) (response : Json) (items : List Members),
      (s.send calendarsRequest).1 = .ok response → ListsObjects "items" response items →
        ((∃ result, ((dispatch listCalendars.name args).run s).1 = .ok result) ↔
          ∀ ms ∈ items, (calendarOf ms).HasTextTitle) ∧
        ∀ result, ((dispatch listCalendars.name args).run s).1 = .ok result →
          IsCalendarListing (items.map calendarOf) result :=
  ⟨fun _ _ _ _ hsend hitems hnames => run_listLabels hsend hitems hnames,
    fun _ _ _ _ hsend hitems => run_listCalendars hsend hitems⟩

/-- Some labels, two of them with one name in lower case. -/
def equalNames : List Members :=
  [[("id", .str "u1"), ("name", .str "b")], [("id", .str "s1"), ("name", .str "INBOX"), ("type", .str "system")],
    [("id", .str "u2"), ("name", .str "A"), ("type", .str "user")], [("id", .str "u3"), ("name", .str "B")]]

/-- Some calendars, two of them with one title in lower case, and one without a title. -/
def equalTitles : List Members :=
  [[("id", .str "c1"), ("summary", .str "b")], [("id", .str "c2")], [("id", .str "c3"), ("summary", .str "B")],
    [("id", .str "c4"), ("summary", .str "c"), ("primary", .bool true)]]

/-- What compares equal stays in its order. -/
theorem run_sortsListing_equalKeys :
    ((dispatch listLabels.name []).run
        (sessionWith [.answer 200 (.ok (.obj [("labels", .arr (equalNames.map .obj))]))])).1 =
      .ok (labelListing 4 [⟨.str "s1", .str "INBOX", .str "system"⟩] [⟨.str "u2", .str "A", .str "user"⟩,
        ⟨.str "u1", .str "b", .str "user"⟩, ⟨.str "u3", .str "B", .str "user"⟩]) ∧
    ((dispatch listCalendars.name []).run
        (sessionWith [.answer 200 (.ok (.obj [("items", .arr (equalTitles.map .obj))]))])).1 =
      .ok (calendarListing [⟨.str "c4", .str "c", .null, .str "reader", .bool true⟩,
        ⟨.str "c2", .str "(untitled)", .null, .str "reader", .bool false⟩,
        ⟨.str "c1", .str "b", .null, .str "reader", .bool false⟩,
        ⟨.str "c3", .str "B", .null, .str "reader", .bool false⟩]) := by
  have hequal : lowerCase "b" = lowerCase "B" := by decide +kernel
  have hsend (r : Request) (v : Json) : ((sessionWith [.answer 200 (.ok v)]).send r).1 = .ok v :=
    fst_send_sessionWith r _
  constructor
  · have hitems : ListsObjects "labels" (.obj [("labels", .arr (equalNames.map .obj))]) equalNames := ⟨_, rfl, rfl⟩
    have hnames : ∀ ms ∈ equalNames, (labelOf ms).HasTextName := by
      simp only [equalNames, List.forall_mem_cons]
      exact ⟨⟨_, rfl⟩, ⟨_, rfl⟩, ⟨_, rfl⟩, ⟨_, rfl⟩, by simp⟩
    obtain ⟨result, hrun, system, user, rfl, -, hsystem, huser⟩ :=
      run_sortsListing.1 [] _ _ _ (hsend _ _) hitems hnames
    obtain rfl := hsystem.unique (isStablySorted_singleton Label.shownName _)
    obtain rfl := huser.unique (isStablySorted_triple hequal (by decide +kernel))
    exact hrun
  · have hitems : ListsObjects "items" (.obj [("items", .arr (equalTitles.map .obj))]) equalTitles := ⟨_, rfl, rfl⟩
    have htitles : ∀ ms ∈ equalTitles, (calendarOf ms).HasTextTitle := by
      simp only [equalTitles, List.forall_mem_cons]
      exact ⟨⟨_, rfl⟩, ⟨_, rfl⟩, ⟨_, rfl⟩, ⟨_, rfl⟩, by simp⟩
    obtain ⟨hresult, hlisting⟩ := run_sortsListing.2 [] _ _ _ (hsend _ _) hitems
    obtain ⟨result, hrun⟩ := hresult.2 htitles
    obtain ⟨primary, others, rfl, -, hprimary, hothers⟩ := hlisting result hrun
    obtain rfl := hprimary.unique (isStablySorted_singleton _ _)
    obtain rfl := hothers.unique (isStablySorted_triple hequal (by decide +kernel))
    exact hrun

end WorkspaceTools.Tool
