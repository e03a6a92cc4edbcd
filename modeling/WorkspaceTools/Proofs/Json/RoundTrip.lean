import WorkspaceTools.Proofs.Json.Numeral
import WorkspaceTools.Proofs.Json.Text

/-!
# Documents read back

`IsReadable depth v` says that a reader can take in `v` where so many lists and objects may stand in one
another: its integers have not too many digits, its numbers of double precision are written in their one
way, and no object has two members of one name. Then `v` reads back from what a writer makes of it,
on one line or over several (`readValue_renderAt`, `read?_pretty`).
-/

namespace WorkspaceTools.Json

open Number Text

/-! ## Documents that can be read -/

variable {τ : Type}

mutual

/-- A document that can be read. -/
def IsReadable : (depth : Nat) → Json τ → Prop
  | _, .null => True
  | _, .bool _ => True
  | _, .int i => (natDigits i.natAbs).length ≤ maxIntDigits
  | _, .float x => x.IsCanonical
  | _, .str _ => True
  | depth, .arr vs => 0 < depth ∧ AreReadable (depth - 1) vs
  | depth, .obj ms => 0 < depth ∧ (Members.names ms).Nodup ∧ AreReadableMembers (depth - 1) ms

/-- Items that can be read. -/
def AreReadable : (depth : Nat) → List (Json τ) → Prop
  | _, [] => True
  | depth, v :: vs => IsReadable depth v ∧ AreReadable depth vs

/-- Members that can be read. -/
def AreReadableMembers : (depth : Nat) → List (τ × Json τ) → Prop
  | _, [] => True
  | depth, (_, v) :: ms => IsReadable depth v ∧ AreReadableMembers depth ms

end

/-! ## Members -/

theorem set_of_not_mem [DecidableEq τ] {k : τ} {ms : Members τ} (h : k ∉ ms.names) (v : Json τ) :
    ms.set k v = ms ++ [(k, v)] := by
  induction ms with
  | nil => rfl
  | cons m ms ih =>
    obtain ⟨hk, hms⟩ := not_or.1 (fun hor => h (List.mem_cons.2 hor))
    obtain ⟨name, w⟩ := m
    have hname : (name == k) = false := by simpa using Ne.symm hk
    simp [Members.set, hname, ih hms]

/-! ## Blanks -/

theorem skipBlanks_of_head {c : Char} (hc : isSeparator c = false) (cs : List Char) :
    skipBlanks (c :: cs) = c :: cs := by
  simp [skipBlanks, hc]

theorem skipBlanks_space (cs : List Char) : skipBlanks (' ' :: cs) = skipBlanks cs := rfl

theorem skipBlanks_lineBreak (indent : Option Nat) (level : Nat) (cs : List Char) :
    skipBlanks (lineBreak indent level ++ cs) = skipBlanks cs := by
  cases indent with
  | none => rfl
  | some n =>
    have hblank : ∀ c ∈ '\n' :: List.replicate (n * level) ' ', isSeparator c = true := by
      intro c hc
      rcases List.mem_cons.1 hc with rfl | hc
      · rfl
      · rw [List.eq_of_mem_replicate hc]
        rfl
    exact List.dropWhile_append_of_pos hblank

/-- A separator of items is a comma and blanks. -/
theorem itemSeparator_eq (indent : Option Nat) (level : Nat) :
    ∃ blanks, itemSeparator indent level = ',' :: blanks ∧
      ∀ cs, skipBlanks (blanks ++ cs) = skipBlanks cs := by
  cases indent with
  | none => exact ⟨[' '], rfl, fun cs => rfl⟩
  | some n => exact ⟨_, rfl, skipBlanks_lineBreak (some n) level⟩

/-! ## First characters -/

variable [UnitText τ]

/-- A character that may begin a value: it is no blank, closes no list and is no byte order mark. -/
def beginsValue (c : Char) : Bool := !isSeparator c && c != ']' && c != '\uFEFF'

theorem beginsValue_iff {c : Char} :
    beginsValue c = true ↔ isSeparator c = false ∧ c ≠ ']' ∧ c ≠ '\uFEFF' := by
  simp [beginsValue, and_assoc]

theorem beginsValue_digit {c : Char} (h : isAsciiDigit c = true) : beginsValue c = true := by
  have hne : ∀ d, isAsciiDigit d = false → c ≠ d := by
    rintro d hd rfl
    exact absurd h (by simp [hd])
  rw [beginsValue_iff]
  refine ⟨?_, hne _ rfl, hne _ rfl⟩
  simp [isSeparator, hne ' ' rfl, hne '\t' rfl, hne '\n' rfl, hne '\r' rfl]

theorem head_signed {negative : Bool} {body : List Char}
    (h : ∃ c ∈ body.head?, isAsciiDigit c = true) :
    ∃ c ∈ (if negative then '-' :: body else body).head?, beginsValue c = true := by
  cases negative with
  | true => exact ⟨'-', rfl, rfl⟩
  | false =>
    obtain ⟨c, hc, hd⟩ := h
    exact ⟨c, hc, beginsValue_digit hd⟩

theorem head_renderAt (indent : Option Nat) (level : Nat) {depth : Nat} {v : Json τ}
    (h : IsReadable depth v) : ∃ c ∈ (renderAt indent level v).head?, beginsValue c = true := by
  cases v with
  | null => exact ⟨'n', rfl, rfl⟩
  | bool b => cases b <;> exact ⟨_, rfl, rfl⟩
  | int i =>
    rw [renderAt, intDigits_eq]
    exact head_signed (isWhole_natDigits _).head_digit
  | float x =>
    rw [renderAt]
    cases x with
    | nan => exact ⟨'N', rfl, rfl⟩
    | infinite negative => cases negative <;> exact ⟨_, rfl, rfl⟩
    | finite negative m e =>
      have hx : (Binary64.finite negative m e).IsCanonical := h
      rw [toList_floatText]
      exact head_signed (head_floatBody _ hx)
  | str s => exact ⟨'"', rfl, rfl⟩
  | arr vs => cases vs <;> exact ⟨'[', rfl, rfl⟩
  | obj ms => cases ms <;> exact ⟨'\x7b', rfl, rfl⟩

/-- No blank stands before a value. -/
theorem skipBlanks_renderAt (indent : Option Nat) (level : Nat) {depth : Nat} {v : Json τ}
    (h : IsReadable depth v) (rest : List Char) :
    skipBlanks (renderAt indent level v ++ rest) = renderAt indent level v ++ rest := by
  obtain ⟨c, hc, hb⟩ := head_renderAt indent level h
  cases hr : renderAt indent level v with
  | nil => rw [hr] at hc; cases hc
  | cons c' cs =>
    rw [hr] at hc
    cases hc
    exact skipBlanks_of_head (beginsValue_iff.1 hb).1 _

theorem length_renderAt_pos (indent : Option Nat) (level : Nat) {depth : Nat} {v : Json τ}
    (h : IsReadable depth v) : 0 < (renderAt indent level v).length := by
  obtain ⟨c, hc, -⟩ := head_renderAt indent level h
  cases hr : renderAt indent level v with
  | nil => rw [hr] at hc; cases hc
  | cons c' cs => exact Nat.succ_pos _

theorem skipBlanks_stringChars (k : τ) (cs : List Char) :
    skipBlanks (stringChars k ++ cs) = stringChars k ++ cs := skipBlanks_of_head rfl _

/-! ## What follows a value -/

theorem endsNumber_of_head {c : Char} {cs : List Char}
    (h : c = ',' ∨ c = '\n' ∨ c = ']' ∨ c = '\x7d') : EndsNumber (c :: cs) := by
  intro d hd
  cases hd
  rcases h with rfl | rfl | rfl | rfl <;> decide

theorem endsNumber_renderItems (indent : Option Nat) (level : Nat) (vs : List (Json τ))
    (rest : List Char) : EndsNumber (renderItems indent level vs ++ rest) := by
  cases vs <;> cases indent <;> exact endsNumber_of_head (by simp)

theorem endsNumber_renderMembers (indent : Option Nat) (level : Nat) (ms : Members τ)
    (rest : List Char) : EndsNumber (renderMembers indent level ms ++ rest) := by
  cases ms <;> cases indent <;> exact endsNumber_of_head (by simp)

theorem length_renderItems_pos (indent : Option Nat) (level : Nat) (vs : List (Json τ)) :
    0 < (renderItems indent level vs).length := by
  cases vs <;> cases indent <;> simp [renderItems, itemSeparator]

theorem length_renderMembers_pos (indent : Option Nat) (level : Nat) (ms : Members τ) :
    0 < (renderMembers indent level ms).length := by
  cases ms <;> cases indent <;> simp [renderMembers, itemSeparator]

/-! ## Steps of the reader -/

variable [DecidableEq τ]

/-- What is read after the bracket that opens a list. -/
def afterBracket (fuel depth : Nat) (cs : List Char) : Reading (Json τ) :=
  match depth, skipBlanks cs with
  | 0, _ => failAt (.tooDeep .arr) ('[' :: cs)
  | _, ']' :: r => .ok (.arr [], r)
  | depth + 1, r => readItems fuel depth [] r

theorem readValue_list (fuel depth : Nat) {c : Char} {cs r : List Char}
    (hs : skipBlanks cs = c :: r) (hc : c ≠ ']') :
    (readValue (fuel + 1) (depth + 1) ('[' :: cs) : Reading (Json τ)) =
      readItems fuel depth [] (c :: r) := by
  change afterBracket fuel (depth + 1) cs = _
  unfold afterBracket
  rw [hs]
  split
  · contradiction
  · rename_i heq _
    exact absurd (List.cons.inj heq).1 hc
  · rename_i heq _
    cases heq
    rfl

/-- What is read after the brace that opens an object. -/
def afterBrace (fuel depth : Nat) (cs : List Char) : Reading (Json τ) :=
  match depth, skipBlanks cs with
  | 0, _ => failAt (.tooDeep .obj) ('\x7b' :: cs)
  | _, '\x7d' :: r => .ok (.obj [], r)
  | depth + 1, r => readMembers fuel depth [] r

theorem readValue_object (fuel depth : Nat) {cs r : List Char} (hs : skipBlanks cs = '"' :: r) :
    (readValue (fuel + 1) (depth + 1) ('\x7b' :: cs) : Reading (Json τ)) =
      readMembers fuel depth [] ('"' :: r) := by
  change afterBrace fuel (depth + 1) cs = _
  unfold afterBrace
  rw [hs]
  rfl

/-- What is read after an item. -/
def afterItem (fuel depth : Nat) (items : List (Json τ)) (rest : List Char) : Reading (Json τ) :=
  match skipBlanks rest with
  | ']' :: r => .ok (.arr items.reverse, r)
  | ',' :: r => readItems fuel depth items (skipBlanks r)
  | r => failAt .expectingComma r

theorem readItems_of_value {fuel depth : Nat} {acc : List (Json τ)} {v : Json τ} {cs rest : List Char}
    (h : readValue fuel depth cs = .ok (v, rest)) :
    readItems (fuel + 1) depth acc cs = afterItem fuel depth (v :: acc) rest := by
  rw [readItems, h]
  rfl

/-- What is read after a member. -/
def afterMember (fuel depth : Nat) (members : Members τ) (rest : List Char) : Reading (Json τ) :=
  match skipBlanks rest with
  | '\x7d' :: r => .ok (.obj members, r)
  | ',' :: r => readMembers fuel depth members (skipBlanks r)
  | r => failAt .expectingComma r

/-- What is read after the colon that follows a name. -/
def afterColon (fuel depth : Nat) (members : Members τ) (k : τ) (cs : List Char) : Reading (Json τ) :=
  match readValue fuel depth (skipBlanks cs) with
  | .error e => .error e
  | .ok (v, rest) => afterMember fuel depth (members.set k v) rest

theorem readMembers_of_value {fuel depth : Nat} {acc : Members τ} (k : τ) {v : Json τ}
    {cs rest : List Char} (h : readValue fuel depth (skipBlanks cs) = .ok (v, rest)) :
    readMembers (fuel + 1) depth acc (stringChars k ++ ':' :: cs) =
      afterMember fuel depth (acc.set k v) rest := by
  rw [stringChars, List.cons_append, List.append_assoc, readMembers, List.singleton_append,
    readText_stringChars]
  change afterColon fuel depth acc k cs = _
  rw [afterColon, h]

theorem afterItem_end (indent : Option Nat) (level fuel depth : Nat) (items : List (Json τ))
    (rest : List Char) :
    afterItem fuel depth items (renderItems indent level ([] : List (Json τ)) ++ rest) = .ok (.arr items.reverse, rest) := by
  rw [afterItem, renderItems, List.append_assoc, skipBlanks_lineBreak]
  rfl

theorem afterMember_end (indent : Option Nat) (level fuel depth : Nat) (members : Members τ)
    (rest : List Char) :
    afterMember fuel depth members (renderMembers indent level ([] : Members τ) ++ rest) =
      .ok (.obj members, rest) := by
  rw [afterMember, renderMembers, List.append_assoc, skipBlanks_lineBreak]
  rfl

/-- A comma leads to the next item. -/
theorem afterItem_separator (indent : Option Nat) (level fuel depth : Nat) (items : List (Json τ))
    (cs : List Char) :
    afterItem fuel depth items (itemSeparator indent level ++ cs) =
      readItems fuel depth items (skipBlanks cs) := by
  obtain ⟨blanks, hsep, hblanks⟩ := itemSeparator_eq indent level
  rw [afterItem, hsep, List.cons_append, skipBlanks_of_head rfl, ← hblanks]
  rfl

/-- A comma leads to the next member. -/
theorem afterMember_separator (indent : Option Nat) (level fuel depth : Nat) (members : Members τ)
    (cs : List Char) :
    afterMember fuel depth members (itemSeparator indent level ++ cs) =
      readMembers fuel depth members (skipBlanks cs) := by
  obtain ⟨blanks, hsep, hblanks⟩ := itemSeparator_eq indent level
  rw [afterMember, hsep, List.cons_append, skipBlanks_of_head rfl, ← hblanks]
  rfl

/-! ## Reading back -/

mutual

/-- **A document reads back** from what is written, with enough fuel. -/
theorem readValue_renderAt (indent : Option Nat) (level fuel : Nat) {depth : Nat} {v : Json τ}
    (h : IsReadable depth v) (hfuel : 2 * (renderAt indent level v).length ≤ fuel)
    {rest : List Char} (hr : EndsNumber rest) :
    readValue fuel depth (renderAt indent level v ++ rest) = .ok (v, rest) := by
  have hpos := length_renderAt_pos indent level h
  obtain ⟨fuel, rfl⟩ : ∃ f, fuel = f + 1 := ⟨fuel - 1, by omega⟩
  match v, h with
  | .null, _ => rfl
  | .bool b, _ => cases b <;> rfl
  | .int i, h => exact readValue_int fuel depth h hr
  | .float x, h => exact readValue_float fuel depth h hr
  | .str s, _ =>
    rw [renderAt, stringChars, List.cons_append, List.append_assoc, readValue,
      List.singleton_append, readText_stringChars]
    rfl
  | .arr vs, h =>
    obtain ⟨hdepth, hvs⟩ := h
    obtain ⟨depth, rfl⟩ : ∃ d, depth = d + 1 := ⟨depth - 1, by omega⟩
    match vs, hvs with
    | [], _ => rfl
    | v :: vs, ⟨hv, hvs⟩ =>
      rw [renderAt] at hfuel
      simp only [List.length_append, List.length_cons] at hfuel
      obtain ⟨c, hc, hb⟩ := head_renderAt indent (level + 1) hv
      have hskip := skipBlanks_renderAt indent (level + 1) hv (renderItems indent level vs ++ rest)
      obtain ⟨tail, htail⟩ : ∃ tail, renderAt indent (level + 1) v = c :: tail :=
        List.head?_eq_some_iff.1 hc
      have hread := readItems_renderItems indent level fuel hv hvs [] (by omega) rest
      rw [htail, List.cons_append] at hread hskip
      rw [renderAt, List.cons_append, List.append_assoc, List.append_assoc, htail, List.cons_append,
        readValue_list fuel depth ((skipBlanks_lineBreak ..).trans hskip) (beginsValue_iff.1 hb).2.1]
      exact hread
  | .obj ms, h =>
    obtain ⟨hdepth, hnames, hms⟩ := h
    obtain ⟨depth, rfl⟩ : ∃ d, depth = d + 1 := ⟨depth - 1, by omega⟩
    match ms, hms with
    | [], _ => rfl
    | (k, v) :: ms, ⟨hv, hms⟩ =>
      rw [renderAt] at hfuel
      simp only [List.length_append, List.length_cons] at hfuel
      have hread := readMembers_renderMembers indent level fuel hv hms [] hnames (by omega) rest
      rw [renderAt, List.cons_append, List.append_assoc, List.append_assoc, List.cons_append,
        List.cons_append, List.append_assoc,
        readValue_object fuel depth ((skipBlanks_lineBreak ..).trans (skipBlanks_stringChars ..))]
      exact hread

/-- The items of a list read back. -/
theorem readItems_renderItems (indent : Option Nat) (level fuel : Nat) {depth : Nat} {v : Json τ}
    {vs : List (Json τ)} (hv : IsReadable depth v) (hvs : AreReadable depth vs) (acc : List (Json τ))
    (hfuel : 2 * ((renderAt indent (level + 1) v).length + (renderItems indent level vs).length) ≤ fuel)
    (rest : List Char) :
    readItems fuel depth acc
        (renderAt indent (level + 1) v ++ (renderItems indent level vs ++ rest)) =
      .ok (.arr (acc.reverse ++ v :: vs), rest) := by
  have hpos := length_renderAt_pos indent (level + 1) hv
  have hpos' := length_renderItems_pos indent level vs
  obtain ⟨fuel, rfl⟩ : ∃ f, fuel = f + 1 := ⟨fuel - 1, by omega⟩
  rw [readItems_of_value (readValue_renderAt indent (level + 1) fuel hv (by omega)
    (endsNumber_renderItems indent level vs rest))]
  match vs, hvs with
  | [], _ =>
    rw [afterItem_end, List.reverse_cons]
  | w :: ws, ⟨hw, hws⟩ =>
    rw [renderItems] at hfuel
    simp only [List.length_append] at hfuel
    rw [renderItems, List.append_assoc, List.append_assoc, afterItem_separator,
      skipBlanks_renderAt indent (level + 1) hw,
      readItems_renderItems indent level fuel hw hws (v :: acc) (by omega)]
    simp

/-- The members of an object read back. -/
theorem readMembers_renderMembers (indent : Option Nat) (level fuel : Nat) {depth : Nat} {k : τ}
    {v : Json τ} {ms : Members τ} (hv : IsReadable depth v) (hms : AreReadableMembers depth ms)
    (acc : Members τ) (hnames : (acc.names ++ k :: ms.names).Nodup)
    (hfuel : 2 * ((renderAt indent (level + 1) v).length +
      (renderMembers indent level ms).length) ≤ fuel) (rest : List Char) :
    readMembers fuel depth acc (stringChars k ++ ':' :: ' ' ::
        (renderAt indent (level + 1) v ++ (renderMembers indent level ms ++ rest))) =
      .ok (.obj (acc ++ (k, v) :: ms), rest) := by
  have hpos := length_renderAt_pos indent (level + 1) hv
  have hpos' := length_renderMembers_pos indent level ms
  obtain ⟨fuel, rfl⟩ : ∃ f, fuel = f + 1 := ⟨fuel - 1, by omega⟩
  have hread := readValue_renderAt indent (level + 1) fuel hv (by omega)
    (endsNumber_renderMembers indent level ms rest)
  have hk : k ∉ acc.names := fun hk =>
    (List.nodup_append.1 hnames).2.2 k hk k (List.mem_cons_self ..) rfl
  rw [← skipBlanks_renderAt indent (level + 1) hv, ← skipBlanks_space] at hread
  rw [readMembers_of_value k hread, set_of_not_mem hk]
  match ms, hms with
  | [], _ =>
    rw [afterMember_end]
  | (j, w) :: ms, ⟨hw, hms⟩ =>
    rw [renderMembers] at hfuel
    simp only [List.length_append, List.length_cons] at hfuel
    have hnames' : ((acc ++ [(k, v)] : Members τ).names ++ j :: Members.names ms).Nodup := by
      simpa [Members.names] using hnames
    rw [renderMembers, List.append_assoc, List.append_assoc, afterMember_separator,
      skipBlanks_stringChars, List.cons_append, List.cons_append, List.append_assoc,
      readMembers_renderMembers indent level fuel hw hms _ hnames' (by omega), List.append_assoc]
    rfl

end

/-- A document reads back from all of its characters. -/
theorem readWhole_renderAt (indent : Option Nat) {depth : Nat} {v : Json τ} (h : IsReadable depth v) :
    readWhole depth (renderAt indent 0 v) = .ok v := by
  have hend : EndsNumber [] := fun c hc => by cases hc
  have hread := readValue_renderAt indent 0 (2 * (renderAt indent 0 v).length + 2) h (by omega) hend
  have hskip := skipBlanks_renderAt indent 0 h []
  rw [List.append_nil] at hread hskip
  rw [readWhole, readChars, hskip, hread]
  rfl

omit [DecidableEq τ] in
/-- No byte order mark begins a document. -/
theorem head_renderAt_ne_mark (indent : Option Nat) {depth : Nat} {v : Json τ}
    (h : IsReadable depth v) (rest : List Char) : renderAt indent 0 v ≠ '\uFEFF' :: rest := by
  obtain ⟨c, hc, hb⟩ := head_renderAt indent 0 h
  intro heq
  rw [heq] at hc
  cases hc
  exact absurd hb (by decide)

/-- **A document reads back** from its text over several lines. -/
theorem read?_pretty {depth : Nat} {v : Json τ} (h : IsReadable depth v) :
    read? depth v.pretty = .ok v := by
  rw [read?, pretty, String.toList_ofList]
  split
  · rename_i heq
    exact absurd heq (head_renderAt_ne_mark _ h _)
  · exact readWhole_renderAt (some 2) h

end WorkspaceTools.Json
