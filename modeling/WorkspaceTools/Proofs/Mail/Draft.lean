import WorkspaceTools.Mail.Draft
import WorkspaceTools.Proofs.Mail.Folding
import WorkspaceTools.Proofs.Outcome

/-!
# Drafts that read back

A draft is sent in base64, and so is its text inside of it. `CarriesText` is what a reader finds: the bytes of a
message, its headers up to the first blank line, and content that is the text in base64.

* `decodeBase64?_base64Lines`: content in lines reads back, since every line but the last is made of whole groups.
* `message_eq_ok`: in a message the first blank line is the one in front of the content.
* `raw_eq_ok`: whatever headers a draft has, it carries its text if it can be written.
* `exists_raw`: a draft with headers of printable characters can be written.
-/

namespace WorkspaceTools.Mail

open Json Text

/-! ## Content -/

/-- Bytes whose groups are whole are written apart from what follows them. -/
theorem sextetsOf_append {xs : Bytes} (h : paddingOf xs = 0) (ys : Bytes) :
    sextetsOf (xs ++ ys) = sextetsOf xs ++ sextetsOf ys := by
  fun_induction sextetsOf xs with
  | case1 => rfl
  | case2 a => exact absurd h (Nat.succ_ne_zero 1)
  | case3 a b n => exact absurd h (Nat.succ_ne_zero 0)
  | case4 a b c rest n ih =>
    rw [paddingOf_cons] at h
    rw [List.cons_append, List.cons_append, List.cons_append, sextetsOf, ih h]
    rfl

theorem paddingOf_append {xs : Bytes} (h : paddingOf xs = 0) (ys : Bytes) : paddingOf (xs ++ ys) = paddingOf ys := by
  rw [paddingOf] at h
  rw [paddingOf, paddingOf, List.length_append]
  omega

/-- The data of bytes are read from a line of them. Its end is passed over, and so is what follows it if there is
padding on the line. -/
theorem sextets_base64_line (bs : Bytes) (rest : List Char) :
    sextets 0 0 (base64 bs ++ '\n' :: rest) =
      if paddingOf bs = 0 then (sextetsOf bs ++ (sextets 0 0 rest).1, (sextets 0 0 rest).2)
      else (sextetsOf bs, true) := by
  have hend : sextets 0 0 ('\n' :: rest) = sextets 0 0 rest := rfl
  rw [base64, sextets_base64With_append rfl rfl, hend]

/-- **The data of bytes are found in their lines**, since every line but the last has no padding. -/
theorem sextets_base64LinesFrom {count : Nat} {line bs : Bytes} (h : line.length + count = bytesPerLine) :
    sextets 0 0 (base64LinesFrom count line bs) =
      (sextetsOf (line.reverse ++ bs), paddingOf (line.reverse ++ bs) != 0) := by
  fun_induction base64LinesFrom count line bs with
  | case1 count => rfl
  | case2 count line hline =>
    rw [sextets_base64_line, List.append_nil]
    split
    · rename_i hnone
      rw [hnone]
      exact congrArg (·, false) (List.append_nil _)
    · rename_i hsome
      rw [bne_iff_ne.2 hsome]
  | case3 line b rest ih =>
    have hwhole : paddingOf line.reverse = 0 := by
      rw [paddingOf, List.length_reverse, ← Nat.add_zero line.length, h]
      rfl
    have hnext := ih rfl
    rw [List.reverse_singleton, List.singleton_append] at hnext
    rw [sextets_base64_line, if_pos hwhole, sextetsOf_append hwhole, paddingOf_append hwhole, hnext]
  | case4 count line b rest ih =>
    rw [ih (by rw [List.length_cons]; omega), List.reverse_cons, List.append_assoc, List.singleton_append]

theorem toNat_lt_of_mem_base64LinesFrom {count : Nat} {line bs : Bytes} {c : Char}
    (h : c ∈ base64LinesFrom count line bs) : c.toNat < 0x80 := by
  have hline (line : Bytes) (rest : List Char) (hrest : c ∈ rest → c.toNat < 0x80)
      (hc : c ∈ base64 line ++ '\n' :: rest) : c.toNat < 0x80 := by
    rcases List.mem_append.1 hc with hc | hc
    · exact toNat_lt_of_mem_base64With rfl rfl hc
    · rcases List.mem_cons.1 hc with rfl | hc
      · decide
      · exact hrest hc
  fun_induction base64LinesFrom count line bs with
  | case1 count => cases h
  | case2 count line hsome => exact hline _ _ (absurd · List.not_mem_nil) h
  | case3 line b rest ih => exact hline _ _ ih h
  | case4 count line b rest ih => exact ih h

/-- **Content reads back.** -/
theorem decodeBase64?_base64Lines (bs : Bytes) : decodeBase64? (base64Lines bs) = .ok bs :=
  decodeBase64?_of_sextets (fun _ hc => toNat_lt_of_mem_base64LinesFrom hc) (sextets_base64LinesFrom rfl)

/-! ## Headers -/

/-- The headers of a message, line by line up to the first blank one, and what stands behind that; `line` is the
present line, last character first. -/
def cutHeaders (line : List Char) : List Char → Option (List (List Char) × List Char)
  | [] => none
  | c :: rest =>
    if c = '\n' then
      if line.isEmpty then some ([], rest)
      else (cutHeaders [] rest).map fun (lines, content) => (line.reverse :: lines, content)
    else cutHeaders (c :: line) rest

/-- Lines of headers: none is empty, and none ends before its end. -/
def AreHeaders (lines : List (List Char)) : Prop := ∀ line ∈ lines, line ≠ [] ∧ '\n' ∉ line

/-- Headers with the ends of their lines. -/
def headerBlock (lines : List (List Char)) : List Char := lines.flatMap (· ++ ['\n'])

/-- The characters of a line are passed over. -/
theorem cutHeaders_append {cs : List Char} (h : '\n' ∉ cs) (line rest : List Char) :
    cutHeaders line (cs ++ rest) = cutHeaders (cs.reverse ++ line) rest := by
  induction cs generalizing line with
  | nil => rfl
  | cons c cs ih =>
    have hne : c ≠ '\n' := fun hc => h (hc ▸ List.mem_cons_self)
    rw [List.cons_append, cutHeaders, if_neg hne,
      ih fun hmem => h (List.mem_cons_of_mem _ hmem), List.reverse_cons, List.append_assoc, List.singleton_append]

/-- **Headers are told apart from the content** by the first blank line. -/
theorem cutHeaders_headerBlock {lines : List (List Char)} (h : AreHeaders lines) (content : List Char) :
    cutHeaders [] (headerBlock lines ++ '\n' :: content) = some (lines, content) := by
  induction lines with
  | nil => rfl
  | cons line rest ih =>
    obtain ⟨⟨hne, hline⟩, hrest⟩ := List.forall_mem_cons.1 h
    have hcons : headerBlock (line :: rest) ++ '\n' :: content =
        line ++ '\n' :: (headerBlock rest ++ '\n' :: content) := by simp [headerBlock]
    rw [hcons, cutHeaders_append hline, cutHeaders, if_pos rfl, if_neg (by simpa using hne), ih hrest]
    simp

/-- Lines that are put together, with an end behind the last one. -/
theorem intercalate_append_newline {lines : List (List Char)} (hne : lines ≠ []) :
    ['\n'].intercalate lines ++ ['\n'] = headerBlock lines := by
  induction lines with
  | nil => exact absurd rfl hne
  | cons line rest ih =>
    cases rest with
    | nil => simp [headerBlock]
    | cons next rest =>
      rw [List.intercalate_cons_cons, List.append_assoc, ih (List.cons_ne_nil _ _), List.append_assoc]
      simp [headerBlock]

/-- A text of headers. -/
def IsHeaderText (s : String) : Prop := ∃ lines, AreHeaders lines ∧ s.toList = headerBlock lines

theorem IsHeaderText.append {s t : String} (hs : IsHeaderText s) (ht : IsHeaderText t) : IsHeaderText (s ++ t) := by
  obtain ⟨ls, hls, hs⟩ := hs
  obtain ⟨ms, hms, ht⟩ := ht
  refine ⟨ls ++ ms, List.forall_mem_append.2 ⟨hls, hms⟩, ?_⟩
  rw [String.toList_append, hs, ht, headerBlock, headerBlock, headerBlock, List.flatMap_append]

theorem IsHeaderText.concat {texts : List String} (h : ∀ s ∈ texts, IsHeaderText s) :
    IsHeaderText ("".intercalate texts) := by
  induction texts with
  | nil => exact ⟨[], List.forall_mem_nil _, rfl⟩
  | cons s rest ih =>
    obtain ⟨hs, hrest⟩ := List.forall_mem_cons.1 h
    cases rest with
    | nil => rwa [String.intercalate_singleton]
    | cons next rest =>
      rw [String.intercalate_cons_cons, String.append_empty]
      exact hs.append (ih hrest)

/-- The name of a header. -/
def IsHeaderName (name : String) : Prop := name ≠ "" ∧ '\n' ∉ name.toList

/-- Lines behind the beginning of a header. -/
theorem isHeaderText_of_lines {start : String} (hstart : IsHeaderName start) {lines : List (List Char)}
    (hbreak : ∀ line ∈ lines, '\n' ∉ line) (hlater : ∀ line ∈ lines.tail, line ≠ []) :
    IsHeaderText (start ++ String.ofList (['\n'].intercalate lines) ++ "\n") := by
  have hfirst : start.toList ≠ [] := by simpa using hstart.1
  cases lines with
  | nil =>
    refine ⟨[start.toList], List.forall_mem_singleton.2 ⟨hfirst, hstart.2⟩, ?_⟩
    simp [headerBlock]
  | cons first rest =>
    obtain ⟨hline, hrest⟩ := List.forall_mem_cons.1 hbreak
    refine ⟨(start.toList ++ first) :: rest, List.forall_mem_cons.2 ⟨⟨?_, ?_⟩, ?_⟩, ?_⟩
    · exact List.append_ne_nil_of_left_ne_nil hfirst _
    · rw [List.mem_append]
      exact fun hmem => hmem.elim hstart.2 hline
    · exact fun line hmem => ⟨hlater line hmem, hrest line hmem⟩
    · have hend : "\n".toList = ['\n'] := rfl
      rw [String.toList_append, String.toList_append, String.toList_ofList, List.append_assoc, hend,
        intercalate_append_newline (List.cons_ne_nil _ _)]
      simp [headerBlock]

/-- **A header is written over lines that are headers**, whatever its value is. -/
theorem isHeaderText_headerLine {name : String} {v : Json} {s : String} (hname : IsHeaderName name)
    (h : headerLine name v = .ok s) : IsHeaderText s := by
  have hstart : IsHeaderName (name ++ ": ") := by
    refine ⟨by simp, ?_⟩
    rw [String.toList_append, List.mem_append]
    exact fun hmem => hmem.elim hname.2 (by decide)
  cases v with
  | null =>
    obtain rfl := Except.ok.inj h
    have hempty : name ++ ": \n" = name ++ ": " ++ String.ofList (['\n'].intercalate []) ++ "\n" := by
      rw [← String.toList_inj]
      simp
    rw [hempty]
    exact isHeaderText_of_lines hstart (List.forall_mem_nil _) (List.forall_mem_nil _)
  | str value =>
    rw [headerLine] at h
    split at h
    · rename_i folded hfolded
      obtain rfl := Except.ok.inj h
      rw [foldHeader_eq_ok hfolded]
      obtain ⟨hlines, hlater⟩ := foldedLines_isLine name.length value.toList
      exact isHeaderText_of_lines hstart (fun line hmem => (hlines line hmem).not_mem) hlater
    · cases h
  | bool _ => cases h
  | int _ => cases h
  | float _ => cases h
  | arr _ => cases h
  | obj _ => cases h

/-- The headers that are kept are written one behind the other. -/
theorem isHeaderText_kept {headers : List (String × Json)} {keep : String × Json → Bool} {s : String}
    (hnames : ∀ header ∈ headers, IsHeaderName header.1)
    (h : (do
      let lines ← (headers.filter keep).mapM fun (name, v) => headerLine name v
      return "".intercalate lines) = Except.ok s) : IsHeaderText s := by
  obtain ⟨lines, hlines, h⟩ := bind_eq_ok.1 h
  obtain rfl := Except.ok.inj h
  refine .concat fun line hline => ?_
  obtain ⟨header, hmem, hheader⟩ := exists_of_mem_of_forall₂ (mapM_eq_ok_iff.1 hlines).flip hline
  exact isHeaderText_headerLine (hnames header (List.mem_of_mem_filter hmem)) hheader

namespace Draft

/-- What a reader finds in a draft: a message whose content is the text in base64. -/
def CarriesText (raw text : String) : Prop :=
  ∃ message headers content, decodeBase64Url? raw = .ok (encodeUtf8 message) ∧
    cutHeaders [] message.toList = some (headers, content) ∧
    "Content-Transfer-Encoding: base64".toList ∈ headers ∧ decodeBase64? content = .ok (encodeUtf8 text)

variable {d : Draft} {text message raw : String}

/-- The lines of the headers that every message begins with. -/
def fixedHeaderLines : List String :=
  ["Content-Type: text/plain; charset=\"utf-8\"", "MIME-Version: 1.0", "Content-Transfer-Encoding: base64"]

/-- **A message has headers, and its content behind the first blank line.** -/
theorem message_eq_ok (htext : bodyText? d.body = some text) (h : d.message = .ok message) :
    ∃ headers, AreHeaders headers ∧ "Content-Transfer-Encoding: base64".toList ∈ headers ∧
      message.toList = headerBlock headers ++ '\n' :: base64Lines (encodeUtf8 text) := by
  have hfixed : fixedHeaders.toList = headerBlock (fixedHeaderLines.map String.toList) := by decide
  have hheaders : AreHeaders (fixedHeaderLines.map String.toList) := by
    unfold AreHeaders
    decide
  unfold Draft.message at h
  rw [htext] at h
  simp only [Option.isNone_some, Bool.and_false, Bool.false_eq_true, if_false] at h
  obtain ⟨recipients, -, h⟩ := bind_eq_ok.1 h
  obtain ⟨cc, -, h⟩ := bind_eq_ok.1 h
  obtain ⟨bcc, -, h⟩ := bind_eq_ok.1 h
  obtain ⟨toLine, hto, h⟩ := bind_eq_ok.1 h
  obtain ⟨subject, hsubject, h⟩ := bind_eq_ok.1 h
  obtain ⟨copies, hcopies, h⟩ := bind_eq_ok.1 h
  obtain ⟨threading, hthreading, h⟩ := bind_eq_ok.1 h
  obtain rfl := (Except.ok.inj h).symm
  obtain ⟨lines, hlines, hblock⟩ : IsHeaderText (toLine ++ subject ++ copies ++ threading) := by
    refine .append (.append (.append ?_ ?_) ?_) ?_
    · exact isHeaderText_headerLine ⟨by decide, by decide⟩ hto
    · exact isHeaderText_headerLine ⟨by decide, by decide⟩ hsubject
    · exact isHeaderText_kept (by simp [IsHeaderName]) hcopies
    · exact isHeaderText_kept (by simp [IsHeaderName]) hthreading
  refine ⟨fixedHeaderLines.map String.toList ++ lines, List.forall_mem_append.2 ⟨hheaders, hlines⟩,
    List.mem_append_left _ (by decide), ?_⟩
  have hcontent : (content text).toList = base64Lines (encodeUtf8 text) := String.toList_ofList
  have hblank : "\n".toList = ['\n'] := rfl
  rw [headerBlock, List.flatMap_append, ← headerBlock, ← hfixed, ← headerBlock, ← hblock]
  simp only [String.toList_append, hcontent, hblank, List.append_assoc, List.singleton_append]

/-- The text of base64 without its padding, which stands at its end alone. -/
theorem filter_base64Url (bs : Bytes) : (base64Url bs).filter (· != '=') = withoutPadding (base64Url bs) := by
  have hdata : ∀ c ∈ (sextetsOf bs).map (base64Char '-' '_'), (c != '=') = true := by
    intro c hc
    obtain ⟨n, hn, rfl⟩ := List.mem_map.1 hc
    rw [bne, ne_padding_of_sextet? (sextet?_base64Char rfl rfl (lt_of_mem_sextetsOf hn)), Bool.not_false]
  have hpads : ∀ c ∈ List.replicate (paddingOf bs) '=', ¬ (c != '=') = true := by
    intro c hc
    rw [List.eq_of_mem_replicate hc]
    decide
  rw [base64Url, withoutPadding_base64With rfl rfl, base64With_eq, List.filter_append, List.filter_eq_self.2 hdata,
    List.filter_eq_nil_iff.2 hpads, List.append_nil]

/-- **A draft that is written carries its text.** -/
theorem raw_eq_ok (htext : bodyText? d.body = some text) (h : d.raw = .ok raw) : CarriesText raw text := by
  obtain ⟨message, hmessage, h⟩ := bind_eq_ok.1 h
  obtain rfl := Except.ok.inj h
  obtain ⟨headers, hheaders, hencoding, hlist⟩ := message_eq_ok htext hmessage
  refine ⟨message, headers, base64Lines (encodeUtf8 text), decodeBase64Url?_eq_ok (.inr ?_), ?_, hencoding,
    decodeBase64?_base64Lines _⟩
  · rw [String.toList_ofList, filter_base64Url]
  · rw [hlist, cutHeaders_headerBlock hheaders]

/-! ## Drafts that can be written -/

/-- A list of texts is put together. -/
theorem joined_map_str (separator : String) (ss : List String) :
    (Json.arr (ss.map .str)).joined separator = .ok (separator.intercalate ss) := joinItems_map_str separator ss

/-- No header, or a text of printable characters. -/
def IsPlainHeader (v : Json) : Prop := v = .null ∨ ∃ s, v = .str s ∧ IsPrintable s

/-- No addresses, or a list of texts of printable characters. -/
def ArePlainAddresses (v : Json) : Prop :=
  v = .null ∨ ∃ ss : List String, v = .arr (ss.map .str) ∧ ∀ s ∈ ss, IsPrintable s

theorem exists_headerLine {v : Json} (h : IsPlainHeader v) (name : String) : ∃ s, headerLine name v = .ok s := by
  rcases h with rfl | ⟨s, rfl, hs⟩
  · exact ⟨_, rfl⟩
  · rw [headerLine, foldHeader_of_isPrintable name hs]
    exact ⟨_, rfl⟩

theorem exists_kept {headers : List (String × Json)} (h : ∀ header ∈ headers, IsPlainHeader header.2)
    (keep : String × Json → Bool) :
    ∃ s, (do
      let lines ← (headers.filter keep).mapM fun (name, v) => headerLine name v
      return "".intercalate lines) = (.ok s : Except Fault String) := by
  refine exists_bind_eq_ok.2 ?_
  obtain ⟨lines, hlines⟩ := exists_mapM_eq_ok_iff.2 fun header (hmem : header ∈ headers.filter keep) =>
    exists_headerLine (h header (List.mem_of_mem_filter hmem)) header.1
  exact ⟨lines, hlines, _, rfl⟩

theorem isPrintable_intercalate {ss : List String} (h : ∀ s ∈ ss, IsPrintable s) :
    IsPrintable (", ".intercalate ss) := by
  have hcomma : IsPrintable ", " := by decide
  induction ss with
  | nil => exact fun c hc => absurd hc List.not_mem_nil
  | cons s rest ih =>
    obtain ⟨hs, hrest⟩ := List.forall_mem_cons.1 h
    cases rest with
    | nil => rwa [String.intercalate_singleton]
    | cons next rest =>
      rw [IsPrintable, String.intercalate_cons_cons, String.toList_append, String.toList_append]
      exact List.forall_mem_append.2 ⟨List.forall_mem_append.2 ⟨hs, hcomma⟩, ih hrest⟩

theorem exists_addresses {v : Json} (h : ArePlainAddresses v) :
    ∃ line, addresses v = .ok line ∧ IsPlainHeader line := by
  rcases h with rfl | ⟨ss, rfl, hss⟩
  · exact ⟨.null, rfl, .inl rfl⟩
  · rw [addresses]
    split
    · refine ⟨.str (", ".intercalate ss), ?_, .inr ⟨_, rfl, isPrintable_intercalate hss⟩⟩
      rw [joined_map_str]
      rfl
    · exact ⟨.null, rfl, .inl rfl⟩

/-- **A draft with headers of printable characters can be written.** -/
theorem exists_raw {recipients : List String} {cc bcc : Json} {subject body : String} {inReplyTo references : Json}
    (hto : ∀ s ∈ recipients, IsPrintable s) (hsubject : IsPrintable subject) (hcc : ArePlainAddresses cc)
    (hbcc : ArePlainAddresses bcc) (hid : IsPlainHeader inReplyTo) (hreferences : IsPlainHeader references) :
    ∃ raw, Draft.raw ⟨.arr (recipients.map .str), .str subject, .str body, cc, bcc, inReplyTo, references⟩ =
      .ok raw := by
  obtain ⟨ccLine, hccLine, hcc⟩ := exists_addresses hcc
  obtain ⟨bccLine, hbccLine, hbcc⟩ := exists_addresses hbcc
  obtain ⟨toLine, htoLine⟩ := exists_headerLine (.inr ⟨_, rfl, isPrintable_intercalate hto⟩) "To"
  obtain ⟨subjectLine, hsubjectLine⟩ := exists_headerLine (.inr ⟨_, rfl, hsubject⟩) "Subject"
  have hcopies : ∀ header ∈ [("Cc", ccLine), ("Bcc", bccLine)], IsPlainHeader header.2 := by
    simpa using ⟨hcc, hbcc⟩
  have hthreading : ∀ header ∈ [("In-Reply-To", inReplyTo), ("References", references)], IsPlainHeader header.2 := by
    simpa using ⟨hid, hreferences⟩
  obtain ⟨copies, hcopies⟩ := exists_kept hcopies fun h => h.2.kind != .null
  obtain ⟨threading, hthreading⟩ := exists_kept hthreading fun h => h.2.isTruthy
  have hjoined : (liftM ((Json.arr (recipients.map .str)).joined ", ") : Except Fault String) =
      .ok (", ".intercalate recipients) := by
    rw [joined_map_str]
    rfl
  have hcc : (liftM (addresses cc) : Except Fault Json) = .ok ccLine := by
    rw [hccLine]
    rfl
  have hbcc : (liftM (addresses bcc) : Except Fault Json) = .ok bccLine := by
    rw [hbccLine]
    rfl
  have hmessage : ∃ message, Draft.message ⟨.arr (recipients.map .str), .str subject, .str body, cc, bcc, inReplyTo,
      references⟩ = .ok message := by
    unfold Draft.message
    simp only [bodyText?, Option.isNone_some, Bool.and_false, Bool.false_eq_true, if_false]
    simp only [hjoined, hcc, hbcc, htoLine, hsubjectLine, ok_bind]
    refine exists_bind_eq_ok.2 ⟨copies, hcopies, ?_⟩
    exact exists_bind_eq_ok.2 ⟨threading, hthreading, _, rfl⟩
  obtain ⟨message, hmessage⟩ := hmessage
  exact exists_bind_eq_ok.2 ⟨message, hmessage, _, rfl⟩

end Draft

end WorkspaceTools.Mail
