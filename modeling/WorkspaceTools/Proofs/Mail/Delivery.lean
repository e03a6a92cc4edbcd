import WorkspaceTools.Proofs.Mail.Attachment
import WorkspaceTools.Proofs.Mail.Plain

/-!
# Attachments that are delivered

An attachment comes as bytes in base64. A file of text is shown, and any other one is saved under a new name that
ends with the name of the attachment.

* `Delivers` says what is delivered: the text that the bytes are, or a file with just these bytes.
* `getAttachment_delivers`: whatever the bytes are, and with padding or without, they are read and delivered as they
  are. Only where a file is to be saved and the file system refuses to, nothing is delivered, and nothing is saved.
-/

namespace WorkspaceTools

open Json Mail Text

/-- A request saves nothing, and new files go where they went. -/
theorem Session.saved_send (r : Request) (s : Session) :
    (s.send r).2.saved = s.saved ∧ (s.send r).2.pathFor = s.pathFor := by
  unfold Session.send
  cases s.folder.accessToken s.accounts s.now with
  | error e => exact ⟨rfl, rfl⟩
  | ok selected =>
    obtain ⟨token, folder⟩ := selected
    obtain ⟨n, hn⟩ := Session.connect_eq { s with folder }
    simp only [hn, Session.receive_eq, and_self]

/-! ## Delivery -/

namespace Tool

/-- The path of the file that an attachment is saved to, or the words with which the file system refuses it. -/
def savedPath (s : Session) (name : String) : Except String String := s.pathFor "gmail_" ("_" ++ safeName name)

/-- An attachment of the name is shown rather than saved. -/
def isShown (name : String) : Bool := shownMediaTypes.contains ((mediaTypeOf name).getD unknownMediaType)

/-- The request for an attachment. -/
def attachmentRequest (message attachment : Json) : Request :=
  ⟨.get, Service.message message.display ++ "/attachments/" ++ attachment.display, none, none⟩

/-- The arguments ask for an attachment of a message; without a name it has a usual one. -/
structure AsksForAttachment (args : Members) (message attachment : Json) (name : String) : Prop where
  message : args.find? "message_id" = some message
  attachment : args.find? "attachment_id" = some attachment
  name : ((args.find? "filename").getD .null).orElse (.str "attachment") = .str name

/-- The bytes of an attachment are delivered in a run: the result shows the text that they are, or it names the new
file that was saved with just these bytes, and no other file was. -/
inductive Delivers (name : String) (bytes : Bytes) (before : Session) : Except Fault Json × Session → Prop
  | shown {result : Json} {after : Session} (hname : isShown name = true)
    (hcontent : result.member? "content" = some (.str (decodeLossy bytes))) (hsaved : after.saved = before.saved) :
    Delivers name bytes before (.ok result, after)
  | saved {result : Json} {path : String} {after : Session} (hname : isShown name = false)
    (hnew : savedPath before name = .ok path) (hpath : result.member? "saved_path" = some (.str path))
    (hsaved : after.saved = ⟨path, bytes⟩ :: before.saved) : Delivers name bytes before (.ok result, after)

theorem Delivers.saved_eq {name path : String} {bytes : Bytes} {before : Session}
    {run : Except Fault Json × Session} (h : Delivers name bytes before run) (hname : isShown name = false)
    (hpath : savedPath before name = .ok path) : run.2.saved = ⟨path, bytes⟩ :: before.saved := by
  cases h with
  | shown hshown => cases hname.symm.trans hshown
  | saved _ hnew _ hsaved =>
    cases hpath.symm.trans hnew
    exact hsaved

section

variable {args ms : Members} {message attachment : Json} {name data : String} {bytes : Bytes} {s : Session}

/-- What a result says of an attachment besides its content. -/
def attachmentMembers (name : String) (ms : Members) (bytes : Bytes) : Members :=
  [("filename", .str name), ("size", ((ms.find? "size").getD .null).orElse (.ofNat bytes.length)),
    ("mime_type", .str ((mediaTypeOf name).getD unknownMediaType))]

/-- The run of the tool once the bytes have come. -/
theorem run_getAttachment (hasks : AsksForAttachment args message attachment name)
    (hsend : (s.send (attachmentRequest message attachment)).1 = .ok (.obj ms))
    (hfind : ms.find? "data" = some (.str data)) (hne : data ≠ "") (hbytes : decodeBase64Url? data = .ok bytes) :
    let after := (s.send (attachmentRequest message attachment)).2
    let members := attachmentMembers name ms bytes
    (dispatch getAttachment.name args).run s =
      if isShown name then (.ok (.obj (members ++ [("content", .str (decodeLossy bytes))])), after)
      else
        match savedPath s name with
        | .ok path =>
          (.ok (.obj (members ++ [("saved_path", .str path)])),
            { after with saved := ⟨path, bytes⟩ :: after.saved })
        | .error words => (.error (.unsaved words), after) := by
  have hmessage : Json.item "message_id" (.obj args) = .ok message := by rw [Json.item, hasks.message]
  have hattachment : Json.item "attachment_id" (.obj args) = .ok attachment := by
    rw [Json.item, hasks.attachment]
  have htruthy : (Json.str data).isTruthy = true := by
    rw [isTruthy, bne_iff_ne]
    exact hne
  have hdisplay : (Json.str name).display = name := rfl
  obtain ⟨-, hpath⟩ := Session.saved_send (attachmentRequest message attachment) s
  rw [dispatch_name]
  change (runGetAttachment (.obj args)).run s = _
  unfold runGetAttachment
  rw [hmessage]
  simp only [hattachment, Program.liftShaped_bind, field_obj, hasks.name]
  change (Program.ask (attachmentRequest message attachment) >>= _).run s = _
  rw [Program.run_ask_bind, hsend]
  simp only [field_obj, hfind, Option.getD_some, htruthy, Bool.not_true, Bool.false_eq_true, if_false, dataBytes,
    hbytes, mapError_ok, mediaType, hdisplay]
  change (if isShown name then pure _ else _ : Program Json).run _ = _
  cases isShown name with
  | true => rfl
  | false =>
    rw [if_neg Bool.false_ne_true, if_neg Bool.false_ne_true, Program.run_bind, Program.saveFile, Program.run,
      Session.save, hpath, ← savedPath]
    cases savedPath s name <;> rfl

/-- **Attachments are delivered.** Bytes that come in base64, with their padding or without, are read as they are,
and so is a text that is written in them. An attachment that is shown is delivered, and so is any other one that the
file system saves. Where it refuses, the call fails with its words, and nothing is saved. -/
theorem getAttachment_delivers (hne : bytes ≠ [])
    (hdata : data.toList = base64Url bytes ∨ data.toList = withoutPadding (base64Url bytes))
    (hasks : AsksForAttachment args message attachment name)
    (hsend : (s.send (attachmentRequest message attachment)).1 = .ok (.obj ms))
    (hfind : ms.find? "data" = some (.str data)) :
    let run := (dispatch getAttachment.name args).run s
    decodeBase64Url? data = .ok bytes ∧ (∀ text, bytes = encodeUtf8 text → decodeLossy bytes = text) ∧
      (isShown name = true ∨ (∃ path, savedPath s name = .ok path) → Delivers name bytes s run) ∧
      (isShown name = false → ∀ words, savedPath s name = .error words →
        run.1 = .error (.unsaved words) ∧ run.2.saved = s.saved) := by
  have hbytes : decodeBase64Url? data = .ok bytes := decodeBase64Url?_eq_ok hdata
  have hsome : data ≠ "" := by
    rintro rfl
    exact hne (Except.ok.inj hbytes).symm
  obtain ⟨hsaved, -⟩ := Session.saved_send (attachmentRequest message attachment) s
  refine ⟨hbytes, ?_, ?_⟩
  · rintro text rfl
    exact decodeLossy_encodeUtf8 text
  rw [run_getAttachment hasks hsend hfind hsome hbytes]
  cases hname : isShown name with
  | true =>
    refine ⟨fun _ => .shown hname rfl hsaved, ?_⟩
    rintro ⟨⟩
  | false =>
    rw [if_neg Bool.false_ne_true]
    cases hpath : savedPath s name with
    | ok path =>
      refine ⟨fun _ => .saved hname hpath rfl (congrArg _ hsaved), ?_⟩
      rintro - words ⟨⟩
    | error words =>
      refine ⟨?_, ?_⟩
      · rintro (⟨⟨⟩⟩ | ⟨path, ⟨⟩⟩)
      · rintro - _ ⟨rfl⟩
        exact ⟨rfl, hsaved⟩

end

/-- Some bytes that are no text. -/
def imageBytes : Bytes := [0x89, 0x50, 0x4e, 0x47]

/-- The session in which the data of an attachment comes, and new files go to a folder. -/
def sessionWithData (data : String) : Session :=
  { sessionWith [.answer 200 (.ok (.obj [("data", .str data)]))] with
    pathFor := fun start ending => .ok ("/tmp/" ++ start ++ "k3v_x0ab" ++ ending) }

/-- Arguments that ask for the data under a name. -/
def attachmentArguments (name : String) : Members :=
  [("message_id", .str "m1"), ("attachment_id", .str "a1"), ("filename", .str name)]

theorem asksForAttachment_attachmentArguments {name : String} (h : name ≠ "") :
    AsksForAttachment (attachmentArguments name) (.str "m1") (.str "a1") name :=
  ⟨rfl, rfl, by simp [attachmentArguments, Members.find?, orElse, isTruthy, h]⟩

theorem send_sessionWithData (data : String) :
    ((sessionWithData data).send (attachmentRequest (.str "m1") (.str "a1"))).1 =
      .ok (.obj [("data", .str data)]) := by
  obtain ⟨token, htoken⟩ : ∃ token, (sessionWithData data).IsAuthorized token :=
    isAuthorized_sessionWith [.answer 200 (.ok (.obj [("data", .str data)]))]
  obtain ⟨s', hsend, -⟩ := Session.send_of_authorized htoken (attachmentRequest (.str "m1") (.str "a1"))
  rw [hsend]
  rfl

/-- An image that comes without padding is saved, and a text that comes with padding is shown. -/
theorem getAttachment_delivers_image :
    decodeBase64Url? "iVBORw" = .ok imageBytes ∧
      ((dispatch getAttachment.name (attachmentArguments "photo 1.png")).run (sessionWithData "iVBORw")).2.saved =
        [⟨"/tmp/gmail_k3v_x0ab_photo_1.png", imageBytes⟩] ∧
      Delivers "notes.txt" (encodeUtf8 "Hi") (sessionWithData "SGk=")
        ((dispatch getAttachment.name (attachmentArguments "notes.txt")).run (sessionWithData "SGk=")) := by
  have himage : "iVBORw".toList = withoutPadding (base64Url imageBytes) := by decide
  have htext : "SGk=".toList = base64Url (encodeUtf8 "Hi") := by decide
  have hfile : isShown "photo 1.png" = false := by decide
  have hshown : isShown "notes.txt" = true := by decide
  obtain ⟨hbytes, -, hdelivers, -⟩ := getAttachment_delivers (by decide) (.inr himage)
    (asksForAttachment_attachmentArguments (by decide : "photo 1.png" ≠ "")) (send_sessionWithData _) rfl
  obtain ⟨-, -, hdeliversText, -⟩ := getAttachment_delivers (by decide) (.inl htext)
    (asksForAttachment_attachmentArguments (by decide : "notes.txt" ≠ "")) (send_sessionWithData _) rfl
  refine ⟨hbytes, ?_, hdeliversText (.inl hshown)⟩
  have hsafe : safeName "photo 1.png" = "photo_1.png" := by decide
  have hpath : savedPath (sessionWithData "iVBORw") "photo 1.png" =
      .ok "/tmp/gmail_k3v_x0ab_photo_1.png" := by
    rw [savedPath, hsafe]
    rfl
  exact (hdelivers (.inr ⟨_, hpath⟩)).saved_eq hfile hpath

end Tool

end WorkspaceTools
