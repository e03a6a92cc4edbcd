import WorkspaceTools.Proofs.Exchange.Series
import WorkspaceTools.Proofs.Mail.Header
import WorkspaceTools.Proofs.Pivot.Modification
import WorkspaceTools.Proofs.Tool.Listing

/-!
# Attachments of a tree of parts

A part of a message may be an attachment, and a list of parts of its own, or both.

* `Preorder` lists all parts of some trees in document order: a part comes before those inside of it, and these
  before its later neighbours.
* `attachment?` is the attachment that a part is itself.
* `attachmentsOf_eq`: the attachments of some trees are those of their parts in document order, each once.
* `run_listAttachments`: the tool lists those of the parts inside of the payload. The payload is not looked
  at, so the list is complete exactly when the payload is no attachment itself.
-/

namespace WorkspaceTools

namespace Mail

open Json

/-- The parts inside of a part. A part without a list of them has none. -/
def Encloses (ms : Members) (inner : List Json) : Prop :=
  ((ms.find? "parts").getD .null).orElse (.arr []) = .arr inner

/-- The parts of some trees, in document order. -/
inductive Preorder : List Json → List Json → Prop
  | nil : Preorder [] []
  | cons {ms : Members} {inner rest nodes others : List Json} (hinner : Encloses ms inner)
    (hnodes : Preorder inner nodes) (hrest : Preorder rest others) :
    Preorder (.obj ms :: rest) (.obj ms :: (nodes ++ others))

/-- The attachment that a part is itself, if it has a file name and an attachment id. -/
def attachment? (part : Json) : Option Json :=
  let name := (part.member? "filename").getD .null
  let body := (part.member? "body").getD (.obj [])
  let id := (body.member? "attachmentId").getD .null
  if name.isTruthy && id.isTruthy then
    some (.obj [("attachment_id", id), ("filename", name),
      ("mime_type", ((part.member? "mimeType").getD .null).orElse (.str unknownMediaType)),
      ("size", (body.member? "size").getD (.int 0))])
  else none

/-- A part that has a file name has an object for its body, or none. -/
def HasPlainBody (part : Json) : Prop :=
  ((part.member? "filename").getD .null).isTruthy = true →
    ∃ body : Members, (part.member? "body").getD (.obj []) = .obj body

/-! ## One part -/

variable {ms : Members}

theorem ownAttachment_eq (h : HasPlainBody (.obj ms)) :
    ownAttachment (.obj ms) = .ok (attachment? (.obj ms)).toList := by
  unfold ownAttachment attachment?
  simp only [lookup_obj, field_obj, ok_bind]
  cases hname : ((member? "filename" (.obj ms)).getD .null).isTruthy with
  | false =>
    have hname : ((ms.find? "filename").getD .null).isTruthy = false := hname
    rw [hname]
    rfl
  | true =>
    obtain ⟨body, hbody⟩ := h hname
    have hname : ((ms.find? "filename").getD .null).isTruthy = true := hname
    have hbody : (ms.find? "body").getD (.obj []) = .obj body := hbody
    rw [hname, hbody]
    simp only [field_obj, lookup_obj, ok_bind, member?, hbody, Bool.not_true, Bool.false_eq_true, if_false,
      Bool.true_and]
    split <;> simp_all

theorem attachments_eq {v : Json} {inner : List Json} (h : v.orElse (.arr []) = .arr inner) :
    attachments v = attachmentsOf inner := by
  unfold orElse at h
  split at h
  · subst h
    rfl
  · rename_i hfalse
    cases h
    cases v with
    | arr parts =>
      obtain rfl : parts = [] := by simpa [isTruthy] using hfalse
      rfl
    | _ =>
      unfold attachments
      simp [hfalse, attachmentsOf]

theorem innerAttachments_eq {inner : List Json} (h : Encloses ms inner) :
    innerAttachments ms = attachmentsOf inner := by
  induction ms with
  | nil =>
    cases h
    rfl
  | cons m rest ih =>
    obtain ⟨name, v⟩ := m
    rw [Encloses, Members.find?] at h
    rw [innerAttachments]
    split
    · rename_i hname
      rw [if_pos hname] at h
      exact attachments_eq h
    · rename_i hname
      rw [if_neg hname] at h
      exact ih h

/-! ## All parts -/

/-- **The attachments of some trees** are those of all their parts, in document order. -/
theorem attachmentsOf_eq {parts nodes : List Json} (h : Preorder parts nodes)
    (hbody : ∀ node ∈ nodes, HasPlainBody node) : attachmentsOf parts = .ok (nodes.filterMap attachment?) := by
  induction h with
  | nil => rfl
  | cons hinner _ _ ihnodes ihrest =>
    obtain ⟨hown, hothers⟩ := List.forall_mem_cons.1 hbody
    obtain ⟨hbelow, hbeside⟩ := List.forall_mem_append.1 hothers
    rw [attachmentsOf, attachmentsIn, ownAttachment_eq hown, innerAttachments_eq hinner, ihnodes hbelow,
      ihrest hbeside]
    simp only [ok_bind, pure_eq_ok, List.filterMap_cons, List.filterMap_append]
    cases attachment? _ <;> simp

theorem preorder_singleton_iff {root : Json} {below : List Json} :
    Preorder [root] (root :: below) ↔
      ∃ (ms : Members) (inner : List Json), root = .obj ms ∧ Encloses ms inner ∧ Preorder inner below := by
  constructor
  · rintro ⟨⟩
    rename_i ms inner nodes others hinner hnodes hrest
    cases hrest
    rw [List.append_nil]
    exact ⟨ms, inner, rfl, hinner, hnodes⟩
  · rintro ⟨ms, inner, rfl, hinner, hbelow⟩
    have hroot := Preorder.cons hinner hbelow .nil
    rwa [List.append_nil] at hroot

end Mail

/-! ## The attachments of a message -/

namespace Tool

open Mail

/-- The request for a whole message. -/
def messageRequest (id : Json) : Request := ⟨.get, Service.message id.display, some (formatParam "full"), none⟩

/-- The result that lists some attachments. -/
def attachmentListing (id : Json) (items : List Json) : Json :=
  .obj [("message_id", id), ("attachments", .arr items), ("count", .ofNat items.length)]

/-- **The attachments of a message.** The tool lists those of all parts inside of the payload, at any depth, in
document order and each once. The payload itself is the first part of the message; it is left out, so these are
the attachments of all parts exactly if the payload is no attachment. -/
theorem run_listAttachments {args : Members} {id response payload : Json} {below : List Json} {s : Session}
    (hargs : args.find? "message_id" = some id) (hsend : (s.send (messageRequest id)).1 = .ok response)
    (hpayload : HasPayload response payload) (hparts : Preorder [payload] (payload :: below))
    (hbody : ∀ part ∈ below, HasPlainBody part) :
    ((dispatch listAttachments.name args).run s).1 = .ok (attachmentListing id (below.filterMap attachment?)) ∧
      (below.filterMap attachment? = (payload :: below).filterMap attachment? ↔ attachment? payload = none) := by
  obtain ⟨ms, inner, rfl, hinner, hbelow⟩ := preorder_singleton_iff.1 hparts
  constructor
  · have hitem : Json.item "message_id" (.obj args) = .ok id := by rw [Json.item, hargs]
    have hlist : attachments ((ms.find? "parts").getD .null) = .ok (below.filterMap attachment?) := by
      rw [attachments_eq hinner, attachmentsOf_eq hbelow hbody]
    rw [dispatch_name]
    change ((runListAttachments (.obj args)).run s).1 = _
    rw [runListAttachments, hitem, Program.liftShaped_bind]
    change ((Program.ask (messageRequest id) >>= _).run s).1 = _
    rw [Program.run_ask_bind, hsend]
    simp only [Program.liftShaped_bind, lookup_of_hasPayload hpayload, Json.field_obj, hlist]
    rfl
  · rw [List.filterMap_cons]
    cases attachment? (.obj ms) <;> simp

/-- A file. -/
def reportFile : Json :=
  .obj [("mimeType", .str "application/pdf"), ("filename", .str "report.pdf"),
    ("body", .obj [("attachmentId", .str "att-1"), ("size", .int 2048)])]

/-- A message that was forwarded as a file, with a file inside of it. -/
def forwardedMail : Json :=
  .obj [("mimeType", .str "message/rfc822"), ("filename", .str "mail.eml"),
    ("body", .obj [("attachmentId", .str "att-2")]), ("parts", .arr [.obj [("parts", .arr [reportFile])]])]

/-- The file inside is listed, and the payload is not, whether or not it has other parts. -/
theorem run_listAttachments_file :
    ((dispatch listAttachments.name [("message_id", .str "m1")]).run
        (sessionWith [.answer 200 (.ok (.obj [("payload", forwardedMail)]))])).1 =
      .ok (attachmentListing (.str "m1") [.obj [("attachment_id", .str "att-1"), ("filename", .str "report.pdf"),
        ("mime_type", .str "application/pdf"), ("size", .int 2048)]]) ∧
    attachment? forwardedMail = some (.obj [("attachment_id", .str "att-2"), ("filename", .str "mail.eml"),
      ("mime_type", .str "message/rfc822"), ("size", .int 0)]) ∧
    ((sessionWith [.answer 200 (.ok (.obj [("payload", reportFile)]))]).call listAttachments.name
        [("message_id", .str "m1")]).1 = .ok "No attachments found in this message." := by
  have hargs : Members.find? "message_id" [("message_id", .str "m1")] = some (.str "m1") := rfl
  have hsend (payload : Json) : ((sessionWith [.answer 200 (.ok (.obj [("payload", payload)]))]).send
      (messageRequest (.str "m1"))).1 = .ok (.obj [("payload", payload)]) := fst_send_sessionWith _ _
  have hreport : Preorder [reportFile] [reportFile] := preorder_singleton_iff.2 ⟨_, _, rfl, rfl, .nil⟩
  have hmultipart : Preorder [.obj [("parts", .arr [reportFile])]]
      [.obj [("parts", .arr [reportFile])], reportFile] := preorder_singleton_iff.2 ⟨_, _, rfl, rfl, hreport⟩
  have hforwarded : Preorder [forwardedMail] [forwardedMail, .obj [("parts", .arr [reportFile])], reportFile] :=
    preorder_singleton_iff.2 ⟨_, _, rfl, rfl, hmultipart⟩
  have hbody : ∀ part ∈ [.obj [("parts", .arr [reportFile])], reportFile], HasPlainBody part := by
    simp only [List.forall_mem_cons]
    exact ⟨fun h => absurd h (by decide), fun _ => ⟨_, rfl⟩, by simp⟩
  obtain ⟨hmail, -⟩ := run_listAttachments hargs (hsend forwardedMail) ⟨_, rfl, rfl⟩ hforwarded hbody
  obtain ⟨hfile, -⟩ := run_listAttachments hargs (hsend reportFile) ⟨_, rfl, rfl⟩ hreport (by simp)
  refine ⟨hmail, rfl, ?_⟩
  rw [fst_call, hfile]
  rfl

end Tool

end WorkspaceTools
