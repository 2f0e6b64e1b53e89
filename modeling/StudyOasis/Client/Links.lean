import StudyOasis.Client.ChatPage
import StudyOasis.Client.OcrHistory
import StudyOasis.Client.Uploads
import StudyOasis.Text.FormUrl

/-!
# Links to the chat page

The pages of the client open the chat page with a document in the query of the URL.  Most of them
build the query with `URLSearchParams`; the links of the stored sessions put the id of the document
there as it is, and only escape the file name, which throws where it has a lone surrogate.

* `searchParams_chatEntry` : **the chat page reads what the other pages open it with**; what is
  empty counts as absent;
* `searchParams_sessionLink` : the same for a stored session whose document id is plain.
-/

namespace StudyOasis

namespace Client

/-- What `useSearchParams` reads: the first value of each parameter. -/
def SearchParams.ofQuery (query : List (JsString × JsString)) : SearchParams where
  fileId := query.lookup (js "fileId")
  documentId := query.lookup (js "documentId")
  filename := query.lookup (js "filename")
  fileUrl := query.lookup (js "fileUrl")
  initialMessage := query.lookup (js "initialMessage")

/-- The parameters of the page behind a link, from what stands behind its `?`. -/
def searchParams (link : List Char) : SearchParams :=
  SearchParams.ofQuery (FormUrl.parse (FormUrl.urlQuery link))

/-- A parameter that is only set when there is a value. -/
def optionalParam (name : JsString) (value : Option JsString) : List (JsString × JsString) :=
  (value.map fun v => (name, v)).toList

/-- `params.set(…)` one after another, and `params.toString()`. -/
def chatLink (documentId filename : JsString) (fileUrl initialMessage : Option JsString) :
    List Char :=
  FormUrl.serialize FormUrl.searchParams
    ([(js "documentId", documentId), (js "filename", filename)] ++
      optionalParam (js "fileUrl") fileUrl ++ optionalParam (js "initialMessage") initialMessage)

/-- `Document` of the documents page. -/
structure DocumentInfo where
  id : JsString
  filename : JsString
  url : Option JsString
  deriving DecidableEq, Repr

namespace DocumentsPage

/-- `handleStartChat` of the documents page. -/
def handleStartChat (document : DocumentInfo) : List Char :=
  chatLink document.id document.filename (truthy document.url) none

end DocumentsPage

/-- `UploadedFileInfo`. -/
structure UploadedFileInfo where
  id : JsString
  filename : JsString
  url : JsString
  documentId : Option JsString
  deriving DecidableEq, Repr

namespace UploadLogic

/-- `handleStartChat` of the upload page, for the uploaded file. -/
def handleStartChat (file : UploadedFileInfo) : List Char :=
  chatLink ((truthy file.documentId).getD file.id) file.filename (truthy (some file.url)) none

/-- `handleContinueWithFile`. -/
def handleContinueWithFile (record : UploadRecord) : List Char :=
  chatLink (UploadStorage.recordKey record) record.filename (truthy (some record.url)) none

end UploadLogic

namespace OcrLogic

/-- The message that `handleStartChat` prepares: the first 500 code units of the text. -/
def initialMessage (fullText : JsString) : JsString :=
  js "这是一张图片的文字内容：\n\n" ++ fullText.take 500 ++
    if 500 < fullText.length then js "..." else []

/-- `handleStartChat` of the OCR page. -/
def handleStartChat (image : UploadedImage) (fullText : JsString) : List Char :=
  chatLink image.key image.filename (some image.url) (some (initialMessage fullText))

end OcrLogic

/-! ### What the chat page reads -/

/-- What the chat page goes by. -/
structure ChatTarget where
  documentId : Option JsString
  filename : Option JsString
  fileUrl : Option JsString
  initialMessage : Option JsString
  deriving DecidableEq, Repr

/-- The values without lone surrogates. -/
def ChatTarget.toWellFormed (target : ChatTarget) : ChatTarget where
  documentId := target.documentId.map Utf16.toWellFormed
  filename := target.filename.map Utf16.toWellFormed
  fileUrl := target.fileUrl.map Utf16.toWellFormed
  initialMessage := target.initialMessage.map Utf16.toWellFormed

/-- What `useChatLogic` makes of the parameters; an empty first message is not sent. -/
def SearchParams.target (params : SearchParams) : ChatTarget where
  documentId := params.urlDocumentId
  filename := params.filenameParam
  fileUrl := params.fileUrlParam
  initialMessage := truthy params.initialMessage

/-- Where the chat page is opened from. -/
inductive ChatEntry where
  | document (document : DocumentInfo)
  | uploaded (file : UploadedFileInfo)
  | record (record : UploadRecord)
  | image (image : UploadedImage) (fullText : JsString)
  deriving DecidableEq

namespace ChatEntry

/-- The query of the link to the chat page. -/
def link : ChatEntry → List Char
  | document doc => DocumentsPage.handleStartChat doc
  | uploaded file => UploadLogic.handleStartChat file
  | record rec => UploadLogic.handleContinueWithFile rec
  | image img fullText => OcrLogic.handleStartChat img fullText

/-- What the chat page is opened with; where there is no document, the upload stands in for it. -/
def target : ChatEntry → ChatTarget
  | document doc => ⟨truthy (some doc.id), truthy (some doc.filename), truthy doc.url, none⟩
  | uploaded file =>
    ⟨(truthy file.documentId).or (truthy (some file.id)), truthy (some file.filename),
      truthy (some file.url), none⟩
  | record rec =>
    ⟨(truthy rec.documentId).or (truthy (some rec.id)), truthy (some rec.filename),
      truthy (some rec.url), none⟩
  | image img fullText =>
    ⟨(truthy img.documentId).or (truthy (some img.id)), truthy (some img.filename),
      truthy (some img.url), some (OcrLogic.initialMessage fullText)⟩

end ChatEntry

/-- The parameters are what the link was built from. -/
theorem searchParams_chatLink (documentId filename : JsString)
    (fileUrl initial : Option JsString) :
    searchParams (chatLink documentId filename fileUrl initial) =
      { documentId := some (Utf16.toWellFormed documentId)
        filename := some (Utf16.toWellFormed filename)
        fileUrl := fileUrl.map Utf16.toWellFormed
        initialMessage := initial.map Utf16.toWellFormed } := by
  rw [searchParams, chatLink, FormUrl.parse_serialize]
  cases fileUrl <;> cases initial <;> rfl

/-- What is empty is read as absent. -/
theorem target_chatLink (documentId filename : JsString) (fileUrl initial : Option JsString) :
    (searchParams (chatLink documentId filename fileUrl initial)).target =
      ChatTarget.toWellFormed
        ⟨truthy (some documentId), truthy (some filename), truthy fileUrl, truthy initial⟩ := by
  simp only [SearchParams.target, SearchParams.urlDocumentId, SearchParams.filenameParam,
    SearchParams.fileUrlParam, searchParams_chatLink, ← Option.map_some (f := Utf16.toWellFormed),
    truthy_map_toWellFormed, ChatTarget.toWellFormed]
  congr 1
  exact Option.or_none

/-- `documentId || id`. -/
theorem truthy_getD (documentId : Option JsString) (id : JsString) :
    truthy (some ((truthy documentId).getD id)) = (truthy documentId).or (truthy (some id)) := by
  cases h : truthy documentId with
  | none => rfl
  | some s =>
    have hs : truthy (some s) = some s := by rw [← h, truthy_truthy]
    exact hs

/-- **The chat page reads what it is opened with**, up to lone surrogates; what is empty or not
there is read as absent. -/
theorem searchParams_chatEntry (entry : ChatEntry) :
    (searchParams entry.link).target = entry.target.toWellFormed := by
  cases entry with
  | document doc =>
    rw [ChatEntry.link, DocumentsPage.handleStartChat, target_chatLink, truthy_truthy]
    rfl
  | uploaded file =>
    rw [ChatEntry.link, UploadLogic.handleStartChat, target_chatLink, truthy_truthy, truthy_getD]
    rfl
  | record rec =>
    rw [ChatEntry.link, UploadLogic.handleContinueWithFile, target_chatLink, truthy_truthy,
      UploadStorage.recordKey, truthy_getD]
    rfl
  | image img fullText =>
    rw [ChatEntry.link, OcrLogic.handleStartChat, target_chatLink, UploadedImage.key, truthy_getD]
    rfl

/-! ### The links of the stored sessions -/

/-- `encodeURIComponent`: it throws where a surrogate stands alone. -/
def encodeURIComponent (s : JsString) : Option (List Char) :=
  if Utf16.toWellFormed s = s then some (FormUrl.escapeText FormUrl.uriComponent s) else none

/-- The query of the link of a stored session, and of `handleViewSession`:
`fileId=${session.fileId}&filename=${encodeURIComponent(session.filename || '')}`, or nothing for a
session without a document.  It throws where `encodeURIComponent` does. -/
def sessionLink (fileId filename : Option JsString) : Option (List Char) :=
  match truthy fileId with
  | none => some []
  | some fileId =>
    (encodeURIComponent ((truthy filename).getD [])).map fun filename =>
      ("fileId".toList ++ '=' :: Utf16.decode fileId) ++ ['&'] ++
        ("filename".toList ++ '=' :: filename)

/-- A document id that may stand in a URL as it is. -/
def PlainId (fileId : JsString) : Prop :=
  Utf16.WellFormed fileId ∧ ∀ c ∈ Utf16.decode fileId, c ∉ FormUrl.lineBreaks ∧
    c ∉ ['#', '%', '&', '+']

/-- The id in the link of a session, as a part of the query. -/
def fileIdPart {fileId : JsString} (h : PlainId fileId) : FormUrl.Part where
  name := "fileId".toList
  value := Utf16.decode fileId
  name_kept := by decide
  value_kept c hc := ⟨(h.2 c hc).1, fun heq => (h.2 c hc).2 (by simp [heq])⟩
  name_plain := by decide
  value_plain hc := (h.2 _ hc).2 (by decide)

/-- The file name in the link of a session. -/
def filenamePart : JsString → FormUrl.Part :=
  FormUrl.namedPart FormUrl.uriComponent "filename".toList (by decide)

theorem encodeURIComponent_eq_none_iff {s : JsString} :
    encodeURIComponent s = none ↔ ¬ Utf16.WellFormed s := by
  rw [encodeURIComponent, ← Utf16.toWellFormed_eq_iff]
  split_ifs with h <;> simp [h]

/-- What the chat page reads of a link with a plain id and an escaped name. -/
theorem target_query {fileId : JsString} (h : PlainId fileId) (name : JsString) :
    (searchParams (FormUrl.query [fileIdPart h, filenamePart name])).target =
      ⟨truthy (some fileId), truthy (some (Utf16.toWellFormed name)), none, none⟩ := by
  have hplain : ∀ c ∈ Utf16.decode fileId, c ≠ '%' ∧ c ≠ '+' := by
    intro c hc
    have hsigns := (h.2 c hc).2
    simp only [List.mem_cons, List.not_mem_nil, or_false, not_or] at hsigns
    exact ⟨hsigns.2.1, hsigns.2.2.2⟩
  have hid : FormUrl.readText (Utf16.decode fileId) = fileId :=
    (FormUrl.readText_plain hplain).trans (Utf16.toWellFormed_eq_iff.2 h.1)
  have hname : FormUrl.readText (filenamePart name).value = _ :=
    FormUrl.readText_escapeText FormUrl.uriComponent name
  rw [searchParams, FormUrl.parse_urlQuery, List.map_cons, List.map_singleton, hname]
  show (SearchParams.ofQuery [(_, FormUrl.readText (Utf16.decode fileId)), _]).target = _
  rw [hid]
  rfl

/-- **The chat page reads the document and the file name of a stored session**, unless the name has
a lone surrogate: then there is no link. -/
theorem searchParams_sessionLink {fileId : Option JsString}
    (h : ∀ id ∈ truthy fileId, PlainId id) (filename : Option JsString) :
    (sessionLink fileId filename = none ↔
      (truthy fileId).isSome = true ∧ ∃ name ∈ truthy filename, ¬ Utf16.WellFormed name) ∧
    ∀ link ∈ sessionLink fileId filename, (searchParams link).target =
      ⟨truthy fileId, if (truthy fileId).isSome = true then truthy filename else none, none,
        none⟩ := by
  unfold sessionLink
  cases hid : truthy fileId with
  | none =>
    refine ⟨by simp, ?_⟩
    rintro link ⟨⟩
    rfl
  | some id =>
    have hplain : PlainId id := h id hid
    have hself : truthy (some id) = some id := by rw [← hid, truthy_truthy]
    have hname : truthy (some ((truthy filename).getD [])) = truthy filename := by
      rw [truthy_getD]
      exact Option.or_none
    constructor
    · rw [Option.map_eq_none_iff, encodeURIComponent_eq_none_iff]
      cases truthy filename with
      | none =>
        have hnil : Utf16.WellFormed [] := Utf16.wellFormed_js ""
        simp [hnil]
      | some name => simp
    · intro link hlink
      obtain ⟨text, htext, rfl⟩ := Option.map_eq_some_iff.1 hlink
      unfold encodeURIComponent at htext
      split_ifs at htext with hwf
      obtain rfl := Option.some.inj htext
      have hquery := target_query hplain ((truthy filename).getD [])
      rw [FormUrl.query_pair, hwf, hname, hself] at hquery
      exact hquery

/-- The link of a session about `doc-1`. -/
theorem searchParams_sessionLink_doc : ∃ link,
    sessionLink (some (js "doc-1")) (some (js "R&D 100%.pdf")) = some link ∧
      (searchParams link).target = ⟨some (js "doc-1"), some (js "R&D 100%.pdf"), none, none⟩ := by
  have hchars : (Utf16.decode (js "doc-1")).all (fun c =>
      decide (c ∉ FormUrl.lineBreaks ∧ c ∉ ['#', '%', '&', '+'])) = true := by decide
  have hplain : ∀ id ∈ truthy (some (js "doc-1")), PlainId id := by
    rintro id ⟨⟩
    exact ⟨Utf16.wellFormed_js _, fun c hc => of_decide_eq_true (List.all_eq_true.1 hchars c hc)⟩
  obtain ⟨hnone, hread⟩ := searchParams_sessionLink hplain (some (js "R&D 100%.pdf"))
  cases hlink : sessionLink (some (js "doc-1")) (some (js "R&D 100%.pdf")) with
  | none =>
    obtain ⟨-, name, ⟨⟩, hname⟩ := hnone.1 hlink
    exact absurd (Utf16.wellFormed_js _) hname
  | some link => exact ⟨link, rfl, hread link hlink⟩

end Client

end StudyOasis
