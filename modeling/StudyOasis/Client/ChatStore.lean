import StudyOasis.Runs.Basic
import StudyOasis.Client.ApiClient
import StudyOasis.Client.Storage
import Mathlib.Data.Rat.Floor

/-!
# The chat store

The store behind the chat page and its two long actions, `sendMessage` and
`uploadAndProcessFile`.  An action runs up to its first `await` at once; what it does after an
`await` is a completion of the operation it left behind, and completions of several operations
and actions of the user come in any order (`Tab.step`).

Aborting a controller does nothing to an operation: the signal is not passed to `fetch`, so an
`abortActiveRequest` only forgets the controller.
-/

namespace StudyOasis

namespace Client

/-! ### The state -/

/-- `ChatStoreState`; a controller is named by the operation it was made for. -/
structure ChatStoreState where
  messages : List Message := []
  isLoading : Bool := false
  error : Option JsString := none
  showDocument : Bool := true
  documentFilename : Option JsString := none
  documentUrl : Option JsString := none
  conversationId : Option JsString := none
  uploadId : Option JsString := none
  currentDocumentId : Option JsString := none
  sessionLoaded : Bool := false
  streamingContent : JsString := []
  isStreaming : Bool := false
  isThinking : Bool := false
  abortController : Option ℕ := none
  deriving DecidableEq, Repr

/-- `PersistPayload`. -/
structure PersistPayload where
  documentId : Option JsString := none
  filename : Option JsString := none
  fileUrl : Option JsString := none
  deriving DecidableEq, Repr

/-- What a promise is rejected with. -/
inductive JsError where
  /-- `ApiError`. -/
  | api (message : JsString) (statusCode : ℕ)
  /-- Another `Error`. -/
  | error (name message : JsString)
  /-- A value that is not an `Error`. -/
  | other
  deriving DecidableEq, Repr

namespace ChatStoreState

/-! ### The synchronous actions -/

/-- `abortActiveRequest`. -/
def abortActiveRequest (s : ChatStoreState) : ChatStoreState :=
  match s.abortController with
  | some _ => { s with abortController := none }
  | none => s

/-- `startNewConversation`. -/
def startNewConversation (s : ChatStoreState) (preserveDocument : Bool) : ChatStoreState :=
  let s := { s.abortActiveRequest with
    messages := []
    conversationId := none
    error := none
    streamingContent := []
    isStreaming := false
    isThinking := false }
  if preserveDocument then s
  else { s with
    currentDocumentId := none
    uploadId := none
    documentFilename := none
    documentUrl := none }

/-- What `clearConversation` sets. -/
def clearConversation (s : ChatStoreState) : ChatStoreState :=
  { s with
    messages := []
    error := none
    conversationId := none
    uploadId := none
    currentDocumentId := none
    documentFilename := none
    documentUrl := none
    streamingContent := []
    isStreaming := false
    isThinking := false }

/-- `clearAllConversationsState`. -/
def clearAllConversationsState (s : ChatStoreState) : ChatStoreState :=
  { s with
    messages := []
    conversationId := none
    uploadId := none
    currentDocumentId := none
    documentFilename := none
    documentUrl := none
    error := none
    showDocument := true
    streamingContent := []
    isStreaming := false
    isThinking := false }

/-- The fields that a stored session sets. -/
def showSession (s : ChatStoreState) (session : ChatSession) : ChatStoreState :=
  { s with
    messages := session.messages
    currentDocumentId := truthy session.fileId
    uploadId := truthy session.fileId
    documentFilename := truthy session.filename
    documentUrl := truthy session.fileUrl
    conversationId := truthy session.conversationId }

/-- The session that `loadSessionFromStorage` shows. -/
def sessionToLoad (s : ChatStoreState) (storage : LocalStorage) (now : ℤ)
    (documentId : Option JsString) : Option ChatSession :=
  if s.sessionLoaded then none
  else
    let session :=
      match truthy documentId with
      | some fileId => ChatStorage.getSessionByFileId storage now fileId
      | none => (ChatStorage.getAllSessions storage now).find? fun x => (truthy x.fileId).isNone
    session.filter fun x => !x.messages.isEmpty

/-- `loadSessionFromStorage`. -/
def loadSessionFromStorage (s : ChatStoreState) (storage : LocalStorage) (now : ℤ)
    (documentId : Option JsString) : ChatStoreState :=
  let shown :=
    match s.sessionToLoad storage now documentId with
    | some session => s.showSession session
    | none => s
  { shown with sessionLoaded := true }

/-- `selectConversation`. -/
def selectConversation (s : ChatStoreState) (storage : LocalStorage) (now : ℤ)
    (sessionId : JsString) : ChatStoreState :=
  match ChatStorage.getSessionById storage now sessionId with
  | some session => { s.showSession session with error := none }
  | none => s

/-- What `persistSession` saves. -/
def sessionData (s : ChatStoreState) (payload : PersistPayload) : ChatStorage.SessionData :=
  { fileId := truthy payload.documentId
    filename := payload.filename
    fileUrl := payload.fileUrl
    messages := s.messages }

/-- `persistSession`: the storage after it and the id of the session that was written. -/
def persistSession (s : ChatStoreState) (storage : LocalStorage) (now : ℤ) (random : JsString)
    (payload : PersistPayload) : LocalStorage × JsString :=
  if !s.sessionLoaded || s.messages.isEmpty then (storage, [])
  else
    ChatStorage.saveSession storage now random (s.sessionData payload) none
      (truthy s.conversationId)

/-- `set(state => ({ messages: [...state.messages, message] }))`. -/
def append (s : ChatStoreState) (message : Message) : ChatStoreState :=
  { s with messages := s.messages ++ [message] }

end ChatStoreState

/-! ### `sendMessage` -/

/-- `ChatRequest`. -/
structure ChatRequest where
  message : JsString
  conversationHistory : List (MessageRole × JsString)
  documentId : Option JsString
  conversationId : Option JsString
  deriving DecidableEq, Repr

/-- `ChatResponse`, as far as the store reads it. -/
structure ChatResponse where
  reply : JsString
  hintLevel : HintLevel
  timestamp : ℤ
  conversationId : Option JsString := none
  deriving DecidableEq, Repr

/-- The variables of the streaming loop. -/
structure StreamLoop where
  fullResponse : JsString := []
  chunkCount : ℕ := 0
  lastConversationId : Option JsString
  deriving DecidableEq, Repr

/-- The loop after a chunk. -/
def StreamLoop.read (l : StreamLoop) (chunk : StreamChunk) : StreamLoop :=
  { fullResponse := l.fullResponse ++ chunk.token
    chunkCount := l.chunkCount + 1
    lastConversationId :=
      match truthy chunk.conversationId with
      | some c => some c
      | none => l.lastConversationId }

/-- Where a `sendMessage` stands. -/
inductive SendPhase where
  /-- Streaming, before the next chunk. -/
  | reading (l : StreamLoop)
  /-- Streaming, before the animation frame; the flag is `chunk.complete`. -/
  | painting (l : StreamLoop) (complete : Bool)
  /-- After `break`, while the stream is closed. -/
  | closing (l : StreamLoop)
  /-- Waiting for `ApiClient.chat`, with the number of retries so far. -/
  | asking (attempt : ℕ)
  /-- Waiting for the next retry. -/
  | backoff (attempt : ℕ)
  deriving DecidableEq, Repr

/-- A `sendMessage` that has not finished. -/
structure SendOp where
  request : ChatRequest
  phase : SendPhase
  deriving DecidableEq, Repr

/-- `MAX_RETRIES`. -/
def maxRetries : ℕ := 3

/-- `UploadResponse`, as far as the store reads it. -/
structure UploadResponse where
  id : JsString
  filename : JsString
  url : JsString
  documentId : Option JsString := none
  deriving DecidableEq, Repr

/-- `OcrResult`, as the client receives it. -/
structure OcrResult where
  fullText : JsString
  confidence : Option ℚ
  language : JsString
  pageCount : Option ℤ
  deriving DecidableEq

/-- What an operation waits for. -/
inductive Completion where
  /-- The stream yields a chunk. -/
  | chunk (chunk : StreamChunk)
  /-- The stream is exhausted. -/
  | done
  /-- The animation frame. -/
  | frame
  /-- The stream is closed. -/
  | closed
  /-- `ApiClient.chat` answers. -/
  | reply (data : ChatResponse)
  /-- `ApiClient.uploadFile` answers. -/
  | uploaded (response : UploadResponse)
  /-- `ApiClient.getOcrResult` answers. -/
  | ocr (result : Option OcrResult)
  /-- A `delay` is over. -/
  | timer
  /-- The promise is rejected. -/
  | failed (err : JsError)
  deriving DecidableEq

/-- The text that `sendMessage` shows for an error. -/
def sendErrorMessage : JsError → JsString
  | .api message statusCode =>
    if statusCode = 429 then js "Too many requests, please try again later"
    else if statusCode ≥ 500 then js "Server error, auto retrying"
    else js "Failed (" ++ js (toString statusCode) ++ js "): " ++ message
  | .error name _ =>
    if name = js "AbortError" then js "Request cancelled"
    else js "Failed to send message, please try again"
  | .other => js "Failed to send message, please try again"

/-- `retryWithBackoff` tries again. -/
def retries (attempt : ℕ) : JsError → Bool
  | .api _ statusCode => attempt < maxRetries && statusCode ≥ 500
  | _ => false

namespace ChatStoreState

/-- The `finally` block of `sendMessage`. -/
def sendFinally (s : ChatStoreState) : ChatStoreState :=
  { s with isLoading := false, abortController := none }

/-- The `catch` block of `sendMessage`, and `finally`. -/
def sendFailed (s : ChatStoreState) (err : JsError) : ChatStoreState :=
  sendFinally { s with error := some (sendErrorMessage err), messages := s.messages.dropLast }

/-- The `catch` block of the streaming branch, and then the outer one. -/
def streamFailed (s : ChatStoreState) (err : JsError) : ChatStoreState :=
  sendFailed { s with isStreaming := false, isThinking := false, streamingContent := [] } err

/-- What the streaming branch does after its loop. -/
def streamFinished (s : ChatStoreState) (now : ℤ) (l : StreamLoop) : ChatStoreState :=
  sendFinally
    { s with
      messages := s.messages ++
        [{ role := .assistant
           content := l.fullResponse
           timestamp := some now
           conversationId := l.lastConversationId }]
      streamingContent := []
      isStreaming := false
      isThinking := false
      conversationId :=
        match truthy s.conversationId with
        | some c => some c
        | none => truthy l.lastConversationId }

/-- What the other branch does with the reply. -/
def replied (s : ChatStoreState) (request : ChatRequest) (data : ChatResponse) :
    ChatStoreState :=
  let s :=
    match truthy data.conversationId, request.conversationId with
    | some c, none => { s with conversationId := some c }
    | _, _ => s
  sendFinally (s.append
    { role := .assistant
      content := data.reply
      hintLevel := some data.hintLevel
      timestamp := some data.timestamp
      conversationId := data.conversationId })

/-- `sendMessage` up to its first `await`; `controller` names the new `AbortController`. -/
def sendMessage (s : ChatStoreState) (now : ℤ) (controller : ℕ) (content : JsString)
    (streaming : Bool) : ChatStoreState × SendOp :=
  let request : ChatRequest :=
    { message := content
      conversationHistory := s.messages.map fun msg => (msg.role, msg.content)
      documentId := truthy s.currentDocumentId
      conversationId := truthy s.conversationId }
  let s :=
    { s.abortActiveRequest with
      abortController := some controller
      messages := s.messages ++ [{ role := .user, content, timestamp := some now }]
      isLoading := true
      error := none }
  if streaming then
    ({ s with streamingContent := [], isStreaming := true, isThinking := true },
      { request, phase := .reading { lastConversationId := request.conversationId } })
  else (s, { request, phase := .asking 0 })

end ChatStoreState

/-- One completion of a `sendMessage`: the store after it, and where the operation stands then. -/
def SendOp.complete (op : SendOp) (now : ℤ) (s : ChatStoreState) :
    Completion → Option (ChatStoreState × Option SendOp)
  | .chunk chunk =>
    match op.phase with
    | .reading l =>
      let l := l.read chunk
      some (if l.chunkCount = 1 then { s with isThinking := false } else s,
        some { op with phase := .painting l chunk.complete })
    | _ => none
  | .frame =>
    match op.phase with
    | .painting l complete =>
      some ({ s with streamingContent := l.fullResponse },
        some { op with phase := if complete then .closing l else .reading l })
    | _ => none
  | .closed =>
    match op.phase with
    | .closing l => some (s.streamFinished now l, none)
    | _ => none
  | .done =>
    match op.phase with
    | .reading l => some (s.streamFinished now l, none)
    | _ => none
  | .reply data =>
    match op.phase with
    | .asking _ => some (s.replied op.request data, none)
    | _ => none
  | .timer =>
    match op.phase with
    | .backoff attempt => some (s, some { op with phase := .asking (attempt + 1) })
    | _ => none
  | .failed err =>
    match op.phase with
    | .reading _ => some (s.streamFailed err, none)
    -- `ApiClient.chat` is tried again after an error of the server
    | .asking attempt =>
      if retries attempt err then some (s, some { op with phase := .backoff attempt })
      else some (s.sendFailed err, none)
    | _ => none
  | .uploaded _ => none
  | .ocr _ => none

/-! ### `uploadAndProcessFile` -/

/-- `File`. -/
structure File where
  name : JsString
  size : ℕ
  type : JsString
  deriving DecidableEq, Repr

/-- Where an `uploadAndProcessFile` stands. -/
inductive UploadPhase where
  /-- Waiting for `ApiClient.uploadFile`. -/
  | uploading
  /-- Waiting for `ApiClient.getOcrResult`. -/
  | polling (documentId : JsString) (attempts : ℕ)
  /-- Waiting for the next poll. -/
  | sleeping (documentId : JsString) (attempts : ℕ)
  deriving DecidableEq, Repr

/-- An `uploadAndProcessFile` that has not finished. -/
structure UploadOp where
  file : File
  phase : UploadPhase
  deriving DecidableEq, Repr

/-- `maxSize`. -/
def maxSize : ℕ := 50 * 1024 * 1024

/-- `allowedTypes`. -/
def allowedTypes : List JsString :=
  [js "application/pdf", js "text/plain", js "image/jpeg", js "image/png",
    js "application/msword",
    js "application/vnd.openxmlformats-officedocument.wordprocessingml.document"]

/-- `maxAttempts`. -/
def maxAttempts : ℕ := 60

/-- `toFixed(1)` of a number that is not negative. -/
def toFixed1 (x : ℚ) : JsString :=
  let tenths := ⌊x * 10 + 1 / 2⌋
  js (toString (tenths / 10)) ++ js "." ++ js (toString (tenths % 10))

/-- `confidenceText`. -/
def confidenceText (confidence : Option ℚ) : JsString :=
  match confidence with
  | some c => toFixed1 (min 100 (max 0 (if c > 1 then c else c * 100))) ++ js "%"
  | none => js "未提供"

/-- The `content` of `ocrMessage`. -/
def ocrContent (result : OcrResult) : JsString :=
  let summary :=
    if result.fullText = [] then js "无法识别文本"
    else result.fullText.take 200 ++ if result.fullText.length > 200 then js "..." else []
  let pageCount := (result.pageCount.filter (0 < ·)).getD 1
  js "✅ Document recognized successfully\n\n**Recognition Info**\n- Pages: " ++
    js (toString pageCount) ++ js "\n- Language: " ++
    (if result.language = [] then js "Not detected" else result.language) ++
    js "\n- Confidence: " ++ confidenceText result.confidence ++ js "\n\n**Text Preview**\n" ++
    summary

/-- The text that `uploadAndProcessFile` shows for an error. -/
def uploadErrorMessage : JsError → JsString
  | .api message statusCode =>
    js "Upload failed (" ++ js (toString statusCode) ++ js "): " ++ message
  | .error _ message => message
  | .other => js "File processing failed, please try again"

/-- The text is not there yet. -/
def isNotFound : JsError → Bool
  | .api _ statusCode => statusCode = 404
  | _ => false

namespace ChatStoreState

/-- `setValidationError`. -/
def setValidationError (s : ChatStoreState) (message : JsString) : ChatStoreState :=
  { s with error := some message, isLoading := false }

/-- `uploadAndProcessFile` up to its first `await`. -/
def uploadAndProcessFile (s : ChatStoreState) (file : File) : ChatStoreState × Option UploadOp :=
  let s := { s with error := none, isLoading := true }
  if file.size > maxSize then
    (s.setValidationError (js "File is too large, please select a file under 50MB"), none)
  else if file.type ∉ allowedTypes then
    (s.setValidationError
      (js "Unsupported file type, please upload PDF, text, image, or Word document"), none)
  else (s, some { file, phase := .uploading })

/-- The `catch` block of `uploadAndProcessFile`, and `finally`. -/
def uploadFailed (s : ChatStoreState) (err : JsError) : ChatStoreState :=
  { s with error := some (uploadErrorMessage err), isLoading := false }

/-- What is done when the file has been uploaded: a conversation about the document starts. -/
def uploaded (s : ChatStoreState) (now : ℤ) (file : File) (response : UploadResponse)
    (newDocumentId : JsString) : ChatStoreState :=
  ({ s.startNewConversation false with
      uploadId := some newDocumentId
      currentDocumentId := some newDocumentId
      documentFilename := some response.filename
      documentUrl := some response.url }).append
    { role := .user
      content := js "📎 Document Uploaded"
      timestamp := some now
      attachment := some
        { filename := file.name
          fileUrl := some response.url
          documentId := some newDocumentId
          fileSize := some file.size
          uploadTime := some now } }

/-- What is done with the recognised text. -/
def recognised (s : ChatStoreState) (now : ℤ) (result : OcrResult) : ChatStoreState :=
  { s.append { role := .assistant, content := ocrContent result, timestamp := some now } with
    isLoading := false }

end ChatStoreState

/-- The end of a round of polling that found no text. -/
def UploadOp.pollAgain (op : UploadOp) (s : ChatStoreState) (documentId : JsString)
    (attempts : ℕ) : ChatStoreState × Option UploadOp :=
  if attempts + 1 < maxAttempts then
    (s, some { op with phase := .sleeping documentId (attempts + 1) })
  else (s.uploadFailed (.error (js "Error") (js "OCR 处理超时，请稍后重试")), none)

/-- One completion of an `uploadAndProcessFile`. -/
def UploadOp.complete (op : UploadOp) (now : ℤ) (s : ChatStoreState) :
    Completion → Option (ChatStoreState × Option UploadOp)
  | .uploaded response =>
    match op.phase with
    | .uploading =>
      -- `uploadResponse.documentId || uploadResponse.id`
      let newDocumentId := (truthy response.documentId).getD response.id
      some (s.uploaded now op.file response newDocumentId,
        some { op with phase := .polling newDocumentId 0 })
    | _ => none
  | .ocr result =>
    match op.phase with
    | .polling documentId attempts =>
      match result.filter (·.fullText ≠ []) with
      | some result => some (s.recognised now result, none)
      | none => some (op.pollAgain s documentId attempts)
    | _ => none
  | .timer =>
    match op.phase with
    | .sleeping documentId attempts =>
      some (s, some { op with phase := .polling documentId attempts })
    | _ => none
  | .failed err =>
    match op.phase with
    | .uploading => some (s.uploadFailed err, none)
    -- the text is not there yet
    | .polling documentId attempts =>
      if isNotFound err then some (op.pollAgain s documentId attempts)
      else some (s.uploadFailed err, none)
    | _ => none
  | .chunk _ => none
  | .frame => none
  | .closed => none
  | .done => none
  | .reply _ => none

end Client

end StudyOasis
