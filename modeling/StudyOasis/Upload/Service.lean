import StudyOasis.Common.Exceptions
import StudyOasis.Runs.Action
import StudyOasis.Upload.Filename

/-!
# The upload service

`UploadService.saveFile` as an action on the stored objects, the rows of `documents` and the queued
jobs, for both storage back ends and both ways of text recognition.  Events are tracked on the
side: a failure there is swallowed, and no row of an upload depends on it.

What a file does not decide (the configuration, the generated ids, what `file-type` finds, which
steps fail) is the `UploadWorld`.
-/

namespace StudyOasis

/-! ### Paths -/

/-- The segments of a path: empty ones and `.` are dropped, `..` takes one away. -/
def normalizeSegments (absolute : Bool) : List JsString → List JsString → List JsString
  | acc, [] => acc.reverse
  | acc, segment :: segments =>
    if segment = [] ∨ segment = [dot] then normalizeSegments absolute acc segments
    else if segment = [dot, dot] then
      match acc with
      | [] => normalizeSegments absolute (if absolute then [] else [segment]) segments
      | top :: acc =>
        if top = [dot, dot] then normalizeSegments absolute (segment :: top :: acc) segments
        else normalizeSegments absolute acc segments
    else normalizeSegments absolute (segment :: acc) segments

/-- `path.normalize`. -/
def normalizePath (path : JsString) : JsString :=
  if path = [] then [dot]
  else
    let absolute : Bool := path.head? = some slash
    let trailing : Bool := path.getLast? = some slash
    let segments := normalizeSegments absolute [] (path.splitOn slash)
    let text := List.intercalate [slash] segments
    if text = [] then if absolute then [slash] else if trailing then [dot, slash] else [dot]
    else
      let text := if trailing then text ++ [slash] else text
      if absolute then slash :: text else text

/-- `path.join`. -/
def joinPath (dir name : JsString) : JsString :=
  normalizePath (List.intercalate [slash] ([dir, name].filter (· ≠ [])))

theorem normalizePath_ne_nil (path : JsString) : normalizePath path ≠ [] := by
  simp only [normalizePath]
  split_ifs <;> simp_all

/-! ### What an upload meets -/

/-- The text of a generated id: hexadecimal digits and hyphens. -/
structure Uuid where
  text : JsString
  length_eq : text.length = 36
  units : ∀ c ∈ text, (48 ≤ c && c ≤ 57) || (97 ≤ c && c ≤ 102) || c = 45

/-- `Express.Multer.File`. -/
structure MulterFile where
  originalname : JsString
  mimetype : JsString
  size : ℕ
  buffer : List UInt8
  deriving DecidableEq, Repr

/-- The steps of an upload that may be rejected. -/
inductive UploadStep where
  /-- `fileTypeImport.fromBuffer`. -/
  | detectType
  /-- `fs.mkdir`. -/
  | makeDir
  /-- `fs.writeFile`, or `fileObj.save`. -/
  | storeBytes
  /-- `file.getSignedUrl`. -/
  | signUrl
  /-- `documentRepository.create`. -/
  | createDocument
  /-- `ocrQueue.add`. -/
  | enqueue
  /-- `documentRepository.updateOcrStatus` with `processing`. -/
  | markProcessing
  /-- `fs.readFile`. -/
  | readFile
  /-- `visionService.extractTextFromBuffer`, or `extractTextFromGcs`. -/
  | recognize
  /-- `documentRepository.updateOcrStatus` with `completed`. -/
  | markCompleted
  /-- `documentRepository.updateOcrStatus` with `failed`. -/
  | markFailed
  deriving DecidableEq, Repr

/-- A step that is rejected, with the message of its error; a late one has taken effect all the
same, as a call that outlives its timeout. -/
structure UploadFault where
  message : JsString
  late : Bool
  deriving DecidableEq, Repr

/-- What the services read of the configuration. -/
structure UploadConfig where
  /-- `GOOGLE_CLOUD_PROJECT_ID` is set. -/
  useCloudStorage : Bool
  /-- `GCS_BUCKET_NAME`. -/
  bucketName : Option JsString
  /-- `upload.destination`. -/
  destination : Option JsString
  /-- `baseUrl`. -/
  baseUrl : Option JsString
  /-- `upload.allowedMimeTypes`. -/
  allowedMimeTypes : Option (List JsString)
  /-- `upload.maxSize`. -/
  maxSize : Option ℕ
  /-- `ocr.useQueue`. -/
  useQueue : Option Bool
  deriving DecidableEq, Repr

/-- What an upload meets outside. -/
structure UploadWorld where
  config : UploadConfig
  /-- `randomUUID()`. -/
  uploadId : Uuid
  /-- `uuidv4()` of `GcsService`. -/
  objectId : Uuid
  /-- The id that the new row gets. -/
  documentId : String
  /-- The link that is signed for the object. -/
  signedUrl : JsString
  /-- `detected.mime` of `file-type`. -/
  detected : Option JsString
  /-- The steps that fail. -/
  fault : UploadStep → Option UploadFault

/-- `x || y` on texts that may be missing. -/
def orDefault (x : Option JsString) (y : JsString) : JsString := (x.filter (· ≠ [])).getD y

namespace UploadConfig

/-- `UploadService.getUploadDestination`. -/
def uploadDestination (config : UploadConfig) : JsString :=
  orDefault config.destination (js "./uploads")

/-- `GcsService.bucketName`. -/
def bucket (config : UploadConfig) : JsString :=
  orDefault config.bucketName (js "study-oasis-uploads")

/-- `this.configService.get('upload.maxSize') || 10485760`. -/
def sizeLimit (config : UploadConfig) : ℕ := (config.maxSize.filter (· ≠ 0)).getD 10485760

/-- `UploadService.useOcrQueue`. -/
def useOcrQueue (config : UploadConfig) : Bool := config.useQueue ≠ some false

end UploadConfig

/-! ### What an upload does -/

/-- Where bytes are stored. -/
inductive Location where
  /-- A file in a directory. -/
  | disk (dir name : JsString)
  /-- An object in a bucket. -/
  | cloud (bucket name : JsString)
  deriving DecidableEq, Repr

/-- The name under which the bytes are stored. -/
def Location.name : Location → JsString
  | disk _ name => name
  | cloud _ name => name

/-- The path that is noted for the bytes. -/
def Location.path : Location → JsString
  | disk dir name => joinPath dir name
  | cloud bucket name => js "gs://" ++ bucket ++ slash :: name

/-- Stored bytes. -/
structure StoredObject where
  location : Location
  bytes : List UInt8
  deriving DecidableEq, Repr

/-- `ocrStatus`. -/
inductive OcrStatus where
  | pending
  | processing
  | completed
  | failed
  deriving DecidableEq, Repr

/-- A row of `documents`, as `DocumentRepository.create` inserts it. -/
structure DocumentRow where
  id : String
  userId : Option String
  filename : JsString
  gcsPath : Option JsString
  publicUrl : Option JsString
  size : ℕ
  ocrStatus : OcrStatus
  deriving DecidableEq, Repr

/-- `OcrJobData`. -/
structure OcrJobData where
  documentId : String
  gcsPath : Option JsString
  localPath : Option JsString
  userId : Option String
  deriving DecidableEq, Repr

/-- What uploads write. -/
structure UploadState where
  objects : List StoredObject
  documents : List DocumentRow
  jobs : List OcrJobData
  deriving DecidableEq, Repr

/-- What `saveFile` is rejected with. -/
inductive UploadError where
  | executable (ext : JsString)
  | detectionFailed
  | undetected
  | mismatch (detected declared : JsString)
  | unsupported (mimetype : JsString)
  | tooLarge (maxSize : ℕ)
  | gcsUpload (originalFilename : JsString)
  /-- Any other `Error`. -/
  | other (message : JsString)
  deriving DecidableEq, Repr

/-- A part of an upload. -/
abbrev UploadAction := Action UploadState UploadError

/-- `StorageResult`. -/
structure StorageResult where
  location : Location
  publicUrl : JsString
  deriving DecidableEq, Repr

namespace StorageResult

/-- `gcsPath`. -/
def gcsPath (r : StorageResult) : Option JsString :=
  match r.location with
  | .cloud .. => some r.location.path
  | .disk .. => none

/-- `localPath`. -/
def localPath (r : StorageResult) : Option JsString :=
  match r.location with
  | .disk .. => some r.location.path
  | .cloud .. => none

end StorageResult

/-- `UploadResult`; the status it reports is `pending`. -/
structure UploadResult where
  id : JsString
  filename : JsString
  url : JsString
  size : ℕ
  mimetype : JsString
  documentId : String
  ocrStatus : OcrStatus
  deriving DecidableEq, Repr

/-- The number of mebibytes, rounded to hundredths. -/
def mebibytes (bytes : ℕ) : JsString :=
  let hundredths := (bytes * 200 + 1048576) / 2097152
  let fraction := hundredths % 100
  js (toString (hundredths / 100)) ++
    if fraction = 0 then []
    else if fraction % 10 = 0 then dot :: js (toString (fraction / 10))
    else if fraction < 10 then js ".0" ++ js (toString fraction)
    else dot :: js (toString fraction)

namespace UploadError

/-- `error.code`. -/
def code : UploadError → Option ErrorCode
  | executable _ | undetected | mismatch .. | unsupported _ => some .invalidFileType
  | detectionFailed => some .fileValidationFailed
  | tooLarge _ => some .documentTooLarge
  | gcsUpload _ => some .externalServiceError
  | other _ => none

/-- `error.message`. -/
def message : UploadError → JsString
  | executable ext => js "Executable file type not allowed: " ++ ext
  | detectionFailed => js "File type detection failed"
  | undetected => js "Unable to detect file type. Please upload a valid document."
  | mismatch detected declared =>
    js "Detected file type " ++ detected ++ js " does not match declared type " ++ declared
  | unsupported mimetype =>
    js "Unsupported MIME type: " ++ mimetype ++ js ". Allowed: PDF, text, images."
  | tooLarge maxSize => js "File exceeds limit of " ++ mebibytes maxSize ++ js "MB"
  | gcsUpload _ => js "GCS upload failed"
  | other message => message

/-- The status of the response. -/
def status : UploadError → ℕ
  | tooLarge _ => 413
  | other _ => 500
  | _ => 400

end UploadError

/-- A step: it is rejected if it is one that fails, and has its effect unless it fails at once. -/
def UploadWorld.perform (w : UploadWorld) (step : UploadStep)
    (effect : UploadState → UploadState) : UploadAction Unit :=
  match w.fault step with
  | none => modify effect
  | some fault => do
    if fault.late then modify effect
    throw (.other fault.message)

namespace UploadService

variable (w : UploadWorld) (file : MulterFile)

/-! ### The checks -/

/-- `UploadService.isAllowedMimeType`. -/
def isAllowedMimeType (config : UploadConfig) (mimetype : JsString) : Bool :=
  (config.allowedMimeTypes.getD []).any fun allowedType =>
    if (js "/*").isSuffixOf allowedType then
      (allowedType.take (allowedType.length - 2)).isPrefixOf mimetype
    else mimetype = allowedType

/-- `UploadService.isAllowedSize`. -/
def isAllowedSize (config : UploadConfig) (size : ℕ) : Bool := size ≤ config.sizeLimit

/-- `textBasedTypes`. -/
def textBasedTypes : List JsString :=
  ["text/plain", "text/markdown", "text/csv", "application/json", "text/html", "text/css",
    "application/javascript"].map js

/-- `UploadService.validateFileType`. -/
def validateFileType (declaredMimetype : JsString) : Except UploadError Unit :=
  if (w.fault .detectType).isSome then .error .detectionFailed
  else
    match w.detected with
    | none => if textBasedTypes.contains declaredMimetype then .ok () else .error .undetected
    | some mime =>
      if isAllowedMimeType w.config mime then .ok () else .error (.mismatch mime declaredMimetype)

/-- `UploadService.validateFileForUpload`. -/
def validateFileForUpload : Except UploadError Unit := do
  if isDangerousFile file.originalname then throw (.executable (extname file.originalname))
  validateFileType w file.mimetype
  if ! isAllowedMimeType w.config file.mimetype then throw (.unsupported file.mimetype)
  if ! isAllowedSize w.config file.size then throw (.tooLarge w.config.sizeLimit)

/-! ### Storing -/

/-- The state with one more object. -/
def addObject (object : StoredObject) (s : UploadState) : UploadState :=
  { s with objects := s.objects ++ [object] }

/-- `UploadService.buildFileUrl`. -/
def buildFileUrl (config : UploadConfig) (filename : JsString) : JsString :=
  orDefault config.baseUrl (js "http://localhost:4001") ++ js "/uploads/" ++ filename

/-- Where `uploadToLocal` writes. -/
def diskLocation (filename : JsString) : Location :=
  .disk w.config.uploadDestination (w.uploadId.text ++ extname filename)

/-- `UploadService.uploadToLocal`. -/
def uploadToLocal (filename : JsString) : UploadAction StorageResult := do
  w.perform .makeDir id
  w.perform .storeBytes (addObject ⟨diskLocation w filename, file.buffer⟩)
  pure ⟨diskLocation w filename, buildFileUrl w.config (diskLocation w filename).name⟩

/-- Where `GcsService.uploadFile` writes. -/
def cloudLocation (filename : JsString) : Location :=
  .cloud w.config.bucket (js "uploads" ++ slash :: (w.objectId.text ++ extname filename))

/-- `GcsService.uploadFile`, as `uploadToGcs` calls it. -/
def uploadToGcs (filename : JsString) : UploadAction StorageResult :=
  tryCatch (do
    w.perform .storeBytes (addObject ⟨cloudLocation w filename, file.buffer⟩)
    w.perform .signUrl id
    pure ⟨cloudLocation w filename, w.signedUrl⟩)
    fun _ => throw (.gcsUpload filename)

/-- `UploadService.uploadToPreferredStorage`. -/
def uploadToPreferredStorage (filename : JsString) : UploadAction StorageResult :=
  if w.config.useCloudStorage then uploadToGcs w file filename else uploadToLocal w file filename

/-! ### The row -/

/-- The row of an upload. -/
def newDocument (filename : JsString) (storageResult : StorageResult) (userId : Option String) :
    DocumentRow :=
  { id := w.documentId
    userId := userId.filter (· ≠ "")
    filename
    -- `gcsPath || localPath || undefined`
    gcsPath := (storageResult.gcsPath.filter (· ≠ []) <|> storageResult.localPath).filter (· ≠ [])
    publicUrl := some storageResult.publicUrl |>.filter (· ≠ [])
    size := file.size
    ocrStatus := .pending }

/-- `UploadService.saveDocumentMetadata`. -/
def saveDocumentMetadata (filename : JsString) (storageResult : StorageResult)
    (userId : Option String) : UploadAction DocumentRow := do
  let document := newDocument w file filename storageResult userId
  w.perform .createDocument fun s => { s with documents := s.documents ++ [document] }
  pure document

/-! ### Text recognition -/

/-- `DocumentRepository.updateOcrStatus`. -/
def updateOcrStatus (documentId : String) (status : OcrStatus) (s : UploadState) : UploadState :=
  { s with documents := s.documents.map fun d =>
      if d.id = documentId then { d with ocrStatus := status } else d }

/-- The recognition itself, from the disk or from the bucket. -/
def recognizeText (storageResult : StorageResult) : UploadAction Unit :=
  if storageResult.localPath.any (· ≠ []) then do
    w.perform .readFile id
    w.perform .recognize id
  else if storageResult.gcsPath.any (· ≠ []) then w.perform .recognize id
  else throw (.other (js "No OCR source provided"))

/-- `UploadService.processOcrInline`. -/
def processOcrInline (documentId : String) (storageResult : StorageResult) : UploadAction Unit :=
  tryCatch (do
    w.perform .markProcessing (updateOcrStatus documentId .processing)
    recognizeText w storageResult
    w.perform .markCompleted (updateOcrStatus documentId .completed))
    fun error => do
      w.perform .markFailed (updateOcrStatus documentId .failed)
      throw error

/-- `UploadService.enqueueOcrJob`. -/
def enqueueOcrJob (documentId : String) (storageResult : StorageResult) (userId : Option String) :
    UploadAction Unit :=
  if w.config.useOcrQueue then
    tryCatch
      (w.perform .enqueue fun s => { s with jobs := s.jobs ++
        [⟨documentId, storageResult.gcsPath, storageResult.localPath, userId⟩] })
      fun _ => processOcrInline w documentId storageResult
  else processOcrInline w documentId storageResult

/-! ### `saveFile` -/

/-- `UploadService.buildUploadResult`. -/
def buildUploadResult (filename : JsString) (documentId : String) (publicUrl : JsString) :
    UploadResult :=
  { id := w.uploadId.text
    filename
    url := publicUrl
    size := file.size
    mimetype := file.mimetype
    documentId
    ocrStatus := .pending }

/-- `UploadService.saveFile`; its `catch` tracks the failure and throws the error again. -/
def saveFile (userId : Option String) : UploadAction UploadResult := do
  let sanitizedFilename := sanitizeFilename file.originalname
  match validateFileForUpload w file with
  | .error error => throw error
  | .ok () => do
    let storageResult ← uploadToPreferredStorage w file sanitizedFilename
    let document ← saveDocumentMetadata w file sanitizedFilename storageResult userId
    enqueueOcrJob w document.id storageResult userId
    pure (buildUploadResult w file sanitizedFilename document.id storageResult.publicUrl)

end UploadService

end StudyOasis
