import StudyOasis.Upload.Service

/-!
# What an upload leaves

`saveFile` checks the file, stores its bytes, inserts the row and has the text recognised, and
takes nothing back when a later step fails.

* `saveFile_clean_iff` : **exactly when a rejected upload leaves nothing behind** and a resolved
  one leaves its bytes and the row that names them;
* `stored_extension_iff` : **exactly when the stored name has no dangerous extension**.
-/

namespace StudyOasis

namespace UploadService

open StudyOasis.Action

variable {w : UploadWorld} {file : MulterFile} {s : UploadState}

/-! ### One step -/

theorem perform_of_none {step : UploadStep} (h : w.fault step = none)
    (effect : UploadState → UploadState) :
    (w.perform step effect).runOn s = (.ok (), effect s) := by
  simp only [UploadWorld.perform, h, runOn_modify]

theorem perform_of_some {step : UploadStep} {fault : UploadFault}
    (h : w.fault step = some fault) (effect : UploadState → UploadState) :
    (w.perform step effect).runOn s =
      (.error (.other fault.message), if fault.late then effect s else s) := by
  simp only [UploadWorld.perform, h]
  cases fault.late <;> rfl

/-! ### Storing -/

/-- Where the bytes go. -/
def location (w : UploadWorld) (filename : JsString) : Location :=
  if w.config.useCloudStorage then cloudLocation w filename else diskLocation w filename

/-- The bytes are not stored: the directory cannot be made, or the store itself fails at once. -/
def failsToStore (w : UploadWorld) : Bool :=
  (! w.config.useCloudStorage && (w.fault .makeDir).isSome) ||
    (w.fault .storeBytes).any fun fault => ! fault.late

/-- The store, and the link in the cloud, are resolved. -/
def storeResolves (w : UploadWorld) : Bool :=
  (w.fault .storeBytes).isNone &&
    if w.config.useCloudStorage then (w.fault .signUrl).isNone else (w.fault .makeDir).isNone

/-- The object that an upload stores. -/
def uploadedObject (w : UploadWorld) (file : MulterFile) : StoredObject :=
  ⟨location w (sanitizeFilename file.originalname), file.buffer⟩

/-- What storing it returns. -/
def stored (w : UploadWorld) (file : MulterFile) (url : JsString) : StorageResult :=
  ⟨location w (sanitizeFilename file.originalname), url⟩

/-- What storing the bytes ends in: at once, too late, or well. -/
theorem uploadToPreferredStorage_cases (w : UploadWorld) (file : MulterFile) (s : UploadState) :
    (failsToStore w = true ∧ ∃ e,
      (uploadToPreferredStorage w file (sanitizeFilename file.originalname)).runOn s =
        (.error e, s)) ∨
    (failsToStore w = false ∧ storeResolves w = false ∧ ∃ e,
      (uploadToPreferredStorage w file (sanitizeFilename file.originalname)).runOn s =
        (.error e, addObject (uploadedObject w file) s)) ∨
    (failsToStore w = false ∧ storeResolves w = true ∧ ∃ url,
      (uploadToPreferredStorage w file (sanitizeFilename file.originalname)).runOn s =
        (.ok (stored w file url), addObject (uploadedObject w file) s)) := by
  cases hcloud : w.config.useCloudStorage with
  | true =>
    simp only [uploadToPreferredStorage, uploadedObject, stored, location, failsToStore,
      storeResolves, hcloud, if_true, uploadToGcs, runOn_tryCatch, runOn_bind]
    cases hstore : w.fault .storeBytes with
    | some fault =>
      rw [perform_of_some hstore]
      cases hlate : fault.late with
      | true => exact .inr (.inl ⟨by simp [hlate], by simp, _, rfl⟩)
      | false => exact .inl ⟨by simp [hlate], _, rfl⟩
    | none =>
      rw [perform_of_none hstore, andThen_ok, runOn_bind]
      cases hsign : w.fault .signUrl with
      | some fault =>
        rw [perform_of_some hsign]
        refine .inr (.inl ⟨by simp, by simp,
          .gcsUpload (sanitizeFilename file.originalname), ?_⟩)
        cases fault.late <;> rfl
      | none =>
        rw [perform_of_none hsign]
        exact .inr (.inr ⟨by simp, by simp, _, rfl⟩)
  | false =>
    simp only [uploadToPreferredStorage, uploadedObject, stored, location, failsToStore,
      storeResolves, hcloud,
      Bool.false_eq_true, if_false, uploadToLocal, runOn_bind]
    cases hdir : w.fault .makeDir with
    | some fault =>
      rw [perform_of_some hdir]
      refine .inl ⟨by simp, .other fault.message, ?_⟩
      cases fault.late <;> rfl
    | none =>
      rw [perform_of_none hdir, andThen_ok, runOn_bind]
      cases hstore : w.fault .storeBytes with
      | some fault =>
        rw [perform_of_some hstore]
        cases hlate : fault.late with
        | true => exact .inr (.inl ⟨by simp [hlate], by simp, _, rfl⟩)
        | false => exact .inl ⟨by simp [hlate], _, rfl⟩
      | none =>
        rw [perform_of_none hstore]
        exact .inr (.inr ⟨by simp, by simp, _, rfl⟩)

/-! ### The text recognition -/

/-- `s'` differs from `s` in the statuses of the rows of one document, and in the queue. -/
structure StatusOnly (documentId : String) (s s' : UploadState) : Prop where
  objects : s'.objects = s.objects
  documents : ∃ status : DocumentRow → OcrStatus, s'.documents = s.documents.map fun d =>
    if d.id = documentId then { d with ocrStatus := status d } else d

namespace StatusOnly

variable {documentId : String} {t u : UploadState}

theorem refl (documentId : String) (s : UploadState) : StatusOnly documentId s s := by
  refine ⟨rfl, (·.ocrStatus), ?_⟩
  simp

theorem update (documentId : String) (status : OcrStatus) (s : UploadState) :
    StatusOnly documentId s (updateOcrStatus documentId status s) :=
  ⟨rfl, fun _ => status, rfl⟩

theorem trans (h : StatusOnly documentId s t) (h' : StatusOnly documentId t u) :
    StatusOnly documentId s u := by
  obtain ⟨hobj, status, hdoc⟩ := h
  obtain ⟨hobj', status', hdoc'⟩ := h'
  refine ⟨hobj'.trans hobj, fun d => status' { d with ocrStatus := status d }, ?_⟩
  rw [hdoc', hdoc, List.map_map]
  refine List.map_congr_left ?_
  intro d _
  by_cases hid : d.id = documentId <;> simp [hid]

end StatusOnly

/-- The action changes the statuses of one document only, and is resolved exactly when `b`. -/
def Settles {α : Type} (documentId : String) (x : UploadAction α) (b : Bool) : Prop :=
  ∀ s, (x.runOn s).1.isOk = b ∧ StatusOnly documentId s (x.runOn s).2

section

variable {α β : Type} {documentId : String} {b b' : Bool}

theorem settles_perform {effect : UploadState → UploadState}
    (heffect : ∀ s, StatusOnly documentId s (effect s)) (step : UploadStep) :
    Settles documentId (w.perform step effect) (w.fault step).isNone := by
  intro s
  cases h : w.fault step with
  | none =>
    rw [perform_of_none h]
    exact ⟨rfl, heffect s⟩
  | some fault =>
    rw [perform_of_some h]
    refine ⟨rfl, ?_⟩
    cases fault.late with
    | true => exact heffect s
    | false => exact .refl documentId s

theorem Settles.cases {x : UploadAction α} (h : Settles documentId x b) (s : UploadState) :
    (b = true ∧ ∃ a t, x.runOn s = (.ok a, t) ∧ StatusOnly documentId s t) ∨
      (b = false ∧ ∃ e t, x.runOn s = (.error e, t) ∧ StatusOnly documentId s t) := by
  obtain ⟨hok, hs⟩ := h s
  rcases hrun : x.runOn s with ⟨e | a, t⟩
  · rw [hrun] at hok hs
    exact .inr ⟨hok.symm, e, t, rfl, hs⟩
  · rw [hrun] at hok hs
    exact .inl ⟨hok.symm, a, t, rfl, hs⟩

theorem settles_throw (documentId : String) (e : UploadError) :
    Settles documentId (throw e : UploadAction α) false := fun s => ⟨rfl, .refl documentId s⟩

theorem Settles.bind {x : UploadAction α} {f : α → UploadAction β} (hx : Settles documentId x b)
    (hf : ∀ a, Settles documentId (f a) b') : Settles documentId (x >>= f) (b && b') := by
  intro s
  obtain ⟨hok, hs⟩ := hx s
  rw [runOn_bind]
  rcases hrun : x.runOn s with ⟨e | a, t⟩
  · rw [hrun] at hok hs
    obtain rfl := hok
    exact ⟨rfl, hs⟩
  · rw [hrun] at hok hs
    obtain rfl := hok
    exact ⟨(hf a t).1, hs.trans (hf a t).2⟩

theorem Settles.tryCatch {x : UploadAction α} {handler : UploadError → UploadAction α}
    (hx : Settles documentId x b) (hh : ∀ e, Settles documentId (handler e) b') :
    Settles documentId (tryCatch x handler) (b || b') := by
  intro s
  obtain ⟨hok, hs⟩ := hx s
  rw [runOn_tryCatch]
  rcases hrun : x.runOn s with ⟨e | a, t⟩
  · rw [hrun] at hok hs
    obtain rfl := hok
    exact ⟨(hh e t).1, hs.trans (hh e t).2⟩
  · rw [hrun] at hok hs
    obtain rfl := hok
    exact ⟨rfl, hs⟩

end

theorem joinPath_ne_nil (dir name : JsString) : joinPath dir name ≠ [] := normalizePath_ne_nil _

/-- The recognition is resolved: it reads the bytes first when they are on the disk. -/
def recognizeResolves (w : UploadWorld) : Bool :=
  (w.config.useCloudStorage || (w.fault .readFile).isNone) && (w.fault .recognize).isNone

theorem settles_recognizeText (documentId : String) (url : JsString) :
    Settles documentId (recognizeText w (stored w file url)) (recognizeResolves w) := by
  have hid (step : UploadStep) := settles_perform (w := w) (StatusOnly.refl documentId) step
  cases hcloud : w.config.useCloudStorage with
  | true =>
    simp only [recognizeText, stored, location, recognizeResolves, hcloud, if_true, Bool.true_or,
      Bool.true_and]
    exact hid .recognize
  | false =>
    simp only [recognizeText, stored, location, recognizeResolves, hcloud, Bool.false_eq_true,
      if_false, Bool.false_or]
    have hpath : (StorageResult.localPath
        ⟨diskLocation w (sanitizeFilename file.originalname), url⟩).any (· ≠ []) = true :=
      decide_eq_true (joinPath_ne_nil _ _)
    rw [if_pos hpath]
    exact (hid .readFile).bind fun _ => hid .recognize

/-- The recognition in the request itself is resolved. -/
def inlineResolves (w : UploadWorld) : Bool :=
  (w.fault .markProcessing).isNone && (recognizeResolves w && (w.fault .markCompleted).isNone)

theorem settles_processOcrInline (documentId : String) (url : JsString) :
    Settles documentId (processOcrInline w documentId (stored w file url))
      (inlineResolves w) := by
  have hstatus (status : OcrStatus) (step : UploadStep) :=
    settles_perform (w := w) (StatusOnly.update documentId status) step
  have hrecognize : Settles documentId (recognizeText w (stored w file url)) _ :=
    settles_recognizeText documentId url
  have htry := (hstatus .processing .markProcessing).bind fun _ =>
    hrecognize.bind fun _ => hstatus .completed .markCompleted
  -- the handler throws the error again, whether or not it can note the failure
  have hthrow (e : UploadError) : Settles documentId (throw e : UploadAction Unit) false :=
    settles_throw documentId e
  have hcatch (e : UploadError) := (hstatus .failed .markFailed).bind fun _ => hthrow e
  have := htry.tryCatch hcatch
  rwa [Bool.and_false, Bool.or_false] at this

/-- The text is recognised in a job, or in the request itself. -/
def ocrResolves (w : UploadWorld) : Bool :=
  (w.config.useOcrQueue && (w.fault .enqueue).isNone) || inlineResolves w

theorem settles_enqueueOcrJob (documentId : String) (url : JsString) (userId : Option String) :
    Settles documentId (enqueueOcrJob w documentId (stored w file url) userId)
      (ocrResolves w) := by
  have hinline : Settles documentId (processOcrInline w documentId (stored w file url)) _ :=
    settles_processOcrInline documentId url
  unfold enqueueOcrJob ocrResolves
  split_ifs with hqueue
  · rw [hqueue, Bool.true_and]
    refine Settles.tryCatch (settles_perform ?_ .enqueue) fun _ => hinline
    intro s
    exact ⟨rfl, (StatusOnly.refl documentId s).documents⟩
  · rw [Bool.eq_false_iff.2 hqueue, Bool.false_and, Bool.false_or]
    exact hinline

/-! ### The whole upload -/

/-- The checks refuse the file. -/
def refuses (w : UploadWorld) (file : MulterFile) : Bool := ! (validateFileForUpload w file).isOk

/-- Nothing fails behind the checks, but for a job that cannot be queued. -/
def allResolves (w : UploadWorld) : Bool :=
  storeResolves w && ((w.fault .createDocument).isNone && ocrResolves w)

/-- The row that an upload inserts. -/
def uploadedRow (w : UploadWorld) (file : MulterFile) (userId : Option String) (url : JsString) :
    DocumentRow :=
  newDocument w file (sanitizeFilename file.originalname) (stored w file url) userId

/-- The state with one more row. -/
def addDocument (row : DocumentRow) (s : UploadState) : UploadState :=
  { s with documents := s.documents ++ [row] }

variable {userId : Option String}

/-- What `saveFile` does once the bytes are stored. -/
def finishUpload (w : UploadWorld) (file : MulterFile) (userId : Option String)
    (storageResult : StorageResult) : UploadAction UploadResult := do
  let filename := sanitizeFilename file.originalname
  let document ← saveDocumentMetadata w file filename storageResult userId
  enqueueOcrJob w document.id storageResult userId
  pure (buildUploadResult w file filename document.id storageResult.publicUrl)

theorem finishUpload_of_some {fault : UploadFault} (h : w.fault .createDocument = some fault)
    (storageResult : StorageResult) :
    ∃ e t, (finishUpload w file userId storageResult).runOn s = (.error e, t) ∧
      t.objects = s.objects := by
  simp only [finishUpload, saveDocumentMetadata, runOn_bind, perform_of_some h, andThen_error]
  refine ⟨_, _, rfl, ?_⟩
  cases fault.late <;> rfl

/-- With the row inserted, the upload goes as the text recognition goes. -/
theorem finishUpload_of_none (h : w.fault .createDocument = none) (url : JsString) :
    (finishUpload w file userId (stored w file url)).runOn s =
      andThen (fun _ => pure (buildUploadResult w file (sanitizeFilename file.originalname)
          w.documentId url))
        ((enqueueOcrJob w w.documentId (stored w file url) userId).runOn
          (addDocument (uploadedRow w file userId url) s)) := by
  simp only [finishUpload, saveDocumentMetadata, runOn_bind, perform_of_none h, andThen_ok,
    runOn_pure]
  rfl

/-- **A failure behind the stored object leaves the object where it is.** -/
theorem finishUpload_of_false (url : JsString)
    (h : ((w.fault .createDocument).isNone && ocrResolves w) = false) :
    ∃ e t, (finishUpload w file userId (stored w file url)).runOn s = (.error e, t) ∧
      t.objects = s.objects := by
  cases hcreate : w.fault .createDocument with
  | some fault => exact finishUpload_of_some hcreate _
  | none =>
    rw [hcreate, Option.isNone_none, Bool.true_and] at h
    rw [finishUpload_of_none hcreate]
    rcases (settles_enqueueOcrJob w.documentId url userId).cases
        (addDocument (uploadedRow w file userId url) s) with ⟨hb, -⟩ | ⟨-, e, t, hrun, hs⟩
    · rw [h] at hb
      cases hb
    · rw [hrun]
      exact ⟨e, t, rfl, hs.objects⟩

/-- With the row inserted and the text on its way, the row is the only new one. -/
theorem finishUpload_of_true (userId : Option String) (url : JsString)
    (h : ((w.fault .createDocument).isNone && ocrResolves w) = true)
    (hnew : ∀ d ∈ s.documents, d.id ≠ w.documentId) :
    ∃ r t row, (finishUpload w file userId (stored w file url)).runOn s = (.ok r, t) ∧
      t.objects = s.objects ∧ t.documents = s.documents ++ [row] ∧
      row.gcsPath = (uploadedRow w file userId url).gcsPath := by
  obtain ⟨hcreate, hocr⟩ := Bool.and_eq_true_iff.1 h
  rw [finishUpload_of_none (Option.isNone_iff_eq_none.1 hcreate)]
  rcases (settles_enqueueOcrJob w.documentId url userId).cases
      (addDocument (uploadedRow w file userId url) s) with ⟨-, a, t, hrun, hs⟩ | ⟨hb, -⟩
  · rw [hrun]
    obtain ⟨status, hdoc⟩ := hs.documents
    -- the rows that were there have other ids
    have hold : (s.documents.map fun d =>
        if d.id = w.documentId then { d with ocrStatus := status d } else d) = s.documents :=
      (List.map_congr_left fun d hd => if_neg (hnew d hd)).trans (List.map_id _)
    have hid : (uploadedRow w file userId url).id = w.documentId := rfl
    refine ⟨_, t, { uploadedRow w file userId url with
      ocrStatus := status (uploadedRow w file userId url) }, rfl, hs.objects, ?_, rfl⟩
    rw [hdoc, addDocument, List.map_append, hold, List.map_singleton, if_pos hid]
  · rw [hocr] at hb
    cases hb

theorem uploadedRow_gcsPath (url : JsString) :
    (uploadedRow w file userId url).gcsPath = some (uploadedObject w file).location.path := by
  have hcloud (dir name : JsString) : (Location.cloud dir name).path ≠ [] := List.cons_ne_nil _ _
  have hdisk (dir name : JsString) : (Location.disk dir name).path ≠ [] := joinPath_ne_nil _ _
  simp only [uploadedRow, newDocument, uploadedObject, stored, location]
  split_ifs
  · simp [StorageResult.gcsPath, StorageResult.localPath, cloudLocation, hcloud]
  · simp [StorageResult.gcsPath, StorageResult.localPath, diskLocation, hdisk]

theorem saveFile_of_refuses (h : refuses w file = true) (userId : Option String)
    (s : UploadState) : ∃ e, (saveFile w file userId).runOn s = (.error e, s) := by
  unfold refuses at h
  cases hv : validateFileForUpload w file with
  | error e =>
    refine ⟨e, ?_⟩
    simp only [saveFile, hv]
    rfl
  | ok a =>
    rw [hv] at h
    cases h

theorem saveFile_of_not_refuses (h : refuses w file = false) :
    saveFile w file userId =
      uploadToPreferredStorage w file (sanitizeFilename file.originalname) >>=
        finishUpload w file userId := by
  unfold refuses at h
  cases hv : validateFileForUpload w file with
  | error e =>
    rw [hv] at h
    cases h
  | ok a =>
    simp only [saveFile, hv]
    rfl

/-- **What an upload that passes the checks ends in**: nothing is stored and it is rejected, the
bytes are stored and it is rejected all the same, or all is well. -/
theorem saveFile_cases (h : refuses w file = false) (hnew : ∀ d ∈ s.documents, d.id ≠ w.documentId)
    (userId : Option String) :
    (failsToStore w = true ∧ ∃ e, (saveFile w file userId).runOn s = (.error e, s)) ∨
    (failsToStore w = false ∧ allResolves w = false ∧ ∃ e t,
      (saveFile w file userId).runOn s = (.error e, t) ∧
        t.objects = s.objects ++ [uploadedObject w file]) ∨
    (failsToStore w = false ∧ allResolves w = true ∧ ∃ r t row,
      (saveFile w file userId).runOn s = (.ok r, t) ∧
        t.objects = s.objects ++ [uploadedObject w file] ∧ t.documents = s.documents ++ [row] ∧
        row.gcsPath = some (uploadedObject w file).location.path) := by
  rw [saveFile_of_not_refuses h, runOn_bind]
  rcases uploadToPreferredStorage_cases w file s with
    ⟨hfails, e, hrun⟩ | ⟨hfails, hstore, e, hrun⟩ | ⟨hfails, hstore, url, hrun⟩
  · rw [hrun]
    exact .inl ⟨hfails, e, rfl⟩
  · rw [hrun, allResolves, hstore]
    exact .inr (.inl ⟨hfails, rfl, e, _, rfl, rfl⟩)
  · rw [hrun, andThen_ok, allResolves, hstore, Bool.true_and]
    cases hrest : (w.fault .createDocument).isNone && ocrResolves w with
    | false => exact .inr (.inl ⟨hfails, rfl, finishUpload_of_false url hrest⟩)
    | true =>
      obtain ⟨r, t, row, hrun', hobj, hdoc, hpath⟩ :=
        finishUpload_of_true userId url hrest (s := addObject (uploadedObject w file) s) hnew
      exact .inr (.inr ⟨hfails, rfl, r, t, row, hrun', hobj, hdoc,
        hpath.trans (uploadedRow_gcsPath url)⟩)

/-! ### Nothing is left behind -/

/-- A rejected upload leaves no object and no row, and a resolved one the bytes of the file and
one row whose `gcsPath` names them. -/
def CleanOutcome (file : MulterFile) (s t : UploadState) : Except UploadError UploadResult → Prop
  | .error _ => t.objects = s.objects ∧ t.documents = s.documents
  | .ok _ => ∃ object row, t.objects = s.objects ++ [object] ∧ object.bytes = file.buffer ∧
      t.documents = s.documents ++ [row] ∧ row.gcsPath = some object.location.path

/-- **Nothing left behind**: a rejected upload leaves nothing, and a resolved one what it should,
exactly when the checks refuse the file, the bytes cannot be stored, or no later step fails. -/
theorem saveFile_clean_iff (hnew : ∀ d ∈ s.documents, d.id ≠ w.documentId)
    (userId : Option String) :
    CleanOutcome file s ((saveFile w file userId).runOn s).2 ((saveFile w file userId).runOn s).1 ↔
      refuses w file = true ∨ failsToStore w = true ∨ allResolves w = true := by
  cases href : refuses w file with
  | true =>
    obtain ⟨e, hrun⟩ := saveFile_of_refuses href userId s
    rw [hrun]
    exact iff_of_true ⟨rfl, rfl⟩ (.inl rfl)
  | false =>
    rcases saveFile_cases href hnew userId with ⟨hfails, e, hrun⟩ |
      ⟨hfails, hall, e, t, hrun, hobj⟩ | ⟨hfails, hall, r, t, row, hrun, hobj, hdoc, hpath⟩
    · rw [hrun, hfails]
      exact iff_of_true ⟨rfl, rfl⟩ (.inr (.inl rfl))
    · rw [hrun, hfails, hall]
      refine iff_of_false ?_ (by simp)
      rintro ⟨hsame, -⟩
      change t.objects = s.objects at hsame
      simp [hobj] at hsame
    · rw [hrun, hfails, hall]
      exact iff_of_true ⟨uploadedObject w file, row, hobj, rfl, hdoc, hpath⟩ (.inr (.inr rfl))

/-! ### The stored extension -/

theorem uuid_ne_of_mem {u : Uuid} {c : UInt16} (h : c ∈ u.text) : c ≠ dot ∧ c ≠ slash := by
  have hc := u.units c h
  refine ⟨?_, ?_⟩ <;> rintro rfl <;> exact absurd hc (by decide)

theorem uuid_ne_nil (u : Uuid) : u.text ≠ [] := by
  intro h
  have := u.length_eq
  rw [h] at this
  cases this

/-- The stored name has the extension of the rewritten one. -/
theorem extname_location (filename : JsString) :
    extname (location w filename).name = extname filename := by
  have happend (u : Uuid) (d : JsString) (hd : ∀ h : d ≠ [], d.getLast h = slash) :
      extname (d ++ u.text ++ extname filename) = extname filename :=
    extname_append_extname (uuid_ne_nil u) (fun h => (uuid_ne_of_mem h).1 rfl)
      (fun h => (uuid_ne_of_mem h).2 rfl) hd filename
  unfold location
  split_ifs
  · have := happend w.objectId (js "uploads" ++ [slash]) (fun _ => List.getLast_concat)
    simpa [cloudLocation, Location.name] using this
  · exact happend w.uploadId [] (fun h => absurd rfl h)

theorem not_dangerous_of_not_refuses (h : refuses w file = false) :
    isDangerousFile file.originalname = false := by
  rw [Bool.eq_false_iff]
  intro hdanger
  have : validateFileForUpload w file = .error (.executable (extname file.originalname)) := by
    simp only [validateFileForUpload, hdanger, if_true]
    rfl
  rw [refuses, this] at h
  cases h

theorem finishUpload_objects (url : JsString) :
    ((finishUpload w file userId (stored w file url)).runOn s).2.objects = s.objects := by
  cases hcreate : w.fault .createDocument with
  | some fault =>
    obtain ⟨e, t, hrun, hobj⟩ := finishUpload_of_some hcreate (stored w file url)
    rw [hrun]
    exact hobj
  | none =>
    rw [finishUpload_of_none hcreate]
    rcases (settles_enqueueOcrJob w.documentId url userId).cases
        (addDocument (uploadedRow w file userId url) s) with
      ⟨-, a, t, hrun, hs⟩ | ⟨-, e, t, hrun, hs⟩
    · rw [hrun]
      exact hs.objects
    · rw [hrun]
      exact hs.objects

/-- A resolved upload has passed the checks and stored its object. -/
theorem saveFile_of_ok {r : UploadResult} (h : ((saveFile w file userId).runOn s).1 = .ok r) :
    refuses w file = false ∧
      ((saveFile w file userId).runOn s).2.objects = s.objects ++ [uploadedObject w file] := by
  cases href : refuses w file with
  | true =>
    obtain ⟨e, hrun⟩ := saveFile_of_refuses href userId s
    rw [hrun] at h
    cases h
  | false =>
    refine ⟨rfl, ?_⟩
    rw [saveFile_of_not_refuses href, runOn_bind] at h ⊢
    rcases uploadToPreferredStorage_cases w file s with
      ⟨-, e, hrun⟩ | ⟨-, -, e, hrun⟩ | ⟨-, -, url, hrun⟩
    · rw [hrun] at h
      cases h
    · rw [hrun] at h
      cases h
    · rw [hrun, andThen_ok, finishUpload_objects]
      rfl

/-- **The stored extension**: a resolved upload stores its bytes under a name with no dangerous
extension exactly when its name stays safe. -/
theorem stored_extension_iff {r : UploadResult}
    (h : ((saveFile w file userId).runOn s).1 = .ok r) :
    ∃ object, ((saveFile w file userId).runOn s).2.objects = s.objects ++ [object] ∧
      object.bytes = file.buffer ∧
      (isDangerousFile object.location.name = false ↔ staysSafe file.originalname = true) := by
  obtain ⟨href, hobj⟩ := saveFile_of_ok h
  refine ⟨uploadedObject w file, hobj, rfl, ?_⟩
  have hext : isDangerousFile (uploadedObject w file).location.name =
      isDangerousFile (sanitizeFilename file.originalname) := by
    rw [isDangerousFile, isDangerousFile, uploadedObject, extname_location]
  rw [hext]
  exact isDangerousFile_sanitizeFilename_iff (not_dangerous_of_not_refuses href)

/-! ### Two uploads -/

/-- A generated id. -/
def sampleUuid : Uuid :=
  ⟨js "0a1b2c3d-0000-4000-8000-000000000001", by decide, List.all_eq_true.1 (by decide)⟩

/-- A service that takes plain text, with the steps that fail. -/
def sampleWorld (useCloudStorage : Bool) (failing : Option UploadStep) : UploadWorld :=
  { config := ⟨useCloudStorage, none, none, none, some [js "text/plain"], none, none⟩
    uploadId := sampleUuid
    objectId := sampleUuid
    documentId := "doc-1"
    signedUrl := js "https://storage/signed"
    detected := none
    fault := fun step => if failing = some step then some ⟨js "Database error", false⟩ else none }

/-- A text file. -/
def sampleFile (originalname : JsString) : MulterFile :=
  ⟨originalname, js "text/plain", 2, [104, 105]⟩

/-- Nothing is stored yet. -/
def emptyState : UploadState := ⟨[], [], []⟩

/-- A name that is cut off right behind `.exe`. -/
def longName : JsString := List.replicate 251 97 ++ js ".exefoo"

theorem saveFile_clean_iff_notes :
    CleanOutcome (sampleFile (js "notes.txt")) emptyState
      ((saveFile (sampleWorld true none) (sampleFile (js "notes.txt")) none).runOn emptyState).2
      ((saveFile (sampleWorld true none) (sampleFile (js "notes.txt")) none).runOn
        emptyState).1 := by
  have hnew : ∀ d ∈ emptyState.documents, d.id ≠ (sampleWorld true none).documentId := by
    simp [emptyState]
  refine (saveFile_clean_iff hnew none).2 ?_
  exact .inr (.inr (by decide))

/-- The upload of a text file into the bucket resolves. -/
theorem saveFile_sampleFile_notes :
    ((saveFile (sampleWorld true none) (sampleFile (js "notes.txt")) none).runOn emptyState).1 =
      .ok (buildUploadResult (sampleWorld true none) (sampleFile (js "notes.txt")) (js "notes.txt")
        "doc-1" (js "https://storage/signed")) := by
  rfl

theorem stored_extension_iff_notes : ∃ object,
    ((saveFile (sampleWorld true none) (sampleFile (js "notes.txt")) none).runOn
      emptyState).2.objects = [object] ∧ object.bytes = [104, 105] ∧
    (isDangerousFile object.location.name = false ↔ staysSafe (js "notes.txt") = true) :=
  stored_extension_iff saveFile_sampleFile_notes

/-- The extensions of the names under which an upload of plain text stores its bytes. -/
def storedExtensions (useCloudStorage : Bool) (originalname : JsString) : List JsString :=
  ((saveFile (sampleWorld useCloudStorage none) (sampleFile originalname) none).runOn
    emptyState).2.objects.map fun object => extname object.location.name

/-- **A dangerous extension is stored**, on the disk and in the cloud: the name that was checked
ends with `.exefoo`, and the stored one with `.exe`. -/
theorem dangerous_extension_stored :
    ((saveFile (sampleWorld false none) (sampleFile longName) none).runOn
      emptyState).1.isOk = true ∧
    ((saveFile (sampleWorld true none) (sampleFile longName) none).runOn
      emptyState).1.isOk = true ∧
    storedExtensions false longName = [js ".exe"] ∧ storedExtensions true longName = [js ".exe"] ∧
    DANGEROUS_EXTENSIONS.contains (toLowerCase (js ".exe")) = true := by
  decide +kernel

/-- **A rejected upload leaves its bytes**, on the disk and in the cloud, when the row cannot be
inserted. -/
theorem object_left_behind :
    ((saveFile (sampleWorld false (some .createDocument)) (sampleFile (js "notes.txt")) none).runOn
      emptyState).1 = .error (.other (js "Database error")) ∧
    ((saveFile (sampleWorld false (some .createDocument)) (sampleFile (js "notes.txt")) none).runOn
      emptyState).2.objects.map (·.bytes) = [[104, 105]] ∧
    ((saveFile (sampleWorld true (some .createDocument)) (sampleFile (js "notes.txt")) none).runOn
      emptyState).1 = .error (.other (js "Database error")) ∧
    ((saveFile (sampleWorld true (some .createDocument)) (sampleFile (js "notes.txt")) none).runOn
      emptyState).2.objects.map (·.bytes) = [[104, 105]] :=
  ⟨rfl, rfl, rfl, rfl⟩

end UploadService

end StudyOasis
