import StudyOasis.Ocr.Artifacts
import StudyOasis.Common.Exceptions

/-!
# The status that is reported

`getDocumentInfo` and `getDocuments` do not read the column `ocrStatus`: they report `completed`
when the document has a row in `ocr_results` and `pending` when it has none.

* `reported_iff_stored` : in every reachable state this is the status of the column exactly when the
  column says `pending` or `completed`, whatever the recognition has saved so far.
-/

namespace StudyOasis

/-! ### The status of one document -/

namespace OcrDocument

/-- `document.ocrResult ? 'completed' : 'pending'`. -/
def reportedStatus (s : OcrDocument) : OcrStatus :=
  if s.result.isSome then .completed else .pending

/-- The run has not written `processing`, or it has failed before or is over. -/
def Unsaved : SavePhase → Prop
  | .check => True
  | .markProcessing => True
  | .markFailed => True
  | .finished => True
  | _ => False

/-- A document is `pending` only as long as no run has started to work on it. -/
def Untouched (s : OcrDocument) : Prop :=
  s.status = .pending → s.result = none ∧ ∀ run phase, s.phaseOf run = some phase → Unsaved phase

variable {s s' : OcrDocument} {e : DocumentEvent}

/-- No step writes `pending`, and what leaves it is about to fail or has not begun. -/
theorem advance_pending {phase : SavePhase} {status : OcrStatus} {outcome : StepOutcome}
    {r : OcrStatus × OcrPhase} (h : phase.toPhase.advance status outcome = some r)
    (hr : r.1 = .pending) : status = .pending ∧ (Unsaved phase → Unsaved (.ofPhase r.2)) := by
  cases phase with
  | check =>
    cases outcome with
    | resolved =>
      obtain rfl := Option.some.inj h
      refine ⟨hr, fun _ => ?_⟩
      dsimp only
      split_ifs <;> trivial
    | rejected => cases h; exact ⟨hr, id⟩
    | rejectedLate => cases h; exact ⟨hr, id⟩
  | markProcessing => cases outcome <;> cases h <;> first | exact ⟨hr, id⟩ | cases hr
  | recognize => cases outcome <;> cases h <;> exact ⟨hr, False.elim⟩
  | saveResult x => cases outcome <;> cases h <;> exact ⟨hr, False.elim⟩
  | savePages x => cases outcome <;> cases h <;> exact ⟨hr, False.elim⟩
  | markCompleted => cases outcome <;> cases h <;> first | exact ⟨hr, False.elim⟩ | cases hr
  | markFailed => cases outcome <;> cases h <;> first | exact ⟨hr, id⟩ | cases hr
  | finished => cases h

theorem untouched_step (hs : s.Untouched) (h : s.step e = some s') : s'.Untouched := by
  intro hpending
  cases move_of_step h with
  | startInline hnone =>
    obtain ⟨hresult, hphases⟩ := hs hpending
    refine ⟨hresult, fun run phase hphase => ?_⟩
    rw [phaseOf_startInline] at hphase
    split_ifs at hphase
    · obtain rfl := Option.some.inj hphase
      trivial
    · exact hphases run phase hphase
  | startJob =>
    obtain ⟨hresult, hphases⟩ := hs hpending
    refine ⟨hresult, fun run phase hphase => ?_⟩
    rw [phaseOf_startJob] at hphase
    split_ifs at hphase
    · obtain rfl := Option.some.inj hphase
      trivial
    · exact hphases run phase hphase
  | recognized x hphase =>
    rw [setPhase_status] at hpending
    exact ((hs hpending).2 _ _ hphase).elim
  | @saveResult run x outcome hphase =>
    have hstatus : s.status = .pending := by
      cases outcome <;> simpa [write, saveResult] using hpending
    exact ((hs hstatus).2 _ _ hphase).elim
  | @savePages run x outcome hphase =>
    have hstatus : s.status = .pending := by
      cases outcome <;> simpa [write, savePages] using hpending
    exact ((hs hstatus).2 _ _ hphase).elim
  | @other run phase outcome r hphase _ _ hadv =>
    rw [setPhase_status] at hpending
    obtain ⟨hstatus, hunsaved⟩ := advance_pending hadv hpending
    obtain ⟨hresult, hphases⟩ := hs hstatus
    refine ⟨by rw [setPhase_result, hresult], fun other p hp => ?_⟩
    have hphase' : ({ s with status := r.1 } : OcrDocument).phaseOf run = some phase := hphase
    rw [phaseOf_setPhase hphase'] at hp
    split_ifs at hp
    · obtain rfl := Option.some.inj hp
      exact hunsaved (hphases run phase hphase)
    · exact hphases other p hp

/-- **What is reported of a document is its status exactly when that is `pending` or
`completed`.** -/
theorem reportedStatus_eq_iff {es : List DocumentEvent} (h : AnyRun step {} es s) :
    s.reportedStatus = s.status ↔ s.status = .pending ∨ s.status = .completed := by
  have hstart : ({} : OcrDocument).Untouched := fun _ =>
    ⟨rfl, fun run phase hphase => by cases run <;> simp [phaseOf] at hphase⟩
  have hs : s.Untouched := h.invariant hstart fun _ _ _ hs _ => untouched_step hs
  constructor
  · unfold reportedStatus
    split_ifs <;> simp_all
  · rintro (hp | hc)
    · simp [reportedStatus, (hs hp).1, hp]
    · simp [reportedStatus, result_of_completed h hc, hc]

end OcrDocument

/-! ### All documents -/

/-- A row of `documents` with its rows of the recognition. -/
structure DocumentEntry where
  id : String
  userId : Option String
  filename : JsString
  mimeType : Option JsString
  size : ℕ
  uploadedAt : ℤ
  publicUrl : Option JsString
  /-- `ocrStatus`, `ocrResult` and `ocrPages`. -/
  ocr : OcrDocument := {}
  /-- `processedAt` of the row of `ocr_results`, if there is one. -/
  processedAt : ℤ := 0
  deriving DecidableEq

/-- What happens to the documents. -/
inductive LibraryEvent where
  /-- An upload makes a row. -/
  | upload (id : String) (userId : Option String) (filename : JsString) (mimeType : Option JsString)
      (size : ℕ) (publicUrl : Option JsString)
  /-- The recognition of a document goes on. -/
  | ocr (id : String) (e : DocumentEvent)
  deriving DecidableEq

/-- The recognition of a document has gone on; a new row of `ocr_results` is dated. -/
def DocumentEntry.setOcr (d : DocumentEntry) (now : ℤ) (ocr : OcrDocument) : DocumentEntry :=
  { d with ocr, processedAt := if d.ocr.result.isNone then now else d.processedAt }

/-- One event at the time `now`. -/
def libraryStep (s : List DocumentEntry) (e : ℤ × LibraryEvent) : Option (List DocumentEntry) :=
  match e.2 with
  | .upload id userId filename mimeType size publicUrl =>
    if s.any fun d => d.id = id then none
    else some (s ++ [{ id, userId, filename, mimeType, size, uploadedAt := e.1, publicUrl }])
  | .ocr id event =>
    (s.find? (·.id = id)).bind fun d => (d.ocr.step event).map fun ocr =>
      s.map fun d' => if d'.id = id then d'.setOcr e.1 ocr else d'

namespace UploadController

/-- `ocrResult` of a `DocumentInfo`. -/
structure OcrSummary where
  confidence : ℚ
  language : String
  pageCount : ℕ
  processedAt : ℤ
  deriving DecidableEq

/-- What `getDocumentInfo` returns. -/
structure DocumentInfo where
  id : String
  filename : JsString
  mimeType : Option JsString
  size : ℕ
  uploadedAt : ℤ
  downloadUrl : Option JsString
  ocrStatus : OcrStatus
  ocrResult : Option OcrSummary
  deriving DecidableEq

/-- An element of what `getDocuments` returns. -/
structure DocumentItem where
  id : String
  filename : JsString
  mimeType : Option JsString
  size : ℕ
  uploadedAt : ℤ
  downloadUrl : Option JsString
  ocrStatus : OcrStatus
  ocrConfidence : Option ℚ
  ocrPageCount : Option ℕ
  deriving DecidableEq

/-- A document as `getDocumentInfo` shows it. -/
def infoOf (d : DocumentEntry) : DocumentInfo :=
  { id := d.id
    filename := d.filename
    mimeType := d.mimeType
    size := d.size
    uploadedAt := d.uploadedAt
    downloadUrl := d.publicUrl
    ocrStatus := d.ocr.reportedStatus
    ocrResult := d.ocr.result.map fun r => ⟨r.confidence, r.language, r.pageCount, d.processedAt⟩ }

/-- `getDocumentInfo`. -/
def getDocumentInfo (s : List DocumentEntry) (documentId : String) :
    Except BusinessException DocumentInfo :=
  match s.find? (·.id = documentId) with
  | none => .error ⟨.documentNotFound, "文档不存在: " ++ documentId, 404⟩
  | some d => .ok (infoOf d)

/-- A document as `getDocuments` shows it. -/
def itemOf (d : DocumentEntry) : DocumentItem :=
  { id := d.id
    filename := d.filename
    mimeType := d.mimeType
    size := d.size
    uploadedAt := d.uploadedAt
    downloadUrl := d.publicUrl
    ocrStatus := d.ocr.reportedStatus
    ocrConfidence := d.ocr.result.map (·.confidence)
    ocrPageCount := d.ocr.result.map (·.pageCount) }

/-- `take` of a query: a negative number takes from the end. -/
def takeRows {α : Type} (n : ℤ) (l : List α) : List α :=
  if 0 ≤ n then l.take n.toNat else l.drop (l.length - n.natAbs)

/-- `getDocuments`; `limit` is what `parseInt` makes of the query. -/
def getDocuments (s : List DocumentEntry) (userId : Option String) (limit : Option ℤ) :
    List DocumentItem :=
  let documents :=
    match userId.filter (· ≠ "") with
    | some userId => s.filter fun d => d.userId = some userId
    | none => s
  (takeRows (limit.getD 20) (orderByDesc (·.uploadedAt) documents)).map itemOf

/-- Both report the status of the document. -/
def ReportsStatus (s : List DocumentEntry) (d : DocumentEntry) : Prop :=
  (∀ info, getDocumentInfo s d.id = .ok info → info.ocrStatus = d.ocr.status) ∧
    ∀ userId limit, ∀ item ∈ getDocuments s userId limit, item.id = d.id →
      item.ocrStatus = d.ocr.status

/-! ### What is known of the documents -/

/-- The documents have different ids, and each has been recognised step by step. -/
structure Kept (s : List DocumentEntry) : Prop where
  distinct : s.Pairwise fun d d' => d.id ≠ d'.id
  run : ∀ d ∈ s, ∃ es, AnyRun OcrDocument.step {} es d.ocr

variable {s t : List DocumentEntry} {d : DocumentEntry} {e : ℤ × LibraryEvent}

theorem Kept.find_eq (hs : Kept s) (hd : d ∈ s) : s.find? (·.id = d.id) = some d := by
  obtain ⟨pre, post, rfl⟩ := List.append_of_mem hd
  have hdistinct := List.pairwise_append.1 hs.distinct
  rw [List.find?_append, List.find?_eq_none.2 fun d' hd' => ?_]
  · simp
  · simpa using hdistinct.2.2 d' hd' d List.mem_cons_self

theorem kept_step (hs : Kept s) (h : libraryStep s e = some t) : Kept t := by
  obtain ⟨now, e⟩ := e
  cases e with
  | upload id userId filename mimeType size publicUrl =>
    simp only [libraryStep] at h
    split_ifs at h with hnew
    obtain rfl := Option.some.inj h
    constructor
    · rw [List.pairwise_append]
      refine ⟨hs.distinct, List.pairwise_singleton _ _, fun d hd d' hd' => ?_⟩
      obtain rfl := List.mem_singleton.1 hd'
      intro hid
      exact hnew (List.any_eq_true.2 ⟨d, hd, by simpa using hid⟩)
    · intro d hd
      rcases List.mem_append.1 hd with hd | hd
      · exact hs.run d hd
      · obtain rfl := List.mem_singleton.1 hd
        exact ⟨[], .nil _⟩
  | ocr id event =>
    obtain ⟨d, hd, h⟩ := Option.bind_eq_some_iff.1 h
    obtain ⟨ocr, hocr, rfl⟩ := Option.map_eq_some_iff.1 h
    have hid : d.id = id := by simpa using List.find?_some hd
    constructor
    · refine List.pairwise_map.2 (hs.distinct.imp fun {a b} hab => ?_)
      -- the ids stay
      split_ifs <;> exact hab
    · intro d' hd'
      obtain ⟨d'', hd'', rfl⟩ := List.mem_map.1 hd'
      split_ifs with hid'
      · have hfound := hs.find_eq hd''
        rw [hid', hd] at hfound
        obtain rfl := Option.some.inj hfound
        obtain ⟨es, hes⟩ := hs.run d (List.mem_of_find?_eq_some hd)
        exact ⟨es ++ [event], hes.append (.single trivial hocr)⟩
      · exact hs.run d'' hd''

theorem kept_of_run {es : List (ℤ × LibraryEvent)} (h : AnyRun libraryStep [] es s) : Kept s :=
  h.invariant ⟨.nil, fun _ hd => absurd hd List.not_mem_nil⟩ fun _ _ _ hs _ => kept_step hs

theorem takeRows_subset {α : Type} (n : ℤ) (l : List α) : takeRows n l ⊆ l := by
  unfold takeRows
  split_ifs
  · exact List.take_subset _ _
  · exact List.drop_subset _ _

/-- What is listed is shown of a document that is there. -/
theorem exists_of_mem_getDocuments {userId : Option String} {limit : Option ℤ}
    {item : DocumentItem} (h : item ∈ getDocuments s userId limit) : ∃ d ∈ s, item = itemOf d := by
  obtain ⟨d, hd, rfl⟩ := List.mem_map.1 h
  have hd := orderByDesc_perm.mem_iff.1 (takeRows_subset _ _ hd)
  refine ⟨d, ?_, rfl⟩
  split at hd
  · exact List.mem_of_mem_filter hd
  · exact hd

/-- **The reported status is the stored one exactly when that is `pending` or `completed`**: for
every document in every state that uploads and the recognition, inline or queued, with all its
failures, can reach. -/
theorem reported_iff_stored {es : List (ℤ × LibraryEvent)} (h : AnyRun libraryStep [] es s)
    (hd : d ∈ s) : ReportsStatus s d ↔ d.ocr.status = .pending ∨ d.ocr.status = .completed := by
  have hs := kept_of_run h
  obtain ⟨es', hrun⟩ := hs.run d hd
  rw [← OcrDocument.reportedStatus_eq_iff hrun]
  have hinfo : getDocumentInfo s d.id = .ok (infoOf d) := by
    rw [getDocumentInfo, hs.find_eq hd]
  constructor
  · intro hreports
    exact hreports.1 _ hinfo
  · intro heq
    refine ⟨fun info hok => ?_, fun userId limit item hitem hid => ?_⟩
    · rw [hinfo] at hok
      obtain rfl := Except.ok.inj hok
      exact heq
    · obtain ⟨d', hd', rfl⟩ := exists_of_mem_getDocuments hitem
      have hfound := hs.find_eq hd'
      have hid' : d'.id = d.id := hid
      rw [hid', hs.find_eq hd] at hfound
      obtain rfl := Option.some.inj hfound
      exact heq

/-- A document is uploaded, and a job recognises it. -/
def recognizedUpload : List (ℤ × LibraryEvent) :=
  (0, .upload "d" none (js "notes.txt") none 1 none) ::
    OcrDocument.oneJob.map fun e => (1, .ocr "d" e)

/-- It is reported as completed. -/
theorem reported_iff_stored_recognized : ∃ s d, AnyRun libraryStep [] recognizedUpload s ∧ d ∈ s ∧
    d.ocr.status = .completed ∧ ReportsStatus s d := by
  have hruns : (recognizedUpload.foldlM libraryStep []).any (fun s =>
      s.any fun d => d.ocr.status = .completed) = true := by decide
  obtain ⟨s, hs, hend⟩ := (Option.any_eq_true _ _).1 hruns
  obtain ⟨d, hd, hstatus⟩ := List.any_eq_true.1 hend
  have hrun : AnyRun libraryStep [] recognizedUpload s := Run.of_foldlM hs
  have hcompleted : d.ocr.status = .completed := of_decide_eq_true hstatus
  exact ⟨s, d, hrun, hd, hcompleted, (reported_iff_stored hrun hd).2 (.inr hcompleted)⟩

/-- A job that cannot read its source: the document has failed, and is reported as pending. -/
theorem failed_reported_pending :
    ¬ ∀ (es : List (ℤ × LibraryEvent)) (s : List DocumentEntry) (d : DocumentEntry),
      AnyRun libraryStep [] es s → d ∈ s → ReportsStatus s d := by
  intro h
  have hrun : AnyRun libraryStep []
      [(0, .upload "d" none (js "notes.txt") none 1 none), (1, .ocr "d" .startJob),
        (2, .ocr "d" (.step (.job 0) .resolved)), (3, .ocr "d" (.step (.job 0) .resolved)),
        (4, .ocr "d" (.step (.job 0) .rejected)), (5, .ocr "d" (.step (.job 0) .resolved))] _ :=
    .cons trivial rfl (.cons trivial rfl (.cons trivial rfl (.cons trivial rfl (.cons trivial rfl
      (.single trivial rfl)))))
  have hbad := (h _ _ _ hrun List.mem_cons_self).1 _ rfl
  exact absurd hbad (by decide)

end UploadController

end StudyOasis
