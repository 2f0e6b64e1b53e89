import StudyOasis.Ocr.Pages
import StudyOasis.Ocr.Processor

/-!
# What the recognition saves

A run of the recognition saves its result and then its pages, in two steps, and the status in a
third.  Another run may save its own in between, and each step can be rejected, at once or after it
has taken effect.

* `result_of_completed` : a finished recognition always has a result;
* `agree_always_iff` : the pages belong to that result, in every state in which the recognition is
  finished, exactly on the schedules on which the result and the pages that are there were saved
  by the same run (`KeepsWhole`);
* `race_step` : the status and the phases move as in `ocrStep`.
-/

namespace StudyOasis

/-! ### What an OCR call returns -/

namespace VisionService

/-- `VisionService.buildPageContents`. -/
def buildPageContents (pages : List VisionPage) : List PageContent :=
  (pages.zipIdx 1).map fun p => ⟨p.2, extractPageText p.1⟩

/-- The pages are numbered from one on. -/
def Numbered (pages : List PageContent) : Prop :=
  pages.map (·.pageNumber) = List.range' 1 pages.length

theorem numbered_buildPageContents (pages : List VisionPage) :
    Numbered (buildPageContents pages) := by
  rw [Numbered, buildPageContents, List.map_map, List.length_map, List.length_zipIdx]
  exact List.zipIdx_map_snd 1 pages

/-- The next page gets the next number. -/
def Extraction.Counts (st : Extraction) : Prop :=
  Numbered st.pageContents ∧ st.nextPageNumber = st.pageContents.length + 1

theorem counts_readPage {ann : FullTextAnnotation} {st : Extraction} (h : st.Counts)
    (page : VisionPage) : (readPage ann st page).Counts := by
  obtain ⟨hnum, hnext⟩ := h
  obtain ⟨-, hpages, hnext'⟩ := readPage_eq ann st page
  constructor
  · rw [hpages, Numbered, List.map_append, hnum, List.length_append, List.length_singleton,
      List.range'_concat, hnext]
    simp [Nat.add_comm]
  · rw [hpages, hnext', hnext, List.length_append, List.length_singleton]

theorem counts_readResponse {st : Extraction} (h : st.Counts) (response : AnnotateImageResponse) :
    (readResponse st response).Counts := by
  unfold readResponse
  split
  · exact h
  · refine List.foldlRecOn _ _ ?_ fun st hst page _ => counts_readPage hst page
    split_ifs <;> exact h

/-- The pages of a PDF are numbered, whatever the output files are. -/
theorem numbered_foldl_readFile (files : List OutputFile) :
    Numbered (files.foldl readFile {}).pageContents := by
  have h : (files.foldl readFile {}).Counts := by
    refine List.foldlRecOn _ _ ⟨rfl, rfl⟩ fun st hst file _ => ?_
    exact List.foldlRecOn _ _ hst fun st hst response _ => counts_readResponse hst response
  exact h.1

end VisionService

/-- What an OCR call returns: the result and the pages. -/
structure Extracted where
  result : OcrResult
  pages : List PageContent
  numbered : VisionService.Numbered pages
  deriving DecidableEq

/-- The row of `ocr_results` : `normalizedPages.length || result.pageCount`. -/
def Extracted.row (x : Extracted) : OcrResult :=
  { x.result with
    pageCount := if x.pages.length ≠ 0 then x.pages.length else x.result.pageCount }

/-- The two steps of `persistOcrArtifacts`. -/
theorem persistOcrArtifacts_eq (db : OcrDb) (documentId : String) (x : Extracted) :
    VisionService.persistOcrArtifacts db documentId x.result x.pages =
      VisionService.saveOcrPages (VisionService.saveOcrResult db documentId x.row) documentId
        x.pages := rfl

/-! ### The rows of a document -/

namespace OcrDb

/-- The row of `ocr_results` of a document. -/
def resultOf (db : OcrDb) (documentId : String) : Option OcrResult :=
  (db.ocrResult.find? (·.1 = documentId)).map (·.2)

/-- The rows of `ocr_pages` of a document. -/
def pagesOf (db : OcrDb) (documentId : String) : List PageContent :=
  (db.ocrPage.filter (·.documentId = documentId)).map fun row => ⟨row.pageNumber, row.content⟩

variable (db : OcrDb) {documentId other : String}

/-- `saveOcrResult` sets the result of the document and touches nothing else. -/
theorem resultOf_saveOcrResult (result : OcrResult) :
    (VisionService.saveOcrResult db documentId result).resultOf other =
        (if other = documentId then some result else db.resultOf other) ∧
      (VisionService.saveOcrResult db documentId result).pagesOf other = db.pagesOf other := by
  refine ⟨?_, rfl⟩
  rw [resultOf, VisionService.saveOcrResult, List.find?_append]
  by_cases h : other = documentId
  · subst h
    have hnone : (db.ocrResult.filter (·.1 ≠ other)).find? (·.1 = other) = none := by
      rw [List.find?_eq_none]
      intro p hp
      simpa using (List.mem_filter.1 hp).2
    rw [hnone]
    simp
  · rw [if_neg h]
    have hsame : (db.ocrResult.filter (·.1 ≠ documentId)).find? (·.1 = other) =
        db.ocrResult.find? (·.1 = other) := by
      rw [List.find?_filter]
      congr 1
      funext p
      by_cases hp : p.1 = other <;> simp [hp, h]
    rw [hsame, resultOf]
    cases db.ocrResult.find? (·.1 = other) with
    | some p => rfl
    | none => simp [Ne.symm h]

/-- `saveOcrPages` replaces the pages of the document and touches nothing else. -/
theorem pagesOf_saveOcrPages (pages : List PageContent) :
    (VisionService.saveOcrPages db documentId pages).pagesOf other =
        (if other = documentId then pages else db.pagesOf other) ∧
      (VisionService.saveOcrPages db documentId pages).resultOf other = db.resultOf other := by
  refine ⟨?_, rfl⟩
  rw [pagesOf, VisionService.saveOcrPages, List.filter_append, List.filter_filter]
  by_cases h : other = documentId
  · subst h
    simp [List.filter_map, Function.comp_def]
  · rw [if_neg h]
    have hsame : (fun row : OcrPage =>
        decide (row.documentId = other) && decide (row.documentId ≠ documentId)) =
          fun row => decide (row.documentId = other) := by
      funext row
      by_cases hrow : row.documentId = other
      · simp [hrow, h]
      · simp [hrow]
    rw [hsame, pagesOf]
    simp [List.filter_map, Function.comp_def, Ne.symm h]

end OcrDb

/-! ### The runs on one document -/

/-- A run of the recognition. -/
inductive RunId where
  /-- `processOcrInline`. -/
  | inline
  /-- An execution of `handleExtractText`. -/
  | job (n : ℕ)
  deriving DecidableEq, Repr

/-- How far a run has come. -/
inductive SavePhase where
  /-- About to read the status. -/
  | check
  /-- About to write `processing`. -/
  | markProcessing
  /-- Reading the source and extracting its text. -/
  | recognize
  /-- In `saveOcrResult`. -/
  | saveResult (x : Extracted)
  /-- In `saveOcrPages`. -/
  | savePages (x : Extracted)
  /-- About to write `completed`. -/
  | markCompleted
  /-- In the `catch` block, about to write `failed`. -/
  | markFailed
  /-- Returned or thrown. -/
  | finished
  deriving DecidableEq

namespace SavePhase

/-- The phase, without the saving. -/
def toPhase : SavePhase → OcrPhase
  | check => .check
  | markProcessing => .markProcessing
  | recognize => .recognize
  | saveResult _ => .recognize
  | savePages _ => .recognize
  | markCompleted => .markCompleted
  | markFailed => .markFailed
  | finished => .finished

/-- The phase in which nothing has been saved yet. -/
def ofPhase : OcrPhase → SavePhase
  | .check => check
  | .markProcessing => markProcessing
  | .recognize => recognize
  | .markCompleted => markCompleted
  | .markFailed => markFailed
  | .finished => finished

/-- What the run is about to save. -/
def saving : SavePhase → Option Extracted
  | saveResult x => some x
  | savePages x => some x
  | _ => none

/-- The OCR call has not returned. -/
def early : SavePhase → Bool
  | check => true
  | markProcessing => true
  | recognize => true
  | _ => false

/-- The result has been saved. -/
def hasSaved : SavePhase → Bool
  | savePages _ => true
  | markCompleted => true
  | _ => false

@[simp] theorem toPhase_ofPhase (phase : OcrPhase) : (ofPhase phase).toPhase = phase := by
  cases phase <;> rfl

end SavePhase

/-- The rows of one document and the runs of its recognition. -/
structure OcrDocument where
  /-- `ocrStatus`. -/
  status : OcrStatus := .pending
  /-- Its row of `ocr_results`. -/
  result : Option OcrResult := none
  /-- Its rows of `ocr_pages`. -/
  pages : List PageContent := []
  /-- `processOcrInline`, once it is started. -/
  inline : Option SavePhase := none
  /-- The executions of `handleExtractText`. -/
  jobs : List SavePhase := []
  /-- History: what the OCR calls of the runs returned. -/
  returned : List (RunId × Extracted) := []
  /-- History: the run that saved the result. -/
  resultBy : Option RunId := none
  /-- History: the run that saved the pages, if there are any. -/
  pagesBy : Option RunId := none
  deriving DecidableEq

/-- What happens to a document. -/
inductive DocumentEvent where
  /-- `processOcrInline` is called. -/
  | startInline
  /-- Bull runs the job, for the first time or once more. -/
  | startJob
  /-- The OCR call of a run returns. -/
  | recognized (run : RunId) (x : Extracted)
  /-- Another step of a run. -/
  | step (run : RunId) (outcome : StepOutcome)
  deriving DecidableEq

namespace OcrDocument

/-- The phase of a run. -/
def phaseOf (s : OcrDocument) : RunId → Option SavePhase
  | .inline => s.inline
  | .job n => s.jobs[n]?

/-- A run that has started goes on. -/
def setPhase (s : OcrDocument) (run : RunId) (phase : SavePhase) : OcrDocument :=
  match run with
  | .inline => { s with inline := some phase }
  | .job n => { s with jobs := s.jobs.set n phase }

/-- `saveOcrResult`. -/
def saveResult (s : OcrDocument) (run : RunId) (x : Extracted) : OcrDocument :=
  { s with result := some x.row, resultBy := some run }

/-- `saveOcrPages`: a transaction. -/
def savePages (s : OcrDocument) (run : RunId) (x : Extracted) : OcrDocument :=
  { s with pages := x.pages, pagesBy := if x.pages = [] then none else some run }

/-- A write that leads to `next`, or to the `catch` block. -/
def write (s written : OcrDocument) (run : RunId) (next : SavePhase) : StepOutcome → OcrDocument
  | .resolved => written.setPhase run next
  | .rejected => s.setPhase run .markFailed
  | .rejectedLate => written.setPhase run .markFailed

/-- A step of a run that does not return from the OCR call. -/
def advance (s : OcrDocument) (run : RunId) (outcome : StepOutcome) :
    SavePhase → Option OcrDocument
  | .saveResult x => some (s.write (s.saveResult run x) run (.savePages x) outcome)
  | .savePages x => some (s.write (s.savePages run x) run .markCompleted outcome)
  | .recognize => if outcome = .resolved then none else some (s.setPhase run .markFailed)
  | phase => (phase.toPhase.advance s.status outcome).map fun r =>
      { s with status := r.1 }.setPhase run (.ofPhase r.2)

/-- One event. -/
def step (s : OcrDocument) : DocumentEvent → Option OcrDocument
  | .startInline =>
    if s.inline.isNone then some { s with inline := some .markProcessing } else none
  | .startJob => some { s with jobs := s.jobs ++ [.check] }
  | .recognized run x =>
    if s.phaseOf run = some .recognize then
      some ({ s with returned := (run, x) :: s.returned }.setPhase run (.saveResult x))
    else none
  | .step run outcome => (s.phaseOf run).bind (s.advance run outcome)

/-- The document as the machine of its status sees it. -/
def race (s : OcrDocument) : OcrRace :=
  ⟨s.status, s.inline.map SavePhase.toPhase, s.jobs.map SavePhase.toPhase⟩

/-! ### Phases -/

section

variable (s : OcrDocument) (run : RunId) (phase : SavePhase)

@[simp] theorem setPhase_status : (s.setPhase run phase).status = s.status := by cases run <;> rfl

@[simp] theorem setPhase_result : (s.setPhase run phase).result = s.result := by cases run <;> rfl

@[simp] theorem setPhase_pages : (s.setPhase run phase).pages = s.pages := by cases run <;> rfl

@[simp] theorem setPhase_returned : (s.setPhase run phase).returned = s.returned := by
  cases run <;> rfl

@[simp] theorem setPhase_resultBy : (s.setPhase run phase).resultBy = s.resultBy := by
  cases run <;> rfl

@[simp] theorem setPhase_pagesBy : (s.setPhase run phase).pagesBy = s.pagesBy := by
  cases run <;> rfl

end

variable {s s' : OcrDocument} {run : RunId} {phase : SavePhase} {e : DocumentEvent}

/-- The run that goes on is in its new phase, the others stay where they are. -/
theorem phaseOf_setPhase {old : SavePhase} (h : s.phaseOf run = some old) (other : RunId) :
    (s.setPhase run phase).phaseOf other =
      if other = run then some phase else s.phaseOf other := by
  cases run with
  | inline => cases other <;> simp [setPhase, phaseOf]
  | job n =>
    cases other with
    | inline => simp [setPhase, phaseOf]
    | job m =>
      obtain ⟨hn, -⟩ := List.getElem?_eq_some_iff.1 h
      by_cases hm : m = n
      · subst hm
        simp [setPhase, phaseOf, hn]
      · simp [setPhase, phaseOf, hm, List.getElem?_set_ne (Ne.symm hm)]

/-- A run that starts is in its first phase, the others stay where they are. -/
theorem phaseOf_startInline (s : OcrDocument) (phase : SavePhase) (other : RunId) :
    ({ s with inline := some phase } : OcrDocument).phaseOf other =
      if other = .inline then some phase else s.phaseOf other := by
  cases other <;> rfl

theorem phaseOf_startJob (s : OcrDocument) (phase : SavePhase) (other : RunId) :
    ({ s with jobs := s.jobs ++ [phase] } : OcrDocument).phaseOf other =
      if other = .job s.jobs.length then some phase else s.phaseOf other := by
  cases other with
  | inline => rfl
  | job n =>
    by_cases hn : n = s.jobs.length
    · subst hn
      simp [phaseOf]
    · simp only [phaseOf, RunId.job.injEq, hn, if_false]
      rcases Nat.lt_or_gt_of_ne hn with hlt | hgt
      · exact List.getElem?_append_left hlt
      · rw [List.getElem?_eq_none (by simp; omega), List.getElem?_eq_none hgt.le]

/-- A step of a run, as an event of the machine of the status. -/
def toEvent (outcome : StepOutcome) : RunId → OcrEvent
  | .inline => .inlineStep outcome
  | .job n => .jobStep n outcome

theorem race_setPhase {old : SavePhase} (h : s.phaseOf run = some old)
    (hsame : phase.toPhase = old.toPhase) : (s.setPhase run phase).race = s.race := by
  cases run with
  | inline =>
    have h : s.inline = some old := h
    simp [race, setPhase, h, hsame]
  | job n =>
    have h : s.jobs[n]? = some old := h
    simp only [race, setPhase, List.map_set, OcrRace.mk.injEq, true_and, hsame]
    refine List.ext_getElem? fun m => ?_
    by_cases hm : n = m
    · subst hm
      obtain ⟨hn, hold⟩ := List.getElem?_eq_some_iff.1 h
      simp [hn, hold]
    · rw [List.getElem?_set_ne hm]

/-- A step of a run is a step of the machine of the status. -/
theorem ocrStep_race {old : SavePhase} {outcome : StepOutcome} {r : OcrStatus × OcrPhase}
    (h : s.phaseOf run = some old) (hadv : old.toPhase.advance s.status outcome = some r)
    (hphase : phase.toPhase = r.2) :
    ocrStep s.race (toEvent outcome run) =
      some (({ s with status := r.1 } : OcrDocument).setPhase run phase).race := by
  cases run with
  | inline =>
    have h : s.inline = some old := h
    simp [ocrStep, toEvent, race, setPhase, h, hadv, hphase]
  | job n =>
    have h : s.jobs[n]? = some old := h
    simp [ocrStep, toEvent, race, setPhase, h, hadv, hphase, List.map_set]

/-! ### What an event does -/

/-- What an event consists of. -/
inductive Move (s : OcrDocument) : DocumentEvent → OcrDocument → Prop
  /-- `processOcrInline` is called. -/
  | startInline : s.inline = none → Move s .startInline { s with inline := some .markProcessing }
  /-- Bull runs the job. -/
  | startJob : Move s .startJob { s with jobs := s.jobs ++ [.check] }
  /-- The OCR call returns. -/
  | recognized {run : RunId} (x : Extracted) : s.phaseOf run = some .recognize →
      Move s (.recognized run x)
        ({ s with returned := (run, x) :: s.returned }.setPhase run (.saveResult x))
  /-- The result is saved, or not. -/
  | saveResult {run : RunId} {x : Extracted} (outcome : StepOutcome) :
      s.phaseOf run = some (.saveResult x) →
        Move s (.step run outcome) (s.write (s.saveResult run x) run (.savePages x) outcome)
  /-- The pages are saved, or not. -/
  | savePages {run : RunId} {x : Extracted} (outcome : StepOutcome) :
      s.phaseOf run = some (.savePages x) →
        Move s (.step run outcome) (s.write (s.savePages run x) run .markCompleted outcome)
  /-- A step that saves neither. -/
  | other {run : RunId} {phase : SavePhase} {outcome : StepOutcome} {r : OcrStatus × OcrPhase} :
      s.phaseOf run = some phase → phase.saving = none →
        (phase = .recognize → outcome ≠ .resolved) →
          phase.toPhase.advance s.status outcome = some r →
            Move s (.step run outcome) ({ s with status := r.1 }.setPhase run (.ofPhase r.2))

theorem move_of_step (h : s.step e = some s') : Move s e s' := by
  cases e with
  | startInline =>
    simp only [step] at h
    split_ifs at h with hnone
    obtain rfl := Option.some.inj h
    exact .startInline (Option.isNone_iff_eq_none.1 hnone)
  | startJob =>
    obtain rfl := Option.some.inj h
    exact .startJob
  | recognized run x =>
    simp only [step] at h
    split_ifs at h with hphase
    obtain rfl := Option.some.inj h
    exact .recognized x hphase
  | step run outcome =>
    obtain ⟨phase, hphase, hadv⟩ := Option.bind_eq_some_iff.1 h
    have hother (hs : phase.saving = none) (hr : phase = .recognize → outcome ≠ .resolved)
        (hadv : ((phase.toPhase.advance s.status outcome).map fun r =>
          ({ s with status := r.1 } : OcrDocument).setPhase run (.ofPhase r.2)) = some s') :
        Move s (.step run outcome) s' := by
      obtain ⟨r, hr', rfl⟩ := Option.map_eq_some_iff.1 hadv
      exact .other hphase hs hr hr'
    cases phase with
    | saveResult x =>
      obtain rfl := Option.some.inj hadv
      exact .saveResult outcome hphase
    | savePages x =>
      obtain rfl := Option.some.inj hadv
      exact .savePages outcome hphase
    | recognize =>
      cases outcome with
      | resolved => cases hadv
      | rejected => exact hother rfl (fun _ => nofun) hadv
      | rejectedLate => exact hother rfl (fun _ => nofun) hadv
    | check => exact hother rfl nofun hadv
    | markProcessing => exact hother rfl nofun hadv
    | markCompleted => exact hother rfl nofun hadv
    | markFailed => exact hother rfl nofun hadv
    | finished => exact hother rfl nofun hadv

/-- **The status moves as in the machine of the status**: an event is one of its events there, or
the run goes on with the recognition. -/
theorem race_step (h : s.step e = some s') :
    s'.race = s.race ∨ ∃ e', ocrStep s.race e' = some s'.race := by
  cases move_of_step h with
  | startInline hnone =>
    exact .inr ⟨.startInline, by simp [ocrStep, race, hnone, SavePhase.toPhase]⟩
  | startJob => exact .inr ⟨.startJob, by simp [ocrStep, race, SavePhase.toPhase]⟩
  | recognized x hphase => exact .inl (race_setPhase hphase rfl)
  | @saveResult run x outcome hphase =>
    have hrejected : ocrStep s.race (toEvent .rejected run) =
        some (s.setPhase run .markFailed).race :=
      ocrStep_race (r := (s.status, .markFailed)) hphase rfl rfl
    cases outcome with
    | resolved => exact .inl (race_setPhase hphase rfl)
    | rejected => exact .inr ⟨_, hrejected⟩
    | rejectedLate =>
      -- the result is not part of that machine
      refine .inr ⟨_, hrejected.trans ?_⟩
      cases run <;> rfl
  | @savePages run x outcome hphase =>
    have hresolved : ocrStep s.race (toEvent .resolved run) =
        some (s.setPhase run .markCompleted).race :=
      ocrStep_race (r := (s.status, .markCompleted)) hphase rfl rfl
    have hrejected : ocrStep s.race (toEvent .rejected run) =
        some (s.setPhase run .markFailed).race :=
      ocrStep_race (r := (s.status, .markFailed)) hphase rfl rfl
    cases outcome with
    | resolved =>
      refine .inr ⟨_, hresolved.trans ?_⟩
      cases run <;> rfl
    | rejected => exact .inr ⟨_, hrejected⟩
    | rejectedLate =>
      refine .inr ⟨_, hrejected.trans ?_⟩
      cases run <;> rfl
  | other hphase _ _ hadv => exact .inr ⟨_, ocrStep_race hphase hadv (by simp)⟩

/-! ### Where the rows come from -/

/-- The rows were saved by runs whose OCR calls returned them; a run that is past its
`saveOcrResult` leaves a result behind, and so does a finished recognition. -/
structure Recorded (s : OcrDocument) : Prop where
  saving : ∀ run phase x, s.phaseOf run = some phase → phase.saving = some x →
    (run, x) ∈ s.returned
  late : ∀ run x, (run, x) ∈ s.returned → ∃ phase, s.phaseOf run = some phase ∧
    phase.early = false
  unique : ∀ run x y, (run, x) ∈ s.returned → (run, y) ∈ s.returned → x = y
  result : ∀ run, s.resultBy = some run → ∃ x, (run, x) ∈ s.returned ∧ s.result = some x.row
  pages : ∀ run, s.pagesBy = some run →
    ∃ x, (run, x) ∈ s.returned ∧ s.pages = x.pages ∧ x.pages ≠ []
  noPages : s.pagesBy = none → s.pages = []
  saved : ∀ run phase, s.phaseOf run = some phase → phase.hasSaved = true →
    s.resultBy.isSome = true
  completed : s.status = .completed → s.resultBy.isSome = true

/-- A run goes on to a phase in which it belongs. -/
theorem Recorded.setPhase (hs : s.Recorded) {old : SavePhase} (hold : s.phaseOf run = some old)
    (hsaving : ∀ x, phase.saving = some x → (run, x) ∈ s.returned)
    (hearly : phase.early = true → old.early = true)
    (hsaved : phase.hasSaved = true → s.resultBy.isSome = true) :
    (s.setPhase run phase).Recorded := by
  constructor <;> simp only [setPhase_status, setPhase_result, setPhase_pages, setPhase_returned,
    setPhase_resultBy, setPhase_pagesBy, phaseOf_setPhase hold]
  case saving =>
    intro other p x hp hx
    split_ifs at hp with hother
    · obtain rfl := Option.some.inj hp
      rw [hother]
      exact hsaving x hx
    · exact hs.saving other p x hp hx
  case late =>
    intro other x hx
    obtain ⟨p, hp, hlate⟩ := hs.late other x hx
    by_cases hother : other = run
    · subst hother
      obtain rfl := Option.some.inj (hold.symm.trans hp)
      refine ⟨phase, if_pos rfl, ?_⟩
      by_contra hcontra
      rw [hearly (by simpa using hcontra)] at hlate
      cases hlate
    · exact ⟨p, by rw [if_neg hother, hp], hlate⟩
  case unique => exact hs.unique
  case result => exact hs.result
  case pages => exact hs.pages
  case noPages => exact hs.noPages
  case saved =>
    intro other p hp hsav
    split_ifs at hp with hother
    · obtain rfl := Option.some.inj hp
      exact hsaved hsav
    · exact hs.saved other p hp hsav
  case completed => exact hs.completed

/-- A run that fails. -/
theorem Recorded.markFailed (hs : s.Recorded) {old : SavePhase} (hold : s.phaseOf run = some old) :
    (s.setPhase run .markFailed).Recorded := by
  refine hs.setPhase hold ?_ ?_ ?_
  · intro x hx
    cases hx
  · intro hearly
    cases hearly
  · intro hsaved
    cases hsaved

theorem Recorded.saveResult (hs : s.Recorded) {x : Extracted} (hx : (run, x) ∈ s.returned) :
    (s.saveResult run x).Recorded :=
  { hs with
    result := fun run' h => by
      obtain rfl := Option.some.inj h
      exact ⟨x, hx, rfl⟩
    saved := fun _ _ _ _ => rfl
    completed := fun _ => rfl }

theorem Recorded.savePages (hs : s.Recorded) {x : Extracted} (hx : (run, x) ∈ s.returned) :
    (s.savePages run x).Recorded := by
  refine { hs with pages := ?_, noPages := ?_ }
  · intro run' h
    simp only [OcrDocument.savePages] at h ⊢
    split_ifs at h with hnil
    obtain rfl := Option.some.inj h
    exact ⟨x, hx, rfl, hnil⟩
  · intro h
    simp only [OcrDocument.savePages] at h ⊢
    split_ifs at h with hnil
    exact hnil

theorem Recorded.setStatus (hs : s.Recorded) {status : OcrStatus}
    (h : status = .completed → s.resultBy.isSome = true) :
    ({ s with status } : OcrDocument).Recorded := { hs with completed := h }

/-- A run that starts. -/
theorem Recorded.start (hs : s.Recorded) (hnone : s.phaseOf run = none)
    {inline : Option SavePhase} {jobs : List SavePhase}
    (hphase : ∀ other, ({ s with inline, jobs } : OcrDocument).phaseOf other =
      if other = run then some phase else s.phaseOf other)
    (hsaving : phase.saving = none) (hsaved : phase.hasSaved = false) :
    ({ s with inline, jobs } : OcrDocument).Recorded := by
  refine { hs with saving := ?_, late := ?_, saved := ?_ } <;> simp only [hphase]
  · intro other p x hp hx
    split_ifs at hp with hother
    · obtain rfl := Option.some.inj hp
      rw [hsaving] at hx
      cases hx
    · exact hs.saving other p x hp hx
  · intro other x hx
    obtain ⟨p, hp, hlate⟩ := hs.late other x hx
    refine ⟨p, ?_, hlate⟩
    rw [if_neg, hp]
    rintro rfl
    rw [hnone] at hp
    cases hp
  · intro other p hp hsav
    split_ifs at hp with hother
    · obtain rfl := Option.some.inj hp
      rw [hsaved] at hsav
      cases hsav
    · exact hs.saved other p hp hsav

/-- The OCR call of a run returns. -/
theorem Recorded.recognized (hs : s.Recorded) (hphase : s.phaseOf run = some .recognize)
    (x : Extracted) :
    ({ s with returned := (run, x) :: s.returned }.setPhase run (.saveResult x)).Recorded := by
  have hfirst : ∀ y, (run, y) ∉ s.returned := by
    intro y hy
    obtain ⟨p, hp, hlate⟩ := hs.late run y hy
    obtain rfl := Option.some.inj (hphase.symm.trans hp)
    cases hlate
  have hphase' : ({ s with returned := (run, x) :: s.returned } : OcrDocument).phaseOf run =
      some .recognize := hphase
  constructor <;> simp only [setPhase_status, setPhase_result, setPhase_pages, setPhase_returned,
    setPhase_resultBy, setPhase_pagesBy, phaseOf_setPhase hphase', List.mem_cons, Prod.mk.injEq]
  case saving =>
    intro other p y hp hy
    split_ifs at hp with hother
    · obtain rfl := Option.some.inj hp
      obtain rfl := Option.some.inj hy
      exact .inl ⟨hother, rfl⟩
    · exact .inr (hs.saving other p y hp hy)
  case late =>
    rintro other y (⟨rfl, rfl⟩ | hy)
    · exact ⟨_, if_pos rfl, rfl⟩
    · obtain ⟨p, hp, hlate⟩ := hs.late other y hy
      refine ⟨p, ?_, hlate⟩
      rw [if_neg]
      · exact hp
      · rintro rfl
        exact hfirst y hy
  case unique =>
    rintro other y z (⟨rfl, rfl⟩ | hy) (⟨hother, rfl⟩ | hz)
    · rfl
    · exact absurd hz (hfirst z)
    · exact absurd (hother ▸ hy) (hfirst y)
    · exact hs.unique other y z hy hz
  case result =>
    intro other h
    obtain ⟨y, hy, hrow⟩ := hs.result other h
    exact ⟨y, .inr hy, hrow⟩
  case pages =>
    intro other h
    obtain ⟨y, hy, hrow⟩ := hs.pages other h
    exact ⟨y, .inr hy, hrow⟩
  case noPages => exact hs.noPages
  case saved =>
    intro other p hp hsav
    split_ifs at hp with hother
    · obtain rfl := Option.some.inj hp
      cases hsav
    · exact hs.saved other p hp hsav
  case completed => exact hs.completed

/-- No run goes back in front of its OCR call. -/
theorem early_of_advance {status : OcrStatus} {outcome : StepOutcome} {r : OcrStatus × OcrPhase}
    (hsaving : phase.saving = none) (h : phase.toPhase.advance status outcome = some r)
    (hr : (SavePhase.ofPhase r.2).early = true) : phase.early = true := by
  cases phase with
  | check => rfl
  | markProcessing => rfl
  | recognize => rfl
  | saveResult x => cases hsaving
  | savePages x => cases hsaving
  | markCompleted => cases outcome <;> cases h <;> cases hr
  | markFailed => cases outcome <;> cases h <;> cases hr
  | finished => cases h

/-- In the machine of the status only the end of the recognition leads to `markCompleted`. -/
theorem recognize_of_hasSaved {status : OcrStatus} {outcome : StepOutcome}
    {r : OcrStatus × OcrPhase} (hsaving : phase.saving = none)
    (h : phase.toPhase.advance status outcome = some r)
    (hr : (SavePhase.ofPhase r.2).hasSaved = true) : phase = .recognize ∧ outcome = .resolved := by
  cases phase with
  | check =>
    cases outcome with
    | resolved =>
      obtain rfl := Option.some.inj h
      dsimp only at hr
      split_ifs at hr <;> cases hr
    | rejected => cases h; cases hr
    | rejectedLate => cases h; cases hr
  | markProcessing => cases outcome <;> cases h <;> cases hr
  | recognize =>
    cases outcome with
    | resolved => exact ⟨rfl, rfl⟩
    | rejected => cases h; cases hr
    | rejectedLate => cases h; cases hr
  | saveResult x => cases hsaving
  | savePages x => cases hsaving
  | markCompleted => cases outcome <;> cases h <;> cases hr
  | markFailed => cases outcome <;> cases h <;> cases hr
  | finished => cases h

theorem recorded_step (hs : s.Recorded) (h : s.step e = some s') : s'.Recorded := by
  cases move_of_step h with
  | startInline hnone =>
    have hnone' : s.phaseOf .inline = none := hnone
    exact hs.start hnone' (phaseOf_startInline s .markProcessing) rfl rfl
  | startJob =>
    have hnone : s.phaseOf (.job s.jobs.length) = none := List.getElem?_eq_none le_rfl
    exact hs.start hnone (phaseOf_startJob s .check) rfl rfl
  | recognized x hphase => exact hs.recognized hphase x
  | @saveResult run x outcome hphase =>
    have hx : (run, x) ∈ s.returned := hs.saving run _ x hphase rfl
    cases outcome with
    | resolved =>
      refine (hs.saveResult hx).setPhase hphase ?_ ?_ fun _ => rfl
      · rintro y ⟨⟩
        exact hx
      · intro hearly
        cases hearly
    | rejected => exact hs.markFailed hphase
    | rejectedLate => exact (hs.saveResult hx).markFailed hphase
  | @savePages run x outcome hphase =>
    have hx : (run, x) ∈ s.returned := hs.saving run _ x hphase rfl
    cases outcome with
    | resolved =>
      refine (hs.savePages hx).setPhase hphase ?_ ?_ fun _ => hs.saved run _ hphase rfl
      · intro y hy
        cases hy
      · intro hearly
        cases hearly
    | rejected => exact hs.markFailed hphase
    | rejectedLate => exact (hs.savePages hx).markFailed hphase
  | @other run phase outcome r hphase hsaving hrec hadv =>
    have hstatus : r.1 = .completed → s.resultBy.isSome = true := by
      intro hr
      by_cases hc : s.status = .completed
      · exact hs.completed hc
      · -- only a run that has saved its result writes `completed`
        obtain ⟨hmark, -⟩ := advance_completed hc hadv hr
        cases phase with
        | markCompleted => exact hs.saved run _ hphase rfl
        | _ => cases hmark
    refine (hs.setStatus hstatus).setPhase hphase ?_ ?_ ?_
    · intro x hx
      cases hr : r.2 <;> rw [hr] at hx <;> cases hx
    · exact early_of_advance hsaving hadv
    · intro hsaved
      obtain ⟨rfl, rfl⟩ := recognize_of_hasSaved hsaving hadv hsaved
      exact absurd rfl (hrec rfl)

/-! ### When result and pages agree -/

/-- There is a result, and there are no pages or exactly the pages that belong to it: those of the
same OCR call, numbered from one to its page count. -/
def Agree (s : OcrDocument) : Prop :=
  ∃ run x, (run, x) ∈ s.returned ∧ s.resultBy = some run ∧ s.result = some x.row ∧
    (s.pages = [] ∨ s.pagesBy = some run ∧ s.pages = x.pages ∧
      s.pages.map (·.pageNumber) = List.range' 1 x.row.pageCount)

/-- The artifacts of a finished recognition agree. -/
def AgreeIfCompleted (s : OcrDocument) : Prop := s.status = .completed → s.Agree

/-- The result and the pages that are there were saved by the same run. -/
def Whole (s : OcrDocument) : Prop := s.pagesBy = none ∨ s.pagesBy = s.resultBy

/-- The step that a run is about to take leaves no finished recognition with artifacts of two
runs. -/
def StaysWhole (s : OcrDocument) (run : RunId) : SavePhase → Prop
  | .saveResult _ => s.status = .completed → s.pagesBy = none ∨ s.pagesBy = some run
  | .savePages x => s.status = .completed → x.pages = [] ∨ s.resultBy = some run
  | .markCompleted => s.pagesBy = none ∨ s.pagesBy = s.resultBy
  | _ => True

/-- Behind a finished recognition no run saves its result over the pages of another one or its
pages under the result of another one, and `completed` is written when the result and the pages
are those of one run. -/
def KeepsWhole (s : OcrDocument) : DocumentEvent → Prop
  | .step run outcome => outcome ≠ .rejected → ∀ phase ∈ s.phaseOf run, s.StaysWhole run phase
  | _ => True

instance (s : OcrDocument) (run : RunId) (phase : SavePhase) :
    Decidable (s.StaysWhole run phase) := by
  cases phase <;> unfold StaysWhole <;> infer_instance

instance (s : OcrDocument) (e : DocumentEvent) : Decidable (s.KeepsWhole e) := by
  cases e <;> unfold KeepsWhole <;> infer_instance

theorem agree_iff (hs : s.Recorded) (hresult : s.resultBy.isSome = true) : s.Agree ↔ s.Whole := by
  constructor
  · rintro ⟨run, x, -, hby, -, hnil | ⟨hpages, -, -⟩⟩
    · left
      by_contra hne
      obtain ⟨run', hrun'⟩ := Option.ne_none_iff_exists'.1 hne
      obtain ⟨y, -, hpages, hne'⟩ := hs.pages run' hrun'
      exact hne' (hpages ▸ hnil)
    · exact .inr (hpages.trans hby.symm)
  · intro hw
    obtain ⟨run, hrun⟩ := Option.isSome_iff_exists.1 hresult
    obtain ⟨x, hx, hrow⟩ := hs.result run hrun
    refine ⟨run, x, hx, hrun, hrow, ?_⟩
    rcases hw with hnone | hsame
    · exact .inl (hs.noPages hnone)
    · have hby : s.pagesBy = some run := hsame.trans hrun
      obtain ⟨y, hy, hpages, hne⟩ := hs.pages run hby
      obtain rfl := hs.unique run x y hx hy
      refine .inr ⟨hby, hpages, ?_⟩
      rw [hpages, Extracted.row, if_pos (by simpa using hne)]
      exact x.numbered

/-- Only a run that is about to write `completed` writes it. -/
theorem whole_other {status : OcrStatus} {outcome : StepOutcome} {r : OcrStatus × OcrPhase}
    (hsaving : phase.saving = none) (h : phase.toPhase.advance status outcome = some r) :
    (phase = .markCompleted ∧ outcome ≠ .rejected ∧ r.1 = .completed) ∨
      ((phase ≠ .markCompleted ∨ outcome = .rejected) ∧
        (r.1 = .completed → status = .completed)) := by
  by_cases hr : r.1 = .completed
  · by_cases hc : status = .completed
    · by_cases hmark : phase = .markCompleted ∧ outcome ≠ .rejected
      · exact .inl ⟨hmark.1, hmark.2, hr⟩
      · refine .inr ⟨?_, fun _ => hc⟩
        tauto
    · obtain ⟨hmark, hout⟩ := advance_completed hc h hr
      have hphase : phase = .markCompleted := by
        cases phase <;> first | rfl | cases hmark
      refine .inl ⟨hphase, ?_, hr⟩
      rcases hout with rfl | ⟨rfl, -⟩ <;> decide
  · refine .inr ⟨?_, fun hc => absurd hc hr⟩
    by_contra hboth
    obtain ⟨hphase, hout⟩ := not_or.1 hboth
    obtain rfl := not_not.1 hphase
    cases outcome with
    | rejected => exact hout rfl
    | resolved => cases h; exact hr rfl
    | rejectedLate => cases h; exact hr rfl

/-- **One event** keeps the artifacts of a finished recognition whole exactly when it is such an
event. -/
theorem whole_step_iff (hs : s.status = .completed → s.Whole) (h : s.step e = some s') :
    (s'.status = .completed → s'.Whole) ↔ s.KeepsWhole e := by
  cases move_of_step h with
  | startInline _ => exact iff_of_true hs trivial
  | startJob => exact iff_of_true hs trivial
  | recognized x _ => exact iff_of_true (by simpa [Whole] using hs) trivial
  | @saveResult run x outcome hphase =>
    cases outcome with
    | rejected => exact iff_of_true (by simpa [write, Whole] using hs) fun h => absurd rfl h
    | resolved => simp [write, Whole, saveResult, KeepsWhole, hphase, StaysWhole]
    | rejectedLate => simp [write, Whole, saveResult, KeepsWhole, hphase, StaysWhole]
  | @savePages run x outcome hphase =>
    have hpages : ((if x.pages = [] then none else some run) = none ∨
        (if x.pages = [] then none else some run) = s.resultBy) ↔
          (x.pages = [] ∨ s.resultBy = some run) := by
      split_ifs with hnil
      · simp [hnil]
      · simp [hnil, eq_comm]
    cases outcome with
    | rejected => exact iff_of_true (by simpa [write, Whole] using hs) fun h => absurd rfl h
    | resolved =>
      simp only [write, Whole, savePages, setPhase_status, setPhase_pagesBy, setPhase_resultBy,
        hpages]
      simp [KeepsWhole, hphase, StaysWhole]
    | rejectedLate =>
      simp only [write, Whole, savePages, setPhase_status, setPhase_pagesBy, setPhase_resultBy,
        hpages]
      simp [KeepsWhole, hphase, StaysWhole]
  | @other run phase outcome r hphase hsaving hrec hadv =>
    simp only [setPhase_status, Whole, setPhase_pagesBy, setPhase_resultBy]
    rcases whole_other hsaving hadv with ⟨rfl, hout, hr⟩ | ⟨hnot, hr⟩
    · simp [hr, KeepsWhole, hout, hphase, StaysWhole]
    · refine iff_of_true (fun hc => hs (hr hc)) fun hout p hp => ?_
      obtain rfl := Option.some.inj (hphase.symm.trans hp)
      have hne : phase ≠ .markCompleted := hnot.resolve_right hout
      cases phase with
      | markCompleted => exact absurd rfl hne
      | saveResult x => cases hsaving
      | savePages x => cases hsaving
      | _ => trivial

/-! ### Whole runs -/

theorem recorded_start : ({} : OcrDocument).Recorded where
  saving run phase x h := by cases run <;> simp [phaseOf] at h
  late := nofun
  unique := nofun
  result := nofun
  pages := nofun
  noPages _ := rfl
  saved run phase h := by cases run <;> simp [phaseOf] at h
  completed := nofun

theorem recorded_of_run {es : List DocumentEvent} (h : AnyRun step {} es s) : s.Recorded :=
  h.invariant recorded_start fun _ _ _ hs _ => recorded_step hs

/-- **A finished recognition has a result.** -/
theorem result_of_completed {es : List DocumentEvent} (h : AnyRun step {} es s)
    (hc : s.status = .completed) : s.result.isSome = true := by
  have hs := recorded_of_run h
  obtain ⟨run, hrun⟩ := Option.isSome_iff_exists.1 (hs.completed hc)
  obtain ⟨x, -, hrow⟩ := hs.result run hrun
  rw [hrow]
  rfl

/-- **The artifacts agree exactly on the schedules that keep them whole**: for every run of inline
and queued recognitions of a document, with any OCR results and any rejected steps, in all the
states that it passes. -/
theorem agree_always_iff {es : List DocumentEvent} (h : AnyRun step {} es s) :
    Run.Always step AgreeIfCompleted {} es ↔ Run step KeepsWhole {} es s := by
  rw [h.guarded_iff_always (I := Recorded) (P := AgreeIfCompleted) recorded_start nofun
    (fun _ _ _ hs hst => recorded_step hs hst)]
  intro s e s' hs hagree hst
  have hiff (t : OcrDocument) (ht : t.Recorded) :
      t.AgreeIfCompleted ↔ (t.status = .completed → t.Whole) :=
    forall_congr' fun hc => agree_iff ht (ht.completed hc)
  rw [hiff s' (recorded_step hs hst)]
  exact whole_step_iff ((hiff s hs).1 hagree) hst

/-- A recognised text with pages of the given contents. -/
def extracted (contents : List JsString) : Extracted where
  result := { fullText := contents.flatten, confidence := 1, language := "en", pageCount := 1 }
  pages := (contents.zipIdx 1).map fun p => ⟨p.2, p.1⟩
  numbered := by
    rw [VisionService.Numbered, List.map_map, List.length_map, List.length_zipIdx]
    exact List.zipIdx_map_snd 1 contents

/-- One job runs through. -/
def oneJob : List DocumentEvent :=
  [.startJob, .step (.job 0) .resolved, .step (.job 0) .resolved,
    .recognized (.job 0) (extracted [js "a", js "b"]), .step (.job 0) .resolved,
    .step (.job 0) .resolved, .step (.job 0) .resolved]

/-- Its artifacts agree. -/
theorem agree_always_iff_job : ∃ s, AnyRun step {} oneJob s ∧
    Run.Always step AgreeIfCompleted {} oneJob ∧ s.status = .completed ∧ s.pages.length = 2 := by
  have hjob : (oneJob.foldlM (Run.guarded step KeepsWhole) {}).any (fun s =>
      s.status = .completed && s.pages.length = 2) = true := by decide
  obtain ⟨s, hs, hend⟩ := (Option.any_eq_true _ _).1 hjob
  have hrun := Run.of_guarded hs
  exact ⟨s, hrun.any, (agree_always_iff hrun.any).2 hrun, by simpa using hend⟩

/-- A job and the recognition in the request take turns: the job has saved its result of two pages
when the request, which has saved one page, writes `completed`. -/
def twoRuns : List DocumentEvent :=
  [.startJob, .step (.job 0) .resolved, .step (.job 0) .resolved, .startInline,
    .step .inline .resolved, .recognized .inline (extracted [js "a"]), .step .inline .resolved,
    .step .inline .resolved, .recognized (.job 0) (extracted [js "a", js "b"]),
    .step (.job 0) .resolved, .step .inline .resolved]

/-- The page of one run is left under the result of the other. -/
theorem pages_of_another_run : ¬ ∀ (es : List DocumentEvent) (s : OcrDocument),
    AnyRun step {} es s → s.AgreeIfCompleted := by
  intro h
  have hruns : (twoRuns.foldlM step {}).any (fun s => s.status = .completed &&
      s.result.map (·.pageCount) = some 2 && s.pages.map (·.pageNumber) = [1]) = true := by decide
  obtain ⟨s, hs, hend⟩ := (Option.any_eq_true _ _).1 hruns
  simp only [Bool.and_eq_true, decide_eq_true_eq] at hend
  obtain ⟨⟨hc, hcount⟩, hpages⟩ := hend
  obtain ⟨run, x, -, -, hrow, hnil | ⟨-, -, hnumbers⟩⟩ := h _ s (Run.of_foldlM hs) hc
  · simp [hnil] at hpages
  · rw [hrow] at hcount
    have hcount : x.row.pageCount = 2 := Option.some.inj hcount
    rw [hpages, hcount] at hnumbers
    exact absurd hnumbers (by decide)

end OcrDocument

end StudyOasis
