import StudyOasis.Runs.Basic
import StudyOasis.Upload.SaveFile

/-!
# The recognition of one document

`OcrProcessor.handleExtractText`, run by any number of jobs, and `UploadService.processOcrInline`,
run at most once, on the status of one document.  Every step of theirs is an event of the machine
`ocrStep`, and any of them can be rejected, at once or after it has taken effect.

`handleExtractText` reads the status once, at its start, and writes without looking again;
`processOcrInline` does not look at all.  So a finished recognition can be undone, and what it takes
to stay finished is a matter of the schedule (`KeepsFinished`).

* `completed_stays` : on such a schedule a finished recognition stays finished;
* `processOcrInline_status` : the machine and the action of the upload agree.
-/

namespace StudyOasis

/-- How far a run of the recognition has come. -/
inductive OcrPhase where
  /-- About to read the status. -/
  | check
  /-- About to write `processing`. -/
  | markProcessing
  /-- Reading the source and extracting its text. -/
  | recognize
  /-- About to write `completed`. -/
  | markCompleted
  /-- In the `catch` block, about to write `failed`. -/
  | markFailed
  /-- Returned or thrown. -/
  | finished
  deriving DecidableEq, Repr

/-- What becomes of a step. -/
inductive StepOutcome where
  | resolved
  | rejected
  /-- Rejected, but it has taken effect. -/
  | rejectedLate
  deriving DecidableEq, Repr

/-- The status of the document and the runs of the recognition. -/
structure OcrRace where
  /-- `ocrStatus`. -/
  status : OcrStatus
  /-- `processOcrInline`, once it is started. -/
  inline : Option OcrPhase
  /-- The executions of `handleExtractText`. -/
  jobs : List OcrPhase
  deriving DecidableEq, Repr

/-- What happens. -/
inductive OcrEvent where
  /-- `processOcrInline` is called. -/
  | startInline
  /-- Bull runs the job, for the first time or once more. -/
  | startJob
  /-- The next step of `processOcrInline`. -/
  | inlineStep (outcome : StepOutcome)
  /-- The next step of an execution of `handleExtractText`. -/
  | jobStep (job : ℕ) (outcome : StepOutcome)
  deriving DecidableEq, Repr

/-- `updateOcrStatus`, on the way to `next`. -/
def writeStatus (status written : OcrStatus) (next : OcrPhase) :
    StepOutcome → OcrStatus × OcrPhase
  | .resolved => (written, next)
  | .rejected => (status, .markFailed)
  | .rejectedLate => (written, .markFailed)

/-- The next step of a run : the status and the phase behind it. -/
def OcrPhase.advance (status : OcrStatus) (outcome : StepOutcome) :
    OcrPhase → Option (OcrStatus × OcrPhase)
  | check =>
    match outcome with
    -- `current?.ocrStatus === 'completed'`
    | .resolved => some (status, if status = .completed then finished else markProcessing)
    | .rejected | .rejectedLate => some (status, markFailed)
  | markProcessing => some (writeStatus status .processing recognize outcome)
  | recognize =>
    match outcome with
    | .resolved => some (status, markCompleted)
    | .rejected | .rejectedLate => some (status, markFailed)
  | markCompleted => some (writeStatus status .completed finished outcome)
  | markFailed =>
    match outcome with
    | .rejected => some (status, finished)
    | .resolved | .rejectedLate => some (.failed, finished)
  | finished => none

/-- One event; `none` when it cannot happen. -/
def ocrStep (s : OcrRace) : OcrEvent → Option OcrRace
  | .startInline =>
    if s.inline.isNone then some { s with inline := some .markProcessing } else none
  | .startJob => some { s with jobs := s.jobs ++ [.check] }
  | .inlineStep outcome =>
    (s.inline.bind (OcrPhase.advance s.status outcome)).map fun r =>
      { s with status := r.1, inline := some r.2 }
  | .jobStep job outcome =>
    (s.jobs[job]?.bind (OcrPhase.advance s.status outcome)).map fun r =>
      { s with status := r.1, jobs := s.jobs.set job r.2 }

/-- No run has started. -/
def OcrRace.start (status : OcrStatus) : OcrRace := ⟨status, none, []⟩

/-! ### Schedules that keep a finished recognition -/

/-- The phases of the runs. -/
def OcrRace.phases (s : OcrRace) : List OcrPhase := s.inline.toList ++ s.jobs

/-- The run that an event advances, and the outcome of its step. -/
def OcrRace.stepping (s : OcrRace) : OcrEvent → Option (OcrPhase × StepOutcome)
  | .startInline | .startJob => none
  | .inlineStep outcome => s.inline.map (·, outcome)
  | .jobStep job outcome => s.jobs[job]?.map (·, outcome)

/-- The run is not about to write `processing` or `failed`. -/
def OcrPhase.harmless (phase : OcrPhase) : Bool := phase ≠ .markProcessing && phase ≠ .markFailed

/-- The schedule keeps a finished recognition finished: `processOcrInline` does not start behind it,
no step is rejected behind it, and `completed` is written, for certain, when no run is about to
write `processing` or `failed`. -/
def KeepsFinished (s : OcrRace) (e : OcrEvent) : Prop :=
  (s.status = .completed → e ≠ .startInline) ∧
    ∀ r ∈ s.stepping e, (s.status = .completed → r.2 = .resolved) ∧
      (r.1 = .markCompleted → r.2 ≠ .rejectedLate ∧
        (r.2 = .resolved → ∀ phase ∈ s.phases, phase.harmless = true))

instance (s : OcrRace) (e : OcrEvent) : Decidable (KeepsFinished s e) :=
  inferInstanceAs (Decidable (_ ∧ ∀ r ∈ s.stepping e, _))

/-- Behind a finished recognition no run is about to write `processing` or `failed`. -/
def OcrRace.Settled (s : OcrRace) : Prop :=
  s.status = .completed → ∀ phase ∈ s.phases, phase.harmless = true

/-! ### One event -/

/-- A resolved step of a harmless run. -/
theorem advance_resolved {phase : OcrPhase} (hp : phase.harmless = true) {r : OcrStatus × OcrPhase}
    (h : phase.advance .completed .resolved = some r) :
    r.1 = .completed ∧ r.2.harmless = true := by
  cases phase <;> simp [OcrPhase.advance, OcrPhase.harmless, writeStatus] at hp h <;> subst h <;>
    exact ⟨rfl, rfl⟩

/-- Only the write of `completed` finishes the recognition. -/
theorem advance_completed {status : OcrStatus} {outcome : StepOutcome} {phase : OcrPhase}
    {r : OcrStatus × OcrPhase} (hs : status ≠ .completed)
    (h : phase.advance status outcome = some r) (hr : r.1 = .completed) :
    phase = .markCompleted ∧
      (outcome = .rejectedLate ∨ outcome = .resolved ∧ r.2 = .finished) := by
  cases phase <;> cases outcome <;>
    simp [OcrPhase.advance, writeStatus] at h <;> subst h <;> simp_all

/-- **What an event does**: a run is started, or one run takes one step. -/
theorem ocrStep_cases {s s' : OcrRace} {e : OcrEvent} (h : ocrStep s e = some s') :
    (e = .startInline ∧ s'.status = s.status) ∨
    (s'.status = s.status ∧ ∀ phase ∈ s'.phases, phase = .check ∨ phase ∈ s.phases) ∨
    ∃ phase outcome r, s.stepping e = some (phase, outcome) ∧ phase ∈ s.phases ∧
      phase.advance s.status outcome = some r ∧ s'.status = r.1 ∧
      ∀ q ∈ s'.phases, q = r.2 ∨ q ∈ s.phases := by
  cases e with
  | startInline =>
    simp only [ocrStep] at h
    split_ifs at h
    obtain rfl := Option.some.inj h
    exact .inl ⟨rfl, rfl⟩
  | startJob =>
    obtain rfl := Option.some.inj h
    refine .inr (.inl ⟨rfl, ?_⟩)
    intro phase hphase
    simp only [OcrRace.phases, List.mem_append, List.mem_singleton] at hphase ⊢
    tauto
  | inlineStep outcome =>
    obtain ⟨r, hr, rfl⟩ := Option.map_eq_some_iff.1 h
    obtain ⟨phase, hphase, hadv⟩ := Option.bind_eq_some_iff.1 hr
    refine .inr (.inr ⟨phase, outcome, r, ?_, ?_, hadv, rfl, ?_⟩)
    · rw [OcrRace.stepping, hphase]
      rfl
    · rw [OcrRace.phases, hphase]
      exact List.mem_append_left _ List.mem_cons_self
    · intro q hq
      rcases List.mem_append.1 hq with hq | hq
      · exact .inl (List.mem_singleton.1 hq)
      · exact .inr (List.mem_append_right _ hq)
  | jobStep job outcome =>
    obtain ⟨r, hr, rfl⟩ := Option.map_eq_some_iff.1 h
    obtain ⟨phase, hphase, hadv⟩ := Option.bind_eq_some_iff.1 hr
    refine .inr (.inr ⟨phase, outcome, r, ?_, ?_, hadv, rfl, ?_⟩)
    · rw [OcrRace.stepping, hphase]
      rfl
    · exact List.mem_append_right _ (List.mem_of_getElem? hphase)
    · intro q hq
      rcases List.mem_append.1 hq with hq | hq
      · exact .inr (List.mem_append_left _ hq)
      · exact (List.mem_or_eq_of_mem_set hq).symm.imp_right (List.mem_append_right _)

/-- **One event**: a finished recognition stays finished, with no run about to undo it. -/
theorem ocrStep_settled {s s' : OcrRace} {e : OcrEvent} (hs : s.Settled) (hg : KeepsFinished s e)
    (h : ocrStep s e = some s') :
    s'.Settled ∧ (s.status = .completed → s'.status = .completed) := by
  rcases ocrStep_cases h with ⟨rfl, hst⟩ | ⟨hst, hphases⟩ |
    ⟨phase, outcome, r, hstep, hmem, hadv, hst, hphases⟩
  · -- `processOcrInline` starts in front of the finish
    have hnot : s.status ≠ .completed := fun hc => hg.1 hc rfl
    exact ⟨fun hc => absurd (hst ▸ hc) hnot, fun hc => absurd hc hnot⟩
  · refine ⟨?_, fun hc => hst.trans hc⟩
    intro hc q hq
    rcases hphases q hq with rfl | hq
    · rfl
    · exact hs (hst ▸ hc) q hq
  · obtain ⟨hresolved, hfinish⟩ := hg.2 (phase, outcome) hstep
    by_cases hc : s.status = .completed
    · obtain rfl := hresolved hc
      rw [hc] at hadv
      obtain ⟨hr, hr'⟩ := advance_resolved (hs hc phase hmem) hadv
      refine ⟨?_, fun _ => hst.trans hr⟩
      intro _ q hq
      rcases hphases q hq with rfl | hq
      · exact hr'
      · exact hs hc q hq
    · refine ⟨?_, fun hc' => absurd hc' hc⟩
      intro hc' q hq
      obtain ⟨rfl, hout⟩ := advance_completed hc hadv (hst ▸ hc')
      obtain ⟨hlate, hother⟩ := hfinish rfl
      -- the run that finishes the recognition ends with it, and the others are harmless
      obtain ⟨hres, hend⟩ := hout.resolve_left hlate
      rcases hphases q hq with rfl | hq
      · rw [hend]
        rfl
      · exact hother hres q hq

/-! ### Whole runs -/

theorem start_settled (status : OcrStatus) : (OcrRace.start status).Settled := by
  intro _ phase hphase
  simp [OcrRace.phases, OcrRace.start] at hphase

/-- **A finished recognition stays finished** on every schedule that keeps it so. -/
theorem completed_stays {status : OcrStatus} {es es' : List OcrEvent} {s s' : OcrRace}
    (h : Run ocrStep KeepsFinished (.start status) es s) (hc : s.status = .completed)
    (h' : Run ocrStep KeepsFinished s es' s') : s'.status = .completed := by
  have hsettled : s.Settled := h.invariant (start_settled status) fun _ _ _ hs hg hstep =>
    (ocrStep_settled hs hg hstep).1
  have hstays : s.status = .completed → s'.status = .completed := by
    refine h'.relation (R := fun s s' => s.status = .completed → s'.status = .completed) hsettled
      ?_ ?_ ?_ ?_
    · exact fun _ _ _ hs hg hstep => (ocrStep_settled hs hg hstep).1
    · exact fun _ hc => hc
    · exact fun hab hbc hc => hbc (hab hc)
    · exact fun _ _ _ hs hg hstep => (ocrStep_settled hs hg hstep).2
  exact hstays hc

/-- Nothing less will do: with a run about to write `processing` or `failed`, the next step of that
run undoes the recognition. -/
theorem undone_of_not_settled {s : OcrRace} (h : ¬ s.Settled) :
    s.status = .completed ∧ ∃ e s', ocrStep s e = some s' ∧ s'.status ≠ .completed := by
  simp only [OcrRace.Settled, not_forall] at h
  obtain ⟨hc, phase, hmem, hphase⟩ := h
  have hadv : ∃ r, phase.advance .completed .resolved = some r ∧ r.1 ≠ .completed := by
    cases phase with
    | markProcessing => exact ⟨_, rfl, by decide⟩
    | markFailed => exact ⟨_, rfl, by decide⟩
    | _ => exact absurd rfl hphase
  obtain ⟨r, hr, hne⟩ := hadv
  rw [← hc] at hr
  refine ⟨hc, ?_⟩
  rcases List.mem_append.1 hmem with hin | hjob
  · have hin : s.inline = some phase := Option.mem_toList.1 hin
    exact ⟨.inlineStep .resolved, _, by rw [ocrStep, hin, Option.bind_some, hr]; rfl, hne⟩
  · obtain ⟨job, hjob⟩ := List.mem_iff_getElem?.1 hjob
    exact ⟨.jobStep job .resolved, _, by rw [ocrStep, hjob, Option.bind_some, hr]; rfl, hne⟩

/-! ### A job and the recognition in the request -/

/-- One job runs through, and Bull runs it once more. -/
theorem completed_stays_twice : ∃ s s',
    Run ocrStep KeepsFinished (.start .pending)
      [.startJob, .jobStep 0 .resolved, .jobStep 0 .resolved, .jobStep 0 .resolved,
        .jobStep 0 .resolved] s ∧
    Run ocrStep KeepsFinished s [.startJob, .jobStep 1 .resolved] s' ∧ s'.status = .completed := by
  have hfirst : Run ocrStep KeepsFinished (.start .pending)
      [.startJob, .jobStep 0 .resolved, .jobStep 0 .resolved, .jobStep 0 .resolved,
        .jobStep 0 .resolved] ⟨.completed, none, [.finished]⟩ :=
    .cons (by decide) rfl (.cons (by decide) rfl (.cons (by decide) rfl (.cons (by decide) rfl
      (.cons (by decide) rfl (.nil _)))))
  have hagain : Run ocrStep KeepsFinished ⟨.completed, none, [.finished]⟩
      [.startJob, .jobStep 1 .resolved] ⟨.completed, none, [.finished, .finished]⟩ :=
    .cons (by decide) rfl (.cons (by decide) rfl (.nil _))
  exact ⟨_, _, hfirst, hagain, completed_stays hfirst rfl hagain⟩

/-- **A finished recognition is undone**: `queue.add` reports a failure although the job was stored,
the job passes its check, `processOcrInline` runs through, and the job writes `processing` and then
`failed`. -/
theorem completed_undone :
    AnyRun ocrStep (.start .pending)
      [.startJob, .jobStep 0 .resolved, .startInline, .inlineStep .resolved, .inlineStep .resolved,
        .inlineStep .resolved] ⟨.completed, some .finished, [.markProcessing]⟩ ∧
    AnyRun ocrStep ⟨.completed, some .finished, [.markProcessing]⟩ [.jobStep 0 .resolved]
      ⟨.processing, some .finished, [.recognize]⟩ ∧
    AnyRun ocrStep ⟨.processing, some .finished, [.recognize]⟩
      [.jobStep 0 .rejected, .jobStep 0 .resolved] ⟨.failed, some .finished, [.finished]⟩ :=
  ⟨.cons trivial rfl (.cons trivial rfl (.cons trivial rfl (.cons trivial rfl (.cons trivial rfl
      (.cons trivial rfl (.nil _)))))),
    .cons trivial rfl (.nil _), .cons trivial rfl (.cons trivial rfl (.nil _))⟩

/-! ### The recognition in the request -/

section

open UploadService StudyOasis.Action

/-- The outcome of a step of an upload. -/
def outcomeOf : Option UploadFault → StepOutcome
  | none => .resolved
  | some fault => if fault.late then .rejectedLate else .rejected

/-- The outcomes that the steps of `processOcrInline` have. -/
def inlineOutcome (w : UploadWorld) : OcrPhase → StepOutcome
  | .markProcessing => outcomeOf (w.fault .markProcessing)
  | .recognize => if recognizeResolves w then .resolved else .rejected
  | .markCompleted => outcomeOf (w.fault .markCompleted)
  | .markFailed => outcomeOf (w.fault .markFailed)
  | .check | .finished => .resolved

/-- Steps of one run, with nothing in between. -/
def OcrPhase.runAlone (outcome : OcrPhase → StepOutcome) :
    ℕ → OcrStatus × OcrPhase → OcrStatus × OcrPhase
  | 0, r => r
  | n + 1, r =>
    match r.2.advance r.1 (outcome r.2) with
    | none => r
    | some r' => runAlone outcome n r'

/-- The rows with another status of one document. -/
def mapStatus (documentId : String) (status : OcrStatus → OcrStatus) (s : UploadState) :
    UploadState :=
  { s with documents := s.documents.map fun d =>
      if d.id = documentId then { d with ocrStatus := status d.ocrStatus } else d }

theorem mapStatus_mapStatus (documentId : String) (f g : OcrStatus → OcrStatus) (s : UploadState) :
    mapStatus documentId g (mapStatus documentId f s) =
      mapStatus documentId (fun x => g (f x)) s := by
  simp only [mapStatus, List.map_map, UploadState.mk.injEq, true_and, and_true]
  refine List.map_congr_left ?_
  intro d _
  by_cases hid : d.id = documentId <;> simp [hid]

theorem mapStatus_id (documentId : String) (s : UploadState) :
    mapStatus documentId (fun x => x) s = s := by
  simp [mapStatus]

theorem updateOcrStatus_eq (documentId : String) (status : OcrStatus) (s : UploadState) :
    updateOcrStatus documentId status s = mapStatus documentId (fun _ => status) s := rfl

/-- A write of the status, as an action and as a step of the machine. -/
theorem perform_writeStatus (w : UploadWorld) (step : UploadStep) (documentId : String)
    (written : OcrStatus) (next : OcrPhase) (s : UploadState) :
    ((w.perform step (updateOcrStatus documentId written)).runOn s).2 =
      mapStatus documentId
        (fun status => (writeStatus status written next (outcomeOf (w.fault step))).1) s := by
  cases h : w.fault step with
  | none =>
    rw [perform_of_none h]
    rfl
  | some fault =>
    rw [perform_of_some h]
    cases hlate : fault.late with
    | true => simp [outcomeOf, hlate, writeStatus, updateOcrStatus_eq]
    | false => simp [outcomeOf, hlate, writeStatus, mapStatus_id]

theorem advance_markFailed (status : OcrStatus) (outcome : StepOutcome) :
    OcrPhase.advance status outcome .markFailed =
      some ((writeStatus status .failed .finished outcome).1, .finished) := by
  cases outcome <;> rfl

theorem perform_id_state (w : UploadWorld) (step : UploadStep) (s : UploadState) :
    ((w.perform step id).runOn s).2 = s := by
  cases h : w.fault step with
  | none =>
    rw [perform_of_none h]
    rfl
  | some fault =>
    rw [perform_of_some h]
    cases fault.late <;> rfl

theorem recognizeText_state (w : UploadWorld) (r : StorageResult) (s : UploadState) :
    ((recognizeText w r).runOn s).2 = s := by
  unfold recognizeText
  split_ifs
  · rw [runOn_bind]
    have hstate := perform_id_state w .readFile s
    rcases hrun : (w.perform .readFile id).runOn s with ⟨e | a, t⟩
    · rw [hrun] at hstate
      exact hstate
    · rw [hrun] at hstate
      obtain rfl := hstate
      exact perform_id_state w .recognize t
  · exact perform_id_state w .recognize s
  · rfl

/-- The `catch` block of `processOcrInline`. -/
theorem catch_state (w : UploadWorld) (documentId : String) (e : UploadError) (s : UploadState) :
    ((do w.perform .markFailed (updateOcrStatus documentId .failed)
         throw e : UploadAction Unit).runOn s).2 =
      mapStatus documentId (fun status => (writeStatus status .failed .finished
        (outcomeOf (w.fault .markFailed))).1) s := by
  rw [runOn_bind, ← perform_writeStatus]
  rcases (w.perform .markFailed (updateOcrStatus documentId .failed)).runOn s with ⟨e | a, t⟩ <;>
    rfl

theorem runAlone_succ {outcome : OcrPhase → StepOutcome} {n : ℕ} {status : OcrStatus}
    {phase : OcrPhase} {r : OcrStatus × OcrPhase}
    (h : phase.advance status (outcome phase) = some r) :
    OcrPhase.runAlone outcome (n + 1) (status, phase) = OcrPhase.runAlone outcome n r := by
  rw [OcrPhase.runAlone]
  simp only [h]

theorem runAlone_markFailed (outcome : OcrPhase → StepOutcome) (n : ℕ) (status : OcrStatus) :
    (OcrPhase.runAlone outcome (n + 1) (status, .markFailed)).1 =
      (writeStatus status .failed .finished (outcome .markFailed)).1 := by
  rw [runAlone_succ (advance_markFailed status _)]
  cases n <;> rfl

/-- A write that is rejected, in front of the `catch` block. -/
theorem runAlone_of_rejected {outcome : OcrPhase → StepOutcome} {n : ℕ} {status written : OcrStatus}
    {phase next : OcrPhase}
    (h : phase.advance status (outcome phase) =
      some (writeStatus status written next (outcome phase)))
    (hne : outcome phase ≠ .resolved) :
    (OcrPhase.runAlone outcome (n + 2) (status, phase)).1 =
      (writeStatus (writeStatus status written next (outcome phase)).1 .failed .finished
        (outcome .markFailed)).1 := by
  rw [runAlone_succ h]
  cases hphase : outcome phase with
  | resolved => exact absurd hphase hne
  | rejected => exact runAlone_markFailed outcome n status
  | rejectedLate => exact runAlone_markFailed outcome n written

theorem outcomeOf_ne_resolved (fault : UploadFault) : outcomeOf (some fault) ≠ .resolved := by
  simp only [outcomeOf]
  split_ifs <;> decide

/-- A write of the status that is rejected. -/
theorem perform_rejected {w : UploadWorld} {step : UploadStep} {fault : UploadFault}
    (h : w.fault step = some fault) (documentId : String) (written : OcrStatus) (next : OcrPhase)
    (s : UploadState) :
    (w.perform step (updateOcrStatus documentId written)).runOn s =
      (.error (.other fault.message), mapStatus documentId
        (fun status => (writeStatus status written next (outcomeOf (some fault))).1) s) := by
  have hstate := perform_writeStatus w step documentId written next s
  rw [h] at hstate
  rw [← hstate, perform_of_some h]

section

variable (w : UploadWorld) (documentId : String) (s : UploadState)

/-- The last write of `processOcrInline`. -/
theorem markCompleted_state :
    (orElse (fun error => do
        w.perform .markFailed (updateOcrStatus documentId .failed)
        throw error)
      ((w.perform .markCompleted (updateOcrStatus documentId .completed)).runOn s)).2 =
    mapStatus documentId (fun status =>
      (OcrPhase.runAlone (inlineOutcome w) 2 (status, .markCompleted)).1) s := by
  cases hc : w.fault .markCompleted with
  | none =>
    have hdone (status : OcrStatus) :
        OcrPhase.runAlone (inlineOutcome w) 2 (status, .markCompleted) =
          OcrPhase.runAlone (inlineOutcome w) 1 (.completed, .finished) := by
      refine runAlone_succ ?_
      rw [inlineOutcome, hc]
      rfl
    simp only [hdone]
    rw [perform_of_none hc]
    rfl
  | some fault =>
    have houtcome : inlineOutcome w .markCompleted = outcomeOf (some fault) := by
      rw [inlineOutcome, hc]
    have hne : inlineOutcome w .markCompleted ≠ .resolved := by
      rw [houtcome]
      exact outcomeOf_ne_resolved fault
    rw [perform_rejected hc documentId .completed .finished, orElse_error, catch_state,
      mapStatus_mapStatus, ← houtcome]
    simp only [runAlone_of_rejected (n := 0) rfl hne]
    rfl

/-- The text recognition of `processOcrInline`, and what comes after it. -/
theorem recognize_state (file : MulterFile) (url : JsString) :
    (orElse (fun error => do
        w.perform .markFailed (updateOcrStatus documentId .failed)
        throw error)
      (andThen (fun _ => w.perform .markCompleted (updateOcrStatus documentId .completed))
        ((recognizeText w (stored w file url)).runOn s))).2 =
    mapStatus documentId (fun status =>
      (OcrPhase.runAlone (inlineOutcome w) 3 (status, .recognize)).1) s := by
  have hstate := recognizeText_state w (stored w file url) s
  have hsettles : Settles documentId (recognizeText w (stored w file url)) _ :=
    settles_recognizeText documentId url
  rcases hsettles.cases s with ⟨hok, a, t, hrun, -⟩ | ⟨hok, e, t, hrun, -⟩
  · rw [hrun] at hstate ⊢
    obtain rfl := hstate
    have hnext (status : OcrStatus) :
        OcrPhase.runAlone (inlineOutcome w) 3 (status, .recognize) =
          OcrPhase.runAlone (inlineOutcome w) 2 (status, .markCompleted) := by
      refine runAlone_succ ?_
      rw [inlineOutcome, hok]
      rfl
    simp only [hnext]
    rw [andThen_ok, markCompleted_state]
  · rw [hrun] at hstate ⊢
    obtain rfl := hstate
    have hnext (status : OcrStatus) :
        OcrPhase.runAlone (inlineOutcome w) 3 (status, .recognize) =
          OcrPhase.runAlone (inlineOutcome w) 2 (status, .markFailed) := by
      refine runAlone_succ ?_
      rw [inlineOutcome, hok]
      rfl
    simp only [hnext, runAlone_markFailed]
    rw [andThen_error, orElse_error, catch_state]
    rfl

end

/-- **`processOcrInline` as a run of the machine**: with nothing in between, its steps leave the
status that the action leaves. -/
theorem processOcrInline_status (w : UploadWorld) (file : MulterFile) (documentId : String)
    (url : JsString) (s : UploadState) :
    ((processOcrInline w documentId (stored w file url)).runOn s).2 =
      mapStatus documentId (fun status =>
        (OcrPhase.runAlone (inlineOutcome w) 4 (status, .markProcessing)).1) s := by
  simp only [processOcrInline, runOn_tryCatch, runOn_bind]
  cases hp : w.fault .markProcessing with
  | some fault =>
    have houtcome : inlineOutcome w .markProcessing = outcomeOf (some fault) := by
      rw [inlineOutcome, hp]
    have hne : inlineOutcome w .markProcessing ≠ .resolved := by
      rw [houtcome]
      exact outcomeOf_ne_resolved fault
    rw [perform_rejected hp documentId .processing .recognize, andThen_error, orElse_error,
      catch_state, mapStatus_mapStatus, ← houtcome]
    simp only [runAlone_of_rejected (n := 2) rfl hne]
    rfl
  | none =>
    have hnext (status : OcrStatus) :
        OcrPhase.runAlone (inlineOutcome w) 4 (status, .markProcessing) =
          OcrPhase.runAlone (inlineOutcome w) 3 (.processing, .recognize) := by
      refine runAlone_succ ?_
      rw [inlineOutcome, hp]
      rfl
    simp only [hnext]
    rw [perform_of_none hp, andThen_ok, runOn_bind, recognize_state, updateOcrStatus_eq,
      mapStatus_mapStatus]

end

end StudyOasis
