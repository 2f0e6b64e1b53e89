import StudyOasis.Focus.Pauses

/-!
# The active time of a session

`FocusMode` measures how long a session was paused: the pause button notes the time of a pause and
adds up the pauses that are over, each before the call that the click sends has succeeded.  The
active time is sent when the session is finalized.

* `FocusMode.active_time_exact` : **the active time that is sent leaves out exactly the pauses** in
  every run in which no resume fails, and no session ends or begins and no second click comes while
  a click waits for its answer;
* `FocusMode.not_exact_of_resume_fails` : a resume that fails adds the time after it.
-/

namespace StudyOasis

/-! ### Pauses -/

/-- A click on the button. -/
structure Click where
  now : ℤ
  action : TabAction
  /-- How its call is going to end. -/
  ok : Bool
  deriving DecidableEq, Repr

/-- The length of the pauses that are over, and the start of the one that is not. -/
structure PausedTime where
  past : ℤ := 0
  since : Option ℤ := none
  deriving DecidableEq, Repr

namespace PausedTime

/-- A pause lasts from a successful pause click to the next successful resume click. -/
def click (p : PausedTime) (c : Click) : PausedTime :=
  if c.ok then
    match c.action, p.since with
    | .pause _, none => { p with since := some c.now }
    | .resume, some since => { past := p.past + (c.now - since) }
    | _, _ => p
  else p

/-- The pauses of a session. -/
def of (clicks : List Click) : PausedTime := clicks.foldl click {}

/-- The paused time, when an open pause ends now. -/
def upTo (p : PausedTime) (now : ℤ) : ℤ := p.past + p.since.elim 0 fun since => now - since

@[simp] theorem of_concat (clicks : List Click) (c : Click) :
    of (clicks ++ [c]) = (of clicks).click c := by
  simp [of]

end PausedTime

/-! ### The component -/

/-- What a handler sees of the state: the values of the render that it belongs to. -/
structure Render where
  startTime : Option ℤ
  isPaused : Bool
  deriving DecidableEq, Repr

/-- The call of a click. -/
structure PauseCall where
  click : Click
  request : FocusRequest
  deriving DecidableEq, Repr

/-- The update of `finalizeSession`.  The first three fields are history: the session and the time
of it. -/
structure FinalReport where
  startTime : Option ℤ
  clicks : List Click
  now : ℤ
  sessionId : String
  updateDto : UpdateFocusSessionDto
  deriving DecidableEq, Repr

/-- `FocusMode`, and the focus store.  A render is immediate, and `sessionStarted` is whether
there is a `sessionId`. -/
structure FocusMode extends FocusTab where
  startTime : Option ℤ := none
  /-- `pausedDurationRef.current`. -/
  pausedDuration : ℤ := 0
  /-- `pauseStartedAtRef.current`. -/
  pauseStartedAt : Option ℤ := none
  /-- `finalizingRef.current`. -/
  finalizing : Bool := false
  /-- The calls of `createSession` in flight. -/
  creating : ℕ := 0
  /-- The calls of the button in flight. -/
  calls : List PauseCall := []
  /-- The render of the `onSubmit` that waits for the upload of a proof. -/
  submitted : Option Render := none
  /-- History: the clicks of the session. -/
  clicks : List Click := []
  /-- What was sent to finalize sessions. -/
  reports : List FinalReport := []
  deriving DecidableEq, Repr

/-- What happens next. -/
inductive FocusModeEvent where
  /-- The effect for a mode without a session. -/
  | initializeSession
  /-- The session is created. -/
  | created (now : ℤ) (session : FocusSession)
  | createFailed
  /-- The button; `ok` tells how the call is going to end. -/
  | handlePauseResume (now : ℤ) (ok : Bool)
  /-- The call of a click ends, with the session or with an error. -/
  | answered (call : PauseCall) (session : Option SessionWithDistractions)
  /-- The form of `CompleteWorkModal` is submitted, and the proof is uploaded. -/
  | submit
  | proofUploaded (now : ℤ)
  | proofRejected
  /-- The mode is left: the effect that abandons the session. -/
  | toggledOff (now : ℤ)
  /-- The calls of `finalizeSession` have ended, and left this in the store. -/
  | finalized (currentSession : Option FocusSession)
  deriving DecidableEq, Repr

namespace FocusMode

/-- The values that the handlers of the current render see. -/
def render (s : FocusMode) : Render := ⟨s.startTime, s.isPaused⟩

/-- `getActiveDurationSeconds`. -/
def getActiveDurationSeconds (s : FocusMode) (r : Render) (now : ℤ) : ℤ :=
  match r.startTime.filter (· ≠ 0) with
  | none => 0
  | some startTime =>
    let pausedTime := s.pausedDuration +
      if r.isPaused then (s.pauseStartedAt.filter (· ≠ 0)).elim 0 fun since => now - since else 0
    max 0 ((now - startTime - pausedTime) / 1000)

/-- What a click does to the refs, before it calls the server. -/
def noteClick (s : FocusMode) (now : ℤ) : FocusMode :=
  if !s.isPaused then { s with pauseStartedAt := some now }
  else
    match s.pauseStartedAt.filter (· ≠ 0) with
    | some since =>
      { s with pausedDuration := s.pausedDuration + (now - since), pauseStartedAt := none }
    | none => s

/-- The `try` of `handlePauseResume`, up to the answer. -/
def sendClick (s : FocusMode) (sessionId : String) (now : ℤ) (ok : Bool) : FocusMode :=
  let s' := s.noteClick now
  let sent := s.toFocusTab.pauseResume sessionId (s'.getActiveDurationSeconds s.render now)
  { s' with
    loading := true
    calls := s.calls ++ [⟨⟨now, sent.1, ok⟩, sent.2⟩]
    clicks := s.clicks ++ [⟨now, sent.1, ok⟩] }

/-- `handlePauseResume`. -/
def handlePauseResume (s : FocusMode) (now : ℤ) (ok : Bool) : FocusMode :=
  match s.sessionId with
  | none => s
  | some sessionId => s.sendClick sessionId now ok

/-- `finalizeSession`, up to its first answer. -/
def finalizeSession (s : FocusMode) (r : Render) (now : ℤ) (status : Option FocusSessionStatus) :
    FocusMode :=
  match s.sessionId with
  | none => s
  | some sessionId =>
    if s.finalizing then s
    else
      { s with
        finalizing := true
        loading := true
        reports := s.reports ++ [⟨s.startTime, s.clicks, now, sessionId,
          { status, activeDuration := some (some (s.getActiveDurationSeconds r now)) }⟩] }

/-- `resetSession`. -/
def resetSession (s : FocusMode) : FocusMode :=
  { s with
    startTime := none
    isPaused := false
    sessionId := none
    pausedDuration := 0
    pauseStartedAt := none
    clicks := [] }

/-- One step. -/
def step (s : FocusMode) : FocusModeEvent → Option FocusMode
  | .initializeSession =>
    if s.sessionId.isSome then none
    else some { s with loading := true, creating := s.creating + 1 }
  | .created now session =>
    if s.creating = 0 then none
    else some { s with
      toFocusTab := s.toFocusTab.receive .createSession (.ok (.created session))
      creating := s.creating - 1
      startTime := some now
      pausedDuration := 0
      pauseStartedAt := none
      clicks := [] }
  | .createFailed =>
    if s.creating = 0 then none
    else some { s with loading := false, creating := s.creating - 1 }
  | .handlePauseResume now ok =>
    -- `disabled={loading}`
    if s.loading then none else some (s.handlePauseResume now ok)
  | .answered call session =>
    if call ∈ s.calls ∧ session.isSome = call.click.ok then
      match session with
      | some session => some { s with
          toFocusTab := s.toFocusTab.receive call.click.action (.ok (.session session))
          calls := s.calls.erase call }
      | none => some { s with loading := false, calls := s.calls.erase call }
    else none
  | .submit => if s.submitted.isSome then none else some { s with submitted := some s.render }
  | .proofUploaded now =>
    s.submitted.map fun r => { s.finalizeSession r now none with submitted := none }
  | .proofRejected => if s.submitted.isSome then some { s with submitted := none } else none
  | .toggledOff now => some (s.finalizeSession s.render now (some .abandoned))
  | .finalized currentSession =>
    if s.finalizing then
      some { s.resetSession with finalizing := false, loading := false, currentSession }
    else none

/-! ### What is sent -/

/-- No click waits for a call that is going to pause the session. -/
def NoPauseWaits (s : FocusMode) : Prop :=
  ∀ call ∈ s.calls, call.click.ok = true → call.click.action = .resume

instance (s : FocusMode) : Decidable s.NoPauseWaits :=
  inferInstanceAs (Decidable (∀ call ∈ s.calls, _ → _))

/-- The step loses no paused time: no resume fails, and no session ends or begins, and no second
click comes, while a click waits for its answer. -/
def KeepsTime (s : FocusMode) : FocusModeEvent → Prop
  | .created now _ => now ≠ 0 ∧ s.calls = []
  | .handlePauseResume now ok =>
    -- a creation that fails enables the button, also while a click waits
    now ≠ 0 ∧ (s.isPaused = true → ok = true) ∧ (s.sessionId = none ∨ s.calls = [])
  -- the form was submitted from the render that is shown now
  | .proofUploaded _ => s.NoPauseWaits ∧ ∀ r ∈ s.submitted, r = s.render
  | .toggledOff _ => s.NoPauseWaits
  | _ => True

instance (s : FocusMode) (e : FocusModeEvent) : Decidable (s.KeepsTime e) := by
  unfold KeepsTime
  split <;> infer_instance

end FocusMode

/-- The active time that was sent is the time of the session without its pauses, in whole
seconds. -/
def FinalReport.Exact (r : FinalReport) : Prop :=
  ∃ startTime, r.startTime = some startTime ∧
    r.updateDto.activeDuration =
      some (some (max 0 ((r.now - startTime - (PausedTime.of r.clicks).upTo r.now) / 1000)))

/-- `isPaused` after the answer to an action. -/
def TabAction.pausedAfter (isPaused : Bool) : TabAction → Bool
  | .pause _ => true
  | .resume => false
  | _ => isPaused

theorem FocusTab.isPaused_receive (tab : FocusTab) (action : TabAction)
    (session : SessionWithDistractions) :
    (tab.receive action (.ok (.session session))).isPaused = action.pausedAfter tab.isPaused := by
  cases action <;> rfl

namespace FocusMode

/-! ### The refs keep in step -/

variable {s s' : FocusMode} {e : FocusModeEvent}

/-- `isPaused` when the click in flight has been answered. -/
def settled (s : FocusMode) : Bool :=
  match s.calls with
  | [] => s.isPaused
  | call :: _ =>
    if call.click.ok then call.click.action.pausedAfter s.isPaused else s.isPaused

/-- The refs and the flag say how long the session was paused. -/
structure InStep (s : FocusMode) : Prop where
  /-- The button sends one call at a time. -/
  calls : s.calls = [] ∨ ∃ call, s.calls = [call]
  startTime : s.sessionId ≠ none → ∃ startTime, s.startTime = some startTime ∧ startTime ≠ 0
  past : s.sessionId ≠ none → s.pausedDuration = (PausedTime.of s.clicks).past
  since : s.sessionId ≠ none →
    (if s.settled then s.pauseStartedAt else none) = (PausedTime.of s.clicks).since
  pauseStartedAt : s.pauseStartedAt ≠ some 0
  resuming : ∀ call ∈ s.calls, call.click.action = .resume → s.pauseStartedAt = none

/-- A time that is set is not 0. -/
theorem filter_time {time : Option ℤ} (h : time ≠ some 0) : time.filter (· ≠ 0) = time := by
  cases time with
  | none => rfl
  | some t =>
    have ht : t ≠ 0 := fun h0 => h (by rw [h0])
    simp [Option.filter, ht]

theorem settled_of_idle (h : s.calls = []) : s.settled = s.isPaused := by
  rw [settled, h]

theorem settled_of_call {call : PauseCall} (h : s.calls = [call]) :
    s.settled =
      if call.click.ok then call.click.action.pausedAfter s.isPaused else s.isPaused := by
  rw [settled, h]

/-- What the handlers see of an open pause. -/
theorem InStep.seen (h : s.InStep) (hid : s.sessionId ≠ none) (hwaits : s.NoPauseWaits) :
    (if s.isPaused then s.pauseStartedAt else none) = (PausedTime.of s.clicks).since := by
  rw [← h.since hid]
  rcases h.calls with hcalls | ⟨call, hcalls⟩
  · rw [settled_of_idle hcalls]
  · have hmem : call ∈ s.calls := by simp [hcalls]
    cases hok : call.click.ok with
    | false => simp [settled, hcalls, hok]
    | true =>
      have hresume := hwaits call hmem hok
      simp [h.resuming call hmem hresume]

theorem getActiveDurationSeconds_of_start {r : Render} {startTime now : ℤ}
    (hstart : r.startTime = some startTime) (hne : startTime ≠ 0) :
    s.getActiveDurationSeconds r now = max 0 ((now - startTime - (s.pausedDuration +
      if r.isPaused then (s.pauseStartedAt.filter (· ≠ 0)).elim 0 fun since => now - since
      else 0)) / 1000) := by
  rw [getActiveDurationSeconds, hstart, filter_time (by simpa using hne)]

/-- **What a handler of the current render computes.** -/
theorem InStep.getActiveDurationSeconds_eq (h : s.InStep) (hid : s.sessionId ≠ none)
    (hwaits : s.NoPauseWaits) (now : ℤ) :
    ∃ startTime, s.startTime = some startTime ∧
      s.getActiveDurationSeconds s.render now =
        max 0 ((now - startTime - (PausedTime.of s.clicks).upTo now) / 1000) := by
  obtain ⟨startTime, hstart, hne⟩ := h.startTime hid
  refine ⟨startTime, hstart, ?_⟩
  rw [getActiveDurationSeconds_of_start (r := s.render) hstart hne, filter_time h.pauseStartedAt,
    PausedTime.upTo, ← h.past hid, ← h.seen hid hwaits]
  show _ = max 0 ((now - startTime - (s.pausedDuration +
    (if s.isPaused = true then s.pauseStartedAt else none).elim 0 fun since => now - since)) / 1000)
  rw [render]
  cases s.isPaused <;> rfl

/-! ### A step -/

theorem inStep_created {now : ℤ} {session : FocusSession} (hnow : now ≠ 0) (hcalls : s.calls = [])
    (h : s.step (.created now session) = some s') : s'.InStep := by
  simp only [step] at h
  split_ifs at h
  obtain rfl := Option.some.inj h
  refine ⟨.inl hcalls, fun _ => ⟨now, rfl, hnow⟩, fun _ => rfl, fun _ => ite_self _,
    (Option.some_ne_none 0).symm, fun _ _ _ => rfl⟩

theorem pauseResume_fst (tab : FocusTab) (sessionId : String) (activeDuration : ℤ) :
    (tab.pauseResume sessionId activeDuration).1 =
      if tab.isPaused then .resume else .pause tab.currentSession := by
  unfold FocusTab.pauseResume
  cases tab.isPaused <;> rfl

/-- Only the refs are written before the call. -/
theorem noteClick_refs (s : FocusMode) (now : ℤ) : ∃ pausedDuration pauseStartedAt,
    s.noteClick now = { s with pausedDuration, pauseStartedAt } := by
  unfold noteClick
  split_ifs
  · exact ⟨_, _, rfl⟩
  · split <;> exact ⟨_, _, rfl⟩

/-- What a click does: it notes the time, and sends an update. -/
theorem handlePauseResume_eq (hid : s.sessionId ≠ none) (now : ℤ) (ok : Bool) :
    ∃ call : PauseCall,
      call.click = ⟨now, if s.isPaused then .resume else .pause s.currentSession, ok⟩ ∧
        s.handlePauseResume now ok = { s with
          loading := true
          pausedDuration := (s.noteClick now).pausedDuration
          pauseStartedAt := (s.noteClick now).pauseStartedAt
          calls := s.calls ++ [call]
          clicks := s.clicks ++ [call.click] } := by
  obtain ⟨sessionId, hid⟩ := Option.ne_none_iff_exists'.1 hid
  obtain ⟨pausedDuration, pauseStartedAt, hnote⟩ := s.noteClick_refs now
  have hsend : s.handlePauseResume now ok = s.sendClick sessionId now ok := by
    rw [handlePauseResume, hid]
  rw [hsend, sendClick, hnote]
  exact ⟨_, congrArg (Click.mk now · ok) (pauseResume_fst _ _ _), rfl⟩

theorem noteClick_pause (now : ℤ) (hpaused : s.isPaused = false) :
    s.noteClick now = { s with pauseStartedAt := some now } := by
  simp only [noteClick, hpaused, Bool.not_false, if_true]

theorem noteClick_resume {since : ℤ} (now : ℤ) (hpaused : s.isPaused = true)
    (hsince : s.pauseStartedAt = some since) (hne : since ≠ 0) :
    s.noteClick now = { s with
      pausedDuration := s.pausedDuration + (now - since)
      pauseStartedAt := none } := by
  have hfilter : s.pauseStartedAt.filter (· ≠ 0) = some since := by
    rw [filter_time (by simpa [hsince] using hne), hsince]
  simp only [noteClick, hpaused, Bool.not_true, Bool.false_eq_true, if_false]
  rw [hfilter]

theorem noteClick_resume_none (now : ℤ) (hpaused : s.isPaused = true)
    (hsince : s.pauseStartedAt = none) : s.noteClick now = s := by
  simp only [noteClick, hpaused, hsince, Option.filter_none, Bool.not_true, Bool.false_eq_true,
    if_false]

/-- The click that begins a pause, or fails to. -/
theorem InStep.pause {now : ℤ} {ok : Bool} (h : s.InStep) (hid : s.sessionId ≠ none)
    (hcalls : s.calls = []) (hpaused : s.isPaused = false) (hnow : now ≠ 0) :
    (s.handlePauseResume now ok).InStep := by
  have hsince : (PausedTime.of s.clicks).since = none := by
    rw [← h.since hid, settled_of_idle hcalls, hpaused, if_neg Bool.false_ne_true]
  obtain ⟨call, hclick, heq⟩ := handlePauseResume_eq hid now ok
  rw [hpaused, if_neg Bool.false_ne_true] at hclick
  rw [heq, noteClick_pause now hpaused, hcalls, List.nil_append]
  refine ⟨.inr ⟨call, rfl⟩, h.startTime, fun _ => ?_, fun _ => ?_,
    by simpa using hnow, ?_⟩
  · rw [PausedTime.of_concat, h.past hid, hclick]
    cases ok <;> simp [PausedTime.click, hsince]
  · rw [PausedTime.of_concat, settled_of_call rfl, hclick]
    cases ok <;> simp [PausedTime.click, hsince, TabAction.pausedAfter, hpaused]
  · intro call' hcall'
    obtain rfl := List.mem_singleton.1 hcall'
    rw [hclick]
    exact fun hresume => (by cases hresume)

/-- The click that ends a pause. -/
theorem InStep.resume {now : ℤ} (h : s.InStep) (hid : s.sessionId ≠ none) (hcalls : s.calls = [])
    (hpaused : s.isPaused = true) : (s.handlePauseResume now true).InStep := by
  have hsince : s.pauseStartedAt = (PausedTime.of s.clicks).since := by
    rw [← h.since hid, settled_of_idle hcalls, hpaused, if_pos rfl]
  obtain ⟨call, hclick, heq⟩ := handlePauseResume_eq hid now true
  rw [hpaused, if_pos rfl] at hclick
  rw [heq, hcalls, List.nil_append]
  cases hp : s.pauseStartedAt with
  | none =>
    rw [noteClick_resume_none now hpaused hp]
    rw [hp] at hsince
    refine ⟨.inr ⟨call, rfl⟩, h.startTime, fun _ => ?_, fun _ => ?_,
      h.pauseStartedAt, fun _ _ _ => hp⟩
    · rw [PausedTime.of_concat, hclick]
      simp [PausedTime.click, ← hsince, h.past hid]
    · rw [PausedTime.of_concat, hclick]
      simp [PausedTime.click, ← hsince, hp]
  | some since =>
    have hne : since ≠ 0 := fun h0 => h.pauseStartedAt (by rw [hp, h0])
    rw [noteClick_resume now hpaused hp hne]
    rw [hp] at hsince
    refine ⟨.inr ⟨call, rfl⟩, h.startTime, fun _ => ?_, fun _ => ?_,
      (Option.some_ne_none 0).symm, fun _ _ _ => rfl⟩
    · rw [PausedTime.of_concat, hclick]
      simp [PausedTime.click, ← hsince, h.past hid]
    · rw [PausedTime.of_concat, hclick]
      simp [PausedTime.click, ← hsince]

/-- **A click keeps the refs in step.** -/
theorem InStep.handlePauseResume {now : ℤ} {ok : Bool} (h : s.InStep)
    (hG : s.KeepsTime (.handlePauseResume now ok)) : (s.handlePauseResume now ok).InStep := by
  obtain ⟨hnow, hresume, hcalls⟩ := hG
  by_cases hid : s.sessionId = none
  · rw [FocusMode.handlePauseResume, hid]
    exact h
  · have hcalls := hcalls.resolve_left hid
    cases hpaused : s.isPaused with
    | false => exact h.pause hid hcalls hpaused hnow
    | true =>
      rw [hresume hpaused]
      exact h.resume hid hcalls hpaused

/-- The answer to a click. -/
theorem InStep.answered {call : PauseCall} {session : Option SessionWithDistractions}
    (h : s.InStep) (hst : s.step (.answered call session) = some s') : s'.InStep := by
  simp only [step] at hst
  split_ifs at hst with hcall
  obtain ⟨hmem, hok⟩ := hcall
  obtain ⟨call', hcalls⟩ := h.calls.resolve_left (List.ne_nil_of_mem hmem)
  obtain rfl : call = call' := by simpa [hcalls] using hmem
  have hnil : s.calls.erase call = [] := by simp [hcalls]
  -- the answer gives the flag the value that was expected
  have hanswer (tab : FocusTab) (hpaused : tab.isPaused = s.settled)
      (hid : tab.sessionId = s.sessionId) :
      InStep { s with toFocusTab := tab, calls := s.calls.erase call } := by
    refine ⟨.inl hnil, ?_, ?_, ?_, h.pauseStartedAt, ?_⟩
    · rw [hid]
      exact h.startTime
    · rw [hid]
      exact h.past
    · rw [hid, settled_of_idle hnil]
      dsimp only
      rw [hpaused]
      exact h.since
    · intro call' hcall'
      rw [show s.calls.erase call = [] from hnil] at hcall'
      cases hcall'
  cases session with
  | some session =>
    obtain rfl := Option.some.inj hst
    refine hanswer _ ?_ rfl
    rw [FocusTab.isPaused_receive, settled, hcalls]
    exact (if_pos hok.symm).symm
  | none =>
    obtain rfl := Option.some.inj hst
    refine hanswer { s.toFocusTab with loading := false } ?_ rfl
    rw [settled, hcalls]
    exact (if_neg (by simp [← hok])).symm

/-- A report leaves the refs alone. -/
theorem InStep.finalizeSession (h : s.InStep) (r : Render) (now : ℤ)
    (status : Option FocusSessionStatus) : (s.finalizeSession r now status).InStep := by
  unfold FocusMode.finalizeSession
  split
  · exact h
  · split_ifs
    · exact h
    · exact ⟨h.calls, h.startTime, h.past, h.since, h.pauseStartedAt, h.resuming⟩

theorem inStep_step (h : s.InStep) (hG : s.KeepsTime e) (hst : s.step e = some s') :
    s'.InStep := by
  cases e with
  | initializeSession =>
    simp only [step] at hst
    split_ifs at hst
    obtain rfl := Option.some.inj hst
    exact ⟨h.calls, h.startTime, h.past, h.since, h.pauseStartedAt, h.resuming⟩
  | created now session => exact inStep_created hG.1 hG.2 hst
  | createFailed =>
    simp only [step] at hst
    split_ifs at hst
    obtain rfl := Option.some.inj hst
    exact ⟨h.calls, h.startTime, h.past, h.since, h.pauseStartedAt, h.resuming⟩
  | handlePauseResume now ok =>
    simp only [step] at hst
    split_ifs at hst
    obtain rfl := Option.some.inj hst
    exact h.handlePauseResume hG
  | answered call session => exact h.answered hst
  | submit =>
    simp only [step] at hst
    split_ifs at hst
    obtain rfl := Option.some.inj hst
    exact ⟨h.calls, h.startTime, h.past, h.since, h.pauseStartedAt, h.resuming⟩
  | proofUploaded now =>
    obtain ⟨r, -, rfl⟩ := Option.map_eq_some_iff.1 hst
    have hs := h.finalizeSession r now none
    exact ⟨hs.calls, hs.startTime, hs.past, hs.since, hs.pauseStartedAt, hs.resuming⟩
  | proofRejected =>
    simp only [step] at hst
    split_ifs at hst
    obtain rfl := Option.some.inj hst
    exact ⟨h.calls, h.startTime, h.past, h.since, h.pauseStartedAt, h.resuming⟩
  | toggledOff now =>
    obtain rfl := Option.some.inj hst
    exact h.finalizeSession _ now _
  | finalized currentSession =>
    simp only [step] at hst
    split_ifs at hst
    obtain rfl := Option.some.inj hst
    exact ⟨h.calls, fun hid => absurd rfl hid, fun hid => absurd rfl hid, fun hid => absurd rfl hid,
      (Option.some_ne_none 0).symm, fun _ _ _ => rfl⟩

/-! ### Runs -/

theorem reports_finalizeSession (s : FocusMode) {sessionId : String}
    (hid : s.sessionId = some sessionId) (hfinal : s.finalizing = false) (r : Render) (now : ℤ)
    (status : Option FocusSessionStatus) :
    (s.finalizeSession r now status).reports = s.reports ++ [⟨s.startTime, s.clicks, now, sessionId,
      { status, activeDuration := some (some (s.getActiveDurationSeconds r now)) }⟩] := by
  rw [finalizeSession, hid]
  simp only [hfinal, Bool.false_eq_true, if_false]

/-- A report of the current render. -/
theorem InStep.exact_finalizeSession (h : s.InStep) (hwaits : s.NoPauseWaits) (now : ℤ)
    (status : Option FocusSessionStatus) (hr : ∀ r ∈ s.reports, r.Exact) :
    ∀ r ∈ (s.finalizeSession s.render now status).reports, r.Exact := by
  cases hid : s.sessionId with
  | none =>
    rw [FocusMode.finalizeSession, hid]
    exact hr
  | some sessionId =>
    cases hfinal : s.finalizing with
    | true =>
      rw [FocusMode.finalizeSession, hid]
      simp only [hfinal, if_true]
      exact hr
    | false =>
      rw [s.reports_finalizeSession hid hfinal]
      intro r hmem
      rcases List.mem_append.1 hmem with hmem | hmem
      · exact hr r hmem
      · obtain rfl := List.mem_singleton.1 hmem
        obtain ⟨startTime, hstart, hactive⟩ :=
          h.getActiveDurationSeconds_eq (by simp [hid]) hwaits now
        exact ⟨startTime, hstart, congrArg (fun active => some (some active)) hactive⟩

theorem reports_handlePauseResume (s : FocusMode) (now : ℤ) (ok : Bool) :
    (s.handlePauseResume now ok).reports = s.reports := by
  by_cases hid : s.sessionId = none
  · rw [handlePauseResume, hid]
  · obtain ⟨call, -, heq⟩ := handlePauseResume_eq hid now ok
    rw [heq]

theorem exact_step (h : s.InStep) (hG : s.KeepsTime e) (hst : s.step e = some s')
    (hr : ∀ r ∈ s.reports, r.Exact) : ∀ r ∈ s'.reports, r.Exact := by
  cases e with
  | toggledOff now =>
    obtain rfl := Option.some.inj hst
    exact h.exact_finalizeSession hG now _ hr
  | proofUploaded now =>
    obtain ⟨r, hsub, rfl⟩ := Option.map_eq_some_iff.1 hst
    obtain rfl := hG.2 r hsub
    exact h.exact_finalizeSession hG.1 now none hr
  | handlePauseResume now ok =>
    simp only [step] at hst
    split_ifs at hst
    obtain rfl := Option.some.inj hst
    rwa [reports_handlePauseResume]
  | answered call session =>
    simp only [step] at hst
    split_ifs at hst
    cases session <;>
    · obtain rfl := Option.some.inj hst
      exact hr
  | _ =>
    simp only [step] at hst
    split_ifs at hst
    obtain rfl := Option.some.inj hst
    exact hr

theorem inStep_start : InStep {} where
  calls := .inl rfl
  startTime := fun h => absurd rfl h
  past := fun h => absurd rfl h
  since := fun h => absurd rfl h
  pauseStartedAt := (Option.some_ne_none 0).symm
  resuming := fun _ h => absurd h List.not_mem_nil

/-- **The active time that is sent leaves out exactly the pauses**: in every run whose steps lose no
paused time, for every session that is finalized. -/
theorem active_time_exact {es : List FocusModeEvent} (h : Run step KeepsTime {} es s) :
    ∀ r ∈ s.reports, r.Exact :=
  (h.invariant (I := fun s => s.InStep ∧ ∀ r ∈ s.reports, r.Exact)
    ⟨inStep_start, fun _ hr => absurd hr List.not_mem_nil⟩
    fun _ _ _ hI hG hst => ⟨inStep_step hI.1 hG hst, exact_step hI.1 hG hst hI.2⟩).2

/-- What a resume click leaves when its call fails: the pause is over for the refs, but not for
`isPaused`. -/
theorem run_resume_fails {since : ℤ} (now : ℤ) (h : s.InStep) (hid : s.sessionId ≠ none)
    (hidle : s.loading = false) (hcalls : s.calls = []) (hpaused : s.isPaused = true)
    (hsince : s.pauseStartedAt = some since) :
    ∃ call : PauseCall, call.click = ⟨now, .resume, false⟩ ∧
      AnyRun step s [.handlePauseResume now false, .answered call none] { s with
        loading := false
        pausedDuration := s.pausedDuration + (now - since)
        pauseStartedAt := none
        calls := []
        clicks := s.clicks ++ [call.click] } := by
  have hne : since ≠ 0 := fun h0 => h.pauseStartedAt (by rw [hsince, h0])
  obtain ⟨call, hclick, heq⟩ := handlePauseResume_eq hid now false
  rw [hpaused, if_pos rfl] at hclick
  rw [noteClick_resume now hpaused hsince hne, hcalls, List.nil_append] at heq
  have hsent : s.step (.handlePauseResume now false) = some (s.handlePauseResume now false) := by
    simp only [step, hidle, Bool.false_eq_true, if_false]
  refine ⟨call, hclick, .cons trivial hsent (.single trivial ?_)⟩
  rw [heq, step, if_pos ⟨List.mem_singleton.2 rfl, by rw [hclick]; rfl⟩]
  simp

/-- The condition on the resume clicks cannot be dropped: from a resume that fails on, the time is
counted as active, while the page still says that the session is paused. -/
theorem not_exact_of_resume_fails {startTime since now later : ℤ} (h : s.InStep)
    (hid : s.sessionId ≠ none) (hidle : s.loading = false) (hcalls : s.calls = [])
    (hfinal : s.finalizing = false) (hpaused : s.isPaused = true)
    (hstart : s.startTime = some startTime) (hsince : s.pauseStartedAt = some since)
    (hactive : 0 ≤ since - startTime - s.pausedDuration) (hlater : now + 1000 ≤ later) :
    ∃ call s', AnyRun step s
        [.handlePauseResume now false, .answered call none, .toggledOff later] s' ∧
      ∃ r ∈ s'.reports, r.now = later ∧ ¬ r.Exact := by
  have hopen : (PausedTime.of s.clicks).since = some since := by
    rw [← h.since hid, settled_of_idle hcalls, hpaused, if_pos rfl, hsince]
  obtain ⟨call, hclick, hrun⟩ := run_resume_fails now h hid hidle hcalls hpaused hsince
  have hpause : PausedTime.of (s.clicks ++ [call.click]) = PausedTime.of s.clicks := by
    rw [PausedTime.of_concat, hclick]
    rfl
  generalize hfailed : ({ s with
    loading := false
    pausedDuration := s.pausedDuration + (now - since)
    pauseStartedAt := none
    calls := []
    clicks := s.clicks ++ [call.click] } : FocusMode) = failed at hrun
  have hsent : failed.getActiveDurationSeconds failed.render later =
      max 0 ((later - startTime - (s.pausedDuration + (now - since) + 0)) / 1000) := by
    obtain ⟨startTime', hstart', hne⟩ := h.startTime hid
    obtain rfl : startTime = startTime' := Option.some.inj (hstart.symm.trans hstart')
    have hrender : failed.render.startTime = some startTime := by
      rw [← hfailed]
      exact hstart
    rw [getActiveDurationSeconds_of_start hrender hne, ← hfailed]
    simp
  obtain ⟨sessionId, hid'⟩ := Option.ne_none_iff_exists'.1 hid
  have hid₂ : failed.sessionId = some sessionId := by rw [← hfailed, hid']
  have hreports := failed.reports_finalizeSession hid₂ (by rw [← hfailed, hfinal]) failed.render
    later (some .abandoned)
  refine ⟨call, _, hrun.append (.single trivial rfl), ?_⟩
  rw [hreports]
  refine ⟨_, List.mem_append_right _ List.mem_cons_self, rfl, ?_⟩
  rintro ⟨startTime', hstart', hexact⟩
  rw [show failed.startTime = s.startTime by rw [← hfailed], hstart] at hstart'
  obtain rfl : startTime = startTime' := Option.some.inj hstart'
  rw [hsent, show failed.clicks = s.clicks ++ [call.click] by rw [← hfailed], hpause,
    PausedTime.upTo, hopen, ← h.past hid] at hexact
  have hsame := Option.some.inj (Option.some.inj hexact)
  simp only [Option.elim_some] at hsame
  omega

/-- A session that begins at 1 s, and a successful pause at 11 s. -/
def pausedSample : List FocusModeEvent :=
  [.initializeSession, .created 1000 FocusTabs.newRow, .handlePauseResume 11000 true,
    .answered ⟨⟨11000, .pause (some FocusTabs.newRow), true⟩, .updateSession "s"
      { status := some .paused, pauseCount := some 1, activeDuration := some (some 10) }⟩
      (some ⟨FocusTabs.newRow, []⟩)]

/-- A resume click of it. -/
def resumeSample (now : ℤ) (ok : Bool) (active : ℤ) : List FocusModeEvent :=
  [.handlePauseResume now ok,
    .answered ⟨⟨now, .resume, ok⟩, .updateSession "s"
      { status := some .active, activeDuration := some (some active) }⟩
      (if ok then some ⟨FocusTabs.newRow, []⟩ else none)]

/-- A pause of 10 seconds in a session of 40. -/
theorem active_time_exact_paused : ∃ es s, Run step KeepsTime {} es s ∧
    (∀ r ∈ s.reports, r.Exact) ∧ s.reports.map (·.updateDto.activeDuration) = [some (some 30)] := by
  have hrun : ((pausedSample ++ resumeSample 21000 true 10 ++
      [FocusModeEvent.toggledOff 41000]).foldlM (Run.guarded step KeepsTime) {}).any
        (fun s : FocusMode => s.reports.map (·.updateDto.activeDuration) = [some (some 30)]) =
          true := by
    decide
  obtain ⟨s, hrun, hsent⟩ := (Option.any_eq_true _ _).1 hrun
  have hrun := Run.of_guarded hrun
  exact ⟨_, s, hrun, active_time_exact hrun, by simpa using hsent⟩

/-- **A resume that fails at first**: the minute until the next click is sent as active time. -/
theorem failed_resume_counts : ¬ ∀ (es : List FocusModeEvent) (s : FocusMode),
    AnyRun step {} es s → ∀ r ∈ s.reports, r.Exact := by
  intro h
  have hrun : ((pausedSample ++ resumeSample 21000 false 10 ++ resumeSample 81000 true 70 ++
      [FocusModeEvent.toggledOff 91000]).foldlM step {}).any
        (fun s => s.reports.map (fun r => (r.startTime, (PausedTime.of r.clicks).upTo r.now,
          r.now, r.updateDto.activeDuration)) =
            [(some 1000, 70000, 91000, some (some 80))]) = true := by
    decide
  obtain ⟨s, hrun, hsent⟩ := (Option.any_eq_true _ _).1 hrun
  obtain ⟨r, hreports, hr⟩ := List.map_eq_singleton_iff.1 (of_decide_eq_true hsent)
  simp only [Prod.mk.injEq] at hr
  obtain ⟨hstart, hpaused, hnow, hactive⟩ := hr
  obtain ⟨startTime, hstart', hexact⟩ := h _ s (Run.of_foldlM hrun) r (by simp [hreports])
  obtain rfl : 1000 = startTime := Option.some.inj (hstart.symm.trans hstart')
  rw [hactive, hpaused, hnow] at hexact
  exact absurd hexact (by decide)

end FocusMode

end StudyOasis
