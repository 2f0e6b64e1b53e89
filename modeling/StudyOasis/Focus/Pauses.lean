import StudyOasis.Focus.Server

/-!
# Pauses from several tabs

The pause button of `FocusMode` reads `pauseCount` in the copy of the session that the store of its
tab holds, and sends that value plus one; the server writes what it is sent.  No pause is lost
exactly when every copy still has the `pauseCount` of the row when the update is carried out
(`pauses_counted_iff`).

The model has any number of tabs, each with its store, on the server of `Focus/Server.lean`.
-/

namespace StudyOasis

/-- What a tab sends, with what the code after the `await` needs. -/
inductive TabAction where
  | createSession
  | getSession
  /-- The pause, with `currentSession` as the handler saw it. -/
  | pause (currentSession : Option FocusSession)
  | resume
  deriving DecidableEq, Repr

/-- The caller of a call; when the connection breaks no tab waits for the answer. -/
structure TabCaller where
  tab : Option ℕ
  action : TabAction
  deriving DecidableEq, Repr

/-- `FocusMode` in a tab, and the focus store of the tab. -/
structure FocusTab where
  /-- `currentSession`. -/
  currentSession : Option FocusSession := none
  /-- `loading`. -/
  loading : Bool := false
  /-- `sessionIdRef.current`. -/
  sessionId : Option String := none
  /-- `isPaused`. -/
  isPaused : Bool := false
  deriving DecidableEq, Repr

/-- The tabs and the server. -/
structure FocusTabs where
  /-- The server. -/
  server : FocusServer TabCaller := .opened
  /-- The tabs, by number. -/
  tab : ℕ → FocusTab := fun _ => {}
  /-- The sessions of the pause updates that were carried out. -/
  pauses : List String := []

/-- What happens next. -/
inductive TabEvent where
  /-- `initializeSession`; `id` is the generated key. -/
  | initializeSession (k : ℕ) (u id : String) (documentId conversationId : Option String)
  /-- A tab comes to show a session. -/
  | showSession (k : ℕ) (sessionId : String)
  /-- `getSession` of the store. -/
  | getSession (k : ℕ) (u sessionId : String)
  /-- The button. -/
  | handlePauseResume (k : ℕ) (u : String) (activeDuration : ℤ)
  /-- The server carries out a statement. -/
  | resolved (call : TabCaller × FocusTask) (now : ℤ)
  /-- The database refuses it. -/
  | rejected (call : TabCaller × FocusTask)
  /-- An answer arrives. -/
  | received (answer : TabCaller × FocusAnswer)
  /-- The connection of a call breaks; the server goes on. -/
  | lost (call : TabCaller × FocusTask)
  deriving DecidableEq, Repr

/-- The count that a pause sends: `(currentSession?.pauseCount || 0) + 1`. -/
def nextPauseCount (currentSession : Option FocusSession) : ℤ :=
  orNumber (currentSession.map FocusSession.pauseCount) 0 + 1

namespace FocusTab

/-- The store and the component when an answer arrives. -/
def receive (tab : FocusTab) (action : TabAction) : FocusAnswer → FocusTab
  | .ok (.created session) =>
    { tab with currentSession := some session, loading := false, sessionId := some session.id }
  | .ok (.session s) =>
    { tab with
      currentSession := some s.session
      loading := false
      isPaused := match action with
        | .pause _ => true
        | .resume => false
        | _ => tab.isPaused }
  | _ => { tab with loading := false }

/-- The request of `handlePauseResume` on a session. -/
def pauseResume (tab : FocusTab) (sessionId : String) (activeDuration : ℤ) :
    TabAction × FocusRequest :=
  if !tab.isPaused then
    (.pause tab.currentSession,
      .updateSession sessionId
        { status := some .paused, pauseCount := some (nextPauseCount tab.currentSession)
          activeDuration := some (some activeDuration) })
  else
    (.resume,
      .updateSession sessionId
        { status := some .active, activeDuration := some (some activeDuration) })

end FocusTab

namespace FocusTabs

/-- Tab `k` is set. -/
def setTab (s : FocusTabs) (k : ℕ) (tab : FocusTab) : FocusTabs :=
  { s with tab := fun j => if j = k then tab else s.tab j }

/-- An action of the store: `loading` is set and the request is sent. -/
def send (s : FocusTabs) (k : ℕ) (u : String) (action : TabAction) (request : FocusRequest) :
    Option FocusTabs :=
  (s.server.step (.arrive ⟨some k, action⟩ u request)).map fun server =>
    { s.setTab k { s.tab k with loading := true } with server }

/-- The session whose pause is saved when this statement is carried out. -/
def savedPause : TabCaller × FocusTask → Option String
  | (⟨_, .pause _⟩, .updating sessionId _) => some sessionId
  | _ => none

/-- One step. -/
def step (s : FocusTabs) : TabEvent → Option FocusTabs
  | .initializeSession k u id documentId conversationId =>
    s.send k u .createSession (.createSession id documentId conversationId)
  | .showSession k sessionId =>
    some (s.setTab k { s.tab k with sessionId := some sessionId, isPaused := false })
  | .getSession k u sessionId => s.send k u .getSession (.getSession sessionId)
  | .handlePauseResume k u activeDuration =>
    -- `disabled={loading}`
    if (s.tab k).loading then none
    else
      match (s.tab k).sessionId with
      | none => some s
      | some sessionId =>
        let sent := (s.tab k).pauseResume sessionId activeDuration
        s.send k u sent.1 sent.2
  | .resolved call now =>
    (s.server.step (.resolved call now)).map fun server =>
      { s with server, pauses := s.pauses ++ (savedPause call).toList }
  | .rejected call =>
    (s.server.step (.rejected call)).map fun server => { s with server }
  | .received answer =>
    match answer.1.tab with
    | none => none
    | some k =>
      if answer ∈ s.server.answers then
        some { s.setTab k ((s.tab k).receive answer.1.action answer.2) with
          server := { s.server with answers := s.server.answers.erase answer } }
      else none
  | .lost call =>
    match call.1.tab with
    | none => none
    | some k =>
      if call ∈ s.server.calls then
        some { s.setTab k { s.tab k with loading := false } with
          server :=
            { s.server with
              calls := s.server.calls.erase call ++ [(⟨none, call.1.action⟩, call.2)] } }
      else none

end FocusTabs

/-! ### What is written -/

/-- The `pauseCount` of a session; a session that is not there has no pause. -/
def FocusDb.pauseCount (db : FocusDb) (sid : String) : ℤ :=
  (db.findUnique sid).elim 0 FocusSession.pauseCount

/-- The `pauseCount` that a call writes. -/
def FocusTask.pauseCount : FocusTask → Option ℤ
  | .called _ (.updateSession _ updateDto) => updateDto.pauseCount
  | .updating _ updates => updates.pauseCount
  | _ => none

/-- The `pauseCount` that a tab sends. -/
def TabAction.pauseCount : TabAction → Option ℤ
  | .pause currentSession => some (nextPauseCount currentSession)
  | _ => none

/-- An update that leaves the number of pauses alone. -/
theorem pauseCount_update {db : FocusDb} {f : FocusSession → FocusSession}
    (hid : ∀ s, (f s).id = s.id) (hf : ∀ s, (f s).pauseCount = s.pauseCount) (id sid : String) :
    (db.update id f).pauseCount sid = db.pauseCount sid := by
  unfold FocusDb.pauseCount
  rw [FocusDb.findUnique_update db id sid hid]
  by_cases h : sid = id
  · rw [if_pos h]
    cases db.findUnique sid <;> simp [hf]
  · rw [if_neg h]

/-- The update of a session. -/
theorem pauseCount_apply {db : FocusDb} {id : String} {session : FocusSession}
    (hs : db.findUnique id = some session) (updates : FocusSessionUpdateInput) (sid : String) :
    (db.update id updates.apply).pauseCount sid =
      if sid = id then updates.pauseCount.getD (db.pauseCount sid) else db.pauseCount sid := by
  unfold FocusDb.pauseCount
  rw [FocusDb.findUnique_update db id sid updates.apply_id]
  by_cases h : sid = id
  · subst h
    simp [hs, FocusSessionUpdateInput.apply]
  · simp [h]

/-- A new session has no pause. -/
theorem pauseCount_createSession {db : FocusDb} {id u : String} (hfresh : db.findUnique id = none)
    (now : ℤ) (documentId conversationId : Option String) (sid : String) :
    (FocusService.createSession db id now u documentId conversationId).2.pauseCount sid =
      db.pauseCount sid := by
  unfold FocusDb.pauseCount
  rw [FocusDb.findUnique_createSession]
  by_cases h : id = sid
  · subst h
    simp [hfresh, FocusService.newSession]
  · simp [h]

/-- The next statement of a call writes the same number of pauses. -/
theorem pauseCount_next {db : FocusDb} {now : ℤ} {task next : FocusTask} {db' : FocusDb}
    (h : task.run db now = some (db', .inl next)) : next.pauseCount = task.pauseCount := by
  cases task with
  | called u request =>
    rcases FocusTask.run_called h with ⟨-, hnext⟩ | ⟨_, _, _, _, -, -, heq⟩
    · rcases hnext next rfl with ⟨sid, dto, session, rfl, rfl⟩ | ⟨_, _, _, _, rfl, rfl⟩
      · simp only [FocusTask.pauseCount, FocusService.updates_eq]
      · rfl
    · cases heq
  | recording key id type duration =>
    obtain ⟨session, -, heq⟩ := Option.map_eq_some_iff.1 h
    cases heq
    rfl
  | _ =>
    obtain ⟨session, -, heq⟩ := Option.map_eq_some_iff.1 h
    cases heq

/-- The `pauseCount` that the statement gives the session. -/
def FocusTask.setsPauses (sid : String) : FocusTask → Option ℤ
  | .updating id updates => if sid = id then updates.pauseCount else none
  | _ => none

/-- **What a statement does to the number of pauses.** -/
theorem pauseCount_run {db : FocusDb} {now : ℤ} {task : FocusTask}
    {next : FocusDb × (FocusTask ⊕ FocusAnswer)} (h : task.run db now = some next) (sid : String) :
    next.1.pauseCount sid = (task.setsPauses sid).getD (db.pauseCount sid) := by
  cases task with
  | called u request =>
    rcases FocusTask.run_called h with ⟨hdb, -⟩ | ⟨_, _, _, _, -, hfresh, rfl⟩
    · rw [hdb]
      rfl
    · exact pauseCount_createSession hfresh now _ _ sid
  | updating id updates =>
    obtain ⟨session, hs, rfl⟩ := Option.map_eq_some_iff.1 h
    refine (pauseCount_apply hs updates sid).trans ?_
    by_cases hid : sid = id <;> simp [FocusTask.setsPauses, hid]
  | recording key id type duration =>
    obtain ⟨session, -, rfl⟩ := Option.map_eq_some_iff.1 h
    rfl
  | counting id d =>
    obtain ⟨session, -, rfl⟩ := Option.map_eq_some_iff.1 h
    exact pauseCount_update (FocusService.countDistraction_id _ now) (fun _ => rfl) id sid

/-! ### Runs -/

namespace FocusTabs

/-- The call writes what its tab sent. -/
def WritesSent (call : TabCaller × FocusTask) : Prop :=
  call.2.pauseCount = call.1.action.pauseCount

variable {s s' : FocusTabs} {e : TabEvent} {sid : String}

/-- The tables stay as they are, and the new calls write what was sent. -/
structure Kept (s s' : FocusTabs) : Prop where
  db : s'.server.db = s.server.db
  pauses : s'.pauses = s.pauses
  calls : ∀ call ∈ s'.server.calls, call ∈ s.server.calls ∨ WritesSent call ∨
    ∃ old ∈ s.server.calls, old.1.action = call.1.action ∧ old.2 = call.2

theorem kept_of_subset (hdb : s'.server.db = s.server.db) (hpauses : s'.pauses = s.pauses)
    (hcalls : ∀ call ∈ s'.server.calls, call ∈ s.server.calls) : Kept s s' :=
  ⟨hdb, hpauses, fun call hcall => .inl (hcalls call hcall)⟩

theorem kept_send {k : ℕ} {u : String} {action : TabAction} {request : FocusRequest}
    (h : s.send k u action request = some s')
    (hsent : WritesSent (⟨some k, action⟩, .called u request)) : Kept s s' := by
  obtain ⟨server, hserver, rfl⟩ := Option.map_eq_some_iff.1 h
  obtain rfl := Option.some.inj hserver
  refine ⟨rfl, rfl, fun call hcall => ?_⟩
  rcases List.mem_append.1 hcall with hcall | hcall
  · exact .inl hcall
  · obtain rfl := List.mem_singleton.1 hcall
    exact .inr (.inl hsent)

/-- The button sends what it says. -/
theorem writesSent_pauseResume (tab : FocusTab) (k : ℕ) (u sessionId : String) (d : ℤ) :
    WritesSent (⟨some k, (tab.pauseResume sessionId d).1⟩,
      .called u (tab.pauseResume sessionId d).2) := by
  unfold FocusTab.pauseResume
  split <;> rfl

/-- **What a step does to the server**: a statement is carried out, or the tables are kept. -/
theorem step_cases (h : s.step e = some s') :
    (∃ call now next, e = .resolved call now ∧ call ∈ s.server.calls ∧
      call.2.run s.server.db now = some next ∧ s'.server = s.server.advance call next ∧
      s'.pauses = s.pauses ++ (savedPause call).toList) ∨
    (∀ call now, e ≠ .resolved call now) ∧ Kept s s' := by
  cases e with
  | initializeSession k u id documentId conversationId =>
    exact .inr ⟨fun _ _ he => (by cases he), kept_send h rfl⟩
  | getSession k u sessionId => exact .inr ⟨fun _ _ he => (by cases he), kept_send h rfl⟩
  | showSession k sessionId =>
    obtain rfl := Option.some.inj h
    exact .inr ⟨fun _ _ he => (by cases he), kept_of_subset rfl rfl fun _ => id⟩
  | handlePauseResume k u d =>
    simp only [step] at h
    split_ifs at h
    split at h
    · obtain rfl := Option.some.inj h
      exact .inr ⟨fun _ _ he => (by cases he), kept_of_subset rfl rfl fun _ => id⟩
    · exact .inr ⟨fun _ _ he => (by cases he), kept_send h (writesSent_pauseResume _ k u _ d)⟩
  | resolved call now =>
    obtain ⟨server, hserver, rfl⟩ := Option.map_eq_some_iff.1 h
    obtain ⟨hcall, next, hrun, rfl⟩ := FocusServer.step_resolved hserver
    exact .inl ⟨call, now, next, rfl, hcall, hrun, rfl, rfl⟩
  | rejected call =>
    obtain ⟨server, hserver, rfl⟩ := Option.map_eq_some_iff.1 h
    obtain ⟨-, rfl⟩ := FocusServer.step_rejected hserver
    exact .inr ⟨fun _ _ he => (by cases he), kept_of_subset rfl rfl fun _ => List.mem_of_mem_erase⟩
  | received answer =>
    simp only [step] at h
    split at h
    · cases h
    · split_ifs at h
      obtain rfl := Option.some.inj h
      exact .inr ⟨fun _ _ he => (by cases he), kept_of_subset rfl rfl fun _ => id⟩
  | lost call =>
    simp only [step] at h
    split at h
    · cases h
    · split_ifs at h with hmem
      obtain rfl := Option.some.inj h
      refine .inr ⟨fun _ _ he => (by cases he), rfl, rfl, fun call' hcall' => ?_⟩
      rcases List.mem_append.1 hcall' with hcall' | hcall'
      · exact .inl (List.mem_of_mem_erase hcall')
      · obtain rfl := List.mem_singleton.1 hcall'
        exact .inr (.inr ⟨call, hmem, rfl, rfl⟩)

/-- The calls in progress write what their tabs sent. -/
def Faithful (s : FocusTabs) : Prop := ∀ call ∈ s.server.calls, WritesSent call

theorem faithful_step (hs : s.Faithful) (h : s.step e = some s') : s'.Faithful := by
  intro call hcall
  rcases step_cases h with ⟨old, now, next, -, hold, hrun, hserver, -⟩ | ⟨-, hkept⟩
  · rw [hserver] at hcall
    obtain ⟨db, task | answer⟩ := next
    · rcases List.mem_append.1 hcall with hcall | hcall
      · exact hs call (List.mem_of_mem_erase hcall)
      · obtain rfl := List.mem_singleton.1 hcall
        exact (pauseCount_next hrun).trans (hs old hold)
    · exact hs call (List.mem_of_mem_erase hcall)
  · rcases hkept.calls call hcall with hmem | hsent | ⟨old, hold, haction, htask⟩
    · exact hs call hmem
    · exact hsent
    · rw [WritesSent, ← haction, ← htask]
      exact hs old hold

/-- The number of pauses of the session is the number of its pause updates. -/
def PausesCounted (sid : String) (s : FocusTabs) : Prop :=
  s.server.db.pauseCount sid = s.pauses.count sid

/-- The event carries out no pause of the session that was computed from an outdated copy: when the
handler ran, `currentSession` had the `pauseCount` that the row has now. -/
def UpToDate (sid : String) (s : FocusTabs) : TabEvent → Prop
  | .resolved (⟨_, .pause currentSession⟩, .updating id _) _ =>
    id = sid → orNumber (currentSession.map FocusSession.pauseCount) 0 = s.server.db.pauseCount sid
  | _ => True

instance (sid : String) (s : FocusTabs) (e : TabEvent) : Decidable (UpToDate sid s e) := by
  unfold UpToDate
  split <;> infer_instance

/-- **A pause is counted exactly when its copy is up to date.** -/
theorem pausesCounted_step_iff (hf : s.Faithful) (hs : PausesCounted sid s)
    (h : s.step e = some s') : PausesCounted sid s' ↔ UpToDate sid s e := by
  unfold PausesCounted at hs ⊢
  rcases step_cases h with ⟨call, now, next, rfl, hcall, hrun, hserver, hpauses⟩ |
    ⟨hne, hkept⟩
  · have hwrites := hf call hcall
    have hcount := pauseCount_run hrun sid
    have hdb : s'.server.db = next.1 := by
      rw [hserver]
      obtain ⟨db, task | answer⟩ := next <;> rfl
    rw [hdb, hcount, hpauses, List.count_append, hs]
    obtain ⟨⟨tab, action⟩, task⟩ := call
    cases task with
    | updating id updates =>
      have hwrites : updates.pauseCount = action.pauseCount := hwrites
      simp only [FocusTask.setsPauses, hwrites]
      cases action with
      | pause currentSession =>
        by_cases hid : id = sid
        · subst hid
          simp [TabAction.pauseCount, nextPauseCount, savedPause, UpToDate, hs]
        · simp [savedPause, UpToDate, hid, Ne.symm hid]
      | _ => simp [TabAction.pauseCount, savedPause, UpToDate]
    | _ => simp [FocusTask.setsPauses, savedPause, UpToDate]
  · rw [hkept.db, hkept.pauses]
    refine iff_of_true hs ?_
    cases e with
    | resolved call now => exact absurd rfl (hne call now)
    | _ => trivial

/-- **No pause is lost exactly when every pause is computed from a copy that is up to date when it
is carried out.** -/
theorem pauses_counted_iff {es : List TabEvent} (h : AnyRun step {} es s) (sid : String) :
    Run.Always step (PausesCounted sid) {} es ↔ Run step (UpToDate sid) {} es s := by
  have hstart : PausesCounted sid {} := rfl
  refine (h.guarded_iff_always (I := Faithful) (fun call hcall => absurd hcall List.not_mem_nil)
    hstart (fun _ _ _ => faithful_step) ?_).symm
  exact fun _ _ _ hf hs hst => pausesCounted_step_iff hf hs hst

/-- A new session. -/
def newRow : FocusSession := FocusService.newSession "s" 1 "u" none none

/-- Tab 0 opens it. -/
def opening : List TabEvent :=
  [.initializeSession 0 "u" "s" none none,
    .resolved (⟨some 0, .createSession⟩, .called "u" (.createSession "s" none none)) 1,
    .received (⟨some 0, .createSession⟩, .ok (.created newRow))]

/-- Tab 1 shows it too. -/
def secondTab : List TabEvent :=
  [.showSession 1 "s", .getSession 1 "u" "s",
    .resolved (⟨some 1, .getSession⟩, .called "u" (.getSession "s")) 2,
    .received (⟨some 1, .getSession⟩, .ok (.session ⟨newRow, []⟩))]

/-- What a tab sends when it pauses the session with the new row as its copy. -/
def firstPause : UpdateFocusSessionDto :=
  { status := some .paused, pauseCount := some 1, activeDuration := some (some 0) }

/-- A tab with the new row as its copy pauses. -/
def pauseEvents (k : ℕ) : List TabEvent :=
  [.handlePauseResume k "u" 0,
    .resolved (⟨some k, .pause (some newRow)⟩, .called "u" (.updateSession "s" firstPause)) 3,
    .resolved (⟨some k, .pause (some newRow)⟩,
      .updating "s" (FocusService.updates newRow firstPause 3)) 4]

/-- One pause. -/
theorem pauses_counted_iff_once : ∃ s, AnyRun step {} (opening ++ pauseEvents 0) s ∧
    Run.Always step (PausesCounted "s") {} (opening ++ pauseEvents 0) ∧ s.pauses = ["s"] := by
  have hrun : ((opening ++ pauseEvents 0).foldlM (Run.guarded step (UpToDate "s")) {}).any
      (fun s => s.pauses = ["s"]) = true := by decide
  obtain ⟨s, hrun, hpauses⟩ := (Option.any_eq_true _ _).1 hrun
  have hrun := Run.of_guarded hrun
  exact ⟨s, hrun.any, (pauses_counted_iff hrun.any "s").2 hrun, by simpa using hpauses⟩

/-- Two tabs pause one after the other, each with a copy from before: one of the pauses is lost. -/
theorem pause_lost : ¬ ∀ (es : List TabEvent) (s : FocusTabs) (sid : String),
    AnyRun step {} es s → s.server.calls = [] → PausesCounted sid s := by
  intro h
  have hrun : ((opening ++ secondTab ++ pauseEvents 0 ++ pauseEvents 1).foldlM step {}).any
      (fun s => s.server.calls = [] && s.server.db.pauseCount "s" = 1 && s.pauses = ["s", "s"]) =
        true := by decide
  simp only [Option.any_eq_true, Bool.and_eq_true, decide_eq_true_eq] at hrun
  obtain ⟨s, hrun, ⟨hidle, hcount⟩, hpauses⟩ := hrun
  have hcounted := h _ s "s" (Run.of_foldlM hrun) hidle
  rw [PausesCounted, hcount, hpauses] at hcounted
  exact absurd hcounted (by decide)

end FocusTabs

end StudyOasis
