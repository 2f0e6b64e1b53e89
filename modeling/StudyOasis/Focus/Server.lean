import StudyOasis.Focus.Isolation

/-!
# Calls of the focus service that overlap

A call is a sequence of statements, and the statements of several calls take turns.
`FocusTask.run` is the body of `updateSession` and `logDistraction` from one `await` to the next;
every statement may be refused, and then the call throws.

* `FocusServer.step` : a call arrives, or the statement that a call waits for is carried out or
  refused;
* `FocusServer.uninterrupted` : a call whose statements follow each other and are carried out does
  what `FocusRequest.step` says.
-/

namespace StudyOasis

/-- What a call waits for. -/
inductive FocusTask where
  /-- The first statement of the call: `findUnique`, or the insert of `createSession`. -/
  | called (u : String) (request : FocusRequest)
  /-- `focusSession.update`, in `updateSession`. -/
  | updating (sessionId : String) (updates : FocusSessionUpdateInput)
  /-- `focusDistraction.create`. -/
  | recording (id sessionId : String) (type : DistractionType) (duration : Option ℤ)
  /-- `focusSession.update`, in `logDistraction`. -/
  | counting (sessionId : String) (distraction : FocusDistraction)
  deriving DecidableEq, Repr

namespace FocusTask

open FocusService

/-- The statement is carried out at `now`: the tables after it, and the statement the call waits for
next or its answer. -/
def run (db : FocusDb) (now : ℤ) : FocusTask → Option (FocusDb × (FocusTask ⊕ FocusAnswer))
  | called u request =>
    match request with
    | .createSession id documentId conversationId =>
      if (db.findUnique id).isSome then none
      else some ((createSession db id now u documentId conversationId).2,
        .inr (request.answer u now db))
    | .updateSession sessionId updateDto =>
      match db.findUnique sessionId with
      | none => some (db, .inr (request.answer u now db))
      | some session =>
        if session.userId ≠ some u then some (db, .inr (request.answer u now db))
        else some (db, .inl (.updating sessionId (updates session updateDto now)))
    | .logDistraction id sessionId type duration =>
      match db.findUnique sessionId with
      | none => some (db, .inr (request.answer u now db))
      | some session =>
        if session.userId ≠ some u then some (db, .inr (request.answer u now db))
        else some (db, .inl (.recording id sessionId type duration))
    -- the calls that write nothing
    | _ => some (db, .inr (request.answer u now db))
  -- an update of a row that is not there is refused
  | updating sessionId updates =>
    (db.findUnique sessionId).map fun session =>
      let row := updates.apply session
      let db := db.update sessionId updates.apply
      (db, .inr (.ok (.session ⟨row, db.focusDistraction.filter (·.sessionId = row.id)⟩)))
  -- so is a row that refers to it
  | recording id sessionId type duration =>
    (db.findUnique sessionId).map fun _ =>
      let distraction : FocusDistraction :=
        { id, sessionId, distractionType := type, timestamp := now, duration }
      ({ db with focusDistraction := db.focusDistraction ++ [distraction] },
        .inl (.counting sessionId distraction))
  | counting sessionId distraction =>
    (db.findUnique sessionId).map fun _ =>
      (db.update sessionId (countDistraction distraction.distractionType now),
        .inr (.ok (.distraction distraction)))

/-- **What the first statement of a call does**: it changes nothing, and the call goes on with an
update or with a row of the log; or it is the insert of a session. -/
theorem run_called {db : FocusDb} {now : ℤ} {u : String} {request : FocusRequest}
    {next : FocusDb × (FocusTask ⊕ FocusAnswer)} (h : (called u request).run db now = some next) :
    (next.1 = db ∧ ∀ task, next.2 = .inl task →
      (∃ sid dto session, request = .updateSession sid dto ∧
        task = .updating sid (updates session dto now)) ∨
      ∃ id sid type duration, request = .logDistraction id sid type duration ∧
        task = .recording id sid type duration) ∨
    ∃ id documentId conversationId answer,
      request = .createSession id documentId conversationId ∧ db.findUnique id = none ∧
        next = ((createSession db id now u documentId conversationId).2, .inr answer) := by
  cases request with
  | createSession id documentId conversationId =>
    simp only [run] at h
    split_ifs at h with hfresh
    exact .inr ⟨id, documentId, conversationId, _, rfl, by simpa using hfresh,
      (Option.some.inj h).symm⟩
  | updateSession sid dto =>
    left
    simp only [run] at h
    split at h
    · obtain rfl := Option.some.inj h
      exact ⟨rfl, fun task htask => by cases htask⟩
    · rename_i session _
      split_ifs at h <;> obtain rfl := Option.some.inj h
      · exact ⟨rfl, fun task htask => by cases htask⟩
      · exact ⟨rfl, fun task htask => .inl ⟨sid, dto, session, rfl, (Sum.inl.inj htask).symm⟩⟩
  | logDistraction id sid type duration =>
    left
    simp only [run] at h
    split at h
    · obtain rfl := Option.some.inj h
      exact ⟨rfl, fun task htask => by cases htask⟩
    · split_ifs at h <;> obtain rfl := Option.some.inj h
      · exact ⟨rfl, fun task htask => by cases htask⟩
      · exact ⟨rfl, fun task htask => .inr ⟨id, sid, type, duration, rfl,
          (Sum.inl.inj htask).symm⟩⟩
  | _ =>
    obtain rfl := Option.some.inj h
    exact .inl ⟨rfl, fun task htask => by cases htask⟩

end FocusTask

/-- The tables and the calls that are in progress, each with the mark `C` of its caller. -/
structure FocusServer (C : Type) where
  /-- The tables. -/
  db : FocusDb
  /-- The calls in progress. -/
  calls : List (C × FocusTask) := []
  /-- What the callers receive. -/
  answers : List (C × FocusAnswer) := []
  deriving DecidableEq, Repr

/-- What happens next. -/
inductive FocusServerEvent (C : Type) where
  /-- A call arrives. -/
  | arrive (c : C) (u : String) (request : FocusRequest)
  /-- The statement that a call waits for is carried out. -/
  | resolved (call : C × FocusTask) (now : ℤ)
  /-- It is refused. -/
  | rejected (call : C × FocusTask)
  deriving DecidableEq, Repr

namespace FocusServer

variable {C : Type}

/-- A server on empty tables. -/
def opened : FocusServer C := { db := .empty }

/-- The call goes on, or its answer is sent. -/
def advance [DecidableEq C] (s : FocusServer C) (call : C × FocusTask)
    (next : FocusDb × (FocusTask ⊕ FocusAnswer)) : FocusServer C :=
  match next.2 with
  | .inl task => { s with db := next.1, calls := s.calls.erase call ++ [(call.1, task)] }
  | .inr answer =>
    { db := next.1, calls := s.calls.erase call, answers := s.answers ++ [(call.1, answer)] }

/-- One step. -/
def step [DecidableEq C] (s : FocusServer C) : FocusServerEvent C → Option (FocusServer C)
  | .arrive c u request => some { s with calls := s.calls ++ [(c, .called u request)] }
  | .resolved call now =>
    if call ∈ s.calls then (call.2.run s.db now).map (s.advance call) else none
  | .rejected call =>
    if call ∈ s.calls then some (s.advance call (s.db, .inr (.error .internal))) else none

section

variable [DecidableEq C] {s s' : FocusServer C} {call : C × FocusTask}

/-- A statement that is carried out. -/
theorem step_resolved {now : ℤ} (h : s.step (.resolved call now) = some s') :
    call ∈ s.calls ∧ ∃ next, call.2.run s.db now = some next ∧ s' = s.advance call next := by
  simp only [step] at h
  split_ifs at h with hcall
  obtain ⟨next, hrun, rfl⟩ := Option.map_eq_some_iff.1 h
  exact ⟨hcall, next, hrun, rfl⟩

/-- A statement that is refused. -/
theorem step_rejected (h : s.step (.rejected call) = some s') :
    call ∈ s.calls ∧ s' = s.advance call (s.db, .inr (.error .internal)) := by
  simp only [step] at h
  split_ifs at h with hcall
  exact ⟨hcall, (Option.some.inj h).symm⟩

end

end FocusServer

/-! ### The session under a key -/

namespace FocusDb

/-- An update is seen under its own key. -/
theorem findUnique_update (db : FocusDb) (id sid : String) {f : FocusSession → FocusSession}
    (hf : ∀ s, (f s).id = s.id) :
    (db.update id f).findUnique sid =
      if sid = id then (db.findUnique sid).map f else db.findUnique sid := by
  unfold findUnique update
  induction db.focusSession with
  | nil => simp
  | cons s ss ih =>
    by_cases hs : s.id = sid
    · subst hs
      by_cases hid : s.id = id <;> simp [hid, hf]
    · have hs' : (if s.id = id then f s else s).id ≠ sid := by
        split_ifs
        · rwa [hf]
        · exact hs
      simpa [List.find?_cons, hs, hs'] using ih

theorem findUnique_createSession (db : FocusDb) (id u : String) (now : ℤ)
    (documentId conversationId : Option String) (sid : String) :
    (FocusService.createSession db id now u documentId conversationId).2.findUnique sid =
      (db.findUnique sid).or
        (if id = sid then some (FocusService.newSession id now u documentId conversationId)
          else none) := by
  simp only [FocusService.createSession, findUnique, List.find?_append]
  by_cases h : id = sid <;> simp [FocusService.newSession, h]

end FocusDb

@[simp] theorem FocusSessionUpdateInput.apply_id (updates : FocusSessionUpdateInput)
    (s : FocusSession) : (updates.apply s).id = s.id := rfl

@[simp] theorem FocusService.countDistraction_id (type : DistractionType) (now : ℤ)
    (s : FocusSession) : (countDistraction type now s).id = s.id := rfl

/-! ### A call on its own -/

namespace FocusServer

variable {C : Type} [DecidableEq C]

variable {db db' : FocusDb} {answers : List (C × FocusAnswer)} {c : C} {task : FocusTask}

/-- The last statement of the only call. -/
theorem run_answered (now : ℤ) {answer : FocusAnswer}
    (h : task.run db now = some (db', .inr answer)) :
    AnyRun step ⟨db, [(c, task)], answers⟩ [.resolved (c, task) now]
      ⟨db', [], answers ++ [(c, answer)]⟩ := by
  refine .single trivial ?_
  simp [step, h, advance]

/-- Another statement of it. -/
theorem run_next {now : ℤ} {next : FocusTask} {es : List (FocusServerEvent C)} {s : FocusServer C}
    (h : task.run db now = some (db', .inl next))
    (hrun : AnyRun step ⟨db', [(c, next)], answers⟩ es s) :
    AnyRun step ⟨db, [(c, task)], answers⟩ (.resolved (c, task) now :: es) s := by
  refine .cons trivial ?_ hrun
  simp [step, h, advance]

/-- The statements of the only call answer the request and leave the given tables. -/
def AnsweredAlone (c : C) (u : String) (request : FocusRequest) (now : ℤ) (db₀ db : FocusDb) :
    Prop :=
  ∀ answers : List (C × FocusAnswer), ∃ es,
    AnyRun step ⟨db₀, [(c, .called u request)], answers⟩ es
      ⟨db, [], answers ++ [(c, request.answer u now db₀)]⟩

variable {db₀ : FocusDb} {now : ℤ} {u sid : String}

theorem answeredAlone_updateSession (c : C) (dto : UpdateFocusSessionDto) :
    AnsweredAlone c u (.updateSession sid dto) now db₀
      (afterCall db₀ (FocusService.updateSession db₀ sid dto u now)) := by
  intro answers
  by_cases hown : ∃ session, db₀.findUnique sid = some session ∧ session.userId = some u
  · obtain ⟨session, hs, hown⟩ := hown
    let updates := FocusService.updates session dto now
    have hfind : (FocusTask.called u (.updateSession sid dto)).run db₀ now =
        some (db₀, .inl (.updating sid updates)) := by
      simp [FocusTask.run, hs, hown, updates]
    refine ⟨_, run_next hfind (run_answered now ?_)⟩
    simp [FocusTask.run, hs, FocusRequest.answer, FocusService.updateSession_of_owned hs hown,
      afterCall, writeAnswer, updates]
  · have hnot : NotOwned u db₀ sid := fun session hs hu => hown ⟨session, hs, hu⟩
    refine ⟨_, run_answered now ?_⟩
    rw [FocusService.updateSession_of_notOwned hnot, afterCall]
    cases hs : db₀.findUnique sid with
    | none => simp [FocusTask.run, hs]
    | some session => simp [FocusTask.run, hs, hnot session hs]

theorem answeredAlone_logDistraction (c : C) (id : String) (type : DistractionType)
    (duration : Option ℤ) :
    AnsweredAlone c u (.logDistraction id sid type duration) now db₀
      (afterCall db₀ (FocusService.logDistraction db₀ id sid type duration u now)) := by
  intro answers
  by_cases hown : ∃ session, db₀.findUnique sid = some session ∧ session.userId = some u
  · obtain ⟨session, hs, hown⟩ := hown
    let distraction : FocusDistraction := ⟨id, sid, type, now, duration⟩
    have hfind : (FocusTask.called u (.logDistraction id sid type duration)).run db₀ now =
        some (db₀, .inl (.recording id sid type duration)) := by
      simp [FocusTask.run, hs, hown]
    have hrecord : (FocusTask.recording id sid type duration).run db₀ now =
        some ({ db₀ with focusDistraction := db₀.focusDistraction ++ [distraction] },
          .inl (.counting sid distraction)) := by
      simp [FocusTask.run, hs, distraction]
    refine ⟨_, run_next hfind (run_next hrecord (run_answered now ?_))⟩
    have hs' : FocusDb.findUnique
        { db₀ with focusDistraction := db₀.focusDistraction ++ [distraction] } sid =
          some session := hs
    simp [FocusTask.run, hs', FocusRequest.answer, FocusService.logDistraction_of_owned hs hown,
      afterCall, writeAnswer, distraction]
  · have hnot : NotOwned u db₀ sid := fun session hs hu => hown ⟨session, hs, hu⟩
    refine ⟨_, run_answered now ?_⟩
    rw [FocusService.logDistraction_of_notOwned hnot, afterCall]
    cases hs : db₀.findUnique sid with
    | none => simp [FocusTask.run, hs]
    | some session => simp [FocusTask.run, hs, hnot session hs]

/-- **A call on its own** does what the service does. -/
theorem uninterrupted {s : FocusServer C} (hidle : s.calls = []) (c : C) (u : String) (now : ℤ)
    {request : FocusRequest} (h : request.step u now s.db = some db) :
    ∃ es, AnyRun step s es ⟨db, [], s.answers ++ [(c, request.answer u now s.db)]⟩ := by
  obtain ⟨db₀, calls, answers⟩ := s
  obtain rfl : calls = [] := hidle
  suffices hcalled : AnsweredAlone c u request now db₀ db by
    obtain ⟨es, hes⟩ := hcalled answers
    exact ⟨.arrive c u request :: es, .cons trivial rfl hes⟩
  cases request with
  | createSession id documentId conversationId =>
    refine fun answers => ⟨_, run_answered now ?_⟩
    simp only [FocusRequest.step, FocusRequest.toCall, focusStep] at h
    split_ifs at h with hfresh
    obtain rfl := Option.some.inj h
    simp [FocusTask.run, hfresh]
  | updateSession sid dto =>
    obtain rfl : _ = db := Option.some.inj h
    exact answeredAlone_updateSession c dto
  | logDistraction id sid type duration =>
    obtain rfl : _ = db := Option.some.inj h
    exact answeredAlone_logDistraction c id type duration
  | _ =>
    obtain rfl := Option.some.inj h
    exact fun answers => ⟨_, run_answered now rfl⟩

end FocusServer

end StudyOasis
