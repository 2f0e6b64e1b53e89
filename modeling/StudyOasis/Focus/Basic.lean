import Mathlib.Data.List.Nodup
import Mathlib.Data.Rat.Floor
import StudyOasis.Common.Exceptions
import StudyOasis.Runs.Basic

/-!
# Focus sessions

The rows of the focus tables and the writing half of `FocusService`: `createSession`,
`updateSession`, `completeSession` (the controller's call of `updateSession`) and
`logDistraction`.  Times are milliseconds since the epoch, durations are seconds.  Scores are
computed in exact rationals.

`focusStep` runs one call on the tables: a call that throws changes nothing.  Runs of calls are
runs of this machine (`StudyOasis.Run`).
-/

namespace StudyOasis

/-- `FocusSessionStatus` : the values the validator of `UpdateFocusSessionDto` accepts. -/
inductive FocusSessionStatus where
  | active
  | paused
  | completed
  | abandoned
  deriving DecidableEq, Repr

/-- The two statuses that finish a session. -/
def FocusSessionStatus.isTerminal : FocusSessionStatus → Bool
  | .completed | .abandoned => true
  | .active | .paused => false

/-- `DistractionType`. -/
inductive DistractionType where
  | tabSwitch
  | windowBlur
  | mouseLeave
  | navigationAttempt
  deriving DecidableEq, Repr

/-- A row of `focus_sessions`. -/
structure FocusSession where
  id : String
  userId : Option String
  documentId : Option String
  conversationId : Option String
  startTime : ℤ
  endTime : Option ℤ
  totalDuration : Option ℤ
  activeDuration : Option ℤ
  pauseCount : ℤ
  distractionCount : ℤ
  tabSwitchCount : ℤ
  questionsAsked : ℤ
  focusScore : Option ℚ
  status : FocusSessionStatus
  completionProofId : Option String
  createdAt : ℤ
  updatedAt : ℤ
  deriving DecidableEq, Repr

/-- A row of `focus_distractions`. -/
structure FocusDistraction where
  id : String
  sessionId : String
  distractionType : DistractionType
  timestamp : ℤ
  duration : Option ℤ
  deriving DecidableEq, Repr

/-- The columns of a row of `documents` that a completion proof is reported with. -/
structure Document where
  id : String
  userId : Option String
  filename : String
  gcsPath : Option String
  publicUrl : Option String
  mimeType : Option String
  uploadedAt : ℤ
  deriving DecidableEq, Repr

/-- The tables the focus, gamification and notification services read. -/
structure FocusDb where
  /-- `focus_sessions`. -/
  focusSession : List FocusSession
  /-- `focus_distractions`. -/
  focusDistraction : List FocusDistraction
  /-- `documents`. -/
  document : List Document
  deriving DecidableEq, Repr

/-- JavaScript's `x || y` on a nullable number: `null` and `0` give `y`. -/
def orNumber (x : Option ℤ) (y : ℤ) : ℤ :=
  match x with
  | none => y
  | some n => if n = 0 then y else n

@[simp] theorem orNumber_zero (n : ℤ) : orNumber (some n) 0 = n := by
  simp only [orNumber]
  split_ifs with h
  · exact h.symm
  · rfl

/-- `FOCUS_SCORE_CONFIG`. -/
structure FocusScoreConfig where
  baseScore : ℚ := 100
  minDurationSeconds : ℤ := 60
  distractionPerCount : ℤ := 2
  distractionMax : ℤ := 40
  pausePerCount : ℤ := 5
  pauseMax : ℤ := 20
  tabSwitchDivisor : ℤ := 5
  tabSwitchPenalty : ℤ := 2
  tabSwitchMax : ℤ := 10
  activeRatioThreshold : ℚ := 7 / 10
  activeRatioMultiplier : ℚ := 50

/-- The configured values. -/
def focusScoreConfig : FocusScoreConfig := {}

/-- `Math.round` : to the nearest integer, ties up. -/
def mathRound (x : ℚ) : ℤ := ⌊x + 1 / 2⌋

/-- `FocusService.calculateFocusScore`. -/
def calculateFocusScore (session : FocusSession) : ℤ :=
  let cfg := focusScoreConfig
  let duration := orNumber session.totalDuration 0
  let activeDuration := orNumber session.activeDuration duration
  if duration < cfg.minDurationSeconds then 50
  else
    let score := cfg.baseScore
    let distractionPenalty := min (session.distractionCount * cfg.distractionPerCount)
      cfg.distractionMax
    let score := score - distractionPenalty
    let pausePenalty := min (session.pauseCount * cfg.pausePerCount) cfg.pauseMax
    let score := score - pausePenalty
    let activeRatio : ℚ := activeDuration / duration
    let score := if activeRatio < cfg.activeRatioThreshold then
        score - (cfg.activeRatioThreshold - activeRatio) * cfg.activeRatioMultiplier
      else score
    let tabSwitchPenalty := min (session.tabSwitchCount / cfg.tabSwitchDivisor *
      cfg.tabSwitchPenalty) cfg.tabSwitchMax
    let score := score - tabSwitchPenalty
    max 0 (min 100 (mathRound score))

namespace FocusDb

/-- `prisma.focusSession.findUnique({ where: { id } })`. -/
def findUnique (db : FocusDb) (id : String) : Option FocusSession :=
  db.focusSession.find? fun s => s.id = id

/-- `prisma.focusSession.update({ where: { id }, data })`, where `f` applies `data` to the row. -/
def update (db : FocusDb) (id : String) (f : FocusSession → FocusSession) : FocusDb :=
  { db with focusSession := db.focusSession.map fun s => if s.id = id then f s else s }

end FocusDb

/-- `UpdateFocusSessionDto`.  `IsOptional` lets a field through that is `null`: as a status or a
completion proof that is the same as no field, a counter refuses it, and `activeDuration` takes it
(`some none`). -/
structure UpdateFocusSessionDto where
  status : Option FocusSessionStatus := none
  pauseCount : Option ℤ := none
  questionsAsked : Option ℤ := none
  activeDuration : Option (Option ℤ) := none
  completionProofId : Option String := none
  deriving DecidableEq, Repr

/-- The `updates` object of `updateSession`: a field that is `none` is left as it is. -/
structure FocusSessionUpdateInput where
  updatedAt : ℤ
  status : Option FocusSessionStatus := none
  endTime : Option ℤ := none
  totalDuration : Option ℤ := none
  focusScore : Option ℤ := none
  pauseCount : Option ℤ := none
  questionsAsked : Option ℤ := none
  completionProofId : Option String := none
  activeDuration : Option (Option ℤ) := none
  deriving DecidableEq, Repr

/-- What Prisma makes of a row and an `updates` object. -/
def FocusSessionUpdateInput.apply (u : FocusSessionUpdateInput) (s : FocusSession) :
    FocusSession :=
  { s with
    updatedAt := u.updatedAt
    status := u.status.getD s.status
    endTime := u.endTime <|> s.endTime
    totalDuration := u.totalDuration <|> s.totalDuration
    focusScore := u.focusScore.map (↑) <|> s.focusScore
    pauseCount := u.pauseCount.getD s.pauseCount
    questionsAsked := u.questionsAsked.getD s.questionsAsked
    completionProofId := u.completionProofId <|> s.completionProofId
    activeDuration := u.activeDuration.getD s.activeDuration }

namespace FocusService

/-- The row that `createSession` inserts, with the column defaults of the schema. -/
def newSession (id : String) (now : ℤ) (userId : String)
    (documentId conversationId : Option String) : FocusSession :=
  { id, userId := some userId, documentId, conversationId, startTime := now, endTime := none
    totalDuration := none, activeDuration := none, pauseCount := 0, distractionCount := 0
    tabSwitchCount := 0, questionsAsked := 0, focusScore := none, status := .active
    completionProofId := none, createdAt := now, updatedAt := now }

/-- `FocusService.createSession`; `id` is the generated key. -/
def createSession (db : FocusDb) (id : String) (now : ℤ) (userId : String)
    (documentId conversationId : Option String) : FocusSession × FocusDb :=
  let row := newSession id now userId documentId conversationId
  (row, { db with focusSession := db.focusSession ++ [row] })

/-- The `updates` object that `updateSession` builds from the row it read. -/
def updates (session : FocusSession) (updateDto : UpdateFocusSessionDto) (now : ℤ) :
    FocusSessionUpdateInput :=
  let updates : FocusSessionUpdateInput := { updatedAt := now }
  let updates := match updateDto.status with
    | none => updates
    | some status =>
      let updates := { updates with status := some status }
      if status = FocusSessionStatus.completed ∨ status = FocusSessionStatus.abandoned then
        { updates with
          endTime := some now
          totalDuration := some ((now - session.startTime) / 1000)
          -- the row as it was read, not as it will be written
          focusScore := some (calculateFocusScore session) }
      else updates
  let updates := { updates with pauseCount := updateDto.pauseCount }
  let updates := { updates with questionsAsked := updateDto.questionsAsked }
  -- `if (updateDto.completionProofId)` : the empty id is no id
  let updates := match updateDto.completionProofId with
    | none => updates
    | some proof => if proof = "" then updates else { updates with completionProofId := some proof }
  { updates with activeDuration := updateDto.activeDuration }

/-- `FocusService.updateSession` : the updated row and the tables after the call. -/
def updateSession (db : FocusDb) (sessionId : String) (updateDto : UpdateFocusSessionDto)
    (userId : String) (now : ℤ) : Except BusinessException (FocusSession × FocusDb) :=
  match db.findUnique sessionId with
  | none => .error ⟨.sessionNotFound, "Focus session not found", 404⟩
  | some session =>
    if session.userId ≠ some userId then
      .error ⟨.unauthorizedAccess, "You do not have permission to update this session", 403⟩
    else
      let updates := updates session updateDto now
      .ok (updates.apply session, db.update sessionId updates.apply)

/-- `FocusController.completeSession`. -/
def completeSession (db : FocusDb) (sessionId : String) (completionProofId : Option String)
    (userId : String) (now : ℤ) : Except BusinessException (FocusSession × FocusDb) :=
  updateSession db sessionId { status := some .completed, completionProofId } userId now

/-- The counters of a row after one more distraction. -/
def countDistraction (type : DistractionType) (now : ℤ) (s : FocusSession) : FocusSession :=
  { s with
    distractionCount := s.distractionCount + 1
    tabSwitchCount := if type = .tabSwitch then s.tabSwitchCount + 1 else s.tabSwitchCount
    updatedAt := now }

/-- `FocusService.logDistraction`; `id` is the generated key of the distraction. -/
def logDistraction (db : FocusDb) (id sessionId : String) (type : DistractionType)
    (duration : Option ℤ) (userId : String) (now : ℤ) :
    Except BusinessException (FocusDistraction × FocusDb) :=
  match db.findUnique sessionId with
  | none => .error ⟨.sessionNotFound, "Focus session not found", 404⟩
  | some session =>
    if session.userId ≠ some userId then
      .error ⟨.unauthorizedAccess,
        "You do not have permission to record distractions for this session", 403⟩
    else
      let distraction : FocusDistraction :=
        { id, sessionId, distractionType := type, timestamp := now, duration }
      let db := { db with focusDistraction := db.focusDistraction ++ [distraction] }
      .ok (distraction, db.update sessionId (countDistraction type now))

end FocusService

/-- A call of the writing endpoints. -/
inductive FocusCall where
  | createSession (id userId : String) (documentId conversationId : Option String)
  | updateSession (sessionId : String) (updateDto : UpdateFocusSessionDto) (userId : String)
  | completeSession (sessionId : String) (completionProofId : Option String) (userId : String)
  | logDistraction (id sessionId : String) (type : DistractionType) (duration : Option ℤ)
      (userId : String)
  deriving DecidableEq, Repr

/-- A call with the time it is made at. -/
structure FocusEvent where
  now : ℤ
  call : FocusCall
  deriving DecidableEq, Repr

/-- The tables after a call that may have thrown. -/
def afterCall {α : Type} (db : FocusDb) : Except BusinessException (α × FocusDb) → FocusDb
  | .ok (_, db') => db'
  | .error _ => db

/-- One call on the tables.  A generated key is not in use, so creating a session under a key
that is in use cannot happen. -/
def focusStep (db : FocusDb) (e : FocusEvent) : Option FocusDb :=
  match e.call with
  | .createSession id userId documentId conversationId =>
    if (db.findUnique id).isSome then none
    else some (FocusService.createSession db id e.now userId documentId conversationId).2
  | .updateSession sessionId updateDto userId =>
    some (afterCall db (FocusService.updateSession db sessionId updateDto userId e.now))
  | .completeSession sessionId completionProofId userId =>
    some (afterCall db (FocusService.completeSession db sessionId completionProofId userId e.now))
  | .logDistraction id sessionId type duration userId =>
    some (afterCall db (FocusService.logDistraction db id sessionId type duration userId e.now))

/-- The empty tables. -/
def FocusDb.empty : FocusDb := ⟨[], [], []⟩

/-! ### What a call does to the rows -/

/-- The arguments of `updateSession` that a call passes on; `completeSession` is one of them. -/
def FocusCall.asUpdate : FocusCall → Option (String × UpdateFocusSessionDto × String)
  | .updateSession sessionId updateDto userId => some (sessionId, updateDto, userId)
  | .completeSession sessionId completionProofId userId =>
    some (sessionId, { status := some .completed, completionProofId }, userId)
  | .createSession .. => none
  | .logDistraction .. => none

/-- The DTO finishes the session. -/
def UpdateFocusSessionDto.finishes (dto : UpdateFocusSessionDto) : Bool :=
  dto.status.any FocusSessionStatus.isTerminal

/-- What an event makes of a row that is in the table. -/
def stepRow (e : FocusEvent) (s : FocusSession) : FocusSession :=
  match e.call.asUpdate, e.call with
  | some (sid, dto, uid), _ =>
    if s.id = sid ∧ s.userId = some uid then (FocusService.updates s dto e.now).apply s else s
  | none, .logDistraction _ sid type _ uid =>
    if s.id = sid ∧ s.userId = some uid then FocusService.countDistraction type e.now s else s
  | none, _ => s

/-- The rows an event inserts. -/
def newRows (e : FocusEvent) : List FocusSession :=
  match e.call with
  | .createSession id userId documentId conversationId =>
    [FocusService.newSession id e.now userId documentId conversationId]
  | _ => []

/-- No two sessions share a key. -/
def FocusDb.UniqueIds (db : FocusDb) : Prop := (db.focusSession.map (·.id)).Nodup

@[simp] theorem stepRow_id (e : FocusEvent) (s : FocusSession) : (stepRow e s).id = s.id := by
  unfold stepRow
  split
  · split_ifs <;> rfl
  · split_ifs <;> rfl
  · rfl

namespace FocusDb

variable {db : FocusDb} {id : String} {s : FocusSession}

theorem mem_of_findUnique (h : db.findUnique id = some s) : s ∈ db.focusSession ∧ s.id = id :=
  ⟨List.mem_of_find?_eq_some h, by simpa using List.find?_some h⟩

theorem UniqueIds.eq_of_mem (hu : db.UniqueIds) {s' : FocusSession} (hs : s ∈ db.focusSession)
    (hs' : s' ∈ db.focusSession) (h : s.id = s'.id) : s = s' :=
  List.inj_on_of_nodup_map hu hs hs' h

theorem UniqueIds.findUnique_eq (hu : db.UniqueIds) (hs : s ∈ db.focusSession) :
    db.findUnique s.id = some s := by
  cases h : db.findUnique s.id with
  | none => exact absurd (List.find?_eq_none.1 h s hs) (by simp)
  | some t =>
    obtain ⟨ht, hid⟩ := mem_of_findUnique h
    rw [hu.eq_of_mem ht hs hid]

/-- Updating the row found under a key updates, row by row, the rows with that key and owner. -/
theorem update_eq_map (hu : db.UniqueIds) (hs : db.findUnique id = some s) {uid : String}
    (hown : s.userId = some uid) (f : FocusSession → FocusSession → FocusSession) :
    (db.update id (f s)).focusSession =
      db.focusSession.map fun t => if t.id = id ∧ t.userId = some uid then f t t else t := by
  obtain ⟨hmem, hid⟩ := mem_of_findUnique hs
  refine List.map_congr_left ?_
  intro t ht
  -- keys are unique, so the row with the key is the one that was found
  by_cases h : t.id = id
  · obtain rfl : t = s := hu.eq_of_mem ht hmem (h.trans hid.symm)
    simp [h, hown]
  · simp [h]

/-- A key under which the caller owns nothing updates no row. -/
theorem map_eq_self_of_not_owned (hu : db.UniqueIds) {uid : String}
    (hs : ∀ s, db.findUnique id = some s → s.userId ≠ some uid)
    (f : FocusSession → FocusSession) :
    db.focusSession.map (fun t => if t.id = id ∧ t.userId = some uid then f t else t) =
      db.focusSession := by
  refine (List.map_congr_left ?_).trans (List.map_id _)
  intro t ht
  refine if_neg ?_
  rintro ⟨rfl, hown⟩
  exact hs t (hu.findUnique_eq ht) hown

end FocusDb

namespace FocusService

variable {db : FocusDb} {sid uid : String} {now : ℤ}

/-- **What `updates` holds**, field by field. -/
theorem updates_eq (s : FocusSession) (dto : UpdateFocusSessionDto) :
    updates s dto now =
      { updatedAt := now
        status := dto.status
        endTime := if dto.finishes then some now else none
        totalDuration := if dto.finishes then some ((now - s.startTime) / 1000) else none
        focusScore := if dto.finishes then some (calculateFocusScore s) else none
        pauseCount := dto.pauseCount
        questionsAsked := dto.questionsAsked
        completionProofId := dto.completionProofId.filter (· ≠ "")
        activeDuration := dto.activeDuration } := by
  unfold updates UpdateFocusSessionDto.finishes
  cases hst : dto.status with
  | none =>
    cases hp : dto.completionProofId with
    | none => simp
    | some proof => by_cases h : proof = "" <;> simp [h, Option.filter]
  | some status =>
    cases hp : dto.completionProofId with
    | none => cases status <;> simp [FocusSessionStatus.isTerminal]
    | some proof =>
      by_cases h : proof = "" <;>
        cases status <;> simp [h, Option.filter, FocusSessionStatus.isTerminal]

/-- A successful `updateSession` found the session, owned by the caller, and wrote its row. -/
theorem updateSession_ok {db' : FocusDb} {dto : UpdateFocusSessionDto} {row : FocusSession}
    (h : updateSession db sid dto uid now = .ok (row, db')) :
    ∃ s, db.findUnique sid = some s ∧ s.userId = some uid ∧
      row = (updates s dto now).apply s ∧ db' = db.update sid (updates s dto now).apply := by
  unfold updateSession at h
  cases hs : db.findUnique sid with
  | none => simp [hs] at h
  | some s =>
    simp only [hs] at h
    split_ifs at h with hown
    simp only [Except.ok.injEq, Prod.mk.injEq] at h
    exact ⟨s, rfl, not_not.1 hown, h.1.symm, h.2.symm⟩

/-- A call that writes the row of the caller's own session, and otherwise throws. -/
theorem rows_afterCall (hu : db.UniqueIds) {α : Type}
    {r : Except BusinessException (α × FocusDb)} (f : FocusSession → FocusSession → FocusSession)
    (hok : ∀ s, db.findUnique sid = some s → s.userId = some uid →
      (afterCall db r).focusSession = (db.update sid (f s)).focusSession)
    (herror : (∀ s, db.findUnique sid = some s → s.userId ≠ some uid) → afterCall db r = db) :
    (afterCall db r).focusSession =
      db.focusSession.map fun s => if s.id = sid ∧ s.userId = some uid then f s s else s := by
  -- the session is found and is the caller's, or the map finds nothing to change
  by_cases hown : ∃ s, db.findUnique sid = some s ∧ s.userId = some uid
  · obtain ⟨s, hs, huid⟩ := hown
    rw [hok s hs huid]
    exact FocusDb.update_eq_map hu hs huid f
  · have hnot (s : FocusSession) (hs : db.findUnique sid = some s) : s.userId ≠ some uid :=
      fun huid => hown ⟨s, hs, huid⟩
    rw [herror hnot]
    exact (FocusDb.map_eq_self_of_not_owned hu hnot fun s => f s s).symm

theorem rows_updateSession (hu : db.UniqueIds) (dto : UpdateFocusSessionDto) :
    (afterCall db (updateSession db sid dto uid now)).focusSession =
      db.focusSession.map fun s =>
        if s.id = sid ∧ s.userId = some uid then (updates s dto now).apply s else s := by
  refine rows_afterCall hu (fun s => (updates s dto now).apply) ?_ ?_
  · intro s hs huid
    simp only [updateSession, hs, huid, ne_eq, not_true_eq_false, if_false, afterCall]
  · intro hnot
    cases hs : db.findUnique sid with
    | none => simp only [updateSession, hs, afterCall]
    | some s => simp only [updateSession, hs, if_pos (hnot s hs), afterCall]

theorem rows_logDistraction (hu : db.UniqueIds) (id : String) (type : DistractionType)
    (duration : Option ℤ) :
    (afterCall db (logDistraction db id sid type duration uid now)).focusSession =
      db.focusSession.map fun s =>
        if s.id = sid ∧ s.userId = some uid then countDistraction type now s else s := by
  refine rows_afterCall hu (fun _ => countDistraction type now) ?_ ?_
  · intro s hs huid
    simp only [logDistraction, hs, huid, ne_eq, not_true_eq_false, if_false, afterCall]
    rfl
  · intro hnot
    cases hs : db.findUnique sid with
    | none => simp only [logDistraction, hs, afterCall]
    | some s => simp only [logDistraction, hs, if_pos (hnot s hs), afterCall]

end FocusService

/-- **What an event does to the table**: it maps `stepRow` over the rows and adds the new ones. -/
theorem focusStep_rows {db db' : FocusDb} {e : FocusEvent} (hu : db.UniqueIds)
    (h : focusStep db e = some db') :
    db'.focusSession = db.focusSession.map (stepRow e) ++ newRows e := by
  obtain ⟨now, call⟩ := e
  cases call with
  | createSession id userId documentId conversationId =>
    simp only [focusStep] at h
    split_ifs at h
    obtain rfl := Option.some.inj h
    have hrow : stepRow ⟨now, .createSession id userId documentId conversationId⟩ =
        fun s => s := rfl
    simp [FocusService.createSession, newRows, hrow]
  | updateSession sid dto uid =>
    obtain rfl := Option.some.inj h
    simp only [newRows, List.append_nil]
    exact FocusService.rows_updateSession hu dto
  | completeSession sid proof uid =>
    obtain rfl := Option.some.inj h
    simp only [newRows, List.append_nil]
    exact FocusService.rows_updateSession hu _
  | logDistraction id sid type duration uid =>
    obtain rfl := Option.some.inj h
    simp only [newRows, List.append_nil]
    exact FocusService.rows_logDistraction hu id type duration

theorem focusStep_uniqueIds {db db' : FocusDb} {e : FocusEvent} (hu : db.UniqueIds)
    (h : focusStep db e = some db') : db'.UniqueIds := by
  have hids : (db.focusSession.map (stepRow e)).map (·.id) = db.focusSession.map (·.id) := by
    simp [List.map_map, Function.comp_def]
  rw [FocusDb.UniqueIds, focusStep_rows hu h, List.map_append, hids]
  cases hc : e.call with
  | createSession id userId documentId conversationId =>
    simp only [focusStep, hc] at h
    split_ifs at h with hfresh
    have hnone : db.findUnique id = none := by simpa using hfresh
    simp only [newRows, hc, List.map_cons, List.map_nil, FocusService.newSession]
    -- the new key is not in use
    refine List.Nodup.append hu (List.nodup_singleton _) ?_
    simp only [List.disjoint_singleton, List.mem_map, not_exists, not_and]
    intro s hs hid
    exact absurd (List.find?_eq_none.1 hnone s hs) (by simp [hid])
  | _ => simp only [newRows, hc, List.map_nil, List.append_nil]; exact hu

end StudyOasis
