import StudyOasis.Focus.Server

/-!
# The counters of a session and its distraction log

`logDistraction` inserts a row and then, in another statement, increments the counters of the
session.  In between, a counter is behind the log by the calls that still have to count
(`Counter.awaited`), and it falls behind for good when this statement is refused
(`missing_step`): the counters of an idle server agree with the log exactly when no increment was
refused (`counters_eq_log_iff`).
-/

namespace StudyOasis

/-- The two counters of a session. -/
inductive Counter where
  | distractionCount
  | tabSwitchCount
  deriving DecidableEq, Repr

namespace Counter

/-- The column. -/
def value : Counter → FocusSession → ℤ
  | distractionCount => FocusSession.distractionCount
  | tabSwitchCount => FocusSession.tabSwitchCount

/-- The distractions it counts. -/
def counts : Counter → DistractionType → Bool
  | distractionCount, _ => true
  | tabSwitchCount, type => type = .tabSwitch

/-- The rows of the log that it should count. -/
def logged (c : Counter) (db : FocusDb) (sid : String) : ℕ :=
  db.focusDistraction.countP fun d => d.sessionId = sid && c.counts d.distractionType

/-- What it counts; a session that is not there has no count. -/
def stored (c : Counter) (db : FocusDb) (sid : String) : ℤ :=
  (db.findUnique sid).elim 0 c.value

/-- The call has inserted a row that it has not counted. -/
def waits (c : Counter) (sid : String) : FocusTask → Bool
  | .counting id d => id = sid && c.counts d.distractionType
  | _ => false

variable {C : Type}

/-- The rows that are still to be counted. -/
def awaited (c : Counter) (sid : String) (calls : List (C × FocusTask)) : ℕ :=
  calls.countP fun call => c.waits sid call.2

/-- The rows that are not counted, and that no call will count. -/
def missing (c : Counter) (sid : String) (s : FocusServer C) : ℤ :=
  c.logged s.db sid - c.stored s.db sid - c.awaited sid s.calls

/-! ### One statement -/

theorem value_apply (c : Counter) (updates : FocusSessionUpdateInput) (s : FocusSession) :
    c.value (updates.apply s) = c.value s := by
  cases c <;> rfl

theorem value_countDistraction (c : Counter) (type : DistractionType) (now : ℤ) (s : FocusSession) :
    c.value (FocusService.countDistraction type now s) =
      c.value s + if c.counts type then 1 else 0 := by
  cases c with
  | distractionCount => rfl
  | tabSwitchCount =>
    by_cases h : type = .tabSwitch <;> simp [value, counts, FocusService.countDistraction, h]

/-- An update that leaves the counter alone. -/
theorem stored_update {c : Counter} {f : FocusSession → FocusSession} (hid : ∀ s, (f s).id = s.id)
    (hf : ∀ s, c.value (f s) = c.value s) (db : FocusDb) (id sid : String) :
    c.stored (db.update id f) sid = c.stored db sid := by
  unfold stored
  rw [FocusDb.findUnique_update db id sid hid]
  by_cases h : sid = id
  · rw [if_pos h]
    cases db.findUnique sid <;> simp [hf]
  · rw [if_neg h]

/-- The increment. -/
theorem stored_countDistraction {c : Counter} {db : FocusDb} {id : String} {s : FocusSession}
    (hs : db.findUnique id = some s) (type : DistractionType) (now : ℤ) (sid : String) :
    c.stored (db.update id (FocusService.countDistraction type now)) sid =
      c.stored db sid + if id = sid && c.counts type then 1 else 0 := by
  unfold stored
  rw [FocusDb.findUnique_update db id sid (FocusService.countDistraction_id type now)]
  by_cases h : sid = id
  · subst h
    simp [hs, value_countDistraction]
  · simp [h, Ne.symm h]

/-- A new session has counted nothing. -/
theorem stored_createSession {c : Counter} {db : FocusDb} {id u : String}
    (hfresh : db.findUnique id = none) (now : ℤ)
    (documentId conversationId : Option String) (sid : String) :
    c.stored (FocusService.createSession db id now u documentId conversationId).2 sid =
      c.stored db sid := by
  unfold stored
  rw [FocusDb.findUnique_createSession]
  by_cases h : id = sid
  · subst h
    cases c <;> simp [hfresh, value, FocusService.newSession]
  · simp [h]

theorem logged_update (c : Counter) (db : FocusDb) (id sid : String)
    (f : FocusSession → FocusSession) : c.logged (db.update id f) sid = c.logged db sid := rfl

theorem logged_append (c : Counter) (db : FocusDb) (d : FocusDistraction) (sid : String) :
    c.logged { db with focusDistraction := db.focusDistraction ++ [d] } sid =
      c.logged db sid + if d.sessionId = sid && c.counts d.distractionType then 1 else 0 := by
  unfold logged
  rw [List.countP_append, List.countP_singleton]

/-- The rows that the call has still to count, after a statement. -/
def waitsNext (c : Counter) (sid : String) : FocusTask ⊕ FocusAnswer → ℕ
  | .inl task => if c.waits sid task then 1 else 0
  | .inr _ => 0

/-- **A statement that is carried out loses no distraction**: a row that it inserts is counted by
the next statement. -/
theorem missing_run (c : Counter) (sid : String) {db : FocusDb} {now : ℤ} {task : FocusTask}
    {next : FocusDb × (FocusTask ⊕ FocusAnswer)} (h : task.run db now = some next) :
    (c.logged next.1 sid : ℤ) - c.stored next.1 sid - c.waitsNext sid next.2 =
      c.logged db sid - c.stored db sid - if c.waits sid task then 1 else 0 := by
  cases task with
  | called u request =>
    -- the first statement inserts no row of the log and counts nothing
    have hkept : c.logged next.1 sid = c.logged db sid ∧ c.stored next.1 sid = c.stored db sid ∧
        c.waitsNext sid next.2 = 0 := by
      rcases FocusTask.run_called h with
        ⟨hdb, hnext⟩ | ⟨id, documentId, conversationId, answer, -, hfresh, rfl⟩
      · refine ⟨by rw [hdb], by rw [hdb], ?_⟩
        cases htask : next.2 with
        | inr answer => rfl
        | inl task =>
          rcases hnext task htask with ⟨_, _, _, -, rfl⟩ | ⟨_, _, _, _, -, rfl⟩ <;> rfl
      · exact ⟨rfl, stored_createSession hfresh now documentId conversationId sid, rfl⟩
    obtain ⟨hlogged, hstored, hwaits⟩ := hkept
    simp [hlogged, hstored, hwaits, waits]
  | updating id updates =>
    obtain ⟨session, -, rfl⟩ := Option.map_eq_some_iff.1 h
    show (c.logged (db.update id updates.apply) sid : ℤ) -
      c.stored (db.update id updates.apply) sid - 0 = _ - 0
    rw [logged_update, stored_update updates.apply_id (c.value_apply updates)]
  | recording key id type duration =>
    obtain ⟨session, -, rfl⟩ := Option.map_eq_some_iff.1 h
    show (c.logged { db with focusDistraction := db.focusDistraction ++
      [⟨key, id, type, now, duration⟩] } sid : ℤ) - c.stored db sid -
        (if id = sid && c.counts type then 1 else 0 : ℕ) = _ - 0
    rw [logged_append]
    push_cast
    ring
  | counting id d =>
    obtain ⟨session, hs, rfl⟩ := Option.map_eq_some_iff.1 h
    show (c.logged (db.update id (FocusService.countDistraction d.distractionType now)) sid : ℤ) -
      c.stored (db.update id (FocusService.countDistraction d.distractionType now)) sid - 0 =
        _ - if id = sid && c.counts d.distractionType then 1 else 0
    rw [logged_update, stored_countDistraction hs]
    ring

/-! ### One step of the server -/

theorem awaited_append (c : Counter) (sid : String) (calls : List (C × FocusTask))
    (call : C × FocusTask) :
    c.awaited sid (calls ++ [call]) =
      c.awaited sid calls + if c.waits sid call.2 then 1 else 0 := by
  unfold awaited
  rw [List.countP_append, List.countP_singleton]

variable [DecidableEq C]

theorem awaited_erase (c : Counter) (sid : String) {calls : List (C × FocusTask)}
    {call : C × FocusTask} (h : call ∈ calls) :
    c.awaited sid (calls.erase call) + (if c.waits sid call.2 then 1 else 0) =
      c.awaited sid calls := by
  unfold awaited
  rw [(List.perm_cons_erase h).countP_eq, List.countP_cons]

/-- A call goes on. -/
theorem missing_advance (c : Counter) (sid : String) {s : FocusServer C} {call : C × FocusTask}
    (h : call ∈ s.calls) (next : FocusDb × (FocusTask ⊕ FocusAnswer)) :
    c.missing sid (s.advance call next) =
      c.logged next.1 sid - c.stored next.1 sid - c.waitsNext sid next.2 -
        (c.awaited sid s.calls - if c.waits sid call.2 then 1 else 0) := by
  have herase := c.awaited_erase sid h
  obtain ⟨db, task | answer⟩ := next
  · have happend := c.awaited_append sid (s.calls.erase call) (call.1, task)
    simp only [missing, FocusServer.advance, waitsNext]
    push_cast [happend, ← herase]
    ring
  · simp only [missing, FocusServer.advance, waitsNext]
    push_cast [← herase]
    ring

/-- The row that is not counted because the increment is refused. -/
def refused (c : Counter) (sid : String) : FocusServerEvent C → ℕ
  | .rejected call => if c.waits sid call.2 then 1 else 0
  | _ => 0

/-- **A counter falls behind for good exactly by the increments that are refused.** -/
theorem missing_step (c : Counter) (sid : String) {s s' : FocusServer C} {e : FocusServerEvent C}
    (h : s.step e = some s') : c.missing sid s' = c.missing sid s + c.refused sid e := by
  cases e with
  | arrive caller u request =>
    obtain rfl := Option.some.inj h
    simp [missing, refused, awaited_append, waits]
  | resolved call now =>
    obtain ⟨hcall, next, hrun, rfl⟩ := FocusServer.step_resolved h
    rw [missing_advance c sid hcall, missing_run c sid hrun]
    simp only [missing, refused]
    push_cast
    ring
  | rejected call =>
    obtain ⟨hcall, rfl⟩ := FocusServer.step_rejected h
    rw [missing_advance c sid hcall]
    simp only [missing, refused, waitsNext]
    push_cast
    ring

end Counter

/-! ### Runs -/

namespace FocusServer

variable {C : Type}

/-- The counters of the session agree with the log. -/
def CountersAgree (db : FocusDb) (session : FocusSession) : Prop :=
  session.distractionCount =
      (db.focusDistraction.filter fun d => d.sessionId = session.id).length ∧
    session.tabSwitchCount =
      (db.focusDistraction.filter fun d => d.sessionId = session.id ∧
        d.distractionType = .tabSwitch).length

/-- The event does not refuse an increment of the counters of the session. -/
def CountsLogged (sid : String) (_ : FocusServer C) : FocusServerEvent C → Prop
  | .rejected (_, .counting id _) => id ≠ sid
  | _ => True

instance (sid : String) (s : FocusServer C) (e : FocusServerEvent C) :
    Decidable (CountsLogged sid s e) := by
  unfold CountsLogged
  split <;> infer_instance

/-- On an idle server nothing is missing when the counters agree. -/
theorem countersAgree_iff {s : FocusServer C} (hidle : s.calls = []) {sid : String}
    {session : FocusSession} (hs : s.db.findUnique sid = some session) :
    CountersAgree s.db session ↔ ∀ c : Counter, c.missing sid s = 0 := by
  obtain ⟨-, rfl⟩ := FocusDb.mem_of_findUnique hs
  have hmissing (c : Counter) :
      c.missing session.id s = c.logged s.db session.id - c.value session := by
    simp [Counter.missing, Counter.stored, Counter.awaited, hidle, hs]
  have hcounts : Counter.distractionCount.logged s.db session.id =
      (s.db.focusDistraction.filter fun d => d.sessionId = session.id).length ∧
      Counter.tabSwitchCount.logged s.db session.id =
        (s.db.focusDistraction.filter fun d => d.sessionId = session.id ∧
          d.distractionType = .tabSwitch).length := by
    simp [Counter.logged, Counter.counts, List.countP_eq_length_filter]
  unfold CountersAgree
  rw [← hcounts.1, ← hcounts.2]
  constructor
  · rintro ⟨hdistraction, htab⟩ c
    rw [hmissing, sub_eq_zero]
    cases c
    · exact hdistraction.symm
    · exact htab.symm
  · intro hall
    have hdistraction := hall .distractionCount
    have htab := hall .tabSwitchCount
    rw [hmissing, sub_eq_zero] at hdistraction htab
    exact ⟨hdistraction.symm, htab.symm⟩

theorem refused_eq_zero_iff {sid : String} {s : FocusServer C} {e : FocusServerEvent C} :
    Counter.distractionCount.refused sid e = 0 ↔ CountsLogged sid s e := by
  cases e with
  | rejected call =>
    obtain ⟨caller, task⟩ := call
    cases task <;> simp [Counter.refused, CountsLogged, Counter.waits, Counter.counts]
  | _ => exact iff_of_true rfl trivial

/-- A tab switch is a distraction. -/
theorem waits_distractionCount {c : Counter} {sid : String} {task : FocusTask}
    (h : c.waits sid task = true) : Counter.distractionCount.waits sid task = true := by
  cases task with
  | counting id d =>
    simp only [Counter.waits, Bool.and_eq_true] at h ⊢
    exact ⟨h.1, rfl⟩
  | _ => exact h

theorem refused_le (c : Counter) (sid : String) (e : FocusServerEvent C) :
    c.refused sid e ≤ Counter.distractionCount.refused sid e := by
  cases e with
  | rejected call =>
    simp only [Counter.refused]
    by_cases h : c.waits sid call.2 = true
    · rw [if_pos h, if_pos (waits_distractionCount h)]
    · rw [if_neg h]
      exact Nat.zero_le _
  | _ => exact le_rfl

variable [DecidableEq C]

/-- **The counters of an idle server agree with the log exactly when no increment was refused**,
for every session and every run. -/
theorem counters_eq_log_iff {es : List (FocusServerEvent C)} {s : FocusServer C}
    (h : AnyRun step opened es s) (hidle : s.calls = []) {sid : String} {session : FocusSession}
    (hs : s.db.findUnique sid = some session) :
    CountersAgree s.db session ↔ Run step (CountsLogged sid) opened es s := by
  have hguarded : Run step (CountsLogged sid) opened es s ↔
      Counter.distractionCount.missing sid s = 0 := by
    refine h.guarded_iff_potential (f := Counter.distractionCount.missing sid) ?_ ?_
    · intro s e s' hst
      rw [Counter.missing_step _ sid hst]
      omega
    · intro s e s' hst
      rw [Counter.missing_step _ sid hst, ← refused_eq_zero_iff (s := s)]
      omega
  rw [countersAgree_iff hidle hs]
  refine ⟨fun hall => hguarded.2 (hall _), fun hrun c => ?_⟩
  refine hrun.invariant (I := fun s => c.missing sid s = 0) rfl ?_
  intro s e s' hzero hg hst
  have hrefused := refused_le c sid e
  rw [refused_eq_zero_iff.2 hg] at hrefused
  rw [Counter.missing_step c sid hst, hzero]
  omega

/-- A session with one distraction, and what happens to its increment. -/
def oneDistraction (last : FocusServerEvent ℕ) : List (FocusServerEvent ℕ) :=
  [.arrive 0 "u" (.createSession "s" none none),
    .resolved (0, .called "u" (.createSession "s" none none)) 1,
    .arrive 1 "u" (.logDistraction "d" "s" .tabSwitch none),
    .resolved (1, .called "u" (.logDistraction "d" "s" .tabSwitch none)) 2,
    .resolved (1, .recording "d" "s" .tabSwitch none) 3, last]

/-- The increment. -/
def increment : ℕ × FocusTask := (1, .counting "s" ⟨"d", "s", .tabSwitch, 3, none⟩)

/-- It is carried out. -/
theorem counters_eq_log_iff_counted : ∃ s session,
    AnyRun step opened (oneDistraction (.resolved increment 4)) s ∧
    s.db.findUnique "s" = some session ∧ CountersAgree s.db session ∧
    session.tabSwitchCount = 1 := by
  have hrun : ((oneDistraction (.resolved increment 4)).foldlM
      (Run.guarded step (CountsLogged "s")) opened).any (fun s => s.calls = [] &&
        (s.db.findUnique "s").any fun session => session.tabSwitchCount = 1) = true := by decide
  simp only [Option.any_eq_true, Bool.and_eq_true, decide_eq_true_eq] at hrun
  obtain ⟨s, hrun, hidle, session, hs, hcount⟩ := hrun
  have hrun := Run.of_guarded hrun
  exact ⟨s, session, hrun.any, hs, (counters_eq_log_iff hrun.any hidle hs).2 hrun, hcount⟩

/-- It is refused: the log has a row that no counter counts. -/
theorem distraction_not_counted : ¬ ∀ (es : List (FocusServerEvent ℕ)) (s : FocusServer ℕ)
    (sid : String) (session : FocusSession), AnyRun step opened es s → s.calls = [] →
    s.db.findUnique sid = some session → CountersAgree s.db session := by
  intro h
  have hrun : ((oneDistraction (.rejected increment)).foldlM step opened).any (fun s =>
      s.calls = [] && s.db.focusDistraction.length = 1 && (s.db.findUnique "s").any fun session =>
        session.distractionCount = 0 && s.db.focusDistraction.all (·.sessionId = session.id)) =
          true := by decide
  simp only [Option.any_eq_true, Bool.and_eq_true, decide_eq_true_eq] at hrun
  obtain ⟨s, hrun, ⟨hidle, hone⟩, session, hs, hcount, hall⟩ := hrun
  obtain ⟨hagree, -⟩ := h _ s "s" session (Run.of_foldlM hrun) hidle hs
  rw [List.filter_eq_self.2 (by simpa using hall), hone, hcount] at hagree
  exact absurd hagree (by decide)

end FocusServer

end StudyOasis
