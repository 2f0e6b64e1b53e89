import StudyOasis.Focus.Reports

/-!
# Whether a report adds up

`getSessionAnalytics` reports the total duration of a session, the active one and the difference.
The total duration is written by the server when the session is finished, the active one is
whatever integer a client sends, at any time; a stored 0 is reported as the total duration.

* `FocusService.addsUp_iff` : when the report about a session adds up;
* `reports_add_up_iff` : **when all reports add up all the time** in a run: when no update leaves an
  active time that does not fit.
-/

namespace StudyOasis

/-- A call whose body the validators accept. -/
structure AcceptedEvent where
  event : FocusEvent
  /-- The write is refused: a counter is `null`, or a number does not fit its column. -/
  refused : Bool := false
  deriving DecidableEq, Repr

namespace UpdateFocusSessionDto

/-- The active time that an update leaves in a session. -/
def activeAfter (dto : UpdateFocusSessionDto) (s : FocusSession) : Option ℤ :=
  dto.activeDuration.getD s.activeDuration

/-- The duration that an update leaves in a session. -/
def durationAfter (dto : UpdateFocusSessionDto) (now : ℤ) (s : FocusSession) : ℤ :=
  if dto.finishes then (now - s.startTime) / 1000 else orNumber s.totalDuration 0

end UpdateFocusSessionDto

/-- One call. -/
def acceptedStep (db : FocusDb) (e : AcceptedEvent) : Option FocusDb :=
  if e.refused then some db else focusStep db e.event

/-! ### The report about a session -/

/-- An active time fits a duration: it is missing, or not longer, and 0 for no duration only. -/
def FitsDuration (active : Option ℤ) (total : ℤ) : Prop :=
  0 ≤ total ∧ ∀ a, active = some a → 0 ≤ a ∧ a ≤ total ∧ (a = 0 → total = 0)

/-- The report about a session adds up. -/
structure AddsUp (s : FocusSession) (r : FocusSessionAnalytics) : Prop where
  active_nonneg : 0 ≤ r.activeDuration
  active_le : r.activeDuration ≤ r.totalDuration
  distractionTime_eq : r.distractionTime = r.totalDuration - r.activeDuration
  distractionTime_nonneg : 0 ≤ r.distractionTime
  /-- What is stored is reported. -/
  stored : ∀ a, s.activeDuration = some a → r.activeDuration = a

/-- Every report that can be read adds up. -/
def ReportsAddUp (db : FocusDb) : Prop :=
  ∀ sid uid r, FocusService.getSessionAnalytics db sid uid = .ok r →
    ∃ s, db.findUnique sid = some s ∧ AddsUp s r

/-- The active time of the session fits its duration. -/
def FocusSession.DurationsFit (s : FocusSession) : Prop :=
  FitsDuration s.activeDuration (orNumber s.totalDuration 0)

theorem orNumber_some (n y : ℤ) : orNumber (some n) y = if n = 0 then y else n := rfl

namespace FocusService

/-- **When the report about a session adds up.** -/
theorem addsUp_iff (db : FocusDb) (s : SessionWithDistractions) :
    AddsUp s.session (analyticsOf db s) ↔ s.session.DurationsFit := by
  have hreported : (analyticsOf db s).activeDuration =
      orNumber s.session.activeDuration (orNumber s.session.totalDuration 0) := rfl
  have htotal : (analyticsOf db s).totalDuration = orNumber s.session.totalDuration 0 := rfl
  unfold FocusSession.DurationsFit FitsDuration
  generalize orNumber s.session.totalDuration 0 = total at hreported htotal
  constructor
  · intro h
    have hnonneg := h.active_nonneg
    have hle := h.active_le
    rw [htotal] at hle
    refine ⟨hnonneg.trans hle, fun a ha => ?_⟩
    have hstored := h.stored a ha
    rw [ha, orNumber_some] at hreported
    refine ⟨hstored ▸ hnonneg, hstored ▸ hle, fun hzero => ?_⟩
    rw [if_pos hzero] at hreported
    omega
  · rintro ⟨h0, h⟩
    have hactive : 0 ≤ (analyticsOf db s).activeDuration ∧
        (analyticsOf db s).activeDuration ≤ total ∧
          ∀ a, s.session.activeDuration = some a → (analyticsOf db s).activeDuration = a := by
      rw [hreported]
      cases hs : s.session.activeDuration with
      | none => exact ⟨h0, le_rfl, fun a ha => by cases ha⟩
      | some a =>
        obtain ⟨ha0, hle, hzero⟩ := h a hs
        rw [orNumber_some]
        split_ifs with ha
        · exact ⟨h0, le_rfl, fun b hb => by rw [← Option.some.inj hb, hzero ha, ha]⟩
        · exact ⟨ha0, hle, fun b hb => Option.some.inj hb⟩
    obtain ⟨hnonneg, hle, hstored⟩ := hactive
    have hdiff : (analyticsOf db s).distractionTime =
        (analyticsOf db s).totalDuration - (analyticsOf db s).activeDuration := rfl
    exact ⟨hnonneg, htotal ▸ hle, hdiff, by omega, hstored⟩

theorem getSessionAnalytics_ok_iff {db : FocusDb} {sid uid : String} {r : FocusSessionAnalytics} :
    getSessionAnalytics db sid uid = .ok r ↔
      ∃ s, db.findUnique sid = some s ∧ s.userId = some uid ∧ r = analyticsOf db
        ⟨s, orderByAsc (·.timestamp) (db.focusDistraction.filter fun d => d.sessionId = s.id)⟩ := by
  unfold getSessionAnalytics getSession
  cases db.findUnique sid with
  | none => simp [Except.map]
  | some s => by_cases h : s.userId = some uid <;> simp [h, Except.map, eq_comm]

end FocusService

/-- What can be read are the sessions with an owner. -/
theorem reportsAddUp_iff {db : FocusDb} (hu : db.UniqueIds) :
    ReportsAddUp db ↔ ∀ s ∈ db.focusSession, s.userId.isSome = true → s.DurationsFit := by
  constructor
  · intro h s hs howner
    obtain ⟨uid, huid⟩ := Option.isSome_iff_exists.1 howner
    have hfind := hu.findUnique_eq hs
    obtain ⟨s', hs', hadds⟩ :=
      h s.id uid _ (FocusService.getSessionAnalytics_ok_iff.2 ⟨s, hfind, huid, rfl⟩)
    obtain rfl := Option.some.inj (hfind.symm.trans hs')
    exact (FocusService.addsUp_iff db ⟨s, _⟩).1 hadds
  · intro h sid uid r hr
    obtain ⟨s, hs, huid, rfl⟩ := FocusService.getSessionAnalytics_ok_iff.1 hr
    refine ⟨s, hs, (FocusService.addsUp_iff db ⟨s, _⟩).2 ?_⟩
    exact h s (FocusDb.mem_of_findUnique hs).1 (by rw [huid]; rfl)

/-! ### One event -/

section

variable {e : FocusEvent} {s : FocusSession}

theorem stepRow_userId (e : FocusEvent) (s : FocusSession) : (stepRow e s).userId = s.userId := by
  unfold stepRow
  split
  · split_ifs <;> rfl
  · split_ifs <;> rfl
  · rfl

/-- **What an update makes of its session.** -/
theorem fits_stepRow_of_update {sid uid : String} {dto : UpdateFocusSessionDto}
    (h : e.call.asUpdate = some (sid, dto, uid)) (hid : s.id = sid) (huid : s.userId = some uid) :
    (stepRow e s).DurationsFit ↔ FitsDuration (dto.activeAfter s) (dto.durationAfter e.now s) := by
  have hstep : stepRow e s = (FocusService.updates s dto e.now).apply s := by
    simp only [stepRow, h, hid, huid, and_self, if_true]
  have htotal : orNumber (stepRow e s).totalDuration 0 = dto.durationAfter e.now s := by
    simp only [hstep, UpdateFocusSessionDto.durationAfter, FocusService.updates_eq,
      FocusSessionUpdateInput.apply]
    split_ifs <;> simp
  rw [FocusSession.DurationsFit, htotal, hstep, FocusService.updates_eq]
  rfl

/-- Other events leave the durations of a session as they are. -/
theorem fits_stepRow_of_not_update
    (h : ∀ sid dto uid, e.call.asUpdate = some (sid, dto, uid) →
      ¬ (s.id = sid ∧ s.userId = some uid)) : (stepRow e s).DurationsFit ↔ s.DurationsFit := by
  unfold stepRow
  cases hcall : e.call.asUpdate with
  | some u =>
    obtain ⟨sid, dto, uid⟩ := u
    simp only [if_neg (h sid dto uid hcall)]
  | none =>
    cases e.call with
    | logDistraction id sid type duration uid =>
      simp only
      split_ifs <;> exact Iff.rfl
    | _ => exact Iff.rfl

end

/-- **What a call does to the table.** -/
theorem acceptedStep_rows {db db' : FocusDb} {e : AcceptedEvent} (hu : db.UniqueIds)
    (h : acceptedStep db e = some db') :
    (e.refused = true ∧ db' = db) ∨ (e.refused = false ∧
      db'.focusSession = db.focusSession.map (stepRow e.event) ++ newRows e.event) := by
  unfold acceptedStep at h
  split_ifs at h with href
  · exact .inl ⟨href, (Option.some.inj h).symm⟩
  · exact .inr ⟨Bool.eq_false_iff.2 href, focusStep_rows hu h⟩

theorem acceptedStep_uniqueIds {db db' : FocusDb} {e : AcceptedEvent} (hu : db.UniqueIds)
    (h : acceptedStep db e = some db') : db'.UniqueIds := by
  unfold acceptedStep at h
  split_ifs at h
  · rwa [← Option.some.inj h]
  · exact focusStep_uniqueIds hu h

/-! ### Whole runs -/

/-- The active time that an update leaves in its session fits the duration. -/
def UpdatesFit (db : FocusDb) (e : AcceptedEvent) : Prop :=
  e.refused = true ∨ ∀ sid dto uid, e.event.call.asUpdate = some (sid, dto, uid) →
    ∀ s ∈ db.focusSession, s.id = sid → s.userId = some uid →
      FitsDuration (dto.activeAfter s) (dto.durationAfter e.event.now s)

theorem reportsAddUp_step_iff {db db' : FocusDb} {e : AcceptedEvent} (hu : db.UniqueIds)
    (hdb : ReportsAddUp db) (h : acceptedStep db e = some db') :
    ReportsAddUp db' ↔ UpdatesFit db e := by
  rcases acceptedStep_rows hu h with ⟨href, rfl⟩ | ⟨href, hrows⟩
  · exact iff_of_true hdb (.inl href)
  rw [reportsAddUp_iff (acceptedStep_uniqueIds hu h), hrows]
  rw [reportsAddUp_iff hu] at hdb
  constructor
  · intro hall
    refine .inr fun sid dto uid hcall s hs hid huid => ?_
    rw [← fits_stepRow_of_update hcall hid huid]
    refine hall _ (List.mem_append_left _ (List.mem_map_of_mem hs)) ?_
    rw [stepRow_userId, huid]
    rfl
  · intro hfit t ht howner
    have hfit := hfit.resolve_left (Bool.eq_false_iff.1 href)
    rcases List.mem_append.1 ht with ht | ht
    · obtain ⟨s, hs, rfl⟩ := List.mem_map.1 ht
      rw [stepRow_userId] at howner
      by_cases hupdate : ∃ sid dto uid, e.event.call.asUpdate = some (sid, dto, uid) ∧
          s.id = sid ∧ s.userId = some uid
      · obtain ⟨sid, dto, uid, hcall, hid, huid⟩ := hupdate
        rw [fits_stepRow_of_update hcall hid huid]
        exact hfit sid dto uid hcall s hs hid huid
      · rw [fits_stepRow_of_not_update
          fun sid dto uid hcall hown => hupdate ⟨sid, dto, uid, hcall, hown⟩]
        exact hdb s hs howner
    · -- a new session has no duration and no active time
      unfold newRows at ht
      cases hcall : e.event.call with
      | createSession id userId documentId conversationId =>
        rw [hcall, List.mem_singleton] at ht
        rw [ht]
        exact ⟨le_rfl, fun a ha => by cases ha⟩
      | _ =>
        rw [hcall] at ht
        cases ht

/-- **When all reports add up all the time**: when no update, in the state it reaches, leaves an
active time that does not fit the duration. -/
theorem reports_add_up_iff {es : List AcceptedEvent} {db : FocusDb}
    (h : AnyRun acceptedStep FocusDb.empty es db) :
    Run.Always acceptedStep ReportsAddUp FocusDb.empty es ↔
      Run acceptedStep UpdatesFit FocusDb.empty es db := by
  have hempty : FocusDb.empty.UniqueIds := List.nodup_nil
  have hstart : ReportsAddUp FocusDb.empty := (reportsAddUp_iff hempty).2 fun s hs => by cases hs
  symm
  exact Run.guarded_iff_always h hempty hstart
    (fun _ _ _ hu hst => acceptedStep_uniqueIds hu hst)
    fun _ _ _ hu hdb hst => reportsAddUp_step_iff hu hdb hst

/-- A session of 100 seconds that is completed with the given active time. -/
def completedAfter (active : ℤ) : List AcceptedEvent :=
  [{ event := ⟨0, .createSession "s" "u" none none⟩ },
    { event := ⟨100000, .updateSession "s"
        { status := some .completed, activeDuration := some (some active) } "u"⟩ }]

/-- 80 active seconds fit. -/
theorem reports_add_up_iff_completed :
    Run.Always acceptedStep ReportsAddUp FocusDb.empty (completedAfter 80) := by
  refine (reports_add_up_iff (Run.of_foldlM rfl)).2 ?_
  refine .cons (.inr fun sid dto uid h => by cases h) rfl
    (.cons (.inr fun sid dto uid h s hs _ _ => ?_) rfl (.nil _))
  obtain rfl := List.mem_singleton.1 hs
  cases h
  exact ⟨by decide, fun a ha => by cases ha; decide⟩

/-- **No active second is reported as 100 active seconds**, and an active time that is sent before
the session is finished exceeds the total duration. -/
theorem zero_reported_as_whole :
    (∃ db r, AnyRun acceptedStep FocusDb.empty (completedAfter 0) db ∧
      FocusService.getSessionAnalytics db "s" "u" = .ok r ∧
      (db.findUnique "s").bind (·.activeDuration) = some 0 ∧ r.activeDuration = 100 ∧
        ¬ ReportsAddUp db) ∧
    ∃ db r, AnyRun acceptedStep FocusDb.empty
        [{ event := ⟨0, .createSession "s" "u" none none⟩ },
          { event := ⟨50000, .updateSession "s" { activeDuration := some (some 30) } "u"⟩ }] db ∧
      FocusService.getSessionAnalytics db "s" "u" = .ok r ∧ r.totalDuration = 0 ∧
        r.activeDuration = 30 ∧ r.distractionTime = -30 := by
  refine ⟨⟨_, _, Run.of_foldlM rfl, rfl, rfl, rfl, fun h => ?_⟩,
    ⟨_, _, Run.of_foldlM rfl, rfl, rfl, rfl, rfl⟩⟩
  obtain ⟨s, hs, hadds⟩ := h "s" "u" _ rfl
  obtain rfl := Option.some.inj hs
  have := hadds.stored 0 rfl
  revert this
  decide

end StudyOasis
