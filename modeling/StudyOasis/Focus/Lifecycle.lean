import StudyOasis.Focus.Basic

/-!
# The life cycle of a focus session

`updateSession` writes whatever status it is sent, so a finished session can be resumed, finished
again or given another end.  What it does keep: as long as no update that carries a status reaches
a finished session (`RespectsFinished`), a finished session keeps its status, end, duration and
score for ever, and a session has an end exactly when it is finished
(`finished_absorbing`).  An update that breaks the condition breaks the property with it
(`not_finishedKept_of_status_update`).
-/

namespace StudyOasis

/-- The session is completed or abandoned. -/
def FocusSession.Finished (s : FocusSession) : Prop := s.status.isTerminal = true

instance (s : FocusSession) : Decidable s.Finished :=
  inferInstanceAs (Decidable (s.status.isTerminal = true))

/-- A session has an end exactly when it is finished. -/
def FocusSession.EndMatches (s : FocusSession) : Prop := s.endTime.isSome = true ↔ s.Finished

instance (s : FocusSession) : Decidable s.EndMatches :=
  inferInstanceAs (Decidable (s.endTime.isSome = true ↔ s.Finished))

/-- `t` is a later state of the finished session `s`. -/
def FocusSession.SameOutcome (s t : FocusSession) : Prop :=
  t.id = s.id ∧ t.status = s.status ∧ t.endTime = s.endTime ∧
    t.totalDuration = s.totalDuration ∧ t.focusScore = s.focusScore

instance (s t : FocusSession) : Decidable (s.SameOutcome t) :=
  inferInstanceAs (Decidable (_ ∧ _ ∧ _ ∧ _ ∧ _))

/-- In every session of the table the end matches the status. -/
def EndsMatch (db : FocusDb) : Prop := ∀ s ∈ db.focusSession, s.EndMatches

/-- Every session that is finished in `db` has the same outcome in `db'`. -/
def FinishedKept (db db' : FocusDb) : Prop :=
  ∀ s ∈ db.focusSession, s.Finished → ∃ t ∈ db'.focusSession, s.SameOutcome t

/-- The event is not an update that carries a status to a finished session of its caller. -/
def RespectsFinished (db : FocusDb) (e : FocusEvent) : Prop :=
  ∀ sid dto uid, e.call.asUpdate = some (sid, dto, uid) → dto.status.isSome = true →
    ∀ s ∈ db.focusSession, s.id = sid → s.userId = some uid → ¬ s.Finished

instance (db : FocusDb) : Decidable (EndsMatch db) :=
  inferInstanceAs (Decidable (∀ s ∈ db.focusSession, s.EndMatches))

/-- `RespectsFinished`, evaluated. -/
def respectsFinished (db : FocusDb) (e : FocusEvent) : Bool :=
  match e.call.asUpdate with
  | none => true
  | some (sid, dto, uid) => decide (dto.status.isSome = true →
      ∀ s ∈ db.focusSession, s.id = sid → s.userId = some uid → ¬ s.Finished)

theorem respectsFinished_iff {db : FocusDb} {e : FocusEvent} :
    respectsFinished db e = true ↔ RespectsFinished db e := by
  unfold respectsFinished RespectsFinished
  cases e.call.asUpdate with
  | none => simp
  | some u =>
    obtain ⟨sid, dto, uid⟩ := u
    rw [decide_eq_true_iff]
    constructor
    · intro h sid' dto' uid' heq
      obtain ⟨rfl, rfl, rfl⟩ : sid = sid' ∧ dto = dto' ∧ uid = uid' := by simpa using heq
      exact h
    · intro h
      exact h sid dto uid rfl

instance (db : FocusDb) (e : FocusEvent) : Decidable (RespectsFinished db e) :=
  decidable_of_iff _ respectsFinished_iff

/-! ### One event -/

theorem apply_updates_of_none {s : FocusSession} {dto : UpdateFocusSessionDto} {now : ℤ}
    (h : dto.status = none) : s.SameOutcome ((FocusService.updates s dto now).apply s) := by
  simp [FocusService.updates_eq, UpdateFocusSessionDto.finishes, h, FocusSession.SameOutcome,
    FocusSessionUpdateInput.apply]

theorem apply_updates_of_some (s : FocusSession) (now : ℤ) {dto : UpdateFocusSessionDto}
    {status : FocusSessionStatus} (h : dto.status = some status) :
    ((FocusService.updates s dto now).apply s).status = status ∧
      ((FocusService.updates s dto now).apply s).endTime =
        if status.isTerminal then some now else s.endTime := by
  simp only [FocusService.updates_eq, UpdateFocusSessionDto.finishes, h,
    FocusSessionUpdateInput.apply, Option.any_some, Option.getD_some, true_and]
  split_ifs <;> simp

/-- What an event that respects finished sessions makes of a row. -/
theorem stepRow_cases {db : FocusDb} {e : FocusEvent} {s : FocusSession}
    (hG : RespectsFinished db e) (hs : s ∈ db.focusSession) :
    s.SameOutcome (stepRow e s) ∨
      ¬ s.Finished ∧ ∃ dto status, dto.status = some status ∧
        stepRow e s = (FocusService.updates s dto e.now).apply s := by
  cases hu : e.call.asUpdate with
  | some u =>
    obtain ⟨sid, dto, uid⟩ := u
    simp only [stepRow, hu]
    split_ifs with hown
    · cases hst : dto.status with
      | none => exact .inl (apply_updates_of_none hst)
      | some status =>
        exact .inr ⟨hG sid dto uid hu (by simp [hst]) s hs hown.1 hown.2, dto, status, hst, rfl⟩
    · exact .inl ⟨rfl, rfl, rfl, rfl, rfl⟩
  | none =>
    refine .inl ?_
    unfold stepRow
    rw [hu]
    cases e.call with
    | logDistraction id sid type duration uid =>
      simp only
      split_ifs <;> exact ⟨rfl, rfl, rfl, rfl, rfl⟩
    | _ => exact ⟨rfl, rfl, rfl, rfl, rfl⟩

theorem FocusSession.SameOutcome.endMatches {s t : FocusSession} (h : s.SameOutcome t)
    (hs : s.EndMatches) : t.EndMatches := by
  unfold EndMatches Finished at *
  rwa [h.2.2.1, h.2.1]

theorem endMatches_stepRow {db : FocusDb} {e : FocusEvent} {s : FocusSession}
    (hG : RespectsFinished db e) (hs : s ∈ db.focusSession) (hm : s.EndMatches) :
    (stepRow e s).EndMatches := by
  rcases stepRow_cases hG hs with hsame | ⟨hnot, dto, status, hst, heq⟩
  · exact hsame.endMatches hm
  -- the session had no end: it gets one together with a status that finishes it
  · obtain ⟨h1, h2⟩ := apply_updates_of_some s e.now hst
    rw [heq, FocusSession.EndMatches, FocusSession.Finished, h1, h2]
    cases hstatus : status.isTerminal with
    | true => simp
    | false => simpa [FocusSession.EndMatches, hnot] using hm

theorem endsMatch_step {db db' : FocusDb} {e : FocusEvent} (hu : db.UniqueIds)
    (hm : EndsMatch db) (hG : RespectsFinished db e) (h : focusStep db e = some db') :
    EndsMatch db' := by
  intro t ht
  rw [focusStep_rows hu h, List.mem_append, List.mem_map] at ht
  rcases ht with ⟨s, hs, rfl⟩ | hnew
  · exact endMatches_stepRow hG hs (hm s hs)
  · unfold newRows at hnew
    split at hnew
    · obtain rfl := List.mem_singleton.1 hnew
      simp [FocusSession.EndMatches, FocusSession.Finished, FocusService.newSession,
        FocusSessionStatus.isTerminal]
    · cases hnew

theorem finishedKept_step {db db' : FocusDb} {e : FocusEvent} (hu : db.UniqueIds)
    (hG : RespectsFinished db e) (h : focusStep db e = some db') : FinishedKept db db' := by
  intro s hs hfin
  refine ⟨stepRow e s, ?_, ?_⟩
  · rw [focusStep_rows hu h]
    exact List.mem_append_left _ (List.mem_map_of_mem hs)
  · rcases stepRow_cases hG hs with hsame | ⟨hnot, -⟩
    · exact hsame
    · exact absurd hfin hnot

/-! ### Whole runs -/

theorem FinishedKept.refl (db : FocusDb) : FinishedKept db db := by
  intro s hs _
  refine ⟨s, hs, ?_⟩
  exact ⟨rfl, rfl, rfl, rfl, rfl⟩

theorem FinishedKept.trans {a b c : FocusDb} (h : FinishedKept a b) (h' : FinishedKept b c) :
    FinishedKept a c := by
  intro s hs hfin
  obtain ⟨t, ht, h1, h2, h3, h4, h5⟩ := h s hs hfin
  have hfin' : t.Finished := by rw [FocusSession.Finished, h2]; exact hfin
  obtain ⟨r, hr, k1, k2, k3, k4, k5⟩ := h' t ht hfin'
  exact ⟨r, hr, k1.trans h1, k2.trans h2, k3.trans h3, k4.trans h4, k5.trans h5⟩

/-- The invariant of the runs: unique keys and matching ends. -/
structure LifecycleInv (db : FocusDb) : Prop where
  uniqueIds : db.UniqueIds
  endsMatch : EndsMatch db

theorem lifecycleInv_empty : LifecycleInv FocusDb.empty :=
  ⟨List.nodup_nil, fun _ hs => nomatch hs⟩

theorem lifecycleInv_step {db db' : FocusDb} {e : FocusEvent} (hI : LifecycleInv db)
    (hG : RespectsFinished db e) (h : focusStep db e = some db') : LifecycleInv db' :=
  ⟨focusStep_uniqueIds hI.uniqueIds h, endsMatch_step hI.uniqueIds hI.endsMatch hG h⟩

theorem lifecycleInv_of_run {es : List FocusEvent} {db : FocusDb}
    (h : Run focusStep RespectsFinished FocusDb.empty es db) : LifecycleInv db :=
  h.invariant lifecycleInv_empty fun _ _ _ => lifecycleInv_step

/-- **Finished sessions stay as they are**, in every run whose calls respect them: whatever
follows, they keep their status, end, duration and score; and at every moment a session has an
end exactly when it is finished. -/
theorem finished_absorbing {es es' : List FocusEvent} {db db' : FocusDb}
    (h : Run focusStep RespectsFinished FocusDb.empty es db)
    (h' : Run focusStep RespectsFinished db es' db') : EndsMatch db' ∧ FinishedKept db db' := by
  refine ⟨(lifecycleInv_of_run (h.append h')).endsMatch, ?_⟩
  exact h'.relation (lifecycleInv_of_run h) (fun _ _ _ => lifecycleInv_step) FinishedKept.refl
    FinishedKept.trans fun _ _ _ hI hG hst => finishedKept_step hI.uniqueIds hG hst

/-- A session is completed and then distracted once more. -/
theorem finished_absorbing_run : ∃ es es' db db',
    Run focusStep RespectsFinished FocusDb.empty es db ∧
      Run focusStep RespectsFinished db es' db' ∧ es'.length = 1 ∧
      EndsMatch db' ∧ FinishedKept db db' := by
  let db : FocusDb := afterCall FocusDb.empty (FocusService.completeSession
    (FocusService.createSession FocusDb.empty "s" 0 "u" none none).2 "s" none "u" 90000)
  have h : Run focusStep RespectsFinished FocusDb.empty
      [⟨0, .createSession "s" "u" none none⟩, ⟨90000, .completeSession "s" none "u"⟩] db :=
    .cons (by decide) rfl (.cons (by decide) rfl (.nil _))
  have h' : Run focusStep RespectsFinished db
      [⟨95000, .logDistraction "d" "s" .tabSwitch none "u"⟩] _ := .single (by decide) rfl
  exact ⟨_, _, _, _, h, h', rfl, finished_absorbing h h'⟩

/-- A completed session that is sent the status `active` is active again and keeps its end. -/
theorem finished_session_resumed :
    ¬ ∀ (es es' : List FocusEvent) (db db' : FocusDb),
      AnyRun focusStep FocusDb.empty es db → AnyRun focusStep db es' db' →
      EndsMatch db' ∧ FinishedKept db db' := by
  intro h
  have := (h [⟨0, .createSession "s" "u" none none⟩, ⟨90000, .completeSession "s" none "u"⟩]
    [⟨95000, .updateSession "s" { status := some .active } "u"⟩] _ _
    (.cons trivial rfl (.cons trivial rfl (.nil _))) (.single trivial rfl)).1
  revert this
  decide

/-- The condition cannot be dropped: an update that carries a status to a finished session of its
caller changes its status, or moves its end to the time of the call. -/
theorem not_finishedKept_of_status_update {db db' : FocusDb} {e : FocusEvent} {s : FocusSession}
    {dto : UpdateFocusSessionDto} {uid : String} {status : FocusSessionStatus}
    (hu : db.UniqueIds) (h : focusStep db e = some db') (hs : s ∈ db.focusSession)
    (hfin : s.Finished) (hown : s.userId = some uid)
    (hcall : e.call.asUpdate = some (s.id, dto, uid)) (hst : dto.status = some status)
    (hlater : s.endTime ≠ some e.now) : ¬ FinishedKept db db' := by
  intro hk
  obtain ⟨t, ht, hid, hstatus, hend, -, -⟩ := hk s hs hfin
  have hrow : stepRow e s = (FocusService.updates s dto e.now).apply s := by
    simp [stepRow, hcall, hown]
  have hmem : stepRow e s ∈ db'.focusSession := by
    rw [focusStep_rows hu h]
    exact List.mem_append_left _ (List.mem_map_of_mem hs)
  obtain rfl : t = stepRow e s :=
    (focusStep_uniqueIds hu h).eq_of_mem ht hmem (hid.trans (stepRow_id e s).symm)
  obtain ⟨h1, h2⟩ := apply_updates_of_some s e.now hst
  -- the status is the same, so the end is written once more, and later
  rw [hrow, h1] at hstatus
  rw [hrow, h2, hstatus] at hend
  simp only [show s.status.isTerminal = true from hfin, if_true] at hend
  exact hlater hend.symm

end StudyOasis
