import StudyOasis.Focus.Streaks

/-!
# Points and badges

`getUserProgress` adds up the points of the last 30 completed sessions, so a session that is
finished takes the place of an older one; of which one, the query leaves open where several were
started at the same time.

* `progress_kept_iff` : when finishing a session takes neither points nor badges away;
* `edgePoints_le_iff` : what that means when the other sessions keep their order.
-/

namespace StudyOasis

variable {db db' : FocusDb} {userId : String} {s : FocusSession}
variable {o : SessionOrder db userId} {o' : SessionOrder db' userId}

/-- The history with one more completed session, which was started later than all others. -/
structure Finishes (db db' : FocusDb) (userId : String) (s : FocusSession) : Prop where
  completed : ∃ p q, completedOf db userId = p ++ q ∧ completedOf db' userId = p ++ s :: q
  later : ∀ x ∈ completedOf db userId, x.startTime < s.startTime

/-- **The last call of a session finishes it**: its row becomes a completed one where it stands. -/
theorem finishes_of_update (hu : db.UniqueIds) {id : String} {old : FocusSession} {now : ℤ}
    {dto : UpdateFocusSessionDto} (hold : db.findUnique id = some old)
    (howner : old.userId = some userId) (hopen : old.status ≠ .completed)
    (hdto : dto.status = some .completed)
    (hlater : ∀ x ∈ completedOf db userId, x.startTime < old.startTime)
    (h : focusStep db ⟨now, .updateSession id dto userId⟩ = some db') :
    Finishes db db' userId ((FocusService.updates old dto now).apply old) := by
  obtain ⟨hmem, hid⟩ := FocusDb.mem_of_findUnique hold
  obtain ⟨p, q, hpq⟩ := List.append_of_mem hmem
  have hrow : stepRow ⟨now, .updateSession id dto userId⟩ old =
      (FocusService.updates old dto now).apply old := if_pos ⟨hid, howner⟩
  have hother : ∀ x ∈ p ++ q, stepRow ⟨now, .updateSession id dto userId⟩ x = x := by
    intro x hx
    refine if_neg fun hx' => ?_
    have hnodup := hu
    rw [FocusDb.UniqueIds, hpq, List.map_append, List.map_cons, List.nodup_middle,
      ← List.map_append] at hnodup
    exact (List.nodup_cons.1 hnodup).1 (hid.symm ▸ hx'.1 ▸ List.mem_map_of_mem hx)
  have hrows : db'.focusSession = p ++ (FocusService.updates old dto now).apply old :: q := by
    rw [focusStep_rows hu h, hpq, List.map_append, List.map_cons, hrow]
    have hp : p.map (stepRow ⟨now, .updateSession id dto userId⟩) = p :=
      (List.map_congr_left fun x hx => hother x (List.mem_append_left _ hx)).trans (List.map_id p)
    have hq : q.map (stepRow ⟨now, .updateSession id dto userId⟩) = q :=
      (List.map_congr_left fun x hx => hother x (List.mem_append_right _ hx)).trans
        (List.map_id q)
    rw [hp, hq]
    exact List.append_nil _
  have hnew : ((FocusService.updates old dto now).apply old).userId = some userId ∧
      ((FocusService.updates old dto now).apply old).status = .completed := by
    refine ⟨howner, ?_⟩
    simp [FocusService.updates_eq, FocusSessionUpdateInput.apply, hdto]
  refine ⟨⟨p.filter fun s => s.userId = some userId && s.status = .completed,
    q.filter fun s => s.userId = some userId && s.status = .completed, ?_, ?_⟩, hlater⟩
  · rw [completedOf, hpq, List.filter_append, List.filter_cons_of_neg (by simp [hopen])]
  · rw [completedOf, hrows, List.filter_append, List.filter_cons_of_pos (by simp [hnew])]

/-- An order of the new history is one of the old, behind the new session. -/
theorem Finishes.exists_order (h : Finishes db db' userId s) (o' : SessionOrder db' userId) :
    ∃ o : SessionOrder db userId, o'.list = s :: o.list := by
  obtain ⟨⟨p, q, hpq, hpsq⟩, hlater⟩ := h
  have hperm : o'.list.Perm (s :: completedOf db userId) := by
    rw [hpq]
    exact o'.perm.trans (hpsq ▸ List.perm_middle)
  cases hl : o'.list with
  | nil =>
    rw [hl] at hperm
    exact absurd hperm.nil_eq (List.cons_ne_nil _ _).symm
  | cons x l =>
    have hsorted := o'.sorted
    rw [hl] at hperm hsorted
    obtain ⟨hfirst, hsorted⟩ := List.pairwise_cons.1 hsorted
    -- nothing but the new session can come first
    obtain rfl : x = s := by
      by_contra hne
      have hx := (List.mem_cons.1 (hperm.mem_iff.1 List.mem_cons_self)).resolve_left hne
      have hs := (List.mem_cons.1 (hperm.mem_iff.2 List.mem_cons_self)).resolve_left (Ne.symm hne)
      exact absurd (hlater x hx) (not_lt.2 (hfirst s hs))
    exact ⟨⟨l, hperm.cons_inv, hsorted⟩, rfl⟩

/-! ### The points -/

/-- The points of a session. -/
def pointsOf (s : FocusSession) : ℤ := mathRound (s.focusScore.getD 0)

/-- The points of some sessions. -/
def pointsSum (sessions : List FocusSession) : ℤ := (sessions.map pointsOf).sum

theorem pointsSum_perm {l l' : List FocusSession} (h : l.Perm l') : pointsSum l = pointsSum l' :=
  (h.map pointsOf).sum_eq

theorem pointsSum_cons (s : FocusSession) (l : List FocusSession) :
    pointsSum (s :: l) = pointsOf s + pointsSum l := by
  rw [pointsSum, List.map_cons, List.sum_cons, pointsSum]

/-- The points of the sessions that count and were not started after `start`. -/
def edgePoints (o : SessionOrder db userId) (start : ℤ) : ℤ :=
  pointsSum ((completedSessions o 30).filter fun s => s.startTime ≤ start)

theorem totalPoints_eq (o : SessionOrder db userId) :
    (GamificationService.getUserProgress db userId o).totalPoints =
      pointsSum (completedSessions o 30) := rfl

/-- When all sessions that were started after `start` count, only the others depend on the order
that the query gives. -/
theorem totalPoints_split (o : SessionOrder db userId) {start : ℤ}
    (h : (completedOf db userId).countP (fun s => start < s.startTime) ≤ 30) :
    (GamificationService.getUserProgress db userId o).totalPoints =
      pointsSum ((completedOf db userId).filter fun s => start < s.startTime) +
        edgePoints o start := by
  have hlater : pointsSum ((completedSessions o 30).filter fun s => start < s.startTime) =
      pointsSum ((completedOf db userId).filter fun s => start < s.startTime) := by
    rw [completedSessions, o.filter_take h]
    exact pointsSum_perm (o.perm.filter _)
  have hedge : edgePoints o start =
      pointsSum ((completedSessions o 30).filter fun s => !decide (start < s.startTime)) := by
    simp only [edgePoints, ← decide_not, not_lt]
  rw [totalPoints_eq, ← hlater, hedge, ← pointsSum_perm (List.filter_append_perm
    (fun s => decide (start < s.startTime)) (completedSessions o 30))]
  simp only [pointsSum, List.map_append, List.sum_append]

/-- **The points do not decrease** exactly when, of the sessions that were started with the
thirtieth, those that count before have not more points than the new session and those that count
afterwards. -/
theorem Finishes.totalPoints_le_iff (h : Finishes db db' userId s) (o : SessionOrder db userId)
    (o' : SessionOrder db' userId) (hpos : 0 ≤ pointsOf s) :
    (GamificationService.getUserProgress db userId o).totalPoints ≤
        (GamificationService.getUserProgress db' userId o').totalPoints ↔
      ∀ old ∈ o.list[29]?,
        edgePoints o old.startTime ≤ pointsOf s + edgePoints o' old.startTime := by
  cases hold : o.list[29]? with
  | none =>
    -- all sessions count, before and afterwards
    obtain ⟨r, hr⟩ := h.exists_order o'
    have hlen := List.getElem?_eq_none_iff.1 hold
    have hlen' : r.list.length ≤ 29 := by rwa [r.perm.length_eq, ← o.perm.length_eq]
    refine iff_of_true ?_ (fun old hmem => by cases hmem)
    rw [totalPoints_eq, totalPoints_eq, completedSessions, completedSessions, hr,
      List.take_succ_cons, List.take_of_length_le (hlen.trans (by decide)),
      List.take_of_length_le hlen', pointsSum_cons, pointsSum_perm (o.perm.trans r.perm.symm)]
    omega
  | some old =>
    obtain ⟨⟨p, q, hpq, hpsq⟩, hlater⟩ := h
    have hmem : old ∈ completedSessions o 30 :=
      List.mem_of_getElem? ((List.getElem?_take_of_lt (by decide)).trans hold)
    have hfew := ((mem_map_take_iff o.sorted 30 old.startTime).1
      (List.mem_map_of_mem hmem)).2
    rw [o.perm.countP_eq] at hfew
    have hnew : old.startTime < s.startTime :=
      hlater old (o.perm.mem_iff.1 (List.mem_of_mem_take hmem))
    have hfew' : (completedOf db' userId).countP (fun s => old.startTime < s.startTime) ≤ 30 := by
      rw [hpsq, List.perm_middle.countP_eq, ← hpq, List.countP_cons_of_pos (by simpa using hnew)]
      exact hfew
    have hsum : pointsSum ((completedOf db' userId).filter
          fun s => old.startTime < s.startTime) =
        pointsOf s +
          pointsSum ((completedOf db userId).filter fun s => old.startTime < s.startTime) := by
      rw [hpsq, pointsSum_perm (List.perm_middle.filter _), ← hpq,
        List.filter_cons_of_pos (by simpa using hnew), pointsSum_cons]
    rw [totalPoints_split o hfew.le, totalPoints_split o' hfew', hsum]
    simp only [Option.mem_some_iff, forall_eq']
    omega

/-- If the sessions that were there keep their order, the thirtieth is the one that gives way. -/
theorem edgePoints_le_iff {o : SessionOrder db userId} {o' : SessionOrder db' userId}
    (h : o'.list = s :: o.list) {old : FocusSession} (hold : o.list[29]? = some old)
    (hs : old.startTime < s.startTime) :
    edgePoints o old.startTime ≤ pointsOf s + edgePoints o' old.startTime ↔
      pointsOf old ≤ pointsOf s := by
  have hfront : completedSessions o 30 = o.list.take 29 ++ [old] := by
    rw [completedSessions, List.take_add_one (i := 29), hold]
    rfl
  have hfront' : completedSessions o' 30 = s :: o.list.take 29 := by
    rw [completedSessions, h, List.take_succ_cons]
  rw [edgePoints, edgePoints, hfront, hfront', List.filter_append,
    List.filter_cons_of_pos (by simp), List.filter_nil, List.filter_cons_of_neg (by simpa using hs)]
  simp only [pointsSum, List.map_append, List.sum_append, List.map_cons, List.map_nil,
    List.sum_singleton]
  omega

/-! ### The badge for 30 days -/

/-- The last 30 completed sessions were started on the 30 days up to `last`. -/
def ThirtyDays (o : SessionOrder db userId) (last : ℤ) : Prop :=
  ∀ day, day ∈ sessionDays (completedSessions o 30) ↔ last - 29 ≤ day ∧ day ≤ last

theorem card_sessionDays_le (o : SessionOrder db userId) (take : ℕ) :
    (sessionDays (completedSessions o take)).toFinset.card ≤ take := by
  have hsub : (sessionDays (completedSessions o take)).toFinset ⊆
      ((completedSessions o take).map fun s => dayOf s.startTime).toFinset := by
    intro day hday
    rw [List.mem_toFinset, mem_sessionDays] at hday
    rw [List.mem_toFinset, List.mem_map]
    exact hday
  calc (sessionDays (completedSessions o take)).toFinset.card
      ≤ ((completedSessions o take).map fun s => dayOf s.startTime).toFinset.card :=
        Finset.card_le_card hsub
    _ ≤ ((completedSessions o take).map fun s => dayOf s.startTime).length :=
        List.toFinset_card_le _
    _ ≤ take := by
        rw [List.length_map]
        exact List.length_take_le _ _

/-- A badge for 30 days means that 30 sessions in a row were started on 30 days in a row. -/
theorem legend_iff (o : SessionOrder db userId) :
    "30-Day Legend" ∈ (GamificationService.getUserProgress db userId o).badges ↔
      ∃ last, ThirtyDays o last := by
  have hlongest : Longest {day | day ∈ sessionDays (completedSessions o 30)}
      (GamificationService.getUserProgress db userId o).longestStreak :=
    GamificationService.calculateLongestStreak_spec (pairwise_sessionDays o 30)
  refine mem_badges_iff.2.1.trans ?_
  constructor
  · intro hthirty
    obtain ⟨last, hlast⟩ := hlongest.1
    have hcons := hlast.of_le hthirty
    refine ⟨last, fun day => ?_⟩
    have hsub : Finset.Icc (last - 29) last ⊆
        (sessionDays (completedSessions o 30)).toFinset := by
      intro day hday
      rw [Finset.mem_Icc] at hday
      have hmem := hcons (last - day).toNat (by omega)
      rw [show last - ((last - day).toNat : ℤ) = day by omega] at hmem
      exact List.mem_toFinset.2 hmem
    -- there is no room for another day
    have heq := Finset.eq_of_subset_of_card_le hsub (by
      rw [Int.card_Icc]
      have := card_sessionDays_le o 30
      omega)
    rw [← List.mem_toFinset, ← heq, Finset.mem_Icc]
  · rintro ⟨last, hdays⟩
    refine hlongest.2 ⟨last, fun i hi => ?_⟩
    exact (hdays _).2 (by omega)

/-- A later day leaves fewer sessions behind it. -/
theorem sessionsAfter_lt {day day' : ℤ} (h : day < day') (hday' : day' ∈ studyDays db userId) :
    sessionsAfter db userId day' < sessionsAfter db userId day := by
  obtain ⟨x, hx, rfl⟩ := hday'
  have hsplit (d : ℤ) : sessionsAfter db userId d =
      ((completedOf db userId).erase x).countP (fun s => d < dayOf s.startTime) +
        if d < dayOf x.startTime then 1 else 0 := by
    rw [sessionsAfter, (List.perm_cons_erase hx).countP_eq, List.countP_cons]
    simp
  rw [hsplit, hsplit, if_neg (lt_irrefl _), if_pos h, Nat.lt_add_one_iff]
  refine List.countP_mono_left fun s _ hs => ?_
  simp only [decide_eq_true_eq] at hs ⊢
  exact h.trans hs

/-- Without the thirtieth session, the first of the 30 days is missing. -/
theorem ThirtyDays.mem_take {last : ℤ} (h : ThirtyDays o last) (day : ℤ) :
    day ∈ sessionDays (completedSessions o 29) ↔ last - 28 ≤ day ∧ day ≤ last := by
  have hwindow (take : ℕ) (d : ℤ) : d ∈ sessionDays (completedSessions o take) ↔
      d ∈ studyDays db userId ∧ sessionsAfter db userId d < take := mem_window_iff
  have hfirst := (hwindow 30 (last - 29)).1 ((h _).2 (by omega))
  constructor
  · intro hday
    obtain ⟨hmem, hafter⟩ := (hwindow 29 day).1 hday
    have hrange := (h day).1 ((hwindow 30 day).2 ⟨hmem, by omega⟩)
    refine ⟨?_, hrange.2⟩
    by_contra hlt
    obtain rfl : day = last - 29 := by omega
    -- 29 sessions would be enough for the 30 days
    have hsub : Finset.Icc (last - 29) last ⊆
        (sessionDays (completedSessions o 29)).toFinset := by
      intro d hd
      rw [Finset.mem_Icc] at hd
      rw [List.mem_toFinset]
      exact (upper_window o 29).later _ hday d
        ((hwindow 30 d).1 ((h d).2 (by omega))).1 hd.1
    have hcard := (Finset.card_le_card hsub).trans (card_sessionDays_le o 29)
    rw [Int.card_Icc] at hcard
    omega
  · intro hday
    have hmem := ((hwindow 30 day).1 ((h day).2 (by omega))).1
    have hlt := sessionsAfter_lt (show last - 29 < day by omega) hmem
    exact (hwindow 29 day).2 ⟨hmem, by omega⟩

/-- Who has the badge keeps it exactly when the next session is started on the day after. -/
theorem Finishes.legend_kept_iff (h : Finishes db db' userId s) {last : ℤ}
    (hdays : ThirtyDays o last) :
    (∃ last', ThirtyDays o' last') ↔ dayOf s.startTime = last + 1 := by
  have hmem (d : ℤ) : d ∈ sessionDays (completedSessions o' 30) ↔
      d = dayOf s.startTime ∨ last - 28 ≤ d ∧ d ≤ last := by
    obtain ⟨r, hr⟩ := h.exists_order o'
    have hrest : d ∈ sessionDays (completedSessions r 29) ↔
        d ∈ sessionDays (completedSessions o 29) := mem_window_iff.trans mem_window_iff.symm
    rw [completedSessions, hr, List.take_succ_cons, ← hdays.mem_take, ← hrest, mem_sessionDays,
      mem_sessionDays, completedSessions]
    simp only [List.mem_cons, exists_eq_or_imp]
    rw [eq_comm]
  have hlater : last ≤ dayOf s.startTime := by
    obtain ⟨x, hx, hxlast⟩ := mem_sessionDays.1 ((hdays last).2 (by omega))
    have hx' := o.perm.mem_iff.1 (List.mem_of_mem_take hx)
    rw [← hxlast]
    exact dayOf_mono (h.later x hx').le
  constructor
  · rintro ⟨last', hdays'⟩
    have hiff (d : ℤ) := (hmem d).symm.trans (hdays' d)
    have h1 := hiff (dayOf s.startTime)
    have h2 := hiff last
    have h3 := hiff last'
    have h4 := hiff (last' - 29)
    have h5 := hiff (last + 1)
    omega
  · intro hnext
    refine ⟨last + 1, fun d => ?_⟩
    rw [hmem]
    omega

/-- **Finishing a session takes nothing away**, neither points nor the badges for them and for 30
days, exactly when the session that gives way has not more points, and who has the badge for
30 days has started the session on the next day.  Where several sessions were started with the
thirtieth, the query may answer with any of them, before and afterwards; then their points are
compared. -/
theorem progress_kept_iff (h : Finishes db db' userId s) (o : SessionOrder db userId)
    (o' : SessionOrder db' userId) {score : ℚ} (hscore : s.focusScore = some score)
    (hpos : 0 ≤ score) :
    ((GamificationService.getUserProgress db userId o).totalPoints ≤
        (GamificationService.getUserProgress db' userId o').totalPoints ∧
      ∀ badge ∈ ["1k Points", "30-Day Legend"],
        badge ∈ (GamificationService.getUserProgress db userId o).badges →
        badge ∈ (GamificationService.getUserProgress db' userId o').badges) ↔
    (∀ old ∈ o.list[29]?, edgePoints o old.startTime ≤ pointsOf s + edgePoints o' old.startTime) ∧
      ∀ last, ThirtyDays o last → dayOf s.startTime = last + 1 := by
  have hnew : 0 ≤ pointsOf s := by
    rw [pointsOf, hscore, mathRound, Option.getD_some, Int.floor_nonneg]
    linarith
  have hlegend : ("30-Day Legend" ∈ (GamificationService.getUserProgress db userId o).badges →
      "30-Day Legend" ∈ (GamificationService.getUserProgress db' userId o').badges) ↔
        ∀ last, ThirtyDays o last → dayOf s.startTime = last + 1 := by
    rw [legend_iff, legend_iff, forall_exists_index]
    exact forall₂_congr fun last hdays => h.legend_kept_iff hdays
  rw [← h.totalPoints_le_iff o o' hnew, ← hlegend, List.forall_mem_cons,
    List.forall_mem_singleton]
  refine and_congr_right fun hle => and_iff_right fun hbadge => ?_
  exact mem_badges_iff.2.2.2 ((mem_badges_iff.2.2.1 hbadge).trans hle)

/-- The table of one user. -/
def withSessions (sessions : List FocusSession) : FocusDb :=
  { focusSession := sessions, focusDistraction := [], document := [] }

/-- Thirty sessions that were started at the same time, with the same score. -/
def thirtySessions (score : ℚ) : List FocusSession :=
  (List.range 30).map fun i => studied (toString i) 0 score

theorem completedOf_thirtySessions (score : ℚ) (l : List FocusSession) :
    completedOf (withSessions (thirtySessions score ++ l)) "u" =
      thirtySessions score ++ completedOf (withSessions l) "u" := by
  rw [completedOf, withSessions, List.filter_append]
  refine congrArg (· ++ _) (List.filter_eq_self.2 fun s hs => ?_)
  obtain ⟨i, -, rfl⟩ := List.mem_map.1 hs
  rfl

/-- The thirty-first session. -/
theorem finishes_studied (score score' : ℚ) :
    Finishes (withSessions (thirtySessions score))
      (withSessions (thirtySessions score ++ [studied "30" 1 score'])) "u"
      (studied "30" 1 score') := by
  have hall : completedOf (withSessions (thirtySessions score)) "u" =
      thirtySessions score ++ [] := by
    rw [← List.append_nil (thirtySessions score)]
    exact completedOf_thirtySessions score []
  refine ⟨⟨thirtySessions score, [], hall, completedOf_thirtySessions score _⟩, fun s hs => ?_⟩
  rw [hall, List.append_nil] at hs
  obtain ⟨i, -, rfl⟩ := List.mem_map.1 hs
  show midnight 0 < midnight 1
  decide

/-- The thirty-first session, with a better score than the first one. -/
theorem progress_kept_iff_better :
    (GamificationService.getUserProgress _ "u"
        (stableOrder (withSessions (thirtySessions 80)))).totalPoints ≤
      (GamificationService.getUserProgress _ "u" (stableOrder
        (withSessions (thirtySessions 80 ++ [studied "30" 1 90])))).totalPoints := by
  refine ((progress_kept_iff (finishes_studied 80 90) (stableOrder _) (stableOrder _) rfl
    (by decide)).2 ⟨?_, fun last hlast => ?_⟩).1
  · decide +kernel
  · -- all sessions were started on one day
    have hdays : sessionDays (completedSessions
        (stableOrder (withSessions (thirtySessions 80))) 30) = [0] := by decide +kernel
    rw [ThirtyDays, hdays] at hlast
    have h1 := List.mem_singleton.1 ((hlast last).2 (by omega))
    have h2 := List.mem_singleton.1 ((hlast (last - 1)).2 (by omega))
    omega

/-- Thirty sessions with full scores, and then one with none. -/
theorem points_lost : ¬ ∀ (db db' : FocusDb) (userId : String) (s : FocusSession) (score : ℚ)
    (o : SessionOrder db userId) (o' : SessionOrder db' userId),
    Finishes db db' userId s → s.focusScore = some score → 0 ≤ score → score ≤ 100 →
    (GamificationService.getUserProgress db userId o).totalPoints ≤
        (GamificationService.getUserProgress db' userId o').totalPoints ∧
      ∀ badge ∈ ["1k Points", "30-Day Legend"],
        badge ∈ (GamificationService.getUserProgress db userId o).badges →
        badge ∈ (GamificationService.getUserProgress db' userId o').badges := by
  intro h
  have hle := (h _ _ "u" _ 0 (stableOrder _) (stableOrder _) (finishes_studied 100 0) rfl
    (by decide) (by decide)).1
  revert hle
  decide +kernel

end StudyOasis
