import StudyOasis.Focus.Blocks
import StudyOasis.Text.JsString

/-!
# Streaks of study days

`getUserProgress` computes its streaks from the days of the last 30 completed sessions, and
`getReminderBanners` announces one from the days of the last seven.

* `currentStreak_iff` : when the current streak is the one that ends today or yesterday;
* `longestStreak_iff` : when the longest streak is the longest of the whole history;
* `streak_announced_iff` : when the announced streak is the one that ends with the last session.
-/

namespace StudyOasis

/-! ### The streaks that the loops compute -/

namespace GamificationService

/-- On days in descending order the loops look for the day before. -/
theorem near_iff_dayBefore {prevDay day : ℤ} (h : prevDay > day) :
    Near prevDay day ↔ DayBefore prevDay day := by
  rw [Near, DayBefore, daysBetween_eq]
  omega

/-- **`calculateCurrentStreak`** gives the streak that ends with the first of the days. -/
theorem calculateCurrentStreak_spec {day : ℤ} {days : List ℤ}
    (h : (day :: days).Pairwise (· > ·)) :
    Streak {d | d ∈ day :: days} day (calculateCurrentStreak (day :: days)) := by
  obtain ⟨n, hn, hs⟩ := exists_firstBlock h
  have hblock := calculateCurrentStreak_block (List.cons_ne_nil day days)
  rw [firstBlockLengths_congr (h.imp near_iff_dayBefore)] at hblock
  rw [hblock.unique hn]
  exact streak_cons h hs

/-- The first day is always counted. -/
theorem calculateCurrentStreak_pos (day : ℤ) (days : List ℤ) :
    0 < calculateCurrentStreak (day :: days) :=
  (calculateCurrentStreak_block (List.cons_ne_nil day days)).2
    ⟨[day], List.prefix_append [day] days, .singleton day, rfl⟩

/-- **`calculateLongestStreak`** gives the longest streak of the days. -/
theorem calculateLongestStreak_spec {days : List ℤ} (h : days.Pairwise (· > ·)) :
    Longest {d | d ∈ days} (calculateLongestStreak days) := by
  obtain ⟨n, hn, hle⟩ := exists_longestBlock h
  have hlongest : calculateLongestStreak days = n := by
    cases days with
    | nil => exact isGreatest_blocks_nil.unique hn
    | cons day days =>
      have hblock := calculateLongestStreak_block (List.cons_ne_nil day days)
      rw [blockLengths_congr (h.imp near_iff_dayBefore)] at hblock
      exact hblock.unique hn
  rw [hlongest]
  exact longest_of_le_iff hle

end GamificationService

/-! ### The history -/

/-- The days on which the user has started a completed session. -/
def studyDays (db : FocusDb) (userId : String) : Set ℤ :=
  {day | ∃ s ∈ completedOf db userId, dayOf s.startTime = day}

instance (db : FocusDb) (userId : String) : DecidablePred (· ∈ studyDays db userId) := fun day =>
  inferInstanceAs (Decidable (∃ s ∈ completedOf db userId, dayOf s.startTime = day))

/-- The number of completed sessions that the user has started after the day. -/
def sessionsAfter (db : FocusDb) (userId : String) (day : ℤ) : ℕ :=
  (completedOf db userId).countP fun s => day < dayOf s.startTime

variable {db : FocusDb} {userId : String} {o : SessionOrder db userId}

theorem mem_sessionDays {sessions : List FocusSession} {day : ℤ} :
    day ∈ sessionDays sessions ↔ ∃ s ∈ sessions, dayOf s.startTime = day := by
  rw [sessionDays, List.mem_eraseDups, List.mem_map]

theorem studyDays_finite (db : FocusDb) (userId : String) : (studyDays db userId).Finite := by
  refine (sessionDays (completedOf db userId)).finite_toSet.subset fun day hday => ?_
  exact mem_sessionDays.2 hday

/-- The sessions are read by day too. -/
theorem pairwise_dayOf (o : SessionOrder db userId) :
    o.list.Pairwise fun a b => dayOf b.startTime ≤ dayOf a.startTime :=
  o.sorted.imp fun h => dayOf_mono h

/-- **The days that a query shows** are those after which fewer sessions were started than it
takes. -/
theorem mem_window_iff {take : ℕ} {day : ℤ} :
    day ∈ sessionDays (completedSessions o take) ↔
      day ∈ studyDays db userId ∧ sessionsAfter db userId day < take := by
  have h := mem_map_take_iff (pairwise_dayOf o) take day
  rw [sessionDays, List.mem_eraseDups, completedSessions, h, o.perm.countP_eq,
    (o.perm.map _).mem_iff, List.mem_map]
  rfl

theorem upper_window (o : SessionOrder db userId) (take : ℕ) :
    Upper {day | day ∈ sessionDays (completedSessions o take)} (studyDays db userId) := by
  refine ⟨fun day hday => (mem_window_iff.1 hday).1, fun day hday day' hday' hle => ?_⟩
  refine mem_window_iff.2 ⟨hday', lt_of_le_of_lt ?_ (mem_window_iff.1 hday).2⟩
  refine List.countP_mono_left fun s _ hs => ?_
  simp only [decide_eq_true_eq] at hs ⊢
  omega

/-- The first day that a query shows is the last one of the history. -/
theorem isGreatest_of_window {take : ℕ} {day : ℤ} {days : List ℤ}
    (h : sessionDays (completedSessions o take) = day :: days) :
    IsGreatest (studyDays db userId) day := by
  have hup := upper_window o take
  have hsorted := pairwise_sessionDays o take
  rw [h] at hup hsorted
  refine ⟨hup.subset List.mem_cons_self, fun day' hday' => ?_⟩
  by_contra hlt
  rw [not_le] at hlt
  rcases List.mem_cons.1 (hup.later day List.mem_cons_self day' hday' hlt.le) with rfl | hmem
  · exact lt_irrefl _ hlt
  · exact lt_asymm hlt ((List.pairwise_cons.1 hsorted).1 day' hmem)

/-- A query that shows no day is about an empty history. -/
theorem studyDays_eq_empty {take : ℕ} (htake : 0 < take)
    (h : sessionDays (completedSessions o take) = []) : studyDays db userId = ∅ := by
  by_contra hne
  obtain ⟨day, s, hs, -⟩ := Set.nonempty_iff_ne_empty.2 hne
  cases hl : o.list with
  | nil => exact absurd (hl ▸ o.perm.mem_iff.2 hs) List.not_mem_nil
  | cons s' l =>
    have hmem : dayOf s'.startTime ∈ sessionDays (completedSessions o take) := by
      obtain ⟨n, rfl⟩ := Nat.exists_eq_succ_of_ne_zero htake.ne'
      exact mem_sessionDays.2 ⟨s', by rw [completedSessions, hl]; exact List.mem_cons_self, rfl⟩
    rw [h] at hmem
    cases hmem

/-- The streak that ends with the last day is computed in full exactly when the query shows its
first day. -/
theorem calculateCurrentStreak_eq_iff {take n : ℕ} {day : ℤ} {days : List ℤ}
    (h : sessionDays (completedSessions o take) = day :: days)
    (hs : Streak (studyDays db userId) day (n + 1)) :
    GamificationService.calculateCurrentStreak (day :: days) = n + 1 ↔
      sessionsAfter db userId (day - n) < take := by
  have hup := upper_window o take
  have hspec : Streak {d | d ∈ sessionDays (completedSessions o take)} day
      (GamificationService.calculateCurrentStreak (day :: days)) := by
    have hsorted := pairwise_sessionDays o take
    rw [h] at hsorted ⊢
    exact GamificationService.calculateCurrentStreak_spec hsorted
  have hfirst : day - n ∈ studyDays db userId := hs.consecutive n n.lt_succ_self
  have hwindow : sessionsAfter db userId (day - n) < take ↔
      day - n ∈ sessionDays (completedSessions o take) := by
    rw [mem_window_iff, and_iff_right hfirst]
  rw [hwindow]
  constructor
  · intro heq
    rw [heq] at hspec
    exact (streak_iff_of_upper hup hs).1 hspec
  · intro hmem
    exact hspec.unique ((streak_iff_of_upper hup hs).2 hmem)

/-- On all sessions, `calculateCurrentStreak` gives the streak that ends with the last day. -/
theorem calculateCurrentStreak_history (o : SessionOrder db userId) {last : ℤ} {n : ℕ}
    (hlast : IsGreatest (studyDays db userId) last) (hs : Streak (studyDays db userId) last n) :
    GamificationService.calculateCurrentStreak (sessionDays o.list) = n := by
  have hall : completedSessions o ((completedOf db userId).length + 1) = o.list := by
    rw [completedSessions, List.take_of_length_le]
    rw [o.perm.length_eq]
    exact Nat.le_succ _
  rw [← hall]
  cases hdays : sessionDays (completedSessions o ((completedOf db userId).length + 1)) with
  | nil =>
    have hempty := studyDays_eq_empty (Nat.succ_pos _) hdays
    exact absurd (hempty ▸ hlast.1) (Set.notMem_empty last)
  | cons day days =>
    obtain rfl := (isGreatest_of_window hdays).unique hlast
    obtain ⟨m, hm⟩ := exists_streak_of_mem (studyDays_finite db userId) hlast.1
    obtain rfl := hs.unique hm
    exact (calculateCurrentStreak_eq_iff hdays hs).2 (Nat.lt_succ_of_le List.countP_le_length)

/-! ### The current streak -/

/-- The streak of today, or of yesterday as long as there is no session today, has `n` days. -/
def CurrentStreak (days : Set ℤ) (today : ℤ) (n : ℕ) : Prop :=
  (today ∈ days ∧ Streak days today n) ∨ (today ∉ days ∧ Streak days (today - 1) n)

/-- There is a streak that ends today or yesterday, and fewer than 30 completed sessions were
started after its first day. -/
def StreakInSight (db : FocusDb) (userId : String) (today : ℤ) : Prop :=
  ∃ last n, (last = today ∨ last = today - 1) ∧ Streak (studyDays db userId) last (n + 1) ∧
    sessionsAfter db userId (last - n) < 30

theorem mem_badges_iff {current longest : ℕ} {points : ℤ} :
    ("7-Day Streak" ∈ GamificationService.buildBadges current longest points ↔ 7 ≤ current) ∧
    ("30-Day Legend" ∈ GamificationService.buildBadges current longest points ↔ 30 ≤ longest) ∧
    ("1k Points" ∈ GamificationService.buildBadges current longest points ↔ 1000 ≤ points) := by
  unfold GamificationService.buildBadges
  refine ⟨?_, ?_, ?_⟩ <;> split_ifs <;> simp [*]

/-- A streak that is in sight ends with the last day of the history, when no session lies in the
future. -/
theorem streakInSight_iff {today day : ℤ} (hlast : IsGreatest (studyDays db userId) day)
    (hpast : day ≤ today) :
    StreakInSight db userId today ↔
      today - 1 ≤ day ∧ ∃ n, Streak (studyDays db userId) day (n + 1) ∧
        sessionsAfter db userId (day - n) < 30 := by
  constructor
  · rintro ⟨last, n, hend, hs, hafter⟩
    have hmem : last ∈ studyDays db userId := (streak_succ_iff.1 hs).1
    have hle : last ≤ day := hlast.2 hmem
    refine ⟨by omega, ?_⟩
    rcases hle.eq_or_lt with rfl | hlt
    · exact ⟨n, hs, hafter⟩
    · -- the streak goes on today
      obtain rfl : last = day - 1 := by omega
      refine ⟨n + 1, streak_succ_iff.2 ⟨hlast.1, hs⟩, ?_⟩
      rwa [show day - ((n + 1 : ℕ) : ℤ) = day - 1 - n by omega]
  · rintro ⟨hday, n, hs, hafter⟩
    exact ⟨day, n, by omega, hs, hafter⟩

/-- The current streak ends with the last day of the history, if that is today or yesterday. -/
theorem currentStreak_iff_of_last {days : Set ℤ} {today day : ℤ} {n : ℕ}
    (hlast : IsGreatest days day) (hpast : day ≤ today) :
    CurrentStreak days today (n + 1) ↔ today - 1 ≤ day ∧ Streak days day (n + 1) := by
  constructor
  · rintro (⟨htoday, hs⟩ | ⟨htoday, hs⟩)
    · obtain rfl := hpast.antisymm (hlast.2 htoday)
      exact ⟨by omega, hs⟩
    · have hmem := (streak_succ_iff.1 hs).1
      have hle : today - 1 ≤ day := hlast.2 hmem
      have hne : day ≠ today := fun heq => htoday (heq ▸ hlast.1)
      obtain rfl : day = today - 1 := by omega
      exact ⟨le_rfl, hs⟩
  · rintro ⟨hday, hs⟩
    by_cases htoday : today ∈ days
    · obtain rfl := hpast.antisymm (hlast.2 htoday)
      exact .inl ⟨htoday, hs⟩
    · have hne : day ≠ today := fun heq => htoday (heq ▸ hlast.1)
      obtain rfl : day = today - 1 := by omega
      exact .inr ⟨htoday, hs⟩

/-- A call starts its session at its own time, and no call changes when a session was started. -/
theorem startTime_le_of_run {now : ℤ} {es : List FocusEvent}
    (h : Run focusStep (fun _ e => e.now ≤ now) .empty es db) :
    ∀ s ∈ db.focusSession, s.startTime ≤ now := by
  refine (h.invariant (I := fun db => db.UniqueIds ∧ ∀ s ∈ db.focusSession, s.startTime ≤ now)
    ⟨List.nodup_nil, fun s hs => absurd hs List.not_mem_nil⟩ ?_).2
  rintro db e db' ⟨hu, hs⟩ he hst
  refine ⟨focusStep_uniqueIds hu hst, fun s' hs' => ?_⟩
  rw [focusStep_rows hu hst] at hs'
  rcases List.mem_append.1 hs' with hs' | hs'
  · obtain ⟨s, hmem, rfl⟩ := List.mem_map.1 hs'
    have hsame : (stepRow e s).startTime = s.startTime := by
      unfold stepRow
      split
      · split_ifs <;> rfl
      · split_ifs <;> rfl
      · rfl
    rw [hsame]
    exact hs s hmem
  · unfold newRows at hs'
    split at hs'
    · obtain rfl := List.mem_singleton.1 hs'
      exact he
    · cases hs'

/-- **The current streak is the one of today or yesterday**, and its badge is there from seven days
on, exactly when there is no completed session, or such a streak and fewer than 30 sessions after
its first day. -/
theorem currentStreak_iff (db : FocusDb) (userId : String) (o : SessionOrder db userId) (now : ℤ)
    (hpast : ∀ s ∈ completedOf db userId, s.startTime ≤ now) :
    (∃ n, CurrentStreak (studyDays db userId) (dayOf now) n ∧
      (GamificationService.getUserProgress db userId o).currentStreak = n ∧
      ("7-Day Streak" ∈ (GamificationService.getUserProgress db userId o).badges ↔ 7 ≤ n)) ↔
    studyDays db userId = ∅ ∨ StreakInSight db userId (dayOf now) := by
  have hcode : (GamificationService.getUserProgress db userId o).currentStreak =
      GamificationService.calculateCurrentStreak (sessionDays (completedSessions o 30)) := rfl
  have hbadge : ("7-Day Streak" ∈ (GamificationService.getUserProgress db userId o).badges ↔
      7 ≤ (GamificationService.getUserProgress db userId o).currentStreak) := mem_badges_iff.1
  cases hdays : sessionDays (completedSessions o 30) with
  | nil =>
    have hempty := studyDays_eq_empty (by decide) hdays
    have hzero : (GamificationService.getUserProgress db userId o).currentStreak = 0 := by
      rw [hcode, hdays]
      rfl
    refine iff_of_true ⟨0, .inr ⟨?_, streak_zero_iff.2 ?_⟩, hzero, hzero ▸ hbadge⟩ (.inl hempty)
    · rw [hempty]
      exact Set.notMem_empty _
    · rw [hempty]
      exact Set.notMem_empty _
  | cons day days =>
    have hlast := isGreatest_of_window hdays
    have hday : day ≤ dayOf now := by
      obtain ⟨s, hs, rfl⟩ := hlast.1
      exact dayOf_mono (hpast s hs)
    have hne : studyDays db userId ≠ ∅ := fun hempty =>
      Set.notMem_empty day (hempty ▸ hlast.1)
    obtain ⟨n, hn⟩ := exists_streak_of_mem (studyDays_finite db userId) hlast.1
    rw [hdays] at hcode
    have hfull := calculateCurrentStreak_eq_iff hdays hn
    rw [streakInSight_iff hlast hday, or_iff_right hne]
    constructor
    · rintro ⟨m, hcur, hm, -⟩
      -- the code counts the last day at least
      obtain ⟨m, rfl⟩ : ∃ k, m = k + 1 := by
        refine Nat.exists_eq_succ_of_ne_zero ?_
        rw [← hm, hcode]
        exact (GamificationService.calculateCurrentStreak_pos day days).ne'
      obtain ⟨hnear, hs⟩ := (currentStreak_iff_of_last hlast hday).1 hcur
      obtain rfl : m = n := by simpa using hs.unique hn
      exact ⟨hnear, m, hs, hfull.1 (hcode.symm.trans hm)⟩
    · rintro ⟨hnear, m, hs, hafter⟩
      obtain rfl : m = n := by simpa using hs.unique hn
      have hcount := hcode.trans (hfull.2 hafter)
      refine ⟨m + 1, (currentStreak_iff_of_last hlast hday).2 ⟨hnear, hs⟩, hcount, ?_⟩
      rw [hbadge, hcount]

/-- A session of the user that was completed on the day, with a score. -/
def studied (id : String) (day : ℤ) (score : ℚ) : FocusSession :=
  { FocusService.newSession id (midnight day) "u" none none with
    status := .completed
    focusScore := some score }

/-- A user who has completed a session on each of the days. -/
def studiedOn (days : List ℤ) : FocusDb :=
  { focusSession := days.mapIdx fun i day => studied (toString i) day 80
    focusDistraction := []
    document := [] }

/-- The order of the user's sessions, for ties that of the table. -/
def stableOrder (db : FocusDb) : SessionOrder db "u" := .stable _ _

/-- Three days in a row, up to today. -/
theorem currentStreak_iff_three : ∃ n,
    CurrentStreak (studyDays (studiedOn [8, 9, 10]) "u") (dayOf (midnight 10)) n ∧
      (GamificationService.getUserProgress _ "u" (stableOrder (studiedOn [8, 9, 10]))).currentStreak
        = n ∧
      ("7-Day Streak" ∈
        (GamificationService.getUserProgress _ "u" (stableOrder (studiedOn [8, 9, 10]))).badges ↔
        7 ≤ n) :=
  (currentStreak_iff (studiedOn [8, 9, 10]) "u" (stableOrder _) (midnight 10) (by decide)).2
    (.inr ⟨10, 2, .inl (by decide), by decide, by decide⟩)

/-- One session, ten days ago. -/
theorem old_streak_shown : ¬ ∀ (db : FocusDb) (userId : String) (o : SessionOrder db userId)
    (now : ℤ),
    (∀ s ∈ completedOf db userId, s.startTime ≤ now) →
    ∃ n, CurrentStreak (studyDays db userId) (dayOf now) n ∧
      (GamificationService.getUserProgress db userId o).currentStreak = n ∧
      ("7-Day Streak" ∈ (GamificationService.getUserProgress db userId o).badges ↔ 7 ≤ n) := by
  intro h
  obtain ⟨n, hn, hcount, -⟩ := h (studiedOn [0]) "u" (stableOrder _) (midnight 10) (by decide)
  have hshown : (GamificationService.getUserProgress _ "u"
      (stableOrder (studiedOn [0]))).currentStreak = 1 := by
    decide +kernel
  rcases hn with ⟨htoday, -⟩ | ⟨-, hs⟩
  · exact absurd htoday (by decide)
  · have hzero := hs.unique (streak_zero_iff.2 (by decide))
    omega

/-! ### The longest streak -/

/-- The history is empty, or fewer than 30 completed sessions were started after the first day of
one of its longest streaks. -/
def LongestInSight (db : FocusDb) (userId : String) : Prop :=
  studyDays db userId = ∅ ∨ ∃ last n, Consecutive (studyDays db userId) last (n + 1) ∧
    StreaksLe (studyDays db userId) (n + 1) ∧ sessionsAfter db userId (last - n) < 30

/-- **The longest streak is the longest of the history**, and its badge is there from 30 days on,
exactly when one of the longest streaks is in sight. -/
theorem longestStreak_iff (db : FocusDb) (userId : String) (o : SessionOrder db userId) :
    (∃ n, Longest (studyDays db userId) n ∧
      (GamificationService.getUserProgress db userId o).longestStreak = n ∧
      ("30-Day Legend" ∈ (GamificationService.getUserProgress db userId o).badges ↔ 30 ≤ n)) ↔
    LongestInSight db userId := by
  have hwindow : Longest {day | day ∈ sessionDays (completedSessions o 30)}
      (GamificationService.getUserProgress db userId o).longestStreak :=
    GamificationService.calculateLongestStreak_spec (pairwise_sessionDays o 30)
  have hbadge : ("30-Day Legend" ∈ (GamificationService.getUserProgress db userId o).badges ↔
      30 ≤ (GamificationService.getUserProgress db userId o).longestStreak) := mem_badges_iff.2.1
  have hsight : LongestInSight db userId ↔ studyDays db userId = ∅ ∨
      ∃ last n, Consecutive (studyDays db userId) last (n + 1) ∧
        StreaksLe (studyDays db userId) (n + 1) ∧
        last - n ∈ {day | day ∈ sessionDays (completedSessions o 30)} := by
    refine or_congr_right (exists₂_congr fun last n => ?_)
    refine and_congr_right fun hcons => and_congr_right fun _ => ?_
    rw [Set.mem_ofPred_eq, mem_window_iff, and_iff_right (hcons n n.lt_succ_self)]
  rw [hsight, ← longest_iff_of_upper (upper_window o 30) hwindow]
  constructor
  · rintro ⟨n, hn, hcount, -⟩
    rwa [hcount]
  · intro hlongest
    exact ⟨_, hlongest, rfl, hbadge⟩

/-- A second session on the last day comes after the two days before, and 30 of them hide these. -/
theorem longest_streak_forgotten : ¬ ∀ (db : FocusDb) (userId : String)
    (o : SessionOrder db userId), ∃ n, Longest (studyDays db userId) n ∧
      (GamificationService.getUserProgress db userId o).longestStreak = n ∧
      ("30-Day Legend" ∈ (GamificationService.getUserProgress db userId o).badges ↔ 30 ≤ n) := by
  intro h
  obtain ⟨n, hn, hcount, -⟩ := h (studiedOn ([0, 1] ++ List.replicate 30 3)) "u" (stableOrder _)
  have hshown : (GamificationService.getUserProgress _ "u"
      (stableOrder (studiedOn ([0, 1] ++ List.replicate 30 3)))).longestStreak = 1 := by
    decide +kernel
  have htwo := hn.streaksLe 1 2 (by decide)
  omega

/-! ### The reminder -/

namespace NotificationsService

/-- The banner that announces a streak. -/
def streakBanner (start : ℤ) (streakDays : ℕ) : ReminderBanner :=
  { id := "streak-" ++ toISOString start
    title := "连胜即将中断"
    message := "你已经连续 " ++ toString streakDays ++
      " 天保持专注，但距离上次会话已超过 24 小时，记得再出一个 Focus Session 保住 streak。"
    actionLabel := "继续打卡"
    actionUrl := "/chat"
    severity := .critical }

/-- The banner tells the number of days. -/
theorem streakBanner_injective {start start' : ℤ} {m n : ℕ}
    (h : streakBanner start m = streakBanner start' n) : m = n := by
  have hmessage := congrArg (fun b => b.message.toList) h
  simp only [streakBanner, String.toList_append] at hmessage
  have hdigits := List.append_cancel_left (List.append_cancel_right hmessage)
  exact toDigits_injective (by simpa [toString, Nat.repr] using hdigits)

/-- There is a banner with the number of days. -/
def Announces (o : SessionOrder db userId) (now : ℤ) (n : ℕ) : Prop :=
  ∃ start, streakBanner start n ∈ getReminderBanners db userId o now

/-- The user has completed at least two sessions, the last one at least 24 hours ago, and the last
seven were started on at least three days. -/
structure Reminded (o : SessionOrder db userId) (now : ℤ) : Prop where
  user : userId ≠ ""
  two : 2 ≤ (completedOf db userId).length
  dayAgo : ∀ s ∈ completedOf db userId, msPerDay ≤ now - s.startTime
  three : 3 ≤ (sessionDays (completedSessions o 7)).length

/-- The reminder for some sessions. -/
theorem createStreakReminder_eq_some_iff {sessions : List FocusSession} {now : ℤ}
    {b : ReminderBanner} :
    createStreakReminder sessions now = some b ↔ ∃ s s' rest, sessions = s :: s' :: rest ∧
      msPerDay ≤ now - s.startTime ∧ 3 ≤ (sessionDays sessions).length ∧
      b = streakBanner s.startTime (sessionDays sessions).length := by
  match sessions with
  | [] => simp [createStreakReminder]
  | [_] => simp [createStreakReminder]
  | s :: s' :: rest =>
    have hsame : createStreakReminder (s :: s' :: rest) now =
        if now - s.startTime < msPerDay then none
        else if (sessionDays (s :: s' :: rest)).length < 3 then none
        else some (streakBanner s.startTime (sessionDays (s :: s' :: rest)).length) := rfl
    rw [hsame]
    split_ifs with hago hdays
    · simp [hago]
    · simp [hdays]
    · rw [Option.some.injEq]
      constructor
      · rintro rfl
        exact ⟨s, s', rest, rfl, not_lt.1 hago, not_lt.1 hdays, rfl⟩
      · rintro ⟨_, _, _, heq, -, -, rfl⟩
        rw [(List.cons.inj heq).1]

/-- The banner of a streak comes from the reminder. -/
theorem mem_getReminderBanners_iff {now start : ℤ} {n : ℕ} :
    streakBanner start n ∈ getReminderBanners db userId o now ↔ userId ≠ "" ∧
      createStreakReminder (completedSessions o 7) now = some (streakBanner start n) := by
  have hactive : streakBanner start n ∉ ((activeSession db userId).map activeBanner).toList := by
    intro hmem
    obtain ⟨s, -, hs⟩ := Option.map_eq_some_iff.1 (Option.mem_toList.1 hmem)
    have := congrArg ReminderBanner.severity hs
    cases this
  have hproof : streakBanner start n ∉
      (findPendingProof (completedSessions o 7)).toList := by
    intro hmem
    obtain ⟨s, -, hs⟩ := Option.map_eq_some_iff.1 (Option.mem_toList.1 hmem)
    have := congrArg ReminderBanner.severity hs
    cases this
  unfold getReminderBanners
  split_ifs with huser
  · simp [huser]
  · simp only [List.mem_append, hactive, hproof, false_or, or_false, Option.mem_toList,
      ne_eq, huser, not_false_eq_true, true_and]

/-- **When a streak is announced.** -/
theorem announces_iff {now : ℤ} {n : ℕ} :
    Announces o now n ↔
      Reminded o now ∧ n = (sessionDays (completedSessions o 7)).length := by
  simp only [Announces, mem_getReminderBanners_iff, createStreakReminder_eq_some_iff]
  constructor
  · rintro ⟨start, huser, s, s', rest, hs, hago, hdays, heq⟩
    have htake : o.list.take 7 = s :: s' :: rest := hs
    refine ⟨⟨huser, ?_, fun x hx => ?_, hdays⟩, streakBanner_injective heq⟩
    · rw [← o.perm.length_eq, ← List.take_append_drop 7 o.list, htake]
      simp
    · -- the first session is the one that was started last
      have hmem := o.perm.mem_iff.2 hx
      have hsorted := o.sorted
      rw [← List.take_append_drop 7 o.list, htake, List.cons_append] at hmem hsorted
      rcases List.mem_cons.1 hmem with rfl | hmem
      · exact hago
      · have := (List.pairwise_cons.1 hsorted).1 x hmem
        omega
  · rintro ⟨⟨huser, htwo, hago, hdays⟩, rfl⟩
    rw [← o.perm.length_eq] at htwo
    cases hl : o.list with
    | nil => simp [hl] at htwo
    | cons s l =>
      cases l with
      | nil => simp [hl] at htwo
      | cons s' l =>
        have hs : s ∈ completedOf db userId := by
          rw [← o.perm.mem_iff, hl]
          exact List.mem_cons_self
        refine ⟨s.startTime, huser, s, s', l.take 5, ?_, hago s hs, hdays, rfl⟩
        rw [completedSessions, hl]
        rfl

/-- **The announced streak is the one that ends with the last session** exactly when no streak is
announced, or the last seven sessions were started on the days of that streak. -/
theorem streak_announced_iff (db : FocusDb) (userId : String) (o : SessionOrder db userId)
    (now : ℤ) :
    (∀ n, Announces o now n → ∃ last, IsGreatest (studyDays db userId) last ∧
      Streak (studyDays db userId) last n ∧
      GamificationService.calculateCurrentStreak (sessionDays o.list) = n) ↔
    (Reminded o now → ∃ first last, IsGreatest (studyDays db userId) last ∧
      first - 1 ∉ studyDays db userId ∧
      ∀ day, day ∈ sessionDays (completedSessions o 7) ↔ first ≤ day ∧ day ≤ last) := by
  have hnumber : (∀ n, Announces o now n → ∃ last, IsGreatest (studyDays db userId) last ∧
      Streak (studyDays db userId) last n ∧
      GamificationService.calculateCurrentStreak (sessionDays o.list) = n) ↔
      (Reminded o now → ∃ last, IsGreatest (studyDays db userId) last ∧
        Streak (studyDays db userId) last
          (sessionDays (completedSessions o 7)).toFinset.card) := by
    rw [List.toFinset_card_of_nodup ((pairwise_sessionDays o 7).imp ne_of_gt)]
    constructor
    · intro h hrem
      obtain ⟨last, hlast, hs, -⟩ := h _ (announces_iff.2 ⟨hrem, rfl⟩)
      exact ⟨last, hlast, hs⟩
    · intro h n hn
      obtain ⟨hrem, rfl⟩ := announces_iff.1 hn
      obtain ⟨last, hlast, hs⟩ := h hrem
      exact ⟨last, hlast, hs, calculateCurrentStreak_history o hlast hs⟩
  rw [hnumber]
  refine imp_congr_right fun hrem => ?_
  cases hdays : sessionDays (completedSessions o 7) with
  | nil =>
    have hthree := hrem.three
    rw [hdays] at hthree
    exact absurd hthree (by decide)
  | cons day days =>
    have hlast := isGreatest_of_window hdays
    have hup : Upper (day :: days).toFinset (studyDays db userId) := by
      rw [List.coe_toFinset, ← hdays]
      exact upper_window o 7
    have hcard := streak_card_iff hup hlast (List.mem_toFinset.2 List.mem_cons_self)
    constructor
    · rintro ⟨last, hlast', hs⟩
      obtain rfl := hlast.unique hlast'
      obtain ⟨first, hbefore, hwindow⟩ := hcard.1 hs
      refine ⟨first, day, hlast, hbefore, fun d => ?_⟩
      rw [← List.mem_toFinset, hwindow, Finset.mem_Icc]
    · rintro ⟨first, last, hlast', hbefore, hwindow⟩
      obtain rfl := hlast.unique hlast'
      refine ⟨day, hlast, hcard.2 ⟨first, hbefore, ?_⟩⟩
      ext d
      rw [List.mem_toFinset, hwindow, Finset.mem_Icc]

/-- Sessions on every other day are announced as a streak. -/
theorem gaps_announced : ¬ ∀ (db : FocusDb) (userId : String) (o : SessionOrder db userId)
    (now : ℤ) (n : ℕ), Announces o now n → ∃ last, IsGreatest (studyDays db userId) last ∧
      Streak (studyDays db userId) last n ∧
      GamificationService.calculateCurrentStreak (sessionDays o.list) = n := by
  intro h
  obtain ⟨last, hlast, hs, -⟩ := h (studiedOn [0, 2, 4]) "u" (stableOrder _) (midnight 10) 3
    (announces_iff.2 ⟨⟨by decide, by decide, by decide, by decide +kernel⟩, by decide +kernel⟩)
  have hfour : last = 4 := hlast.unique ⟨by decide, fun day hday => by
    obtain ⟨s, hs, rfl⟩ := hday
    revert s
    decide⟩
  subst hfour
  exact absurd (hs.consecutive 1 (by decide)) (by decide)

end NotificationsService

end StudyOasis
