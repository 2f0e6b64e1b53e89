import StudyOasis.Common.Streaks
import StudyOasis.Focus.Progress

/-!
# The streak loops

`calculateCurrentStreak` and `calculateLongestStreak` on any list of days: the blocks of it whose
neighbours are at most one day apart.  On days in descending order, each of them once, these are
the blocks whose neighbours are exactly one day apart (`calculateStreaks_spec`).
-/

namespace StudyOasis

/-! ### The list of days -/

theorem dayOf_mono {a b : ℤ} (h : a ≤ b) : dayOf a ≤ dayOf b :=
  Int.ediv_le_ediv (by decide) h

/-- The days of sessions that are read last one first, each of them once. -/
theorem sessionDays_descending {sessions : List FocusSession}
    (h : sessions.Pairwise fun a b => b.startTime ≤ a.startTime) :
    (sessionDays sessions).Pairwise (· > ·) := by
  refine pairwise_eraseDups ?_
  rw [List.pairwise_map]
  exact h.imp dayOf_mono

/-- The days that a query shows, the last one first. -/
theorem pairwise_sessionDays {db : FocusDb} {userId : String} (o : SessionOrder db userId)
    (take : ℕ) : (sessionDays (completedSessions o take)).Pairwise (· > ·) :=
  sessionDays_descending (o.sorted.sublist (List.take_sublist _ _))

/-! ### The loops -/

namespace GamificationService

variable {prevDay : ℤ} {days : List ℤ}

/-- `daysBetween` counts days. -/
theorem daysBetween_eq (a b : ℤ) : daysBetween a b = (a - b).natAbs := by
  have hms : (msPerDay : ℚ) ≠ 0 := by norm_num [msPerDay]
  have habs : ((midnight a - midnight b).natAbs : ℚ) = ((a - b).natAbs : ℚ) * (msPerDay : ℚ) := by
    have : (midnight a - midnight b).natAbs = (a - b).natAbs * msPerDay.natAbs := by
      rw [← Int.natAbs_mul, sub_mul]
      rfl
    rw [this]
    push_cast
    rfl
  rw [daysBetween, habs, mul_div_cancel_right₀ _ hms, mathRound, Int.floor_eq_iff]
  generalize (a - b).natAbs = n
  constructor <;> push_cast <;> linarith

/-- The days are at most one day apart, as the loops ask. -/
def Near (prevDay day : ℤ) : Prop := daysBetween day prevDay ≤ 1

/-- The days are exactly one day apart. -/
def OneDayApart (prevDay day : ℤ) : Prop := (prevDay - day).natAbs = 1

theorem near_iff_oneDayApart {prevDay day : ℤ} (h : prevDay > day) :
    Near prevDay day ↔ OneDayApart prevDay day := by
  rw [Near, OneDayApart, daysBetween_eq]
  omega

/-- The loop counts the block it is in to its end. -/
theorem currentStreakLoop_block (prevDay : ℤ) (days : List ℤ) (streak : ℕ) :
    ∃ n, currentStreakLoop prevDay streak days = streak + n ∧
      IsGreatest (firstBlockLengths Near (prevDay :: days)) (n + 1) := by
  induction days generalizing prevDay streak with
  | nil => exact ⟨0, rfl, isGreatest_firstBlocks_singleton⟩
  | cons day days ih =>
    rw [currentStreakLoop]
    split_ifs with hnear
    · obtain ⟨n, hloop, hn⟩ := ih day (streak + 1)
      exact ⟨n + 1, by omega, isGreatest_firstBlocks_cons_cons hnear hn⟩
    · exact ⟨0, rfl, isGreatest_firstBlocks_one hnear⟩

/-- The loop gives the greatest of the longest block so far, the one it is in, counted to its end,
and those behind. -/
theorem longestStreakLoop_block (prevDay : ℤ) (days : List ℤ) (longest current : ℕ) :
    ∃ n m, longestStreakLoop prevDay longest current days = max longest (max (current + n) m) ∧
      IsGreatest (firstBlockLengths Near (prevDay :: days)) (n + 1) ∧
      IsGreatest (blockLengths Near days) m := by
  induction days generalizing prevDay longest current with
  | nil =>
    refine ⟨0, 0, ?_, isGreatest_firstBlocks_singleton, isGreatest_blocks_nil⟩
    rw [longestStreakLoop, Nat.add_zero, Nat.max_zero]
  | cons day days ih =>
    rw [longestStreakLoop]
    split_ifs with hnear
    · -- the block goes on, and it is longer than what is left of it behind the first day
      obtain ⟨n, m, hloop, hn, hm⟩ := ih day longest (current + 1)
      refine ⟨n + 1, max (n + 1) m, ?_, isGreatest_firstBlocks_cons_cons hnear hn,
        isGreatest_blocks_cons hn hm⟩
      omega
    · -- the block ends, and the next one begins
      obtain ⟨n, m, hloop, hn, hm⟩ := ih day (max longest current) 1
      refine ⟨0, max (n + 1) m, ?_, isGreatest_firstBlocks_one hnear,
        isGreatest_blocks_cons hn hm⟩
      omega

theorem calculateCurrentStreak_block (hne : days ≠ []) :
    IsGreatest (firstBlockLengths Near days) (calculateCurrentStreak days) := by
  cases days with
  | nil => exact absurd rfl hne
  | cons today days =>
    obtain ⟨n, hloop, hn⟩ := currentStreakLoop_block today days 1
    have hself : daysBetween today today ≤ 1 := by
      rw [daysBetween_eq]
      simp
    rwa [calculateCurrentStreak, currentStreakLoop, if_pos hself, hloop, Nat.add_comm]

theorem calculateLongestStreak_block (hne : days ≠ []) :
    IsGreatest (blockLengths Near days) (calculateLongestStreak days) := by
  cases days with
  | nil => exact absurd rfl hne
  | cons first days =>
    obtain ⟨n, m, hloop, hn, hm⟩ := longestStreakLoop_block first days 1 1
    have hmax : calculateLongestStreak (first :: days) = max (n + 1) m := by
      rw [calculateLongestStreak, hloop]
      omega
    rw [hmax]
    exact isGreatest_blocks_cons hn hm

/-- **The streak loops compute blocks.**  On different days in descending order the longest streak
is the longest block whose neighbours are exactly one day apart, and the current one is the block
that starts with the first day.  Such a list is what `getUserProgress` makes of its sessions. -/
theorem calculateStreaks_spec :
    (∀ days : List ℤ, days ≠ [] → days.Pairwise (· > ·) →
      IsGreatest (blockLengths OneDayApart days) (calculateLongestStreak days) ∧
      IsGreatest (firstBlockLengths OneDayApart days) (calculateCurrentStreak days) ∧
      calculateCurrentStreak days ≤ calculateLongestStreak days) ∧
    calculateLongestStreak [] = 0 ∧ calculateCurrentStreak [] = 0 ∧
    (∀ sessions : List FocusSession,
      (sessions.Pairwise fun a b => b.startTime ≤ a.startTime) →
      (sessionDays sessions).Pairwise (· > ·)) ∧
    ∀ (db : FocusDb) (userId : String) (o : SessionOrder db userId),
      (sessionDays (completedSessions o 30)).Pairwise (· > ·) := by
  refine ⟨fun days hne hdays => ?_, rfl, rfl, fun sessions => sessionDays_descending,
    fun db userId o => pairwise_sessionDays o 30⟩
  have hlongest := calculateLongestStreak_block hne
  have hcurrent := calculateCurrentStreak_block hne
  have hsame : days.Pairwise fun a b => Near a b ↔ OneDayApart a b :=
    hdays.imp near_iff_oneDayApart
  refine ⟨?_, ?_, hlongest.2 (firstBlockLengths_subset hcurrent.1)⟩
  · rwa [← blockLengths_congr hsame]
  · rwa [← firstBlockLengths_congr hsame]

/-- Two days, a gap and three days, which no gap ends. -/
theorem calculateStreaks_spec_gap :
    IsGreatest (blockLengths OneDayApart [20, 19, 10, 9, 8]) 3 ∧
      IsGreatest (firstBlockLengths OneDayApart [20, 19, 10, 9, 8]) 2 := by
  have hlongest : calculateLongestStreak [20, 19, 10, 9, 8] = 3 := by decide +kernel
  have hcurrent : calculateCurrentStreak [20, 19, 10, 9, 8] = 2 := by decide +kernel
  obtain ⟨h1, h2, -⟩ := calculateStreaks_spec.1 [20, 19, 10, 9, 8] (by decide) (by decide)
  rw [hlongest] at h1
  rw [hcurrent] at h2
  exact ⟨h1, h2⟩

end GamificationService

end StudyOasis
