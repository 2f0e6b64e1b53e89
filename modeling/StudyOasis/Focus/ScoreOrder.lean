import StudyOasis.Focus.Score

/-!
# Whose score is higher

A session with fewer distractions, pauses and tab switches and more active time should not have
the lower score.  `calculateFocusScore` takes an active time of 0 for a missing one and reads the
whole duration for it, so that a session nobody was active in counts as one without a break.

* `score_order_iff` : **when the better session has the higher score**.
-/

namespace StudyOasis

/-- A session that is long enough to be scored. -/
structure ScoredSession where
  session : FocusSession
  total : ℤ
  active : ℤ
  totalDuration_eq : session.totalDuration = some total
  activeDuration_eq : session.activeDuration = some active
  total_ge : 60 ≤ total
  active_nonneg : 0 ≤ active
  active_le : active ≤ total
  distractionCount_nonneg : 0 ≤ session.distractionCount
  pauseCount_nonneg : 0 ≤ session.pauseCount
  tabSwitchCount_nonneg : 0 ≤ session.tabSwitchCount

/-- The points that are taken off for what is counted. -/
def FocusSession.countPenalty (s : FocusSession) : ℤ :=
  min (2 * s.distractionCount) 40 + min (5 * s.pauseCount) 20 + min (2 * (s.tabSwitchCount / 5)) 10

namespace ScoredSession

/-- `s` is as long as `t` and in no way worse. -/
structure Better (s t : ScoredSession) : Prop where
  total_eq : s.total = t.total
  distractionCount_le : s.session.distractionCount ≤ t.session.distractionCount
  pauseCount_le : s.session.pauseCount ≤ t.session.pauseCount
  tabSwitchCount_le : s.session.tabSwitchCount ≤ t.session.tabSwitchCount
  active_le : t.active ≤ s.active

variable {s t : ScoredSession}

/-- The active time that is scored. -/
def scoredActive (s : ScoredSession) : ℤ := if s.active = 0 then s.total else s.active

theorem penalty_eq (s : ScoredSession) :
    s.session.penalty =
      s.session.countPenalty + max 0 (35 - 50 * (s.scoredActive / s.total : ℚ)) := by
  have htotal : ¬ s.total < 60 := not_lt.2 s.total_ge
  rw [FocusSession.penalty, s.totalDuration_eq, s.activeDuration_eq, orNumber_zero, scorePenalty,
    if_neg htotal]
  rfl

theorem countPenalty_bounds (s : ScoredSession) :
    0 ≤ s.session.countPenalty ∧ s.session.countPenalty ≤ 70 := by
  have hd := s.distractionCount_nonneg
  have hp := s.pauseCount_nonneg
  have ht := s.tabSwitchCount_nonneg
  unfold FocusSession.countPenalty
  omega

theorem Better.countPenalty_le (h : s.Better t) :
    s.session.countPenalty ≤ t.session.countPenalty := by
  have hd := h.distractionCount_le
  have hp := h.pauseCount_le
  have ht := h.tabSwitchCount_le
  unfold FocusSession.countPenalty
  omega

/-- With more active time less is taken off. -/
theorem Better.penalty_le (h : s.Better t) (ha : t.scoredActive ≤ s.scoredActive) :
    s.session.penalty ≤ t.session.penalty := by
  have hpos : (0 : ℚ) ≤ t.total := by exact_mod_cast (by norm_num : (0 : ℤ) ≤ 60).trans t.total_ge
  have hratio : (t.scoredActive / t.total : ℚ) ≤ s.scoredActive / s.total := by
    rw [h.total_eq]
    exact div_le_div_of_nonneg_right (by exact_mod_cast ha) hpos
  rw [s.penalty_eq, t.penalty_eq]
  refine add_le_add (by exact_mod_cast h.countPenalty_le) (max_le_max_left 0 ?_)
  linarith

end ScoredSession

/-- The score falls when more is taken off. -/
theorem score_antitone {p q : ℚ} (h : p ≤ q) :
    max 0 (min 100 (mathRound (100 - q))) ≤ max 0 (min 100 (mathRound (100 - p))) := by
  refine max_le_max_left 0 (min_le_min_left 100 (Int.floor_le_floor ?_))
  linarith

namespace ScoredSession

variable {s t : ScoredSession}

/-- The score of a session that nothing is taken off for but what is counted. -/
theorem le_score_iff (ht : t.scoredActive = t.total) :
    calculateFocusScore t.session ≤ calculateFocusScore s.session ↔
      s.session.penalty ≤ t.session.countPenalty + 1 / 2 := by
  obtain ⟨h0, h70⟩ := t.countPenalty_bounds
  have hpos : (t.total : ℚ) ≠ 0 := by
    have := t.total_ge
    exact_mod_cast (by omega : t.total ≠ 0)
  have hpenalty : t.session.penalty = t.session.countPenalty := by
    rw [t.penalty_eq, ht, div_self hpos]
    norm_num
  have hscore : calculateFocusScore t.session = 100 - t.session.countPenalty := by
    rw [calculateFocusScore_eq, hpenalty]
    have hround : mathRound (100 - t.session.countPenalty) = 100 - t.session.countPenalty := by
      rw [mathRound, Int.floor_eq_iff]
      push_cast
      constructor <;> linarith
    rw [hround]
    omega
  have hiff :=
    score_le_iff s.session.penalty (k := t.session.countPenalty + 1) (by omega) (by omega)
  rw [← calculateFocusScore_eq] at hiff
  rw [hscore, show (t.session.countPenalty : ℚ) + 1 / 2 =
    ((t.session.countPenalty + 1 : ℤ) : ℚ) - 1 / 2 by push_cast; ring, ← hiff]
  omega

/-- What may be taken off for the missing active time, without fractions. -/
theorem penalty_le_iff (hs : s.active ≠ 0) {n : ℤ} (hn : s.session.countPenalty ≤ n) :
    s.session.penalty ≤ n + 1 / 2 ↔
      69 * s.total ≤ 100 * s.active + 2 * (n - s.session.countPenalty) * s.total := by
  have hpos : (0 : ℚ) < s.total := by
    have := s.total_ge
    exact_mod_cast (by omega : 0 < s.total)
  have hn : (s.session.countPenalty : ℚ) ≤ n := by exact_mod_cast hn
  have hmul : (s.active / s.total : ℚ) * s.total = s.active := div_mul_cancel₀ _ hpos.ne'
  rw [s.penalty_eq, scoredActive, if_neg hs, ← le_sub_iff_add_le', max_le_iff,
    and_iff_right (by linarith), ← Int.cast_le (R := ℚ)]
  push_cast
  generalize (s.active / s.total : ℚ) = ratio at hmul ⊢
  rw [← hmul]
  constructor
  · intro h
    nlinarith
  · intro h
    by_contra hlt
    nlinarith

end ScoredSession

/-- **When the better session has the higher score**: when the other one was active for some time,
or neither was, or enough is taken off the other one for what is counted. -/
theorem score_order_iff (s t : ScoredSession) (h : s.Better t) :
    (0 ≤ calculateFocusScore s.session ∧ calculateFocusScore s.session ≤ 100) ∧
    (calculateFocusScore t.session ≤ calculateFocusScore s.session ↔
      t.active ≠ 0 ∨ s.active = 0 ∨ 69 * s.total ≤ 100 * s.active +
        2 * (t.session.countPenalty - s.session.countPenalty) * s.total) := by
  refine ⟨by rw [calculateFocusScore_eq]; omega, ?_⟩
  have hactive := h.active_le
  have ht := t.active_nonneg
  have hle (ha : t.scoredActive ≤ s.scoredActive) :
      calculateFocusScore t.session ≤ calculateFocusScore s.session := by
    rw [calculateFocusScore_eq, calculateFocusScore_eq]
    exact score_antitone (h.penalty_le ha)
  by_cases hta : t.active = 0
  · by_cases hsa : s.active = 0
    · refine iff_of_true (hle ?_) (.inr (.inl hsa))
      rw [ScoredSession.scoredActive, ScoredSession.scoredActive, if_pos hta, if_pos hsa,
        h.total_eq]
    · rw [ScoredSession.le_score_iff (if_pos hta),
        ScoredSession.penalty_le_iff hsa h.countPenalty_le]
      simp [hta, hsa]
  · refine iff_of_true (hle ?_) (.inl hta)
    rw [ScoredSession.scoredActive, ScoredSession.scoredActive, if_neg hta, if_neg (by omega)]
    exact hactive

/-- A session of 100 seconds without any interruption. -/
def calmSession (active : ℤ) (h0 : 0 ≤ active) (h100 : active ≤ 100) : ScoredSession where
  session :=
    { FocusService.newSession "s" 0 "u" none none with
      totalDuration := some 100
      activeDuration := some active }
  total := 100
  active
  totalDuration_eq := rfl
  activeDuration_eq := rfl
  total_ge := by decide
  active_nonneg := h0
  active_le := h100
  distractionCount_nonneg := le_rfl
  pauseCount_nonneg := le_rfl
  tabSwitchCount_nonneg := le_rfl

theorem score_order_iff_calm :
    calculateFocusScore (calmSession 10 (by decide) (by decide)).session ≤
      calculateFocusScore (calmSession 50 (by decide) (by decide)).session :=
  (score_order_iff (calmSession 50 (by decide) (by decide)) (calmSession 10 (by decide) (by decide))
    ⟨rfl, le_rfl, le_rfl, le_rfl, by decide⟩).2.2 (.inl (by decide))

/-- **No active time is better than some**: 100 points, and 70 points for a session with 10 active
seconds. -/
theorem inactive_scores_higher :
    (calmSession 10 (by decide) (by decide)).Better (calmSession 0 (by decide) (by decide)) ∧
      calculateFocusScore (calmSession 0 (by decide) (by decide)).session = 100 ∧
        calculateFocusScore (calmSession 10 (by decide) (by decide)).session = 70 :=
  ⟨⟨rfl, le_rfl, le_rfl, le_rfl, by decide⟩, by decide +kernel, by decide +kernel⟩

end StudyOasis
