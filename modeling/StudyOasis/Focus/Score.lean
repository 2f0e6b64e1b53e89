import Mathlib.Algebra.Order.Field.Rat
import Mathlib.Tactic.Linarith
import Mathlib.Tactic.NormNum
import StudyOasis.Focus.Basic

/-!
# The stored focus score

`updateSession` computes the score of a finished session from the row it read, and writes the
duration of the session with the same update.  `scorePenalty` is the closed form of what
`calculateFocusScore` takes off (`calculateFocusScore_eq`); the score that is stored is the score
of the row that is stored exactly when no rounding threshold lies between the penalties of the
two rows (`FocusService.stored_score_iff`).  A session that is finished for the first time gets
50 points whatever happened in it (`FocusService.first_finish_score`).
-/

namespace StudyOasis

/-- The points `calculateFocusScore` takes off, before rounding and clamping. -/
def scorePenalty (duration activeDuration pauseCount distractionCount tabSwitchCount : ℤ) : ℚ :=
  if duration < 60 then 50
  else
    (min (2 * distractionCount) 40 + min (5 * pauseCount) 20 +
        min (2 * (tabSwitchCount / 5)) 10 : ℤ) + max 0 (35 - 50 * (activeDuration / duration : ℚ))

/-- The penalty of a row. -/
def FocusSession.penalty (s : FocusSession) : ℚ :=
  scorePenalty (orNumber s.totalDuration 0) (orNumber s.activeDuration (orNumber s.totalDuration 0))
    s.pauseCount s.distractionCount s.tabSwitchCount

/-- The score is 100 minus the penalty, rounded and clamped. -/
theorem calculateFocusScore_eq (s : FocusSession) :
    calculateFocusScore s = max 0 (min 100 (mathRound (100 - s.penalty))) := by
  unfold calculateFocusScore FocusSession.penalty scorePenalty
  simp only [focusScoreConfig]
  generalize orNumber s.totalDuration 0 = duration
  generalize orNumber s.activeDuration duration = activeDuration
  by_cases hd : duration < 60
  · simp only [hd, if_true]
    norm_num [mathRound]
  · simp only [hd, if_false]
    congr 3
    push_cast
    by_cases hr : (activeDuration / duration : ℚ) < 7 / 10
    · rw [if_pos hr, max_eq_right (by linarith)]
      ring_nf
    · rw [if_neg hr, max_eq_left (by linarith)]
      ring_nf

/-! ### Rounding thresholds -/

/-- `k - 1/2` for `k` from 1 to 100: the penalties at which the score drops by one point. -/
def IsThreshold (x : ℚ) : Prop := ∃ k : ℤ, 1 ≤ k ∧ k ≤ 100 ∧ x = k - 1 / 2

theorem score_le_iff (p : ℚ) {k : ℤ} (h1 : 1 ≤ k) (h2 : k ≤ 100) :
    100 - k < max 0 (min 100 (mathRound (100 - p))) ↔ p ≤ k - 1 / 2 := by
  have hfloor : 101 - k ≤ mathRound (100 - p) ↔ p ≤ k - 1 / 2 := by
    rw [mathRound, Int.le_floor]
    push_cast
    constructor <;> intro h <;> linarith
  rw [← hfloor]
  omega

/-- Numbers up to 100 that lie above the same numbers from 0 on are equal. -/
theorem eq_of_same_below {a b : ℤ} (ha : 0 ≤ a ∧ a ≤ 100) (hb : 0 ≤ b ∧ b ≤ 100)
    (h : ∀ k : ℤ, 1 ≤ k → k ≤ 100 → (100 - k < a ↔ 100 - k < b)) : a = b := by
  -- the larger number lies above the smaller one itself
  rcases lt_trichotomy a b with hlt | heq | hgt
  · have := h (100 - a) (by omega) (by omega)
    omega
  · exact heq
  · have := h (100 - b) (by omega) (by omega)
    omega

/-- Two penalties give the same score when no threshold lies between them, and only then. -/
theorem score_eq_iff (p q : ℚ) :
    max 0 (min 100 (mathRound (100 - p))) = max 0 (min 100 (mathRound (100 - q))) ↔
      ∀ x, IsThreshold x → (p ≤ x ↔ q ≤ x) := by
  constructor
  · rintro h x ⟨k, h1, h2, rfl⟩
    rw [← score_le_iff p h1 h2, ← score_le_iff q h1 h2, h]
  · intro h
    refine eq_of_same_below (by omega) (by omega) ?_
    intro k h1 h2
    rw [score_le_iff p h1 h2, score_le_iff q h1 h2]
    exact h _ ⟨k, h1, h2, rfl⟩

namespace FocusService

/-- The penalty of the row that `updateSession` writes for a finishing update, from its inputs:
the row it read, the DTO and the time. -/
def finishedPenalty (session : FocusSession) (dto : UpdateFocusSessionDto) (now : ℤ) : ℚ :=
  let duration := (now - session.startTime) / 1000
  scorePenalty duration (orNumber (dto.activeDuration.getD session.activeDuration) duration)
    (dto.pauseCount.getD session.pauseCount) session.distractionCount session.tabSwitchCount

variable {db db' : FocusDb} {sid uid : String} {dto : UpdateFocusSessionDto} {now : ℤ}
  {row s : FocusSession}

theorem updates_of_finishes (s : FocusSession) (now : ℤ) (hfin : dto.finishes = true) :
    ((updates s dto now).apply s).focusScore = some (calculateFocusScore s : ℚ) ∧
      ((updates s dto now).apply s).penalty = finishedPenalty s dto now := by
  simp only [updates_eq, hfin, if_true]
  refine ⟨rfl, ?_⟩
  simp [FocusSession.penalty, finishedPenalty, FocusSessionUpdateInput.apply]

/-- **When the stored score is the score of the stored session.**  The call writes the score of
the row it read; this is the score of the row it writes exactly when no rounding threshold lies
between the penalties of the two rows. -/
theorem stored_score_iff (h : updateSession db sid dto uid now = .ok (row, db'))
    (hs : db.findUnique sid = some s) (hfin : dto.finishes = true) :
    row.focusScore = some (calculateFocusScore row : ℚ) ↔
      ∀ x, IsThreshold x → (s.penalty ≤ x ↔ finishedPenalty s dto now ≤ x) := by
  obtain ⟨s', hs', -, rfl, -⟩ := updateSession_ok h
  obtain rfl : s = s' := Option.some.inj (hs.symm.trans hs')
  obtain ⟨hscore, hpen⟩ := updates_of_finishes s now hfin
  rw [hscore, Option.some.injEq, Int.cast_inj, calculateFocusScore_eq, calculateFocusScore_eq,
    hpen]
  exact score_eq_iff _ _

/-- A session that is completed after 30 seconds: both penalties are 50. -/
theorem stored_score_iff_short :
    let db := (createSession FocusDb.empty "s" 0 "u" none none).2
    let s := newSession "s" 0 "u" none none
    let dto : UpdateFocusSessionDto := { status := some .completed }
    ∃ row db', updateSession db "s" dto "u" 30000 = .ok (row, db') ∧
      (row.focusScore = some (calculateFocusScore row : ℚ) ↔
        ∀ x, IsThreshold x → (s.penalty ≤ x ↔ finishedPenalty s dto 30000 ≤ x)) := by
  intro db s dto
  have hs : db.findUnique "s" = some s := by decide
  have h : updateSession db "s" dto "u" 30000 =
      .ok ((updates s dto 30000).apply s, db.update "s" (updates s dto 30000).apply) := rfl
  exact ⟨_, _, h, stored_score_iff h hs rfl⟩

/-- A session that is completed after an hour without a distraction is stored with 50 points,
and the stored row is worth 100. -/
theorem stored_score_stale :
    ¬ ∀ (es : List FocusEvent) (db db' : FocusDb) (sid uid : String)
        (dto : UpdateFocusSessionDto) (now : ℤ) (row : FocusSession),
      AnyRun focusStep FocusDb.empty es db → updateSession db sid dto uid now = .ok (row, db') →
      dto.finishes = true → row.focusScore = some (calculateFocusScore row : ℚ) := by
  intro h
  have := h [⟨0, .createSession "s" "u" none none⟩] _ _ "s" "u" { status := some .completed }
    3600000 _ (.single trivial rfl) rfl rfl
  revert this
  decide +kernel

/-- A session that has never been finished gets 50 points. -/
theorem first_finish_score (h : updateSession db sid dto uid now = .ok (row, db'))
    (hs : db.findUnique sid = some s) (hfirst : s.totalDuration = none)
    (hfin : dto.finishes = true) : row.focusScore = some 50 := by
  obtain ⟨s', hs', -, rfl, -⟩ := updateSession_ok h
  obtain rfl : s = s' := Option.some.inj (hs.symm.trans hs')
  rw [(updates_of_finishes s now hfin).1]
  simp [calculateFocusScore, hfirst, orNumber, focusScoreConfig]

end FocusService

end StudyOasis
