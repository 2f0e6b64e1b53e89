import Mathlib.Data.Int.Log
import StudyOasis.Common.Dates
import StudyOasis.Common.QueryOrder
import StudyOasis.Focus.Reports

/-!
# Progress and reminders

`GamificationService.getUserProgress` and `NotificationsService.getReminderBanners` : both read the
last completed sessions of the user.  The query leaves open in which order sessions come that were
started at the same time.

* `getUserProgress_agree`, `getReminderBanners_agree` : neither depends on what the rows of another
  user say.
-/

namespace StudyOasis

/-- The completed sessions of the user. -/
def completedOf (db : FocusDb) (userId : String) : List FocusSession :=
  db.focusSession.filter fun s => s.userId = some userId && s.status = .completed

/-- An order in which the query may answer, the session that was started last first. -/
abbrev SessionOrder (db : FocusDb) (userId : String) :=
  QueryOrder (fun s : FocusSession => s.startTime) (completedOf db userId)

/-- The first rows of the query. -/
def completedSessions {db : FocusDb} {userId : String} (o : SessionOrder db userId) (take : ℕ) :
    List FocusSession := o.list.take take

/-- The days of the sessions, each of them once. -/
def sessionDays (sessions : List FocusSession) : List ℤ :=
  (sessions.map fun s => dayOf s.startTime).eraseDups

/-- To the nearest integer, ties to even. -/
def roundHalfEven (x : ℚ) : ℤ :=
  if x - ⌊x⌋ < 1 / 2 ∨ x - ⌊x⌋ = 1 / 2 ∧ Even ⌊x⌋ then ⌊x⌋ else ⌊x⌋ + 1

/-- The double that stands for a number, if it is not too large for one. -/
def toDouble (x : ℚ) : ℚ :=
  -- the distance of two doubles at `x`; there are 53 bits, and no exponent below `-1074`
  let ulp : ℚ := 2 ^ max (Int.log 2 |x| - 52) (-1074)
  roundHalfEven (x / ulp) * ulp

/-- `Number(x.toFixed(1))`, for a double; a large number is not rounded. -/
def roundToTenth (x : ℚ) : ℚ :=
  if 10 ^ 21 ≤ |x| then x
  else toDouble (if x < 0 then -(mathRound (-x * 10) / 10) else mathRound (x * 10) / 10)

/-- The tie is not one between doubles. -/
example : roundToTenth (toDouble (3 / 20)) = toDouble (1 / 10) := by decide +kernel

/-! ### `GamificationService` -/

/-- `GamificationProgress.recentSessions`. -/
structure RecentSession where
  sessionId : String
  date : String
  focusScore : Option ℚ
  completionProofId : Option String
  deriving DecidableEq, Repr

/-- `GamificationProgress`. -/
structure GamificationProgress where
  currentStreak : ℕ
  longestStreak : ℕ
  averageFocusScore : ℚ
  totalPoints : ℤ
  badges : List String
  recentSessions : List RecentSession
  deriving DecidableEq, Repr

namespace GamificationService

/-- `daysBetween`, for two midnights. -/
def daysBetween (a b : ℤ) : ℤ := mathRound ((midnight a - midnight b).natAbs / msPerDay)

/-- The loop of `calculateCurrentStreak`. -/
def currentStreakLoop (prevDay : ℤ) (streak : ℕ) : List ℤ → ℕ
  | [] => streak
  | day :: days =>
    if daysBetween day prevDay ≤ 1 then currentStreakLoop day (streak + 1) days else streak

/-- `calculateCurrentStreak`. -/
def calculateCurrentStreak (sortedDays : List ℤ) : ℕ :=
  match sortedDays with
  | [] => 0
  | today :: _ => currentStreakLoop today 0 sortedDays

/-- The loop of `calculateLongestStreak`. -/
def longestStreakLoop (prevDay : ℤ) (longest current : ℕ) : List ℤ → ℕ
  | [] => max longest current
  | day :: days =>
    if daysBetween day prevDay ≤ 1 then longestStreakLoop day longest (current + 1) days
    else longestStreakLoop day (max longest current) 1 days

/-- `calculateLongestStreak`. -/
def calculateLongestStreak (sortedDays : List ℤ) : ℕ :=
  match sortedDays with
  | [] => 0
  | first :: days => longestStreakLoop first 1 1 days

/-- `buildBadges`. -/
def buildBadges (currentStreak longestStreak : ℕ) (totalPoints : ℤ) : List String :=
  (if 7 ≤ currentStreak then ["7-Day Streak"] else []) ++
  (if 30 ≤ longestStreak then ["30-Day Legend"] else []) ++
  (if 1000 ≤ totalPoints then ["1k Points"] else [])

/-- The progress that some sessions show. -/
def progressOf (sessions : List FocusSession) : GamificationProgress :=
  let dayStrings := sessionDays sessions
  let currentStreak := calculateCurrentStreak dayStrings
  let longestStreak := calculateLongestStreak dayStrings
  let averageFocusScore : ℚ :=
    if sessions = [] then 0
    else
      let total := (sessions.filterMap (·.focusScore)).foldl (fun acc x => toDouble (acc + x)) 0
      roundToTenth (toDouble (total / sessions.length))
  let totalPoints := (sessions.map fun s => mathRound (s.focusScore.getD 0)).sum
  { currentStreak
    longestStreak
    averageFocusScore
    totalPoints
    badges := buildBadges currentStreak longestStreak totalPoints
    recentSessions := sessions.map fun s =>
      ⟨s.id, toISOString s.startTime, s.focusScore, s.completionProofId⟩ }

/-- `GamificationService.getUserProgress`. -/
def getUserProgress (db : FocusDb) (userId : String) (o : SessionOrder db userId) :
    GamificationProgress := progressOf (completedSessions o 30)

end GamificationService

/-! ### `NotificationsService` -/

/-- `ReminderBanner.severity`. -/
inductive Severity where
  | info
  | warning
  | critical
  deriving DecidableEq, Repr

/-- `ReminderBanner`. -/
structure ReminderBanner where
  id : String
  title : String
  message : String
  actionLabel : String
  actionUrl : String
  severity : Severity
  deriving DecidableEq, Repr

namespace NotificationsService

/-- The session that is still running and was updated last. -/
def activeSession (db : FocusDb) (userId : String) : Option FocusSession :=
  (orderByDesc (·.updatedAt) (db.focusSession.filter fun s =>
    s.userId = some userId && !s.status.isTerminal)).head?

/-- The banner for a session that is still running. -/
def activeBanner (session : FocusSession) : ReminderBanner :=
  { id := "focus-" ++ session.id
    title := "专注模式仍在运行"
    message := "你在浏览器中很久没返回专注模式，继续完成本次会话吧。暂停/完成都会同步到后台。"
    actionLabel := "回到专注"
    actionUrl := "/chat"
    severity := .warning }

/-- `computeUniqueDays`. -/
def computeUniqueDays (sessions : List FocusSession) : ℕ := (sessionDays sessions).length

/-- `createStreakReminder`. -/
def createStreakReminder (sessions : List FocusSession) (now : ℤ) : Option ReminderBanner :=
  match sessions with
  | [] => none
  | [_] => none
  | lastSession :: _ =>
    if now - lastSession.startTime < msPerDay then none
    else
      let streakDays := computeUniqueDays sessions
      if streakDays < 3 then none
      else
        some
          { id := "streak-" ++ toISOString lastSession.startTime
            title := "连胜即将中断"
            message := "你已经连续 " ++ toString streakDays ++
              " 天保持专注，但距离上次会话已超过 24 小时，记得再出一个 Focus Session 保住 streak。"
            actionLabel := "继续打卡"
            actionUrl := "/chat"
            severity := .critical }

/-- `findPendingProof`. -/
def findPendingProof (sessions : List FocusSession) : Option ReminderBanner :=
  (sessions.find? fun s => s.completionProofId.isNone).map fun s =>
    { id := "proof-" ++ s.id
      title := "完成证明缺失"
      message := "最近的一次专注会话还没有上传完成证明，立即上传可以获得积分与教师认证。"
      actionLabel := "附加证明"
      actionUrl := "/focus/report/" ++ s.id
      severity := .info }

/-- `NotificationsService.getReminderBanners`. -/
def getReminderBanners (db : FocusDb) (userId : String) (o : SessionOrder db userId) (now : ℤ) :
    List ReminderBanner :=
  if userId = "" then []
  else
    let recentSessions := completedSessions o 7
    ((activeSession db userId).map activeBanner).toList ++
      (createStreakReminder recentSessions now).toList ++ (findPendingProof recentSessions).toList

end NotificationsService

/-! ### The rows of another user -/

section

variable {u v : String} {db db' : FocusDb}

theorem completedOf_agree (h : DifferOnlyIn u db db') (hv : v ≠ u) :
    completedOf db v = completedOf db' v := by
  rw [completedOf, completedOf, h.filter_eq hv ?_]
  intro s hs
  rw [Bool.and_eq_true, decide_eq_true_eq] at hs
  exact hs.1

variable (order : ∀ rows : List FocusSession, QueryOrder (fun s : FocusSession => s.startTime) rows)

theorem completedSessions_agree (h : DifferOnlyIn u db db') (hv : v ≠ u) (take : ℕ) :
    completedSessions (order (completedOf db v)) take =
      completedSessions (order (completedOf db' v)) take := by
  have hrows : (order (completedOf db v)).list = (order (completedOf db' v)).list := by
    rw [completedOf_agree h hv]
  rw [completedSessions, completedSessions, hrows]

theorem getUserProgress_agree (h : DifferOnlyIn u db db') (hv : v ≠ u) :
    GamificationService.getUserProgress db v (order _) =
      GamificationService.getUserProgress db' v (order _) :=
  congrArg GamificationService.progressOf (completedSessions_agree order h hv 30)

theorem getReminderBanners_agree (h : DifferOnlyIn u db db') (hv : v ≠ u) (now : ℤ) :
    NotificationsService.getReminderBanners db v (order _) now =
      NotificationsService.getReminderBanners db' v (order _) now := by
  have hactive : NotificationsService.activeSession db v =
      NotificationsService.activeSession db' v := by
    rw [NotificationsService.activeSession, NotificationsService.activeSession,
      h.filter_eq hv ?_]
    intro s hs
    rw [Bool.and_eq_true, decide_eq_true_eq] at hs
    exact hs.1
  rw [NotificationsService.getReminderBanners, NotificationsService.getReminderBanners, hactive,
    completedSessions_agree order h hv]

end

end StudyOasis
