import Mathlib.Data.List.Find
import StudyOasis.Common.OrderBy
import StudyOasis.Focus.Basic

/-!
# Reading focus sessions

The reading half of `FocusService`: `getSession`, `getUserSessions` and `getSessionAnalytics`.

* `getSession_agree`, `getUserSessions_agree`, `getSessionAnalytics_agree` : what a user reads does
  not depend on what the rows of another user say (`DifferOnlyIn`), as long as no session of the
  user has a document of the other one as its completion proof (`OwnProofs`).
-/

namespace StudyOasis

/-- `FocusSession & { distractions }`. -/
structure SessionWithDistractions where
  session : FocusSession
  distractions : List FocusDistraction
  deriving DecidableEq, Repr

/-- The columns of a distraction in a list of sessions. -/
structure DistractionSummary where
  id : String
  distractionType : DistractionType
  timestamp : ℤ
  deriving DecidableEq, Repr

/-- The text of a status. -/
def FocusSessionStatus.text : FocusSessionStatus → String
  | .active => "active"
  | .paused => "paused"
  | .completed => "completed"
  | .abandoned => "abandoned"

/-- What `getUserSessions` returns. -/
structure SessionPage where
  data : List (FocusSession × List DistractionSummary)
  total : ℕ
  limit : ℤ
  offset : ℤ
  deriving DecidableEq, Repr

/-- `FocusSessionAnalytics.metrics`. -/
structure FocusMetrics where
  totalDistractions : ℤ
  tabSwitches : ℤ
  pauses : ℤ
  questionsAsked : ℤ
  distractionsByType : List (DistractionType × ℕ)
  deriving DecidableEq, Repr

/-- `FocusSessionAnalytics.completionProof`. -/
structure CompletionProof where
  id : String
  filename : String
  mimeType : Option String
  downloadUrl : String
  uploadedAt : ℤ
  deriving DecidableEq, Repr

/-- `FocusSessionAnalytics`. -/
structure FocusSessionAnalytics where
  sessionId : String
  userId : Option String
  startTime : ℤ
  endTime : Option ℤ
  totalDuration : ℤ
  activeDuration : ℤ
  distractionTime : ℤ
  focusScore : ℚ
  status : FocusSessionStatus
  metrics : FocusMetrics
  grade : String
  insights : List String
  completionProof : Option CompletionProof
  deriving DecidableEq, Repr

/-- `FOCUS_SCORE_CONFIG.GRADES`. -/
structure FocusGrades where
  a : ℚ := 90
  b : ℚ := 80
  c : ℚ := 70
  d : ℚ := 60

/-- `FOCUS_INSIGHT_THRESHOLDS`. -/
structure FocusInsightThresholds where
  excellentScore : ℚ := 90
  goodScore : ℚ := 70
  highDistractionCount : ℤ := 10
  highTabSwitchCount : ℤ := 15
  highPauseCount : ℤ := 5
  shortSessionSeconds : ℤ := 300
  longSessionSeconds : ℤ := 3600

/-- `x || y` on texts that may be missing. -/
def orText (x : Option String) (y : String) : String :=
  match x with
  | some s => if s = "" then y else s
  | none => y

/-- `findMany` with `take` and `skip`: a negative `take` takes from the end, a negative `skip` is
refused. -/
def paginate {α : Type*} (take skip : ℤ) (rows : List α) : Except HandlerError (List α) :=
  if skip < 0 then .error .internal
  else if 0 ≤ take then .ok ((rows.drop skip.toNat).take take.toNat)
  else .ok ((rows.reverse.drop skip.toNat).take take.natAbs).reverse

namespace FocusService

/-- `FocusService.getSession`. -/
def getSession (db : FocusDb) (sessionId userId : String) :
    Except HandlerError SessionWithDistractions :=
  match db.findUnique sessionId with
  | none => .error (.business ⟨.sessionNotFound, "Focus session not found", 404⟩)
  | some session =>
    if session.userId ≠ some userId then
      .error (.business
        ⟨.unauthorizedAccess, "You do not have permission to view this session", 403⟩)
    else
      .ok { session
            distractions := orderByAsc (·.timestamp)
              (db.focusDistraction.filter fun d => d.sessionId = session.id) }

/-- The options of `getUserSessions`. -/
structure ListOptions where
  limit : Option ℤ := none
  offset : Option ℤ := none
  status : Option String := none
  deriving DecidableEq, Repr

/-- `where` in `getUserSessions`. -/
def matchesQuery (userId : String) (status : Option String) (s : FocusSession) : Bool :=
  s.userId = some userId &&
    match status with
    | none => true
    | some text => text = "" || s.status.text = text

/-- `FocusService.getUserSessions`. -/
def getUserSessions (db : FocusDb) (userId : String) (options : ListOptions) :
    Except HandlerError SessionPage :=
  let limit := options.limit.getD 20
  let offset := options.offset.getD 0
  let rows := db.focusSession.filter (matchesQuery userId options.status)
  (paginate limit offset (orderByDesc (·.startTime) rows)).map fun page =>
    { data := page.map fun s =>
        (s, (db.focusDistraction.filter fun d => d.sessionId = s.id).map fun d =>
          ⟨d.id, d.distractionType, d.timestamp⟩)
      total := rows.length
      limit
      offset }

/-- `acc[type] = (acc[type] || 0) + 1`. -/
def countType (acc : List (DistractionType × ℕ)) (type : DistractionType) :
    List (DistractionType × ℕ) :=
  match acc with
  | [] => [(type, 1)]
  | (type', n) :: acc =>
    if type' = type then (type', n + 1) :: acc else (type', n) :: countType acc type

/-- `distractionsByType`. -/
def distractionsByType (distractions : List FocusDistraction) : List (DistractionType × ℕ) :=
  distractions.foldl (fun acc d => countType acc d.distractionType) []

/-- `FocusService.getGrade`. -/
def getGrade (score : ℚ) : String :=
  let grades : FocusGrades := {}
  if score ≥ grades.a then "A"
  else if score ≥ grades.b then "B"
  else if score ≥ grades.c then "C"
  else if score ≥ grades.d then "D"
  else "F"

/-- `FocusService.generateInsights`. -/
def generateInsights (session : FocusSession) : List String :=
  let thresholds : FocusInsightThresholds := {}
  let score := session.focusScore.getD 0
  let duration := orNumber session.totalDuration 0
  (if score ≥ thresholds.excellentScore then ["🎉 太棒了！你保持了极高的专注度！"]
    else if score ≥ thresholds.goodScore then ["👍 不错的专注表现，继续保持！"]
    else ["💪 还有提升空间，试着减少干扰源。"]) ++
  (if session.distractionCount > thresholds.highDistractionCount then
    ["⚠️ 干扰次数较多，建议关闭不必要的通知和标签页。"] else []) ++
  (if session.tabSwitchCount > thresholds.highTabSwitchCount then
    ["🔄 频繁切换标签会影响专注力，试着一次只打开必要的页面。"] else []) ++
  (if session.pauseCount > thresholds.highPauseCount then
    ["⏸️ 暂停次数较多，建议在开始前做好准备工作。"] else []) ++
  (if 0 < duration ∧ duration < thresholds.shortSessionSeconds then
    ["⏱️ 会话时长较短，建议至少保持15分钟的专注学习。"]
    else if duration > thresholds.longSessionSeconds then
      ["🎯 长时间保持专注！记得适当休息避免疲劳。"]
    else [])

/-- The document of the completion proof, whoever owns it. -/
def completionProof (db : FocusDb) (session : FocusSession) : Option CompletionProof :=
  match session.completionProofId.filter (· ≠ "") with
  | none => none
  | some id =>
    (db.document.find? fun d => d.id = id).map fun d =>
      { id := d.id
        filename := d.filename
        mimeType := d.mimeType
        downloadUrl := orText d.publicUrl (orText d.gcsPath "")
        uploadedAt := d.uploadedAt }

/-- The report about a session. -/
def analyticsOf (db : FocusDb) (s : SessionWithDistractions) : FocusSessionAnalytics :=
  let session := s.session
  let totalDuration := orNumber session.totalDuration 0
  let activeDuration := orNumber session.activeDuration totalDuration
  { sessionId := session.id
    userId := session.userId
    startTime := session.startTime
    endTime := session.endTime
    totalDuration
    activeDuration
    distractionTime := totalDuration - activeDuration
    focusScore := session.focusScore.getD 0
    status := session.status
    metrics :=
      { totalDistractions := session.distractionCount
        tabSwitches := session.tabSwitchCount
        pauses := session.pauseCount
        questionsAsked := session.questionsAsked
        distractionsByType := distractionsByType s.distractions }
    grade := getGrade (session.focusScore.getD 0)
    insights := generateInsights session
    completionProof := completionProof db session }

/-- `FocusService.getSessionAnalytics`. -/
def getSessionAnalytics (db : FocusDb) (sessionId userId : String) :
    Except HandlerError FocusSessionAnalytics :=
  (getSession db sessionId userId).map (analyticsOf db)

end FocusService

/-! ### What the rows of another user say -/

/-- The databases differ only in what the rows of `u` say: the rows of everyone else are the same,
and `u` has sessions with the same ids. -/
structure DifferOnlyIn (u : String) (db db' : FocusDb) : Prop where
  uniqueIds : db.UniqueIds
  uniqueIds' : db'.UniqueIds
  sessions : db.focusSession.filter (fun s => s.userId ≠ some u) =
    db'.focusSession.filter fun s => s.userId ≠ some u
  sessionIds : ∀ id, (∃ s ∈ db.focusSession, s.id = id ∧ s.userId = some u) ↔
    ∃ s ∈ db'.focusSession, s.id = id ∧ s.userId = some u
  distractions : ∀ s ∈ db.focusSession, s.userId ≠ some u →
    (db.focusDistraction.filter fun d => d.sessionId = s.id) =
      db'.focusDistraction.filter fun d => d.sessionId = s.id
  documents : db.document.filter (fun d => d.userId ≠ some u) =
    db'.document.filter fun d => d.userId ≠ some u

/-- No session of `v` has a document of `u` as its completion proof. -/
def OwnProofs (v u : String) (db db' : FocusDb) : Prop :=
  ∀ s ∈ db.focusSession, s.userId = some v → ∀ d ∈ db.document ++ db'.document,
    s.completionProofId = some d.id → d.userId ≠ some u

section

variable {u v : String} {db db' : FocusDb}

theorem filter_eq_of_imp {α : Type*} {p q : α → Bool} {xs ys : List α}
    (h : xs.filter q = ys.filter q) (hpq : ∀ x, p x = true → q x = true) :
    xs.filter p = ys.filter p := by
  have hboth : (fun x => p x && q x) = p := by
    funext x
    by_cases hp : p x = true
    · rw [hp, hpq x hp]
      rfl
    · rw [Bool.not_eq_true] at hp
      rw [hp]
      rfl
  have := congrArg (List.filter p) h
  rwa [List.filter_filter, List.filter_filter, hboth] at this

/-- The rows that only someone else can own are the same. -/
theorem DifferOnlyIn.filter_eq (h : DifferOnlyIn u db db') (hv : v ≠ u) {p : FocusSession → Bool}
    (hp : ∀ s, p s = true → s.userId = some v) :
    db.focusSession.filter p = db'.focusSession.filter p := by
  refine filter_eq_of_imp h.sessions ?_
  intro s hs
  simpa [hp s hs] using hv

/-- A row is looked up: someone else's row, one of `u` in each database, or none. -/
theorem DifferOnlyIn.findUnique_cases (h : DifferOnlyIn u db db') (id : String) :
    (∃ s, db.findUnique id = some s ∧ db'.findUnique id = some s ∧ s.userId ≠ some u) ∨
    (∃ s s', db.findUnique id = some s ∧ db'.findUnique id = some s' ∧ s.userId = some u ∧
      s'.userId = some u) ∨
    (db.findUnique id = none ∧ db'.findUnique id = none) := by
  have hmem (s : FocusSession) (hs : s.userId ≠ some u) :
      s ∈ db.focusSession ↔ s ∈ db'.focusSession := by
    have := congrArg (s ∈ ·) h.sessions
    simpa [hs] using this
  cases hfind : db.findUnique id with
  | some s =>
    obtain ⟨hs, rfl⟩ := FocusDb.mem_of_findUnique hfind
    -- a row of `u` has a counterpart under the same id, any other row is in both databases
    by_cases hu : s.userId = some u
    · obtain ⟨s', hs', hid, hu'⟩ := (h.sessionIds s.id).1 ⟨s, hs, rfl, hu⟩
      refine .inr (.inl ⟨s, s', rfl, ?_, hu, hu'⟩)
      rw [← hid]
      exact h.uniqueIds'.findUnique_eq hs'
    · exact .inl ⟨s, rfl, h.uniqueIds'.findUnique_eq ((hmem s hu).1 hs), hu⟩
  | none =>
    refine .inr (.inr ⟨rfl, ?_⟩)
    cases hfind' : db'.findUnique id with
    | none => rfl
    | some s' =>
      obtain ⟨hs', rfl⟩ := FocusDb.mem_of_findUnique hfind'
      have hnone (s : FocusSession) (hs : s ∈ db.focusSession) (hid : s.id = s'.id) : False := by
        rw [← hid, h.uniqueIds.findUnique_eq hs] at hfind
        cases hfind
      by_cases hu : s'.userId = some u
      · obtain ⟨s, hs, hid, -⟩ := (h.sessionIds s'.id).2 ⟨s', hs', rfl, hu⟩
        exact (hnone s hs hid).elim
      · exact (hnone s' ((hmem s' hu).2 hs') rfl).elim

namespace FocusService

/-- What `v` gets of a session does not depend on the rows of `u`. -/
theorem getSession_agree (h : DifferOnlyIn u db db') (hv : v ≠ u) (id : String) :
    getSession db id v = getSession db' id v := by
  rcases h.findUnique_cases id with ⟨s, hs, hs', hu⟩ | ⟨s, s', hs, hs', hu, hu'⟩ | ⟨hs, hs'⟩
  · have hmem := (FocusDb.mem_of_findUnique hs).1
    simp only [getSession, hs, hs', h.distractions s hmem hu]
  · -- both answers are that the session is not the user's
    have hne : some u ≠ some v := fun huv => hv (Option.some.inj huv).symm
    simp only [getSession, hs, hs', hu, hu', if_pos hne]
  · simp only [getSession, hs, hs']

theorem mem_of_getSession {id : String} {s : SessionWithDistractions}
    (h : getSession db id v = .ok s) :
    s.session ∈ db.focusSession ∧ s.session.userId = some v := by
  unfold getSession at h
  split at h
  · cases h
  · rename_i session hs
    split_ifs at h with hv
    obtain rfl := Except.ok.inj h
    exact ⟨(FocusDb.mem_of_findUnique hs).1, not_not.1 hv⟩

/-- The proof is looked up among the documents that satisfy `p`, when those with its id do. -/
theorem completionProof_congr {p : Document → Bool} {s : FocusSession}
    (h : db.document.filter p = db'.document.filter p)
    (hp : ∀ d ∈ db.document ++ db'.document, s.completionProofId = some d.id → p d = true) :
    completionProof db s = completionProof db' s := by
  unfold completionProof
  cases hid : s.completionProofId.filter (· ≠ "") with
  | none => rfl
  | some id =>
    have hsome := (Option.filter_eq_some_iff.1 hid).1
    have hskip (docs : List Document) (hdocs : docs ⊆ db.document ++ db'.document) :
        docs.find? (fun d => d.id = id) = (docs.filter p).find? fun d => d.id = id := by
      rw [List.find?_filter]
      refine List.find?_congr ?_
      intro d hd
      by_cases hdid : d.id = id
      · have := hp d (hdocs hd) (by rw [hsome, hdid])
        simp [hdid, this]
      · simp [hdid]
    simp only
    rw [hskip db.document fun _ hd => List.mem_append_left _ hd, h,
      ← hskip db'.document fun _ hd => List.mem_append_right _ hd]

theorem completionProof_agree (h : DifferOnlyIn u db db') (hproofs : OwnProofs v u db db')
    {s : FocusSession} (hs : s ∈ db.focusSession) (hv : s.userId = some v) :
    completionProof db s = completionProof db' s := by
  -- the document is not one of `u`, so both lookups may skip those
  refine completionProof_congr h.documents ?_
  intro d hd hid
  exact decide_eq_true (hproofs s hs hv d hd hid)

theorem getSessionAnalytics_agree (h : DifferOnlyIn u db db') (hv : v ≠ u)
    (hproofs : OwnProofs v u db db') (id : String) :
    getSessionAnalytics db id v = getSessionAnalytics db' id v := by
  rw [getSessionAnalytics, getSessionAnalytics, ← getSession_agree h hv id]
  cases hs : getSession db id v with
  | error e => rfl
  | ok s =>
    obtain ⟨hmem, hown⟩ := mem_of_getSession hs
    simp only [Except.map, analyticsOf, completionProof_agree h hproofs hmem hown]

theorem mem_of_paginate {α : Type*} {take skip : ℤ} {rows page : List α}
    (h : paginate take skip rows = .ok page) {x : α} (hx : x ∈ page) : x ∈ rows := by
  unfold paginate at h
  split_ifs at h
  · obtain rfl := Except.ok.inj h
    exact List.mem_of_mem_drop (List.mem_of_mem_take hx)
  · obtain rfl := Except.ok.inj h
    have := List.mem_of_mem_drop (List.mem_of_mem_take (List.mem_reverse.1 hx))
    exact List.mem_reverse.1 this

theorem matchesQuery_own {status : Option String} {s : FocusSession}
    (h : matchesQuery v status s = true) : s.userId = some v := by
  simp only [matchesQuery, Bool.and_eq_true, decide_eq_true_eq] at h
  exact h.1

/-- The list of `v`'s sessions depends on those sessions and their distractions alone. -/
theorem getUserSessions_congr {options : ListOptions}
    (hrows : db.focusSession.filter (matchesQuery v options.status) =
      db'.focusSession.filter (matchesQuery v options.status))
    (hdist : ∀ s ∈ db.focusSession, s.userId = some v →
      (db.focusDistraction.filter fun d => d.sessionId = s.id) =
        db'.focusDistraction.filter fun d => d.sessionId = s.id) :
    getUserSessions db v options = getUserSessions db' v options := by
  simp only [getUserSessions, ← hrows]
  cases hpage : paginate (options.limit.getD 20) (options.offset.getD 0)
      (orderByDesc (·.startTime) (db.focusSession.filter (matchesQuery v options.status))) with
  | error e => rfl
  | ok page =>
    -- the sessions on the page are the user's, and so are their distractions
    have hdata (s : FocusSession) (hs : s ∈ page) :
        (db.focusDistraction.filter fun d => d.sessionId = s.id) =
          db'.focusDistraction.filter fun d => d.sessionId = s.id := by
      obtain ⟨hmem, hq⟩ := List.mem_filter.1 (orderByDesc_perm.mem_iff.1 (mem_of_paginate hpage hs))
      exact hdist s hmem (matchesQuery_own hq)
    simp only [Except.map]
    congr 2
    exact List.map_congr_left fun s hs => by rw [hdata s hs]

theorem getUserSessions_agree (h : DifferOnlyIn u db db') (hv : v ≠ u) (options : ListOptions) :
    getUserSessions db v options = getUserSessions db' v options := by
  refine getUserSessions_congr (h.filter_eq hv fun s => matchesQuery_own) ?_
  intro s hs hsv
  refine h.distractions s hs ?_
  rw [hsv]
  exact fun hvu => hv (Option.some.inj hvu)

end FocusService

end

end StudyOasis
