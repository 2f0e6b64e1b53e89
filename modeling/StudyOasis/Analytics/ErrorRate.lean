import Mathlib.Algebra.Order.Field.Rat
import Mathlib.Data.List.Basic
import Mathlib.Data.Rat.Floor
import StudyOasis.Runs.Basic
import StudyOasis.Text.Json

/-!
# The error rate of the API

`AnalyticsService.getApiErrorRate` counts all requests of a window and then the failed ones, in
two queries; between them other requests are logged.  So a run consists of the steps of the call
and of the inserts that come before, between and behind them.

* `getApiErrorRate_eq` : what a call returns, in terms of the rows before and between its counts;
* `getApiErrorRate_percentage_iff` : **when the rate is a percentage**.
-/

namespace StudyOasis

/-- `ApiUsageData`. -/
structure ApiUsageData where
  userId : Option String := none
  endpoint : String
  method : String
  statusCode : ℤ
  responseTimeMs : Option ℤ := none
  requestSizeBytes : Option ℤ := none
  responseSizeBytes : Option ℤ := none
  externalApiCalls : Option JsonValue := none
  errorMessage : Option String := none
  errorStack : Option String := none

/-- A row of `api_usage_logs`. -/
structure ApiUsageLog where
  userId : Option String
  endpoint : String
  method : String
  statusCode : ℤ
  responseTimeMs : Option ℤ
  requestSizeBytes : Option ℤ
  responseSizeBytes : Option ℤ
  externalApiCalls : JsonValue
  errorMessage : Option String
  errorStack : Option String
  createdAt : ℤ

namespace ApiUsageLog

/-- `createdAt: { gte: since }`. -/
def recent (since : ℤ) (row : ApiUsageLog) : Bool := since ≤ row.createdAt

/-- `statusCode: { gte: 400 }`. -/
def failed (row : ApiUsageLog) : Bool := 400 ≤ row.statusCode

end ApiUsageLog

/-- `new Date(time)`, for a date that there is. -/
def newDate (time : ℚ) : Option ℤ :=
  if |time| ≤ 8640000000000000 then some (if 0 ≤ time then ⌊time⌋ else ⌈time⌉) else none

/-- A call of `getApiErrorRate`. -/
inductive RateCall where
  | idle
  /-- `since` is known. -/
  | called (since : ℤ)
  /-- `total` is known. -/
  | counted (since : ℤ) (total : ℕ)
  | returned (rate : ℚ)
  | rejected
  deriving DecidableEq, Repr

/-- The table and the call. -/
structure AnalyticsState where
  apiUsageLog : List ApiUsageLog
  call : RateCall := .idle

/-- What happens: a request is logged, or the call takes a step. -/
inductive AnalyticsEvent where
  /-- `createdAt` is the clock of the database. -/
  | logApiUsage (data : ApiUsageData) (createdAt : ℤ) (rejected : Bool)
  | getApiErrorRate (now : ℤ) (hours : ℚ)
  | countTotal
  | countErrors
  | queryFails

namespace AnalyticsService

/-- The row that `logApiUsage` creates. -/
def newRow (data : ApiUsageData) (createdAt : ℤ) : ApiUsageLog :=
  { userId := data.userId
    endpoint := data.endpoint
    method := data.method
    statusCode := data.statusCode
    responseTimeMs := data.responseTimeMs
    requestSizeBytes := data.requestSizeBytes
    responseSizeBytes := data.responseSizeBytes
    externalApiCalls := data.externalApiCalls.getD (.obj [])
    errorMessage := data.errorMessage
    errorStack := data.errorStack
    createdAt }

/-- `AnalyticsService.logApiUsage`; an insert that is rejected is only logged. -/
def logApiUsage (data : ApiUsageData) (createdAt : ℤ) (rejected : Bool)
    (table : List ApiUsageLog) : List ApiUsageLog :=
  if rejected then table else table ++ [newRow data createdAt]

/-- The first count. -/
def countTotal (since : ℤ) (table : List ApiUsageLog) : ℕ := table.countP (·.recent since)

/-- The second count. -/
def countErrors (since : ℤ) (table : List ApiUsageLog) : ℕ :=
  table.countP fun row => row.recent since && row.failed

/-- `total > 0 ? (errors / total) * 100 : 0`. -/
def errorRate (errors total : ℕ) : ℚ := if 0 < total then errors / total * 100 else 0

/-- `AnalyticsService.getApiErrorRate` and the inserts beside it: what an event does. -/
def step (s : AnalyticsState) : AnalyticsEvent → Option AnalyticsState
  | .logApiUsage data createdAt rejected =>
    some { s with apiUsageLog := logApiUsage data createdAt rejected s.apiUsageLog }
  | .getApiErrorRate now hours =>
    if s.call = .idle then
      match newDate (now - hours * 60 * 60 * 1000) with
      | some since => some { s with call := .called since }
      -- Prisma refuses an invalid date
      | none => some { s with call := .rejected }
    else none
  | .countTotal =>
    match s.call with
    | .called since => some { s with call := .counted since (countTotal since s.apiUsageLog) }
    | _ => none
  | .countErrors =>
    match s.call with
    | .counted since total =>
      some { s with call := .returned (errorRate (countErrors since s.apiUsageLog) total) }
    | _ => none
  | .queryFails =>
    match s.call with
    | .called _ => some { s with call := .rejected }
    | .counted _ _ => some { s with call := .rejected }
    | _ => none

/-! ### The rows that the counts see -/

/-- What a call reads in a run, told from the events alone. -/
structure RateReads where
  /-- The rows so far. -/
  rows : List ApiUsageLog
  since : ℤ := 0
  /-- The rows at the first count. -/
  before : List ApiUsageLog := []
  /-- The rows that are logged between the two counts. -/
  between : List ApiUsageLog := []

/-- One more event. -/
def RateReads.next (r : RateReads) : AnalyticsEvent → RateReads
  | .logApiUsage data createdAt rejected =>
    { r with rows := logApiUsage data createdAt rejected r.rows }
  | .getApiErrorRate now hours =>
    { r with since := (newDate (now - hours * 60 * 60 * 1000)).getD 0 }
  | .countTotal => { r with before := r.rows }
  | .countErrors => { r with between := r.rows.drop r.before.length }
  | .queryFails => r

/-- What a call reads in a run over the given events. -/
def rateReads (table : List ApiUsageLog) (es : List AnalyticsEvent) : RateReads :=
  es.foldl RateReads.next { rows := table }

/-- The requests of the window that did not fail. -/
def countSucceeded (since : ℤ) (table : List ApiUsageLog) : ℕ :=
  table.countP fun row => row.recent since && !row.failed

/-- No more failed requests are logged between the two counts than had not failed at the first
one, or there was no request at all. -/
def RateInBounds (r : RateReads) : Prop :=
  countTotal r.since r.before = 0 ∨
    countErrors r.since r.between ≤ countSucceeded r.since r.before

instance (r : RateReads) : Decidable (RateInBounds r) :=
  inferInstanceAs (Decidable (_ ∨ _))

variable {table : List ApiUsageLog} {es : List AnalyticsEvent} {s s' : AnalyticsState}

/-- The call has come as far as the events say, and what it knows is what they say. -/
def Explained (r : RateReads) (s : AnalyticsState) : Prop :=
  r.rows = s.apiUsageLog ∧
    match s.call with
    | .idle => True
    | .called since => r.since = since
    | .counted since total =>
      r.since = since ∧ countTotal r.since r.before = total ∧ r.before <+: r.rows
    | .returned rate =>
      rate = errorRate (countErrors r.since (r.before ++ r.between)) (countTotal r.since r.before)
    | .rejected => True

theorem explained_logApiUsage {r : RateReads} (h : Explained r s) (data : ApiUsageData)
    (createdAt : ℤ) (rejected : Bool) :
    Explained (r.next (.logApiUsage data createdAt rejected))
      { s with apiUsageLog := logApiUsage data createdAt rejected s.apiUsageLog } := by
  obtain ⟨table, call⟩ := s
  obtain ⟨rfl, hcall⟩ := h
  refine ⟨rfl, ?_⟩
  cases call with
  | counted since total =>
    obtain ⟨hsince, htotal, hbefore⟩ := hcall
    refine ⟨hsince, htotal, hbefore.trans ?_⟩
    show r.rows <+: logApiUsage data createdAt rejected r.rows
    unfold logApiUsage
    split_ifs
    · exact List.prefix_rfl
    · exact List.prefix_append _ _
  | _ => exact hcall

theorem explained_getApiErrorRate {r : RateReads} {now : ℤ} {hours : ℚ} (h : Explained r s)
    (hst : step s (.getApiErrorRate now hours) = some s') :
    Explained (r.next (.getApiErrorRate now hours)) s' := by
  simp only [step] at hst
  split_ifs at hst with hidle
  cases hdate : newDate (now - hours * 60 * 60 * 1000) with
  | none =>
    rw [hdate] at hst
    obtain rfl := Option.some.inj hst
    exact ⟨h.1, trivial⟩
  | some since =>
    rw [hdate] at hst
    obtain rfl := Option.some.inj hst
    refine ⟨h.1, ?_⟩
    show (newDate (now - hours * 60 * 60 * 1000)).getD 0 = since
    rw [hdate]
    rfl

theorem explained_countTotal {r : RateReads} (h : Explained r s)
    (hst : step s .countTotal = some s') : Explained (r.next .countTotal) s' := by
  obtain ⟨table, call⟩ := s
  cases call with
  | called since =>
    obtain rfl := Option.some.inj hst
    obtain ⟨rfl, hsince⟩ := h
    obtain rfl : r.since = since := hsince
    exact ⟨rfl, rfl, rfl, List.prefix_rfl⟩
  | _ => cases hst

theorem explained_countErrors {r : RateReads} (h : Explained r s)
    (hst : step s .countErrors = some s') : Explained (r.next .countErrors) s' := by
  obtain ⟨table, call⟩ := s
  cases call with
  | counted since total =>
    obtain rfl := Option.some.inj hst
    obtain ⟨rfl, rfl, rfl, hbefore⟩ := h
    refine ⟨rfl, ?_⟩
    -- what is behind the rows of the first count has been logged since then
    have hrows : r.before ++ r.rows.drop r.before.length = r.rows :=
      List.prefix_iff_eq_append.1 hbefore
    show errorRate (countErrors r.since r.rows) _ =
      errorRate (countErrors r.since (r.before ++ r.rows.drop r.before.length)) _
    rw [hrows]
    rfl
  | _ => cases hst

theorem explained_queryFails {r : RateReads} (h : Explained r s)
    (hst : step s .queryFails = some s') : Explained (r.next .queryFails) s' := by
  obtain ⟨table, call⟩ := s
  cases call with
  | called since =>
    obtain rfl := Option.some.inj hst
    exact ⟨h.1, trivial⟩
  | counted since total =>
    obtain rfl := Option.some.inj hst
    exact ⟨h.1, trivial⟩
  | _ => cases hst

/-- One step of the call, or an insert. -/
theorem explained_step {r : RateReads} {e : AnalyticsEvent} (h : Explained r s)
    (hst : step s e = some s') : Explained (r.next e) s' := by
  cases e with
  | logApiUsage data createdAt rejected =>
    obtain rfl := Option.some.inj hst
    exact explained_logApiUsage h data createdAt rejected
  | getApiErrorRate now hours => exact explained_getApiErrorRate h hst
  | countTotal => exact explained_countTotal h hst
  | countErrors => exact explained_countErrors h hst
  | queryFails => exact explained_queryFails h hst

/-- What is known at the end of a run. -/
theorem explained_run (h : AnyRun step { apiUsageLog := table } es s) :
    Explained (rateReads table es) s := by
  refine h.history (I := fun past s => Explained (rateReads table past) s) ⟨rfl, trivial⟩ ?_
  intro past s e s' hI _ hst
  rw [rateReads, List.foldl_append]
  exact explained_step hI hst

/-- **What a call returns.** -/
theorem getApiErrorRate_eq (h : AnyRun step { apiUsageLog := table } es s) {rate : ℚ}
    (hrate : s.call = .returned rate) :
    rate = errorRate
      (countErrors (rateReads table es).since
        ((rateReads table es).before ++ (rateReads table es).between))
      (countTotal (rateReads table es).since (rateReads table es).before) := by
  have hcall := (explained_run h).2
  rw [hrate] at hcall
  exact hcall

/-! ### Percentages -/

/-- A request of the window has failed or not. -/
theorem countTotal_eq (since : ℤ) (table : List ApiUsageLog) :
    countTotal since table = countErrors since table + countSucceeded since table := by
  induction table with
  | nil => rfl
  | cons row table ih =>
    simp only [countTotal, countErrors, countSucceeded, List.countP_cons] at ih ⊢
    rw [ih]
    cases row.recent since <;> cases row.failed <;> simp <;> omega

/-- A rate is a percentage exactly when no more is counted as failed than in total. -/
theorem errorRate_le_iff (errors total : ℕ) :
    (0 ≤ errorRate errors total ∧ errorRate errors total ≤ 100) ↔ total = 0 ∨ errors ≤ total := by
  unfold errorRate
  split_ifs with h
  · have hpos : (0 : ℚ) < total := by exact_mod_cast h
    have hnonneg : (0 : ℚ) ≤ errors / total * 100 := by positivity
    have hle : (errors : ℚ) / total * 100 ≤ 100 ↔ errors ≤ total := by
      rw [← Nat.cast_le (α := ℚ), ← div_le_one hpos]
      constructor <;> intro h <;> linarith
    rw [and_iff_right hnonneg, hle, or_iff_right h.ne']
  · exact iff_of_true ⟨le_rfl, by norm_num⟩ (.inl (by omega))

/-- **When the rate is a percentage.** -/
theorem getApiErrorRate_percentage_iff (h : AnyRun step { apiUsageLog := table } es s) {rate : ℚ}
    (hrate : s.call = .returned rate) :
    (0 ≤ rate ∧ rate ≤ 100) ↔ RateInBounds (rateReads table es) := by
  have hsplit (since : ℤ) (before between : List ApiUsageLog) :
      countErrors since (before ++ between) ≤ countTotal since before ↔
        countErrors since between ≤ countSucceeded since before := by
    rw [countTotal_eq, countErrors, List.countP_append]
    exact Nat.add_le_add_iff_left
  rw [getApiErrorRate_eq h hrate, errorRate_le_iff, hsplit]
  rfl

/-- A failed request. -/
def failedRequest : ApiUsageData := { endpoint := "/chat", method := "POST", statusCode := 500 }

/-- The rate of the last day: the first count, and the given events. -/
def askRate (es : List AnalyticsEvent) : List AnalyticsEvent :=
  .getApiErrorRate 8640000000 24 :: .countTotal :: es

/-- A failed request that is logged behind both counts is not counted. -/
theorem getApiErrorRate_percentage_behind :
    ∃ s : AnalyticsState,
      AnyRun step { apiUsageLog := [newRow failedRequest 8640000000] }
        (askRate [.countErrors, .logApiUsage failedRequest 8640000000 false]) s ∧
      ∃ rate, s.call = .returned rate ∧ 0 ≤ rate ∧ rate ≤ 100 := by
  have hcomputed : ((askRate [.countErrors,
      .logApiUsage failedRequest 8640000000 false]).foldlM step
        { apiUsageLog := [newRow failedRequest 8640000000] }).any
      (fun s => decide (s.call = .returned 100)) = true := by decide +kernel
  obtain ⟨s, hs, hcall⟩ := (Option.any_eq_true _ _).1 hcomputed
  have hrun := Run.of_foldlM hs
  have hrate := of_decide_eq_true hcall
  exact ⟨s, hrun, 100, hrate, (getApiErrorRate_percentage_iff hrun hrate).2 (by decide +kernel)⟩

/-- A failed request that is logged between the counts: 200%. -/
theorem getApiErrorRate_no_percentage :
    ¬ ∀ (table : List ApiUsageLog) (es : List AnalyticsEvent) (s : AnalyticsState) (rate : ℚ),
      AnyRun step { apiUsageLog := table } es s → s.call = .returned rate →
        0 ≤ rate ∧ rate ≤ 100 := by
  intro h
  have hcomputed : ((askRate [.logApiUsage failedRequest 8640000000 false,
      .countErrors]).foldlM step { apiUsageLog := [newRow failedRequest 8640000000] }).any
      (fun s => decide (s.call = .returned 200)) = true := by decide +kernel
  obtain ⟨s, hs, hcall⟩ := (Option.any_eq_true _ _).1 hcomputed
  have hle := (h _ _ s 200 (Run.of_foldlM hs) (of_decide_eq_true hcall)).2
  norm_num at hle

end AnalyticsService

end StudyOasis
