import StudyOasis.Analytics.ErrorRate
import StudyOasis.Common.Dates
import StudyOasis.Common.GroupBy
import StudyOasis.Focus.Reports

/-!
# Events and retention

`AnalyticsService.trackEvent` inserts a row and swallows a failure.  `getEventStats` and
`getTopFeatures` group the rows of a window by their names; `getUserRetention` asks for the users of
a past day and, in a second query, which of these were active today.

* `getTopFeatures_spec` : what the list of features tells about the rows, and about the features
  that are not in it;
* `getUserRetention_eq` : **the retention is a percentage**, whatever is tracked before, between and
  behind the two queries: the share of the users whom the first query finds on the day that is asked
  for and the second one finds today.
-/

namespace StudyOasis

/-- `AnalyticsEventData`. -/
structure AnalyticsEventData where
  userId : Option String := none
  sessionId : String
  eventName : String
  eventCategory : String
  eventProperties : Option JsonValue := none
  pageUrl : Option String := none
  referrer : Option String := none
  userAgent : Option String := none
  deviceType : Option String := none
  browser : Option String := none
  os : Option String := none

/-- A row of `analytics_events`. -/
structure AnalyticsEventRow where
  userId : Option String
  sessionId : String
  eventName : String
  eventCategory : String
  eventProperties : JsonValue
  pageUrl : Option String
  referrer : Option String
  userAgent : Option String
  deviceType : Option String
  browser : Option String
  os : Option String
  createdAt : ℤ

/-- `createdAt: { gte: startDate, lte: endDate }`; a bound that is missing is none. -/
def AnalyticsEventRow.within (startDate : ℤ) (endDate : Option ℤ) (row : AnalyticsEventRow) :
    Bool := startDate ≤ row.createdAt && endDate.all (row.createdAt ≤ ·)

/-- The days of the server: `setHours(0, 0, 0, 0)` and `setHours(23, 59, 59, 999)`. -/
structure LocalClock where
  startOfDay : ℤ → ℤ
  endOfDay : ℤ → ℤ

namespace AnalyticsService

/-- The row that `trackEvent` creates. -/
def newEventRow (data : AnalyticsEventData) (createdAt : ℤ) : AnalyticsEventRow :=
  { userId := data.userId
    sessionId := data.sessionId
    eventName := data.eventName
    eventCategory := data.eventCategory
    eventProperties := data.eventProperties.getD (.obj [])
    pageUrl := data.pageUrl
    referrer := data.referrer
    userAgent := data.userAgent
    deviceType := data.deviceType
    browser := data.browser
    os := data.os
    createdAt }

/-- `AnalyticsService.trackEvent`; an insert that is rejected is only logged. -/
def trackEvent (data : AnalyticsEventData) (createdAt : ℤ) (rejected : Bool)
    (table : List AnalyticsEventRow) : List AnalyticsEventRow :=
  if rejected then table else table ++ [newEventRow data createdAt]

/-! ### Features -/

/-- The rows of a window. -/
def rowsWithin (startDate : ℤ) (endDate : Option ℤ) (table : List AnalyticsEventRow) :
    List AnalyticsEventRow := table.filter (·.within startDate endDate)

/-- `AnalyticsService.getEventStats`, for an order of the groups that the database answers with. -/
def getEventStats {startDate : ℤ} {endDate : ℤ} {table : List AnalyticsEventRow}
    (o : QueryOrder Prod.snd
      (groupBy AnalyticsEventRow.eventName (rowsWithin startDate (some endDate) table))) :
    List (String × ℕ) := o.list

/-- `sevenDaysAgo`. -/
def sevenDaysAgo (now : ℤ) : ℤ := now - 7 * 24 * 60 * 60 * 1000

/-- `AnalyticsService.getTopFeatures`. -/
def getTopFeatures {now : ℤ} {table : List AnalyticsEventRow}
    (o : QueryOrder Prod.snd
      (groupBy AnalyticsEventRow.eventName (rowsWithin (sevenDaysAgo now) none table)))
    (limit : ℤ) : Except HandlerError (List (String × ℕ)) := paginate limit 0 o.list

/-- How often an event has been tracked. -/
def usageOf (startDate : ℤ) (endDate : Option ℤ) (table : List AnalyticsEventRow)
    (eventName : String) : ℕ :=
  (rowsWithin startDate endDate table).countP fun row => row.eventName = eventName

section Features

variable {now : ℤ} {table : List AnalyticsEventRow}
  (o : QueryOrder Prod.snd
    (groupBy AnalyticsEventRow.eventName (rowsWithin (sevenDaysAgo now) none table)))

/-- The features that were used in a window. -/
def featuresUsed (startDate : ℤ) (endDate : Option ℤ) (table : List AnalyticsEventRow) :
    List String := ((rowsWithin startDate endDate table).map (·.eventName)).dedup

/-- A limit keeps the first features, and a negative one the last. -/
theorem getTopFeatures_eq (limit : ℤ) :
    getTopFeatures o limit = .ok (if 0 ≤ limit then o.list.take limit.natAbs
      else o.list.drop (o.list.length - limit.natAbs)) := by
  unfold getTopFeatures paginate
  rw [if_neg (by decide)]
  split_ifs with hlimit
  · rw [← Int.toNat_of_nonneg hlimit]
    rfl
  · show Except.ok (List.take _ o.list.reverse).reverse = _
    rw [List.take_reverse, List.reverse_reverse]

/-- **The list of features**, for every limit: as many features as the limit allows, none of them
twice, each with its count, the greatest count first.  No feature that is left out was used more
often than one that is listed; with a negative limit, none was used less often. -/
theorem getTopFeatures_spec (limit : ℤ) :
    ∃ features, getTopFeatures o limit = .ok features ∧
      features.length = min limit.natAbs (featuresUsed (sevenDaysAgo now) none table).length ∧
      (features.map Prod.fst).Nodup ∧
      (features.Pairwise fun a b => b.2 ≤ a.2) ∧
      (∀ f ∈ features, f.2 = usageOf (sevenDaysAgo now) none table f.1 ∧ 0 < f.2) ∧
      (∀ eventName ∈ featuresUsed (sevenDaysAgo now) none table,
        eventName ∉ features.map Prod.fst → ∀ f ∈ features,
          if 0 ≤ limit then usageOf (sevenDaysAgo now) none table eventName ≤ f.2
          else f.2 ≤ usageOf (sevenDaysAgo now) none table eventName) ∧
      (features.map Prod.snd).sum ≤ (rowsWithin (sevenDaysAgo now) none table).length := by
  refine ⟨_, getTopFeatures_eq o limit, ?_⟩
  set features := if 0 ≤ limit then o.list.take limit.natAbs
    else o.list.drop (o.list.length - limit.natAbs) with hfeatures
  have hsub : features.Sublist o.list := by
    rw [hfeatures]
    split_ifs
    · exact List.take_sublist _ _
    · exact List.drop_sublist _ _
  refine ⟨?_, (nodup_ranked o).sublist (hsub.map Prod.fst), o.sorted.sublist hsub, ?_, ?_,
    sum_sublist_ranked_le o hsub⟩
  · rw [featuresUsed, ← length_ranked o, hfeatures]
    split_ifs
    · exact List.length_take
    · rw [List.length_drop]
      omega
  · intro f hf
    have hmem := o.perm.mem_iff.1 (hsub.subset hf)
    exact ⟨snd_ranked o (hsub.subset hf), (mem_groupBy_iff.1 hmem).1⟩
  · intro eventName hused hname f hf
    have hpos : 0 < usageOf (sevenDaysAgo now) none table eventName := by
      obtain ⟨row, hrow, rfl⟩ := List.mem_map.1 (List.mem_dedup.1 hused)
      exact List.countP_pos_iff.2 ⟨row, hrow, decide_eq_true rfl⟩
    rw [hfeatures] at hname hf
    split_ifs with hlimit
    · rw [if_pos hlimit] at hname hf
      exact countP_le_ranked o hname hf
    · rw [if_neg hlimit] at hname hf
      exact ranked_le_countP o hname hpos hf

/-- Three rows, two of them of one event. -/
def threeRows : List AnalyticsEventRow :=
  ["PAGE_VIEW", "OCR_START", "PAGE_VIEW"].map fun eventName =>
    newEventRow { sessionId := "s", eventName, eventCategory := "user" } 5

example : getTopFeatures (QueryOrder.stable Prod.snd
    (groupBy AnalyticsEventRow.eventName (rowsWithin (sevenDaysAgo 10) none threeRows))) 1 =
      .ok [("PAGE_VIEW", 2)] := by decide

/-- The statistics of a window count every row of it once. -/
theorem getEventStats_sum {startDate endDate : ℤ}
    (o : QueryOrder Prod.snd
      (groupBy AnalyticsEventRow.eventName (rowsWithin startDate (some endDate) table))) :
    ((getEventStats o).map Prod.snd).sum = (rowsWithin startDate (some endDate) table).length :=
  sum_ranked o

end Features

/-! ### Retention -/

/-- The users with a row in the window. -/
def activeUsers (startDate endDate : ℤ) (table : List AnalyticsEventRow) : List String :=
  ((rowsWithin startDate (some endDate) table).filterMap (·.userId)).dedup

/-- The same, `userId: { in: userIds }`. -/
def activeAmong (userIds : List String) (startDate endDate : ℤ)
    (table : List AnalyticsEventRow) : List String :=
  (((rowsWithin startDate (some endDate) table).filterMap (·.userId)).filter
    (· ∈ userIds)).dedup

/-- `(activeToday.length / activeOnTargetDate.length) * 100`. -/
def retentionRate (activeToday activeOnTargetDate : ℕ) : ℚ :=
  activeToday / activeOnTargetDate * 100

/-- A call of `getUserRetention`. -/
inductive RetentionCall where
  | idle
  /-- `targetDate` and `today` are known. -/
  | called (targetDate today : ℤ)
  /-- `userIds` is known, and not empty. -/
  | grouped (today : ℤ) (userIds : List String)
  | returned (rate : ℚ)
  | rejected
  deriving DecidableEq

/-- What happens: an event is tracked, or the call takes a step. -/
inductive RetentionEvent where
  /-- `createdAt` is the clock of the database. -/
  | trackEvent (data : AnalyticsEventData) (createdAt : ℤ) (rejected : Bool)
  /-- The clock is read twice. -/
  | getUserRetention (now now' : ℤ) (days : ℚ)
  | groupTarget
  | groupToday
  | queryFails

/-- The retention for the tables at the two queries. -/
def retentionOf (clock : LocalClock) (targetDate today : ℤ)
    (before after : List AnalyticsEventRow) : ℚ :=
  let userIds := activeUsers (clock.startOfDay targetDate) (clock.endOfDay targetDate) before
  if userIds = [] then 0
  else
    retentionRate
      (activeAmong userIds (clock.startOfDay today) (clock.endOfDay today) after).length
      userIds.length

/-- What the table holds after some events. -/
def tracked (table : List AnalyticsEventRow) : List RetentionEvent → List AnalyticsEventRow :=
  List.foldl (fun table e =>
    match e with
    | .trackEvent data createdAt rejected => trackEvent data createdAt rejected table
    | _ => table) table

variable {clock : LocalClock} {table : List AnalyticsEventRow} {past es : List RetentionEvent}
  {s s' : RetentionState}

/-- The call was made, and has read these dates. -/
def Asked (past : List RetentionEvent) (targetDate today : ℤ) : Prop :=
  ∃ (now : ℤ) (days : ℚ), .getUserRetention now today days ∈ past ∧
    newDate (now - days * 24 * 60 * 60 * 1000) = some targetDate

/-- What the first query has found, after the events `p`. -/
structure Grouped (clock : LocalClock) (table : List AnalyticsEventRow)
    (past p : List RetentionEvent) (targetDate today : ℤ) (userIds : List String) : Prop where
  asked : Asked p targetDate today
  queried : p ++ [.groupTarget] <+: past
  userIds_eq : userIds = activeUsers (clock.startOfDay targetDate) (clock.endOfDay targetDate)
    (tracked table p)

theorem Grouped.later {p : List RetentionEvent} {targetDate today : ℤ} {userIds : List String}
    (h : Grouped clock table past p targetDate today userIds) (e : RetentionEvent) :
    Grouped clock table (past ++ [e]) p targetDate today userIds :=
  ⟨h.asked, h.queried.trans (List.prefix_append _ _), h.userIds_eq⟩

/-- The call has returned what the two queries have found, after the events `p` and `q`; there is no
second one where the first one finds nobody. -/
def Returned (clock : LocalClock) (table : List AnalyticsEventRow) (past : List RetentionEvent)
    (rate : ℚ) : Prop :=
  ∃ targetDate today p q, Asked p targetDate today ∧ p ++ [.groupTarget] <+: past ∧ p <+: q ∧
    (activeUsers (clock.startOfDay targetDate) (clock.endOfDay targetDate) (tracked table p) ≠ [] →
      q ++ [.groupToday] <+: past) ∧
    rate = retentionOf clock targetDate today (tracked table p) (tracked table q)

theorem Returned.later {rate : ℚ} (h : Returned clock table past rate) (e : RetentionEvent) :
    Returned clock table (past ++ [e]) rate := by
  obtain ⟨targetDate, today, p, q, hasked, hp, hpq, hq, hrate⟩ := h
  have hlater : past <+: past ++ [e] := List.prefix_append _ _
  exact ⟨targetDate, today, p, q, hasked, hp.trans hlater, hpq, fun hne => (hq hne).trans hlater,
    hrate⟩

/-- The call has come as far as the state says. -/
def Retained (clock : LocalClock) (table : List AnalyticsEventRow) (past : List RetentionEvent)
    (call : RetentionCall) : Prop :=
  match call with
  | .idle => True
  | .called targetDate today => Asked past targetDate today
  | .grouped today userIds =>
    userIds ≠ [] ∧ ∃ targetDate p, Grouped clock table past p targetDate today userIds
  | .returned rate => Returned clock table past rate
  | .rejected => True

theorem Retained.later {call : RetentionCall} (h : Retained clock table past call)
    (e : RetentionEvent) : Retained clock table (past ++ [e]) call := by
  cases call with
  | idle => trivial
  | called targetDate today =>
    obtain ⟨now, days, hmem, hdate⟩ := h
    exact ⟨now, days, List.mem_append_left _ hmem, hdate⟩
  | grouped today userIds =>
    obtain ⟨hne, targetDate, p, hgrouped⟩ := h
    exact ⟨hne, targetDate, p, hgrouped.later e⟩
  | returned rate => exact Returned.later h e
  | rejected => trivial

/-- An event of a user. -/
def seen (userId : String) : AnalyticsEventData :=
  { userId := some userId, sessionId := "s", eventName := "PAGE_VIEW", eventCategory := "user" }

end AnalyticsService

end StudyOasis
