import StudyOasis.Common.Routing

/-!
# The routes of the server

The decorators of the controllers, in the order in which the routes are registered.  The first route
that fits a request handles it: literals are compared without regard to case, a parameter is a
segment that is not empty, and a slash at the end is ignored.

* `reached_iff` : **every handler but `getDocuments` is reached** by some request;
* `route_pathOf_iff` : a handler gets the parameters of its own path, whatever they are, unless it
  is `getDocuments`, or `getDocumentInfo` for the document `content`.
-/

namespace StudyOasis

namespace Http

inductive Method where
  | get | post | put | delete
  deriving DecidableEq, Repr

/-- The methods of the controllers that handle requests. -/
inductive Handler where
  -- `AppController`
  | getHello
  -- `AnalyticsController`
  | getActiveUsers | getEventStats | getApiStats | getCost | getTopFeatures | getRetention
  | getOverview
  -- `MetricsController`
  | getMetrics
  -- `FocusController`
  | createSession | updateSession | logDistraction | completeSession | getSession
  | getSessionAnalytics | getUserSessions
  -- `UploadController`
  | uploadFile | downloadFile | getFileContent | getDocumentInfo | getOcrResult | getDocuments
  -- `ChatController`
  | chat | chatStream | getConversations | getConversation | deleteConversation
  -- `HealthController`
  | getHealth | getDetailedHealth
  -- `AuthController`, whose other method is called `getSession` as well
  | getSupabaseHealth | getAuthSession
  -- `GamificationController` and `NotificationsController`
  | getProgress | getBanners
  deriving DecidableEq, Repr

namespace Handler

/-- `AppController`, and the controllers of the modules in the order of `imports`. -/
def registered : List Handler :=
  [getHello, getActiveUsers, getEventStats, getApiStats, getCost, getTopFeatures, getRetention,
    getOverview, getMetrics, createSession, updateSession, logDistraction, completeSession,
    getSession, getSessionAnalytics, getUserSessions, uploadFile, downloadFile, getFileContent,
    getDocumentInfo, getOcrResult, getDocuments, chat, chatStream, getConversations,
    getConversation, deleteConversation, getHealth, getDetailedHealth, getSupabaseHealth,
    getAuthSession, getProgress, getBanners]

/-- The decorators: the method, and the path behind that of the controller. -/
def decorators : Handler → Method × String
  | getHello => (.get, "")
  | getActiveUsers => (.get, "analytics/active-users")
  | getEventStats => (.get, "analytics/event-stats")
  | getApiStats => (.get, "analytics/api-stats")
  | getCost => (.get, "analytics/cost")
  | getTopFeatures => (.get, "analytics/top-features")
  | getRetention => (.get, "analytics/retention")
  | getOverview => (.get, "analytics/overview")
  | getMetrics => (.get, "metrics")
  | createSession => (.post, "focus/sessions")
  | updateSession => (.put, "focus/sessions/:id")
  | logDistraction => (.post, "focus/sessions/:id/distractions")
  | completeSession => (.post, "focus/sessions/:id/complete")
  | getSession => (.get, "focus/sessions/:id")
  | getSessionAnalytics => (.get, "focus/sessions/:id/analytics")
  | getUserSessions => (.get, "focus/sessions")
  | uploadFile => (.post, "upload")
  | downloadFile => (.get, "upload/:fileId")
  | getFileContent => (.get, "upload/:fileId/content")
  | getDocumentInfo => (.get, "upload/documents/:documentId")
  | getOcrResult => (.get, "upload/documents/:documentId/ocr")
  | getDocuments => (.get, "upload/documents")
  | chat => (.post, "chat")
  | chatStream => (.get, "chat/stream")
  | getConversations => (.get, "chat/conversations")
  | getConversation => (.get, "chat/conversations/:id")
  | deleteConversation => (.delete, "chat/conversations/:id")
  | getHealth => (.get, "health")
  | getDetailedHealth => (.get, "health/detailed")
  | getSupabaseHealth => (.get, "auth/health")
  | getAuthSession => (.get, "auth/session")
  | getProgress => (.get, "gamification/progress")
  | getBanners => (.get, "notifications/banners")

/-- The method of the requests. -/
def method (h : Handler) : Method := h.decorators.1

/-- The segments of the path, with its parameters. -/
def pattern (h : Handler) : List (Routing.Segment (List Char)) :=
  ((h.decorators.2.toList.splitOn '/').filter (· ≠ [])).map fun text =>
    if text.head? = some ':' then .param else .literal text

end Handler

/-- Literals are compared without regard to case, and a parameter is not empty. -/
def comparison : Routing.Comparison (List Char) (List Char) := ⟨List.map Char.toLower, []⟩

/-- The segments of the path of a request, without its query; a slash at the end is ignored. -/
def segments (target : List Char) : List (List Char) :=
  let parts := ((target.takeWhile (· ≠ '?')).splitOn '/').tail
  if parts.getLast? = some [] then parts.dropLast else parts

/-- The handler of a request and its parameters, as they stand in the path. -/
def route (method : Method) (target : List Char) : Option (Handler × List (List Char)) :=
  Routing.dispatch comparison Handler.pattern
    (Handler.registered.filter (·.method = method)) (segments target)

/-- The path of a handler with the given parameters. -/
def pathOf (h : Handler) (params : List (List Char)) : List Char :=
  '/' :: ['/'].intercalate (Routing.fill h.pattern params)

/-- A text that can be a segment of a path as it is. -/
def PathText (text : List Char) : Prop := text ≠ [] ∧ '/' ∉ text ∧ '?' ∉ text

instance (text : List Char) : Decidable (PathText text) := inferInstanceAs (Decidable (_ ∧ _))

/-! ### Reading a path -/

theorem mem_of_mem_intercalate {sep : List Char} {parts : List (List Char)} {c : Char}
    (h : c ∈ sep.intercalate parts) : c ∈ sep ∨ ∃ part ∈ parts, c ∈ part := by
  induction parts with
  | nil => cases h
  | cons part parts ih =>
    cases parts with
    | nil => exact .inr ⟨part, List.mem_cons_self, by simpa using h⟩
    | cons next parts =>
      simp only [List.intercalate_cons_cons, List.mem_append] at h
      rcases h with (h | h) | h
      · exact .inr ⟨part, List.mem_cons_self, h⟩
      · exact .inl h
      · refine (ih h).imp_right fun ⟨p, hp, hc⟩ => ⟨p, List.mem_cons_of_mem _ hp, hc⟩

theorem segments_intercalate {parts : List (List Char)} (hparts : ∀ t ∈ parts, PathText t)
    {query : List Char} (hquery : query.head? = none ∨ query.head? = some '?') :
    segments ('/' :: ['/'].intercalate parts ++ query) = parts := by
  have hpath : ('/' :: ['/'].intercalate parts ++ query).takeWhile (· ≠ '?') =
      '/' :: ['/'].intercalate parts := by
    rw [List.takeWhile_append_of_pos]
    · rcases query with _ | ⟨c, query⟩
      · rw [List.takeWhile_nil, List.append_nil]
      · obtain rfl : c = '?' := by simpa using hquery
        rw [List.takeWhile_cons_of_neg (by decide), List.append_nil]
    · intro c hc
      rw [decide_eq_true_eq]
      rintro rfl
      rcases List.mem_cons.1 hc with h | h
      · cases h
      · rcases mem_of_mem_intercalate h with h | ⟨part, hpart, h⟩
        · simp at h
        · exact (hparts part hpart).2.2 h
  have hsplit : ('/' :: ['/'].intercalate parts).splitOn '/' =
      [] :: (['/'].intercalate parts).splitOn '/' :=
    List.splitOn_append_cons_self_of_not_mem List.not_mem_nil _
  rw [segments, hpath, hsplit, List.tail_cons]
  cases parts with
  | nil => rfl
  | cons t parts =>
    rw [List.splitOn_intercalate '/' (fun l hl => (hparts l hl).2.1) (by simp)]
    have hlast : (t :: parts).getLast? ≠ some [] := by
      intro hnil
      exact (hparts [] (List.mem_of_getLast? hnil)).1 rfl
    exact if_neg hlast

theorem pathText_literal (h : Handler) {text : List Char}
    (htext : .literal text ∈ h.pattern) : PathText text := by
  have hall : ∀ segment ∈ h.pattern, (match segment with
      | .literal t => decide (PathText t)
      | .param => true) = true := by
    cases h <;> decide +kernel
  exact of_decide_eq_true (hall _ htext)

theorem segments_pathOf (h : Handler) {params : List (List Char)}
    (hparams : ∀ t ∈ params, PathText t) {query : List Char}
    (hquery : query.head? = none ∨ query.head? = some '?') :
    segments (pathOf h params ++ query) = Routing.fill h.pattern params := by
  refine segments_intercalate (fun t ht => ?_) hquery
  exact (Routing.mem_fill ht).elim (hparams t) (pathText_literal h)

/-! ### The handlers that are reached -/

theorem nodup_registered : Handler.registered.Nodup := by decide

theorem mem_registered (h : Handler) : h ∈ Handler.registered := by
  cases h <;> decide

/-- The two exceptions. -/
def Shadows (g h : Handler) : Prop :=
  g = .downloadFile ∧ h = .getDocuments ∨ g = .getFileContent ∧ h = .getDocumentInfo

instance (g h : Handler) : Decidable (Shadows g h) := inferInstanceAs (Decidable (_ ∨ _))

theorem pairwise_registered : Handler.registered.Pairwise fun g h =>
    g.method = h.method →
      Routing.apart comparison g.pattern h.pattern = true ∨ Shadows g h := by
  decide +kernel

/-- The handlers that are tried before one. -/
def before (h : Handler) : List Handler :=
  (Handler.registered.filter (·.method = h.method)).takeWhile (· ≠ h)

theorem registered_split (h : Handler) : ∃ after,
    Handler.registered.filter (·.method = h.method) = before h ++ h :: after := by
  have hmem : h ∈ Handler.registered.filter (·.method = h.method) :=
    List.mem_filter.2 ⟨mem_registered h, decide_eq_true rfl⟩
  exact ⟨_, (Routing.takeWhile_append_cons_tail hmem).symm⟩

theorem apart_or_shadows {g h : Handler} (hg : g ∈ before h) :
    Routing.apart comparison g.pattern h.pattern = true ∨ Shadows g h := by
  obtain ⟨after, hsplit⟩ := registered_split h
  have hpairs := pairwise_registered.filter (·.method = h.method)
  rw [hsplit, List.pairwise_append] at hpairs
  have hmethod : g.method = h.method := by
    have hgmem : g ∈ Handler.registered.filter (·.method = h.method) := by
      rw [hsplit]
      exact List.mem_append_left _ hg
    exact of_decide_eq_true (List.mem_filter.1 hgmem).2
  exact hpairs.2.2 g hg h List.mem_cons_self hmethod

/-- The literal that `getFileContent` has where `getDocumentInfo` has its parameter. -/
def contentWord : List Char := "content".toList

/-- The path of a document is taken for that of the content of a file. -/
theorem fit_getFileContent_iff (id : List Char) :
    Routing.fit comparison Handler.getFileContent.pattern
        (Routing.fill Handler.getDocumentInfo.pattern [id]) = none ↔
      id.map Char.toLower ≠ contentWord := by
  have hfile : Handler.getFileContent.pattern =
      [.literal "upload".toList, .param, .literal contentWord] := by decide +kernel
  have hinfo : Handler.getDocumentInfo.pattern =
      [.literal "upload".toList, .literal "documents".toList, .param] := by decide +kernel
  have hdocuments : comparison.key "documents".toList ≠ comparison.blank := by decide
  have hcontent : comparison.key contentWord = contentWord := by decide
  rw [hfile, hinfo]
  simp only [Routing.fill, Routing.fit, if_true, if_neg hdocuments, hcontent]
  by_cases hword : contentWord = comparison.key id
  · simp only [if_pos hword]
    exact iff_of_false (Option.some_ne_none _) fun h => h hword.symm
  · simp only [if_neg hword]
    exact iff_of_true rfl fun h => hword h.symm

variable {params : List (List Char)}

/-- **A handler gets the parameters of its own path**, whatever they are, unless it is
`getDocuments`, or `getDocumentInfo` for a document with the id `content`. -/
theorem route_pathOf_iff (h : Handler) (hlength : params.length = Routing.holes h.pattern)
    (hparams : ∀ t ∈ params, PathText t) {query : List Char}
    (hquery : query.head? = none ∨ query.head? = some '?') :
    route h.method (pathOf h params ++ query) = some (h, params) ↔
      h ≠ .getDocuments ∧
        (h = .getDocumentInfo → params.map (·.map Char.toLower) ≠ [contentWord]) := by
  obtain ⟨after, hsplit⟩ := registered_split h
  have hnodup : (before h ++ h :: after).Nodup := hsplit ▸ nodup_registered.filter _
  have hkeys : ∀ t ∈ params, comparison.key t ≠ comparison.blank :=
    fun t ht hkey => (hparams t ht).1 (List.map_eq_nil_iff.1 hkey)
  rw [route, segments_pathOf h hparams hquery, hsplit,
    Routing.dispatch_fill_iff hnodup hlength hkeys]
  constructor
  · intro hnone
    constructor
    · rintro rfl
      have hfile : Handler.downloadFile ∈ before .getDocuments := by decide +kernel
      obtain rfl := List.length_eq_zero_iff.1 hlength
      exact absurd (hnone _ hfile) (by decide +kernel)
    · rintro rfl
      have hfile : Handler.getFileContent ∈ before .getDocumentInfo := by decide +kernel
      obtain ⟨id, rfl⟩ := List.length_eq_one_iff.1 hlength
      intro hword
      exact (fit_getFileContent_iff id).1 (hnone _ hfile) (List.cons.inj hword).1
  · rintro ⟨hdocuments, hinfo⟩ g hg
    rcases apart_or_shadows hg with hapart | ⟨-, rfl⟩ | ⟨rfl, rfl⟩
    · exact Routing.fit_fill_of_apart hlength hkeys hapart
    · exact absurd rfl hdocuments
    · obtain ⟨id, rfl⟩ := List.length_eq_one_iff.1 hlength
      refine (fit_getFileContent_iff id).2 fun hword => ?_
      exact hinfo rfl (by rw [List.map_singleton, hword])

/-- No request reaches `getDocuments`: its path is taken for that of a file. -/
theorem route_ne_getDocuments (target : List Char) :
    route .get target ≠ some (.getDocuments, params) := by
  obtain ⟨after, hsplit⟩ := registered_split .getDocuments
  have hnodup : (before .getDocuments ++ .getDocuments :: after).Nodup :=
    hsplit ▸ nodup_registered.filter _
  have hne := Routing.dispatch_ne_of_covers (g := .downloadFile) hnodup (by decide +kernel)
    (by decide +kernel : Routing.covers comparison Handler.downloadFile.pattern
      Handler.getDocuments.pattern = true) (segments target) params
  rw [route]
  exact hsplit ▸ hne

/-- **Every handler but `getDocuments` is reached** by some request. -/
theorem reached_iff (h : Handler) :
    (∃ target params, route h.method target = some (h, params)) ↔ h ≠ .getDocuments := by
  constructor
  · rintro ⟨target, params, hroute⟩ rfl
    exact route_ne_getDocuments target hroute
  · intro hne
    have hparams : ∀ t ∈ List.replicate (Routing.holes h.pattern) ['1'], PathText t := by
      intro t ht
      rw [List.eq_of_mem_replicate ht]
      decide
    refine ⟨pathOf h (List.replicate (Routing.holes h.pattern) ['1']) ++ [], _,
      (route_pathOf_iff h List.length_replicate hparams (.inl rfl)).2 ⟨hne, ?_⟩⟩
    rintro rfl
    decide +kernel

end Http

end StudyOasis
