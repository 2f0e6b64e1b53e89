import StudyOasis.Focus.Progress
import StudyOasis.Http.Cache

/-!
# The data of other users

The `GET` routes that ask for authentication, behind the cache.  The cache key leaves out the user,
so a user who asks for a URL that someone else has asked for is answered with the other one's data.
What Supabase knows of a user at a time, and the order in which a query answers with sessions that
were started together, are parameters.

* `responses_isolated` : as long as no lookup for the user finds such an entry, and no session of
  the user has a document of someone else as its completion proof, what the user receives was
  computed for the user and does not depend on what the rows of another user say.
-/

namespace StudyOasis

namespace Http

/-- The guarded `GET` routes, with their parameters. -/
inductive Route where
  /-- `focus/sessions/:id`. -/
  | session (sessionId : String)
  /-- `focus/sessions/:id/analytics`. -/
  | analytics (sessionId : String)
  /-- `focus/sessions`. -/
  | sessions (options : FocusService.ListOptions)
  /-- `gamification/progress`. -/
  | progress
  /-- `notifications/banners`. -/
  | banners
  /-- `auth/session`. -/
  | authSession
  deriving DecidableEq

/-- What the guard puts into a request beside the id of the user; the metadata are JSON. -/
structure AuthUser where
  email : Option String := none
  aud : Option String := none
  role : Option String := none
  appMetadata : Option String := none
  userMetadata : Option String := none
  deriving DecidableEq

/-- What `AuthController.getSession` returns. -/
structure AuthSession where
  id : String
  user : AuthUser
  issuedAt : String
  deriving DecidableEq

/-- What the handlers return. -/
inductive Body where
  | session (s : SessionWithDistractions)
  | analytics (a : FocusSessionAnalytics)
  | sessions (page : SessionPage)
  | progress (p : GamificationProgress)
  | banners (bs : List ReminderBanner)
  | authSession (session : AuthSession)
  deriving DecidableEq

/-- What is outside of the server. -/
structure Outside where
  /-- What Supabase knows of a user, at a time. -/
  getUser : String → ℕ → AuthUser
  /-- The order in which a query answers. -/
  order : ∀ rows : List FocusSession, QueryOrder (fun s : FocusSession => s.startTime) rows

/-- The handlers of `FocusController`, `GamificationController`, `NotificationsController` and
`AuthController`, for the user that the guard has put into the request. -/
def handle (w : Outside) (route : Route) (userId : String) (now : ℕ) (db : FocusDb) :
    Except HandlerError Body :=
  match route with
  | .session sessionId => (FocusService.getSession db sessionId userId).map .session
  | .analytics sessionId => (FocusService.getSessionAnalytics db sessionId userId).map .analytics
  | .sessions options => (FocusService.getUserSessions db userId options).map .sessions
  | .progress => .ok (.progress (GamificationService.getUserProgress db userId (w.order _)))
  | .banners =>
    .ok (.banners (NotificationsService.getReminderBanners db userId (w.order _) now))
  | .authSession => .ok (.authSession ⟨userId, w.getUser userId now, toISOString now⟩)

/-- The application; every body is an object. -/
def api (w : Outside) (cacheTtl : ℕ) : Api String Route FocusDb Body HandlerError :=
  { cacheTtl, handle := handle w, isObject := fun _ => true }

/-- The data differs only in what the rows of `u` say, and `v` does not use documents of `u`. -/
structure DifferFor (u v : String) (db db' : FocusDb) : Prop where
  rows : DifferOnlyIn u db db'
  proofs : OwnProofs v u db db'

/-- The same event in two runs; the data that is written may differ in what the rows of `u`
say. -/
inductive SameButData (u v : String) :
    Event String Route FocusDb → Event String Route FocusDb → Prop
  | refl (e : Event String Route FocusDb) : SameButData u v e e
  | write {db db' : FocusDb} : DifferFor u v db db' → SameButData u v (.write db) (.write db')

variable {u v : String} {w : Outside}

/-- No handler tells such data apart. -/
theorem DifferFor.agree {db db' : FocusDb} (h : DifferFor u v db db') (hv : v ≠ u)
    (cacheTtl : ℕ) : Agree (api w cacheTtl) v db db' := by
  intro route now
  show handle w route v now db = handle w route v now db'
  cases route with
  | session sessionId => rw [handle, handle, FocusService.getSession_agree h.rows hv]
  | analytics sessionId =>
    rw [handle, handle, FocusService.getSessionAnalytics_agree h.rows hv h.proofs]
  | sessions options => rw [handle, handle, FocusService.getUserSessions_agree h.rows hv]
  | progress => rw [handle, handle, getUserProgress_agree w.order h.rows hv]
  | banners => rw [handle, handle, getReminderBanners_agree w.order h.rows hv]
  | authSession => rfl

theorem SameButData.sameEvent (hv : v ≠ u) (cacheTtl : ℕ) {e f : Event String Route FocusDb}
    (h : SameButData u v e f) : SameEvent (api w cacheTtl) v e f := by
  cases h with
  | refl => exact .refl e
  | write h => exact .write (h.agree hv cacheTtl)

/-- **Isolation**: in a run in which no lookup for `v` finds a live entry of someone else, every
body that `v` receives was computed for `v`; and in two such runs that differ only in what the
rows of `u` say, `v` receives the same. -/
theorem responses_isolated (hv : v ≠ u) (cacheTtl : ℕ) {db db' : FocusDb}
    {es fs : List (Event String Route FocusDb)}
    {s t : Server String Route FocusDb Body HandlerError}
    (hs : Run (Server.step (api w cacheTtl)) (OwnEntries v) (Server.started db) es s)
    (ht : Run (Server.step (api w cacheTtl)) (OwnEntries v) (Server.started db') fs t)
    (hdb : DifferFor u v db db') (hes : List.Forall₂ (SameButData u v) es fs) :
    (∀ d ∈ s.deliveries, d.user = v → ∀ body, d.result = .ok body →
      ∃ es₁ es₂ r, es = es₁ ++ es₂ ∧
        Run (Server.step (api w cacheTtl)) (OwnEntries v) (Server.started db) es₁ r ∧
          Computes (api w cacheTtl) r (v, d.request.generateCacheKey, body)) ∧
      s.deliveredTo v = t.deliveredTo v :=
  ⟨fun _ hd hdv _ hb => computed_for_user hs hd hdv hb,
    noninterference hs ht (hdb.agree hv cacheTtl) (hes.imp fun _ _ h => h.sameEvent hv cacheTtl)⟩

/-! ### Two users and one URL -/

/-- A database with one session, which belongs to `u`. -/
def oneSession (questionsAsked : ℤ) : FocusDb :=
  { focusSession :=
      [{ FocusService.newSession "s" 0 "u" none none with questionsAsked }]
    focusDistraction := []
    document := [] }

theorem differFor_oneSession (n n' : ℤ) : DifferFor "u" "v" (oneSession n) (oneSession n') where
  rows :=
    { uniqueIds := List.nodup_singleton _
      uniqueIds' := List.nodup_singleton _
      sessions := rfl
      sessionIds := fun id => by simp [oneSession, FocusService.newSession]
      distractions := fun _ _ _ => rfl
      documents := rfl }
  proofs := by
    intro s hs hv
    obtain rfl := List.mem_singleton.1 hs
    have hu : some "u" = some "v" := hv
    exact absurd hu (by decide)

/-- `GET focus/sessions`. -/
def listSessions : Request Route :=
  { method := "GET", url := "/focus/sessions", query := "\x7b\x7d", route := .sessions {} }

/-- Entries live for a minute, and nothing is known of the users. -/
abbrev minuteApi : Api String Route FocusDb Body HandlerError :=
  api ⟨fun _ _ => {}, QueryOrder.stable _⟩ 60000

/-- The second user asks when the entry of the first one has expired. -/
theorem responses_isolated_expired : ∃ es s t,
    Run (Server.step minuteApi) (OwnEntries "v") (Server.started (oneSession 0)) es s ∧
      Run (Server.step minuteApi) (OwnEntries "v") (Server.started (oneSession 1)) es t ∧
        (s.deliveredTo "v").length = 1 ∧ s.deliveredTo "v" = t.deliveredTo "v" := by
  have hs : Run (Server.step minuteApi) (OwnEntries "v") (Server.started (oneSession 0))
      [.request "u" listSessions, .handle 0, .store 0, .elapse 60000, .request "v" listSessions,
        .handle 1] _ :=
    .cons (by decide) rfl (.cons (by decide) rfl (.cons (by decide) rfl (.cons (by decide) rfl
      (.cons (by decide) rfl (.single (by decide) rfl)))))
  have ht : Run (Server.step minuteApi) (OwnEntries "v") (Server.started (oneSession 1))
      [.request "u" listSessions, .handle 0, .store 0, .elapse 60000, .request "v" listSessions,
        .handle 1] _ :=
    .cons (by decide) rfl (.cons (by decide) rfl (.cons (by decide) rfl (.cons (by decide) rfl
      (.cons (by decide) rfl (.single (by decide) rfl)))))
  exact ⟨_, _, _, hs, ht, by decide, (responses_isolated (by decide) 60000 hs ht
    (differFor_oneSession 0 1) (List.forall₂_same.2 fun _ _ => .refl _)).2⟩

/-- The questions that the sessions in an answer count. -/
def questionsRead : Except HandlerError Body → List ℤ
  | .ok (.sessions page) => page.data.map fun x => x.1.questionsAsked
  | _ => []

/-- The second user asks while the entry of the first one is alive, and receives the sessions of
the first one. -/
theorem foreign_sessions_delivered :
    ¬ ∀ (w : Outside) (u v : String) (cacheTtl : ℕ) (db db' : FocusDb)
      (es fs : List (Event String Route FocusDb))
      (s t : Server String Route FocusDb Body HandlerError), v ≠ u →
      AnyRun (Server.step (api w cacheTtl)) (Server.started db) es s →
      AnyRun (Server.step (api w cacheTtl)) (Server.started db') fs t →
      DifferFor u v db db' → List.Forall₂ (SameButData u v) es fs →
      (∀ d ∈ s.deliveries, d.user = v → ∀ body, d.result = .ok body →
        ∃ es₁ es₂ r, es = es₁ ++ es₂ ∧
          AnyRun (Server.step (api w cacheTtl)) (Server.started db) es₁ r ∧
            Computes (api w cacheTtl) r (v, d.request.generateCacheKey, body)) ∧
        s.deliveredTo v = t.deliveredTo v := by
  intro h
  have run (n : ℤ) : AnyRun (Server.step minuteApi) (Server.started (oneSession n))
      [.request "u" listSessions, .handle 0, .store 0, .request "v" listSessions] _ :=
    .cons trivial rfl (.cons trivial rfl (.cons trivial rfl (.single trivial rfl)))
  have hsame := (h _ "u" "v" 60000 _ _ _ _ _ _ (by decide) (run 0) (run 1)
    (differFor_oneSession 0 1) (List.forall₂_same.2 fun _ _ => .refl _)).2
  -- the two runs are told apart by the questions that the second user reads
  have hasked := congrArg (List.map fun d => questionsRead d.result) hsame
  revert hasked
  decide

end Http

end StudyOasis
