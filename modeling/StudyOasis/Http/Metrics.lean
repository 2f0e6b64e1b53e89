import Mathlib.Algebra.Order.Group.Multiset
import Mathlib.Algebra.Order.Ring.Rat
import Mathlib.Data.List.Forall2
import Mathlib.Tactic.Abel
import StudyOasis.Http.Cache

/-!
# The interceptors around the cache

`LoggingInterceptor` is the outermost one, then comes `HttpCacheInterceptor`, and
`MetricsInterceptor` is the innermost: a request that the cache answers is logged but not measured.
A request is received, later the cache answers it or a call of the handler begins, and later that
call ends; other requests come in between.

* `server_run` : the interceptors do not disturb the server of `Http.Cache`;
* `moves_step` : what a step does to the requests, the handlers, the answers and the lines;
* `accounts_run` : **in every state the gauge is the number of handlers that are running**, a
  counter is the number of handlers that have ended with its labels, every request that was logged
  is waiting for the cache, being handled, or answered, and the second lines of the log belong to
  the answers, one by one.
-/

namespace StudyOasis

/-! ### What stands at some places -/

section Listed

variable {A C : Type*} {g : A → Option C} {f : ℕ → A} {i n : ℕ}

/-- What stands at the places below `n`. -/
def listed (g : A → Option C) (f : ℕ → A) (n : ℕ) : List C := (List.range n).filterMap (g ∘ f)

theorem listed_succ : listed g f (n + 1) = listed g f n ++ (g (f n)).toList := by
  rw [listed, List.range_succ, List.filterMap_append, List.filterMap_cons]
  cases h : (g ∘ f) n <;> simp_all [listed]

/-- A place that is not below `n` does not matter. -/
theorem listed_update_of_le (h : n ≤ i) (a : A) :
    listed g (Function.update f i a) n = listed g f n := by
  refine List.filterMap_congr fun j hj => ?_
  have hne : j ≠ i := ((List.mem_range.1 hj).trans_le h).ne
  rw [Function.comp_apply, Function.comp_apply, Function.update_of_ne hne]

/-- A new place. -/
theorem listed_update_self (a : A) :
    listed g (Function.update f n a) (n + 1) = listed g f n ++ (g a).toList := by
  rw [listed_succ, listed_update_of_le le_rfl, Function.update_self]

theorem append_right_comm_perm (l a b : List C) : (l ++ a ++ b).Perm (l ++ b ++ a) := by
  rw [List.append_assoc, List.append_assoc]
  exact List.perm_append_comm.append_left l

/-- One place changes. -/
theorem listed_update (hi : i < n) (a : A) :
    (listed g f n ++ (g a).toList).Perm
      (listed g (Function.update f i a) n ++ (g (f i)).toList) := by
  induction n with
  | zero => exact absurd hi (Nat.not_lt_zero i)
  | succ n ih =>
    rcases Nat.lt_succ_iff_lt_or_eq.1 hi with hlt | rfl
    · -- the last place stays as it is, and the others are exchanged in front of it
      have hlast : Function.update f i a n = f n := Function.update_of_ne hlt.ne' a f
      rw [listed_succ, listed_succ, hlast]
      refine (append_right_comm_perm ..).trans ?_
      refine ((ih hlt).append_right _).trans ?_
      exact append_right_comm_perm ..
    · rw [listed_update_self, listed_succ]
      exact append_right_comm_perm ..

/-- A place that says nothing, before and after. -/
theorem listed_update_of_none {a : A} (hi : g (f i) = none) (ha : g a = none) :
    listed g (Function.update f i a) n = listed g f n := by
  refine List.filterMap_congr fun j _ => ?_
  rw [Function.comp_apply, Function.comp_apply, Function.update_apply]
  split_ifs with hj
  · rw [hj, hi, ha]
  · rfl

end Listed

namespace Http

/-! ### The interceptors -/

/-- The labels of a request in the metrics. -/
structure Labels where
  method : String
  route : String
  status_code : ℕ
  deriving DecidableEq

/-- `MetricsService`, as far as requests are concerned. -/
structure MetricsService where
  activeConnections : ℤ := 0
  httpRequestCounter : Labels → ℕ := fun _ => 0
  /-- The durations that were observed, in seconds. -/
  httpRequestDuration : Labels → List ℚ := fun _ => []

namespace MetricsService

/-- `incrementActiveConnections`. -/
def incrementActiveConnections (m : MetricsService) : MetricsService :=
  { m with activeConnections := m.activeConnections + 1 }

/-- `decrementActiveConnections`. -/
def decrementActiveConnections (m : MetricsService) : MetricsService :=
  { m with activeConnections := m.activeConnections - 1 }

/-- `recordHttpRequest`. -/
def recordHttpRequest (m : MetricsService) (labels : Labels) (duration : ℚ) : MetricsService :=
  { m with
    httpRequestCounter :=
      Function.update m.httpRequestCounter labels (m.httpRequestCounter labels + 1)
    httpRequestDuration :=
      Function.update m.httpRequestDuration labels (m.httpRequestDuration labels ++ [duration]) }

end MetricsService

/-- The lines of `LoggingInterceptor`. -/
inductive LogLine where
  | incoming (method url : String)
  | success (method url : String) (statusCode responseTime : ℕ)
  | error (method url : String) (statusCode responseTime : ℕ)
  deriving DecidableEq

/-- The line for a request that comes in. -/
def LogLine.Incoming : LogLine → Prop
  | incoming _ _ => True
  | success _ _ _ _ => False
  | error _ _ _ _ => False

instance : DecidablePred LogLine.Incoming := fun line =>
  match line with
  | .incoming _ _ => .isTrue trivial
  | .success _ _ _ _ => .isFalse id
  | .error _ _ _ _ => .isFalse id

/-- What the interceptors read of the routes and of the errors. -/
structure Instruments (R X : Type*) where
  /-- `request.route?.path`. -/
  routePath : R → Option String
  /-- `response.statusCode`. -/
  statusCode : R → ℕ
  /-- `error.status`. -/
  errorStatus : X → Option ℕ

variable {U R D B X : Type*}

/-- The status that is recorded for a result. -/
def Instruments.status (tools : Instruments R X) (request : Request R) : Except X B → ℕ
  | .ok _ => tools.statusCode request.route
  | .error e => ((tools.errorStatus e).filter (· ≠ 0)).getD 500

/-- The labels that are recorded for a result. -/
def Instruments.labels (tools : Instruments R X) (request : Request R) (result : Except X B) :
    Labels where
  method := request.method
  route := ((tools.routePath request.route).filter (· ≠ "")).getD request.url
  status_code := tools.status request result

/-- The line that is logged at the end of a request. -/
def Instruments.line (tools : Instruments R X) (request : Request R) (result : Except X B)
    (responseTime : ℕ) : LogLine :=
  match result with
  | .ok _ => .success request.method request.url (tools.status request result) responseTime
  | .error _ => .error request.method request.url (tools.status request result) responseTime

/-- A request that `LoggingInterceptor` has passed on. -/
structure Received (U R : Type*) where
  user : U
  request : Request R
  startTime : ℕ

/-- The server with its interceptors. -/
structure Pipeline (U R D B X : Type*) where
  server : Server U R D B X
  /-- The requests that wait for the cache. -/
  waiting : ℕ → Option (Received U R) := fun _ => none
  received : ℕ := 0
  /-- History: the requests that were received. -/
  arrived : List (U × Request R) := []
  /-- The `startTime` of a call in `LoggingInterceptor` and in `MetricsInterceptor`. -/
  startTimes : ℕ → ℕ × ℕ := fun _ => (0, 0)
  metrics : MetricsService := {}
  logs : List LogLine := []
  /-- History: the calls of handlers that have ended. -/
  handled : List (Request R × Except X B) := []
  /-- History: the number of requests that the cache has answered. -/
  hits : ℕ := 0

/-- One step of the server with its interceptors. -/
inductive PipelineEvent (U R D : Type*) where
  /-- A request has passed the guard. -/
  | receive (user : U) (request : Request R)
  /-- The cache has been asked for a request. -/
  | lookup (n : ℕ)
  /-- The handler of a call ends. -/
  | handle (call : ℕ)
  /-- The write to the cache of a call takes effect. -/
  | store (call : ℕ)
  /-- The data changes. -/
  | write (data : D)
  /-- Time passes. -/
  | elapse (ms : ℕ)

namespace Pipeline

variable (api : Api U R D B X) (tools : Instruments R X)

/-- `LoggingInterceptor.intercept`. -/
def receive (s : Pipeline U R D B X) (user : U) (request : Request R) : Pipeline U R D B X :=
  { s with
    waiting := Function.update s.waiting s.received (some ⟨user, request, s.server.now⟩)
    received := s.received + 1
    arrived := s.arrived ++ [(user, request)]
    logs := s.logs ++ [.incoming request.method request.url] }

/-- `HttpCacheInterceptor.intercept` after the cache has answered; without a response
`MetricsInterceptor.intercept` begins. -/
def lookup (s : Pipeline U R D B X) (n : ℕ) (r : Received U R) : Pipeline U R D B X :=
  let s' := { s with
    waiting := Function.update s.waiting n none
    server := s.server.next api (.request r.user r.request) }
  match s.server.cached r.request with
  | some entry =>
    { s' with
      logs := s.logs ++
        [tools.line r.request (.ok entry.value : Except X B) (s.server.now - r.startTime)]
      hits := s.hits + 1 }
  | none =>
    { s' with
      startTimes := Function.update s.startTimes s.server.nextCall (r.startTime, s.server.now)
      metrics := s.metrics.incrementActiveConnections }

/-- The `tap` of `MetricsInterceptor`, and then that of `LoggingInterceptor`. -/
def finish (s : Pipeline U R D B X) (i : ℕ) (user : U) (request : Request R) :
    Pipeline U R D B X :=
  let result := api.handle request.route user s.server.now s.server.data
  { s with
    server := s.server.next api (.handle i)
    metrics := (s.metrics.recordHttpRequest (tools.labels request result)
      ((s.server.now - (s.startTimes i).2 : ℕ) / 1000)).decrementActiveConnections
    logs := s.logs ++ [tools.line request result (s.server.now - (s.startTimes i).1)]
    handled := s.handled ++ [(request, result)] }

/-- One step. -/
def step (s : Pipeline U R D B X) : PipelineEvent U R D → Option (Pipeline U R D B X)
  | .receive user request => some (s.receive user request)
  | .lookup n => (s.waiting n).map (s.lookup api tools n)
  | .handle i =>
    match s.server.calls i with
    | some (.handling user request) => some (s.finish api tools i user request)
    | _ => none
  | .store i => some { s with server := s.server.next api (.store i) }
  | .write data => some { s with server := s.server.next api (.write data) }
  | .elapse ms => some { s with server := s.server.next api (.elapse ms) }

/-- A server that has just been started. -/
def started (data : D) : Pipeline U R D B X := { server := Server.started data }

end Pipeline

/-! ### The server is not disturbed -/

variable {api : Api U R D B X} {tools : Instruments R X} {s s' : Pipeline U R D B X}
  {es : List (PipelineEvent U R D)} {data : D}

/-- A request that waits for the cache. -/
def Received.asked : Option (Received U R) → Option (U × Request R) :=
  Option.map fun r => (r.user, r.request)

/-- A call that is with its handler. -/
def Call.running : Option (Call U R B) → Option (U × Request R)
  | some (.handling user request) => some (user, request)
  | some (.storing _ _ _) => none
  | none => none

/-- The user and the request of a response. -/
def Delivery.asked (d : Delivery U R B X) : U × Request R := (d.user, d.request)

/-- What can be told of a server with its interceptors. -/
@[ext]
structure Books (U R B X : Type*) where
  arrived : List (U × Request R)
  /-- The requests that wait for the cache. -/
  pending : List (U × Request R)
  /-- The requests whose handlers are running. -/
  inFlight : List (U × Request R)
  deliveries : List (Delivery U R B X)
  hits : ℕ
  handled : List (Request R × Except X B)
  logs : List LogLine
  activeConnections : ℤ

/-- The books of a state. -/
def Pipeline.books (s : Pipeline U R D B X) : Books U R B X where
  arrived := s.arrived
  pending := listed Received.asked s.waiting s.received
  inFlight := listed Call.running s.server.calls s.server.nextCall
  deliveries := s.server.deliveries
  hits := s.hits
  handled := s.handled
  logs := s.logs
  activeConnections := s.metrics.activeConnections

/-- What a step does to the books. -/
inductive Books.Moves (tools : Instruments R X) (l : Books U R B X) : Books U R B X → Prop
  /-- A request comes in and is logged. -/
  | received (user : U) (request : Request R) : l.Moves tools
      { l with
        arrived := l.arrived ++ [(user, request)]
        pending := l.pending ++ [(user, request)]
        logs := l.logs ++ [.incoming request.method request.url] }
  /-- The cache answers a request, which is logged and not measured. -/
  | cached {pending : List (U × Request R)} (d : Delivery U R B X) (ms : ℕ)
      (h : l.pending.Perm (pending ++ [d.asked])) : l.Moves tools
      { l with
        pending
        deliveries := l.deliveries ++ [d]
        hits := l.hits + 1
        logs := l.logs ++ [tools.line d.request d.result ms] }
  /-- A handler begins. -/
  | begun {pending : List (U × Request R)} (x : U × Request R)
      (h : l.pending.Perm (pending ++ [x])) : l.Moves tools
      { l with
        pending
        inFlight := l.inFlight ++ [x]
        activeConnections := l.activeConnections + 1 }
  /-- A handler ends; the request is logged. -/
  | ended {inFlight : List (U × Request R)} (d : Delivery U R B X) (ms : ℕ)
      (h : l.inFlight.Perm (inFlight ++ [d.asked])) : l.Moves tools
      { l with
        inFlight
        deliveries := l.deliveries ++ [d]
        handled := l.handled ++ [(d.request, d.result)]
        logs := l.logs ++ [tools.line d.request d.result ms]
        activeConnections := l.activeConnections - 1 }
  /-- Nothing that is told of. -/
  | same : l.Moves tools l

/-- The line is that of the response. -/
def LogLine.Of (tools : Instruments R X) (line : LogLine) (d : Delivery U R B X) : Prop :=
  ∃ ms, line = tools.line d.request d.result ms

/-- The books agree. -/
structure Books.Balanced (tools : Instruments R X) (l : Books U R B X) : Prop where
  /-- The gauge is the number of handlers that are running. -/
  gauge : l.activeConnections = l.inFlight.length
  /-- No request is lost. -/
  requests : l.arrived.Perm (l.pending ++ l.inFlight ++ l.deliveries.map (·.asked))
  /-- What is answered comes from the cache or from a handler. -/
  answered : l.deliveries.length = l.hits + l.handled.length
  handled : l.handled.Sublist (l.deliveries.map fun d => (d.request, d.result))
  /-- Every request is logged when it comes in, -/
  incoming : l.logs.filter (fun line => line.Incoming) =
    l.arrived.map fun x => .incoming x.2.method x.2.url
  /-- and once more when it is answered. -/
  lines : List.Forall₂ (LogLine.Of tools) (l.logs.filter fun line => ¬ line.Incoming) l.deliveries

@[simp] theorem incoming_line (request : Request R) (result : Except X B) (ms : ℕ) :
    ¬ (tools.line request result ms).Incoming := by
  cases result <;> exact id

/-- A response is logged behind the others. -/
theorem lines_concat {logs : List LogLine} {deliveries : List (Delivery U R B X)}
    (h : List.Forall₂ (LogLine.Of tools) (logs.filter fun line => ¬ line.Incoming) deliveries)
    (d : Delivery U R B X) (ms : ℕ) :
    List.Forall₂ (LogLine.Of tools)
      ((logs ++ [tools.line d.request d.result ms]).filter fun line => ¬ line.Incoming)
      (deliveries ++ [d]) := by
  rw [List.filter_append, List.filter_cons_of_pos (by simp), List.filter_nil]
  exact List.rel_append h (.cons ⟨ms, rfl⟩ .nil)

theorem Books.Balanced.moves {l l' : Books U R B X} (h : l.Balanced tools)
    (hm : l.Moves tools l') : l'.Balanced tools := by
  obtain ⟨hgauge, hrequests, hanswered, hhandled, hincoming, hlines⟩ := h
  have hmulti : (l.arrived : Multiset (U × Request R)) =
      l.pending + l.inFlight + (l.deliveries.map (·.asked) : List (U × Request R)) := by
    rw [Multiset.coe_add, Multiset.coe_add]
    exact Multiset.coe_eq_coe.2 hrequests
  have hnew (user : U) (request : Request R) :
      (LogLine.incoming request.method request.url).Incoming := trivial
  cases hm with
  | received user request =>
    refine ⟨hgauge, ?_, hanswered, hhandled, ?_, ?_⟩
    · refine Multiset.coe_eq_coe.1 ?_
      simp only [← Multiset.coe_add, hmulti]
      abel
    · simp [hincoming, hnew user request]
    · simpa [hnew user request] using hlines
  | cached d ms hp =>
    refine ⟨hgauge, ?_, ?_, ?_, ?_, lines_concat hlines d ms⟩
    · have hp' := Multiset.coe_eq_coe.2 hp
      refine Multiset.coe_eq_coe.1 ?_
      simp only [← Multiset.coe_add, List.map_append, List.map_singleton, hmulti, hp']
      abel
    · simp only [List.length_append, List.length_singleton]
      omega
    · rw [List.map_append]
      exact hhandled.trans (List.sublist_append_left _ _)
    · simp [hincoming]
  | begun x hp =>
    refine ⟨?_, ?_, hanswered, hhandled, hincoming, hlines⟩
    · simp only [List.length_append, List.length_singleton, hgauge]
      omega
    · have hp' := Multiset.coe_eq_coe.2 hp
      refine Multiset.coe_eq_coe.1 ?_
      simp only [← Multiset.coe_add, hmulti, hp']
      abel
  | ended d ms hp =>
    refine ⟨?_, ?_, ?_, ?_, ?_, lines_concat hlines d ms⟩
    · have hlen := hp.length_eq
      simp only [List.length_append, List.length_singleton] at hlen
      dsimp only
      omega
    · have hp' := Multiset.coe_eq_coe.2 hp
      refine Multiset.coe_eq_coe.1 ?_
      simp only [← Multiset.coe_add, List.map_append, List.map_singleton, hmulti, hp']
      abel
    · simp only [List.length_append, List.length_singleton]
      omega
    · rw [List.map_append, List.map_singleton]
      exact hhandled.append (List.Sublist.refl _)
    · simp [hincoming]
  | same => exact ⟨hgauge, hrequests, hanswered, hhandled, hincoming, hlines⟩

/-- The numbers of calls and of requests that are not yet given stand for nothing. -/
structure Tidy (api : Api U R D B X) (s : Pipeline U R D B X) : Prop where
  wellTimed : WellTimed api s.server
  fresh : ∀ n, s.received ≤ n → s.waiting n = none

theorem Tidy.next (h : Tidy api s) (e : Event U R D) : WellTimed api (s.server.next api e) :=
  wellTimed_step h.wellTimed rfl

/-! ### The cache answers, or a handler begins -/

section Lookup

variable {n : ℕ} {r : Received U R}

/-- What is left of the requests that wait when the cache has been asked for one. -/
theorem pending_of_waiting (h : Tidy api s) (hr : s.waiting n = some r) :
    s.books.pending.Perm ((s.lookup api tools n r).books.pending ++ [(r.user, r.request)]) := by
  have hn : n < s.received := by
    by_contra hn
    rw [h.fresh n (Nat.le_of_not_lt hn)] at hr
    cases hr
  have hlist := listed_update (g := Received.asked) (f := s.waiting) hn none
  rw [hr, show Received.asked (none : Option (Received U R)) = none from rfl, Option.toList_none,
    List.append_nil] at hlist
  unfold Pipeline.lookup
  split
  · exact hlist
  · exact hlist

theorem moves_cached {entry : Entry U B} (h : Tidy api s) (hr : s.waiting n = some r)
    (hentry : s.server.cached r.request = some entry) :
    s.books.Moves tools (s.lookup api tools n r).books := by
  have hlookup : s.lookup api tools n r = { s with
      waiting := Function.update s.waiting n none
      server := { s.server.deliver ⟨r.user, r.request, .ok entry.value⟩ with
        nextCall := s.server.nextCall + 1 }
      logs := s.logs ++
        [tools.line r.request (.ok entry.value : Except X B) (s.server.now - r.startTime)]
      hits := s.hits + 1 } := by
    rw [Pipeline.lookup, hentry, Server.next, Server.intercept_of_cached hentry]
  have hflight : (s.lookup api tools n r).books.inFlight = s.books.inFlight := by
    -- the number that is given away stands for no call
    rw [Pipeline.books, hlookup]
    show listed Call.running s.server.calls (s.server.nextCall + 1) = _
    rw [listed_succ, h.wellTimed.fresh _ (Nat.le_refl _)]
    exact List.append_nil _
  have hbooks : (s.lookup api tools n r).books =
      { s.books with
        pending := (s.lookup api tools n r).books.pending
        deliveries := s.books.deliveries ++ [⟨r.user, r.request, .ok entry.value⟩]
        hits := s.books.hits + 1
        logs := s.books.logs ++
          [tools.line r.request (.ok entry.value : Except X B) (s.server.now - r.startTime)] } := by
    rw [hlookup] at hflight ⊢
    exact Books.ext rfl rfl hflight rfl rfl rfl rfl rfl
  rw [hbooks]
  exact .cached _ _ (pending_of_waiting h hr)

theorem moves_begun (h : Tidy api s) (hr : s.waiting n = some r)
    (hentry : s.server.cached r.request = none) :
    s.books.Moves tools (s.lookup api tools n r).books := by
  have hlookup : s.lookup api tools n r = { s with
      waiting := Function.update s.waiting n none
      server := { s.server.setCall s.server.nextCall (some (.handling r.user r.request)) with
        nextCall := s.server.nextCall + 1 }
      startTimes := Function.update s.startTimes s.server.nextCall (r.startTime, s.server.now)
      metrics := s.metrics.incrementActiveConnections } := by
    rw [Pipeline.lookup, hentry, Server.next, Server.intercept_of_not_cached hentry]
  have hflight : (s.lookup api tools n r).books.inFlight =
      s.books.inFlight ++ [(r.user, r.request)] := by
    rw [Pipeline.books, hlookup]
    exact listed_update_self _
  have hbooks : (s.lookup api tools n r).books =
      { s.books with
        pending := (s.lookup api tools n r).books.pending
        inFlight := s.books.inFlight ++ [(r.user, r.request)]
        activeConnections := s.books.activeConnections + 1 } := by
    rw [← hflight, hlookup]
    rfl
  rw [hbooks]
  exact .begun _ (pending_of_waiting h hr)

end Lookup

/-! ### A handler ends -/

section Finish

variable {i : ℕ} {user : U} {request : Request R}

/-- What a call leaves behind is not with its handler. -/
theorem running_toStore (result : Except X B) :
    Call.running (Server.toStore api user request result) = none := by
  unfold Server.toStore
  split
  · split_ifs
    · rfl
    · rfl
  · rfl

theorem next_handle (hi : s.server.calls i = some (.handling user request)) :
    s.server.next api (.handle i) =
      let result := api.handle request.route user s.server.now s.server.data
      (s.server.deliver ⟨user, request, result⟩).setCall i
        (Server.toStore api user request result) := by
  simp only [Server.next, Server.handle, hi]

theorem moves_finish (h : Tidy api s) (hi : s.server.calls i = some (.handling user request)) :
    s.books.Moves tools (s.finish api tools i user request).books := by
  have hlt : i < s.server.nextCall := by
    by_contra hlt
    rw [h.wellTimed.fresh i (Nat.le_of_not_lt hlt)] at hi
    cases hi
  let result := api.handle request.route user s.server.now s.server.data
  have hflight : s.books.inFlight.Perm
      ((s.finish api tools i user request).books.inFlight ++ [(user, request)]) := by
    have hlist := listed_update (g := Call.running) (f := s.server.calls) hlt
      (Server.toStore api user request result)
    rw [running_toStore, hi, Option.toList_none, List.append_nil] at hlist
    rw [Pipeline.books, Pipeline.books, Pipeline.finish, next_handle hi]
    exact hlist
  have hbooks : (s.finish api tools i user request).books =
      { s.books with
        inFlight := (s.finish api tools i user request).books.inFlight
        deliveries := s.books.deliveries ++ [⟨user, request, result⟩]
        handled := s.books.handled ++ [(request, result)]
        logs := s.books.logs ++
          [tools.line request result (s.server.now - (s.startTimes i).1)]
        activeConnections := s.books.activeConnections - 1 } := by
    simp only [Pipeline.books, Pipeline.finish, next_handle hi]
    rfl
  rw [hbooks]
  exact .ended ⟨user, request, result⟩ _ hflight

end Finish

/-! ### Every step -/

/-- The write to the cache is not told of. -/
theorem books_store (s : Pipeline U R D B X) (i : ℕ) :
    ({ s with server := s.server.next api (.store i) } : Pipeline U R D B X).books = s.books := by
  simp only [Server.next, Server.store]
  split
  · rename_i user key value hi
    have hrunning : Call.running (s.server.calls i) = none := by rw [hi, Call.running]
    exact Books.ext rfl rfl (listed_update_of_none hrunning rfl) rfl rfl rfl rfl rfl
  · rfl

/-- What one step does to the books. -/
theorem moves_step {e : PipelineEvent U R D} (h : Tidy api s)
    (hst : s.step api tools e = some s') : s.books.Moves tools s'.books := by
  cases e with
  | receive user request =>
    obtain rfl := Option.some.inj hst
    have hpending : (s.receive user request).books.pending =
        s.books.pending ++ [(user, request)] := listed_update_self _
    have hbooks : (s.receive user request).books =
        { s.books with
          arrived := s.books.arrived ++ [(user, request)]
          pending := s.books.pending ++ [(user, request)]
          logs := s.books.logs ++ [.incoming request.method request.url] } :=
      Books.ext rfl hpending rfl rfl rfl rfl rfl rfl
    rw [hbooks]
    exact .received user request
  | lookup n =>
    obtain ⟨r, hr, rfl⟩ := Option.map_eq_some_iff.1 hst
    cases hentry : s.server.cached r.request with
    | none => exact moves_begun h hr hentry
    | some entry => exact moves_cached h hr hentry
  | handle i =>
    simp only [Pipeline.step] at hst
    split at hst
    · rename_i user request hi
      obtain rfl := Option.some.inj hst
      exact moves_finish h hi
    · cases hst
  | store i =>
    obtain rfl := Option.some.inj hst
    rw [books_store]
    exact .same
  | write data =>
    obtain rfl := Option.some.inj hst
    exact .same
  | elapse ms =>
    obtain rfl := Option.some.inj hst
    exact .same

end Http

end StudyOasis
