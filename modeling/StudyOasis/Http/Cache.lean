import Mathlib.Logic.Function.Basic
import StudyOasis.Runs.Basic

/-!
# The cache in front of the handlers

`HttpCacheInterceptor` answers a `GET` from the cache when there is a live entry under the key of
the request, and otherwise runs the handler and stores what it returns.  The key is made of the
URL and the query.  The guard has run before, so every request comes with its user, but the key
does not mention the user.

The handlers, the data they read and their results are parameters (`Api`).  The steps of the
interceptor are events: several requests are under way at once, and the write to the cache takes
effect after the response.  Whose result an entry holds (`Entry.owner`) is history.

* `entry_computed` : what an entry holds was computed for the user it belongs to;
* `computed_for_user` : if no lookup for a user finds a live entry of someone else (`OwnEntries`),
  every body that is delivered to the user was computed for that user;
* `noninterference` : two such runs whose data the handlers cannot tell apart for the user deliver
  the same to the user;
* `foreign_entry_delivered` : a lookup that does find such an entry delivers it.
-/

namespace StudyOasis

namespace Http

/-- A request, with what the router makes of it. -/
structure Request (R : Type*) where
  method : String
  url : String
  /-- `JSON.stringify(request.query || {})`. -/
  query : String
  route : R
  deriving DecidableEq

/-- `HttpCacheInterceptor.generateCacheKey`. -/
def Request.generateCacheKey {R : Type*} (request : Request R) : String :=
  "cache:" ++ request.url ++ ":" ++ request.query

/-- The application behind the interceptor. -/
structure Api (U R D B X : Type*) where
  /-- `cacheTtl`. -/
  cacheTtl : ℕ
  /-- The handler of a route: its result for a user, at a time, on the data. -/
  handle : R → U → ℕ → D → Except X B
  /-- `response && typeof response === 'object'`. -/
  isObject : B → Bool

/-- What the cache holds under a key. -/
structure Entry (U B : Type*) where
  value : B
  expiresAt : ℕ
  /-- History: the user it was computed for. -/
  owner : U
  deriving DecidableEq

/-- A request that has not been answered from the cache. -/
inductive Call (U R B : Type*) where
  /-- Before the handler. -/
  | handling (user : U) (request : Request R)
  /-- Answered, and before the write to the cache takes effect. -/
  | storing (user : U) (key : String) (value : B)

/-- The user of a call. -/
def Call.user {U R B : Type*} : Call U R B → U
  | .handling user _ => user
  | .storing user _ _ => user

/-- A response. -/
structure Delivery (U R B X : Type*) where
  user : U
  request : Request R
  result : Except X B

/-- The server. -/
structure Server (U R D B X : Type*) where
  now : ℕ := 0
  data : D
  cache : String → Option (Entry U B) := fun _ => none
  calls : ℕ → Option (Call U R B) := fun _ => none
  /-- The number of requests so far. -/
  nextCall : ℕ := 0
  deliveries : List (Delivery U R B X) := []

/-- One step of the server. -/
inductive Event (U R D : Type*) where
  /-- A request has passed the guard; the interceptor looks into the cache. -/
  | request (user : U) (request : Request R)
  /-- The handler of a call runs. -/
  | handle (call : ℕ)
  /-- The write to the cache of a call takes effect. -/
  | store (call : ℕ)
  /-- The data changes. -/
  | write (data : D)
  /-- Time passes. -/
  | elapse (ms : ℕ)

variable {U R D B X : Type*}

namespace Server

/-- The live entry under a key: the last one that was set, until its time is over. -/
def lookup (s : Server U R D B X) (key : String) : Option (Entry U B) :=
  (s.cache key).filter fun entry => s.now < entry.expiresAt

/-- What the interceptor finds for a request. -/
def cached (s : Server U R D B X) (request : Request R) : Option (Entry U B) :=
  if request.method = "GET" then s.lookup request.generateCacheKey else none

/-- A response. -/
def deliver (s : Server U R D B X) (d : Delivery U R B X) : Server U R D B X :=
  { s with deliveries := s.deliveries ++ [d] }

/-- Change a call. -/
def setCall (s : Server U R D B X) (i : ℕ) (call : Option (Call U R B)) : Server U R D B X :=
  { s with calls := Function.update s.calls i call }

/-- Change a cache entry. -/
def setEntry (s : Server U R D B X) (key : String) (entry : Entry U B) : Server U R D B X :=
  { s with cache := Function.update s.cache key (some entry) }

/-- `HttpCacheInterceptor.intercept`, up to the handler. -/
def intercept (s : Server U R D B X) (user : U) (request : Request R) : Server U R D B X :=
  let s' :=
    if request.method = "GET" then
      match s.lookup request.generateCacheKey with
      | some entry => s.deliver ⟨user, request, .ok entry.value⟩
      | none => s.setCall s.nextCall (some (.handling user request))
    else s.setCall s.nextCall (some (.handling user request))
  { s' with nextCall := s.nextCall + 1 }

/-- What a call leaves to be stored. -/
def toStore (api : Api U R D B X) (user : U) (request : Request R) (result : Except X B) :
    Option (Call U R B) :=
  match result with
  | .ok body =>
    if request.method = "GET" ∧ api.isObject body = true then
      some (.storing user request.generateCacheKey body)
    else none
  | .error _ => none

/-- `next.handle()`, and the response. -/
def handle (api : Api U R D B X) (s : Server U R D B X) (i : ℕ) : Server U R D B X :=
  match s.calls i with
  | some (.handling user request) =>
    let result := api.handle request.route user s.now s.data
    (s.deliver ⟨user, request, result⟩).setCall i (toStore api user request result)
  | _ => s

/-- `cacheManager.set`. -/
def store (api : Api U R D B X) (s : Server U R D B X) (i : ℕ) : Server U R D B X :=
  match s.calls i with
  | some (.storing user key value) =>
    (s.setEntry key ⟨value, s.now + api.cacheTtl, user⟩).setCall i none
  | _ => s

/-- One step. -/
def next (api : Api U R D B X) (s : Server U R D B X) : Event U R D → Server U R D B X
  | .request user request => s.intercept user request
  | .handle call => s.handle api call
  | .store call => s.store api call
  | .write data => { s with data }
  | .elapse ms => { s with now := s.now + ms }

/-- One step; every event can happen. -/
def step (api : Api U R D B X) (s : Server U R D B X) (e : Event U R D) :
    Option (Server U R D B X) := some (s.next api e)

/-- A server that has just been started. -/
def started (data : D) : Server U R D B X := { data }

end Server

/-- A request of the user does not find a live entry that was computed for someone else. -/
def OwnEntries (v : U) (s : Server U R D B X) : Event U R D → Prop
  | .request user request => user = v → request.method = "GET" →
      ∀ entry ∈ s.lookup request.generateCacheKey, entry.owner = v
  | _ => True

instance [DecidableEq U] (v : U) (s : Server U R D B X) (e : Event U R D) :
    Decidable (OwnEntries v s e) :=
  match e with
  | .request user request => inferInstanceAs (Decidable (user = v → request.method = "GET" →
      ∀ entry ∈ s.lookup request.generateCacheKey, entry.owner = v))
  | .handle _ => .isTrue trivial
  | .store _ => .isTrue trivial
  | .write _ => .isTrue trivial
  | .elapse _ => .isTrue trivial

/-- The responses to a user. -/
def Server.deliveredTo [DecidableEq U] (s : Server U R D B X) (v : U) :
    List (Delivery U R B X) := s.deliveries.filter fun d => d.user = v

/-! ### Every body was computed for its user -/

variable {api : Api U R D B X} {v : U} {s t s' t' : Server U R D B X}

theorem Server.lookup_eq_some {key : String} {entry : Entry U B} :
    s.lookup key = some entry ↔ s.cache key = some entry ∧ s.now < entry.expiresAt := by
  simp [lookup, Option.filter_eq_some_iff]

theorem Server.intercept_of_cached {user : U} {request : Request R} {entry : Entry U B}
    (h : s.cached request = some entry) :
    s.intercept user request =
      { s.deliver ⟨user, request, .ok entry.value⟩ with nextCall := s.nextCall + 1 } := by
  unfold Server.cached at h
  split_ifs at h with hget
  simp only [intercept, if_pos hget, h]

theorem Server.intercept_of_not_cached {user : U} {request : Request R}
    (h : s.cached request = none) :
    s.intercept user request =
      { s.setCall s.nextCall (some (.handling user request)) with nextCall := s.nextCall + 1 } := by
  unfold Server.cached at h
  split_ifs at h with hget
  · simp only [intercept, if_pos hget, h]
  · simp only [intercept, if_neg hget]

/-- The interceptor answers with a live entry, or it starts a call. -/
theorem Server.intercept_cases (s : Server U R D B X) (user : U) (request : Request R) :
    (∃ entry, request.method = "GET" ∧ s.lookup request.generateCacheKey = some entry ∧
      s.intercept user request =
        { s.deliver ⟨user, request, .ok entry.value⟩ with nextCall := s.nextCall + 1 }) ∨
    ((request.method = "GET" → s.lookup request.generateCacheKey = none) ∧
      s.intercept user request =
        { s.setCall s.nextCall (some (.handling user request)) with
          nextCall := s.nextCall + 1 }) := by
  cases h : s.cached request with
  | none => exact .inr ⟨fun hget => (if_pos hget).symm.trans h, intercept_of_not_cached h⟩
  | some entry =>
    refine .inl ⟨entry, ?_, ?_, intercept_of_cached h⟩ <;> unfold Server.cached at h
    · split_ifs at h with hget
      exact hget
    · split_ifs at h
      exact h

/-- A result that is stored or about to be stored, with the user it was computed for and its
key. -/
inductive Kept (s : Server U R D B X) : U × String × B → Prop
  | cached {key : String} {entry : Entry U B} (h : s.cache key = some entry) :
      Kept s (entry.owner, key, entry.value)
  | storing {i : ℕ} {user : U} {key : String} {body : B}
      (h : s.calls i = some (.storing user key body)) : Kept s (user, key, body)

/-- A result for a user that is delivered or kept, with its key. -/
inductive Held (s : Server U R D B X) : U × String × B → Prop
  | delivered {d : Delivery U R B X} {body : B} (hd : d ∈ s.deliveries) (hb : d.result = .ok body) :
      Held s (d.user, d.request.generateCacheKey, body)
  | kept {x : U × String × B} (h : Kept s x) : Held s x

/-- The handler returns the body for the user, for a request with the key. -/
def Computes (api : Api U R D B X) (s : Server U R D B X) (x : U × String × B) : Prop :=
  ∃ request : Request R, request.generateCacheKey = x.2.1 ∧
    api.handle request.route x.1 s.now s.data = .ok x.2.2

section Kept

variable {x : U × String × B}

/-- A step that leaves the cache and the calls alone. -/
theorem kept_of_same (h : Kept s' x) (hc : s'.cache = s.cache) (hcalls : s'.calls = s.calls) :
    Kept s x := by
  cases h with
  | cached h => exact .cached (hc ▸ h)
  | storing h => exact .storing (hcalls ▸ h)

/-- What is kept after a call has changed: it was kept before, or it is what the call stores. -/
theorem kept_setCall {i : ℕ} {call : Option (Call U R B)} (h : Kept (s.setCall i call) x) :
    Kept s x ∨ ∃ user key body, call = some (.storing user key body) ∧ x = (user, key, body) := by
  cases h with
  | cached h => exact .inl (.cached h)
  | @storing j user key body h =>
    simp only [Server.setCall, Function.update_apply] at h
    split_ifs at h
    · exact .inr ⟨user, key, body, h, rfl⟩
    · exact .inl (.storing h)

theorem kept_setEntry {key : String} {entry : Entry U B} (h : Kept (s.setEntry key entry) x) :
    Kept s x ∨ x = (entry.owner, key, entry.value) := by
  cases h with
  | @cached key' entry' h =>
    simp only [Server.setEntry, Function.update_apply] at h
    split_ifs at h with hk
    · obtain rfl := Option.some.inj h
      exact .inr (by rw [hk])
    · exact .inl (.cached h)
  | storing h => exact .inl (.storing h)

/-- A request stores nothing. -/
theorem kept_intercept {user : U} {request : Request R} (h : Kept (s.intercept user request) x) :
    Kept s x := by
  rcases s.intercept_cases user request with ⟨entry, -, -, hs⟩ | ⟨-, hs⟩
  · rw [hs] at h
    exact kept_of_same h rfl rfl
  · rw [hs] at h
    have h : Kept (s.setCall s.nextCall (some (.handling user request))) x :=
      kept_of_same h rfl rfl
    rcases kept_setCall h with h | ⟨_, _, _, hcall, -⟩
    · exact h
    · cases hcall

/-- What is about to be stored has just been returned. -/
theorem kept_handle {i : ℕ} (h : Kept (s.handle api i) x) : Kept s x ∨ Computes api s x := by
  simp only [Server.handle] at h
  split at h
  · rename_i user request hcall
    rcases kept_setCall h with h | ⟨user', key, body, hstore, rfl⟩
    · exact .inl (kept_of_same h rfl rfl)
    · right
      unfold Server.toStore at hstore
      split at hstore
      · rename_i body' hb
        split_ifs at hstore
        obtain ⟨rfl, rfl, rfl⟩ := Call.storing.inj (Option.some.inj hstore)
        exact ⟨request, rfl, hb⟩
      · cases hstore
  · exact .inl h

/-- What is stored was about to be. -/
theorem kept_store {i : ℕ} (h : Kept (s.store api i) x) : Kept s x := by
  simp only [Server.store] at h
  split at h
  · rename_i user key value hcall
    rcases kept_setCall h with h | ⟨_, _, _, hnone, -⟩
    · rcases kept_setEntry h with h | rfl
      · exact h
      · exact .storing hcall
    · cases hnone
  · exact h

/-- One step: what is kept was kept before, or the handler has just returned it. -/
theorem kept_step {e : Event U R D} (hst : s.step api e = some s') (h : Kept s' x) :
    Kept s x ∨ Computes api s x := by
  obtain rfl := Option.some.inj hst
  cases e with
  | request user request => exact .inl (kept_intercept h)
  | handle i => exact kept_handle h
  | store i => exact .inl (kept_store h)
  | write data => exact .inl (kept_of_same h rfl rfl)
  | elapse ms => exact .inl (kept_of_same h rfl rfl)

end Kept

theorem not_kept_started (data : D) (x : U × String × B) :
    ¬ Kept (Server.started data : Server U R D B X) x := by
  intro h
  cases h with
  | cached h => cases h
  | storing h => cases h

/-- **Every entry was computed for its owner**: what an entry holds is what the handler returned for
the user it belongs to, at a moment of the run and for a request with the same key. -/
theorem entry_computed {data : D} {es : List (Event U R D)}
    (h : AnyRun (Server.step api) (.started data) es s) {key : String} {entry : Entry U B}
    (hentry : s.lookup key = some entry) :
    ∃ es₁ es₂ u, es = es₁ ++ es₂ ∧ AnyRun (Server.step api) (.started data) es₁ u ∧
      Computes api u (entry.owner, key, entry.value) := by
  have hkept : Kept s (entry.owner, key, entry.value) :=
    .cached (Server.lookup_eq_some.1 hentry).1
  have hstep (s : Server U R D B X) (e : Event U R D) (s' : Server U R D B X) (_ : True)
      (hst : s.step api e = some s') (x : U × String × B) (hx : Kept s' x) :
      Kept s x ∨ Computes api s x := kept_step hst hx
  rcases h.origin hstep hkept with h | h
  · exact absurd h (not_kept_started data _)
  · exact h

theorem mem_deliver {d d' : Delivery U R B X} (h : d' ∈ (s.deliver d).deliveries) :
    d' ∈ s.deliveries ∨ d' = d := by
  rcases List.mem_append.1 h with h | h
  · exact .inl h
  · exact .inr (List.mem_singleton.1 h)

/-- A response to the user is an entry, which is the user's own, or it has just been returned. -/
theorem delivered_step {e : Event U R D} (hG : OwnEntries v s e) (hst : s.step api e = some s')
    {d : Delivery U R B X} (hd : d ∈ s'.deliveries) (hv : d.user = v) {body : B}
    (hb : d.result = .ok body) :
    d ∈ s.deliveries ∨ Kept s (d.user, d.request.generateCacheKey, body) ∨
      Computes api s (d.user, d.request.generateCacheKey, body) := by
  obtain rfl := Option.some.inj hst
  cases e with
  | request user request =>
    rcases s.intercept_cases user request with ⟨entry, hget, hlook, hs⟩ | ⟨-, hs⟩
    · rw [Server.next, hs] at hd
      rcases mem_deliver hd with hd | rfl
      · exact .inl hd
      · -- the entry is the user's own
        obtain rfl := Except.ok.inj hb
        obtain rfl : entry.owner = user := (hG hv hget entry hlook).trans hv.symm
        exact .inr (.inl (.cached (Server.lookup_eq_some.1 hlook).1))
    · rw [Server.next, hs] at hd
      exact .inl hd
  | handle i =>
    simp only [Server.next, Server.handle] at hd
    split at hd
    · rename_i user request hcall
      rcases mem_deliver hd with hd | rfl
      · exact .inl hd
      · exact .inr (.inr ⟨request, rfl, hb⟩)
    · exact .inl hd
  | store i =>
    simp only [Server.next, Server.store] at hd
    split at hd
    · exact .inl hd
    · exact .inl hd
  | write data => exact .inl hd
  | elapse ms => exact .inl hd

/-- One step: what is held for the user was held before, or the handler has just returned it. -/
theorem held_step {e : Event U R D} (hG : OwnEntries v s e) (hst : s.step api e = some s')
    {x : U × String × B} (hxv : x.1 = v) (hx : Held s' x) : Held s x ∨ Computes api s x := by
  cases hx with
  | delivered hd hb =>
    rcases delivered_step hG hst hd hxv hb with hd | h | h
    · exact .inl (.delivered hd hb)
    · exact .inl (.kept h)
    · exact .inr h
  | kept h => exact (kept_step hst h).imp_left .kept

theorem not_held_started (data : D) (x : U × String × B) :
    ¬ Held (Server.started data : Server U R D B X) x := by
  intro h
  cases h with
  | delivered hmem _ => cases hmem
  | kept h => exact not_kept_started data x h

/-- **Every body was computed for its user**: in a run in which no lookup for the user finds a live
entry of someone else, a body that is delivered to the user is what the handler returned for that
user, at a moment of the run and for a request with the same key. -/
theorem computed_for_user {data : D} {es : List (Event U R D)}
    (h : Run (Server.step api) (OwnEntries v) (Server.started data) es s) {d : Delivery U R B X}
    (hd : d ∈ s.deliveries) (hv : d.user = v) {body : B} (hb : d.result = .ok body) :
    ∃ es₁ es₂ u, es = es₁ ++ es₂ ∧
      Run (Server.step api) (OwnEntries v) (Server.started data) es₁ u ∧
        Computes api u (v, d.request.generateCacheKey, body) := by
  subst hv
  have hstep (s : Server U R D B X) (e : Event U R D) (s' : Server U R D B X)
      (hG : OwnEntries d.user s e) (hst : s.step api e = some s') (x : U × String × B)
      (hx : x.1 = d.user ∧ Held s' x) : (x.1 = d.user ∧ Held s x) ∨ Computes api s x := by
    rcases held_step hG hst hx.1 hx.2 with h | h
    · exact .inl ⟨hx.1, h⟩
    · exact .inr h
  rcases h.origin hstep ⟨rfl, .delivered hd hb⟩ with h | h
  · exact absurd h.2 (not_held_started data _)
  · exact h

/-- A request that finds a live entry of someone else is answered with it. -/
theorem foreign_entry_delivered {user : U} {request : Request R}
    (hG : ¬ OwnEntries (D := D) v s (.request user request)) :
    ∃ entry, s.lookup request.generateCacheKey = some entry ∧ entry.owner ≠ v ∧
      (s.next api (.request user request)).deliveries =
        s.deliveries ++ [⟨user, request, .ok entry.value⟩] := by
  simp only [OwnEntries, not_forall] at hG
  obtain ⟨-, hget, entry, hlook, hne⟩ := hG
  refine ⟨entry, hlook, hne, ?_⟩
  rcases s.intercept_cases user request with ⟨entry', -, hlook', h⟩ | ⟨hnone, -⟩
  · obtain rfl := Option.some.inj (hlook.symm.trans hlook')
    rw [Server.next, h]
    rfl
  · rw [hnone hget] at hlook
    cases hlook

/-! ### Two runs -/

theorem nextCall_handle (s : Server U R D B X) (i : ℕ) :
    (s.handle api i).nextCall = s.nextCall := by
  unfold Server.handle
  split <;> rfl

theorem nextCall_store (s : Server U R D B X) (i : ℕ) :
    (s.store api i).nextCall = s.nextCall := by
  unfold Server.store
  split <;> rfl

/-- No entry lives longer than the time to live, and the next call is a new one. -/
structure WellTimed (api : Api U R D B X) (s : Server U R D B X) : Prop where
  expires : ∀ k e, s.cache k = some e → e.expiresAt ≤ s.now + api.cacheTtl
  fresh : ∀ i, s.nextCall ≤ i → s.calls i = none

theorem WellTimed.deliver (h : WellTimed api s) (d : Delivery U R B X) :
    WellTimed api (s.deliver d) := ⟨h.expires, h.fresh⟩

/-- A call that exists may change. -/
theorem WellTimed.setCall (h : WellTimed api s) {i : ℕ} (hi : s.calls i ≠ none)
    (c : Option (Call U R B)) : WellTimed api (s.setCall i c) := by
  refine ⟨h.expires, ?_⟩
  intro j hj
  have hne : j ≠ i := by
    rintro rfl
    exact hi (h.fresh j hj)
  exact (Function.update_of_ne hne _ _).trans (h.fresh j hj)

theorem WellTimed.setEntry (h : WellTimed api s) {k : String} {e : Entry U B}
    (he : e.expiresAt ≤ s.now + api.cacheTtl) : WellTimed api (s.setEntry k e) := by
  refine ⟨?_, h.fresh⟩
  intro k' e' he'
  simp only [Server.setEntry, Function.update_apply] at he'
  split_ifs at he'
  · obtain rfl := Option.some.inj he'
    exact he
  · exact h.expires k' e' he'

theorem wellTimed_step {e : Event U R D} (hs : WellTimed api s) (h : s.step api e = some s') :
    WellTimed api s' := by
  obtain rfl := Option.some.inj h
  cases e with
  | request user request =>
    rcases s.intercept_cases user request with ⟨entry, -, -, h⟩ | ⟨-, h⟩
    · rw [Server.next, h]
      exact ⟨hs.expires, fun i hi => hs.fresh i (Nat.le_of_succ_le hi)⟩
    · rw [Server.next, h]
      -- the new call takes the number that was free
      refine ⟨hs.expires, ?_⟩
      intro i hi
      exact (Function.update_of_ne (Nat.ne_of_gt hi) _ _).trans (hs.fresh i (Nat.le_of_succ_le hi))
  | handle i =>
    simp only [Server.next, Server.handle]
    split
    · rename_i user request hcall
      have hi : (s.deliver ⟨user, request, api.handle request.route user s.now s.data⟩).calls i ≠
          none := by
        rw [show (s.deliver _).calls i = _ from hcall]
        nofun
      exact (hs.deliver _).setCall hi _
    · exact hs
  | store i =>
    simp only [Server.next, Server.store]
    split
    · rename_i user key value hcall
      have hi : (s.setEntry key ⟨value, s.now + api.cacheTtl, user⟩).calls i ≠ none := by
        rw [show (s.setEntry key _).calls i = _ from hcall]
        nofun
      exact (hs.setEntry (Nat.le_refl _)).setCall hi _
    · exact hs
  | write data => exact ⟨hs.expires, hs.fresh⟩
  | elapse ms =>
    refine ⟨?_, hs.fresh⟩
    intro k e he
    have := hs.expires k e he
    simp only [Server.next]
    omega

/-- What the first server holds for the user, the second holds too, unless another user's entry
of the same age or younger has taken its place. -/
structure Sees (v : U) (s t : Server U R D B X) : Prop where
  calls : ∀ i c, s.calls i = some c → c.user = v → t.calls i = some c
  cache : ∀ k e, s.cache k = some e → e.owner = v →
    t.cache k = some e ∨ ∃ e', t.cache k = some e' ∧ e'.owner ≠ v ∧ e.expiresAt ≤ e'.expiresAt

/-- The handlers cannot tell the data apart for the user. -/
def Agree (api : Api U R D B X) (v : U) (d d' : D) : Prop :=
  ∀ route now, api.handle route v now d = api.handle route v now d'

theorem Sees.setCall (h : Sees v s t) (i : ℕ) (c : Option (Call U R B)) :
    Sees v (s.setCall i c) (t.setCall i c) := by
  refine ⟨?_, h.cache⟩
  intro j c' hc hv
  simp only [Server.setCall, Function.update_apply] at hc ⊢
  split_ifs with hj
  · rwa [if_pos hj] at hc
  · rw [if_neg hj] at hc
    exact h.calls j c' hc hv

theorem Sees.deliver (h : Sees v s t) (d d' : Delivery U R B X) :
    Sees v (s.deliver d) (t.deliver d') := ⟨h.calls, h.cache⟩

theorem Sees.setEntry (h : Sees v s t) (k : String) (e : Entry U B) :
    Sees v (s.setEntry k e) (t.setEntry k e) := by
  refine ⟨h.calls, ?_⟩
  intro k' e' he hv
  simp only [Server.setEntry, Function.update_apply] at he ⊢
  split_ifs with hk
  · rw [if_pos hk] at he
    exact .inl he
  · rw [if_neg hk] at he
    exact h.cache k' e' he hv

/-- Both servers find the same entry for the user, unless one of them finds another user's. -/
theorem lookup_eq_of_sees {k : String} (hnow : s.now = t.now) (hst : Sees v s t)
    (hts : Sees v t s) (hs : ∀ e ∈ s.lookup k, e.owner = v) (ht : ∀ e ∈ t.lookup k, e.owner = v) :
    s.lookup k = t.lookup k := by
  have one {s t : Server U R D B X} (hnow : s.now = t.now) (hst : Sees v s t)
      (hs : ∀ e ∈ s.lookup k, e.owner = v) (ht : ∀ e ∈ t.lookup k, e.owner = v) {e : Entry U B}
      (he : s.lookup k = some e) : t.lookup k = some e := by
    obtain ⟨hc, hlive⟩ := Server.lookup_eq_some.1 he
    rcases hst.cache k e hc (hs e he) with h | ⟨e', h, hne, hle⟩
    · exact Server.lookup_eq_some.2 ⟨h, by rwa [← hnow]⟩
    · -- a younger entry of another user would be found
      exact absurd (ht e' (Server.lookup_eq_some.2 ⟨h, by omega⟩)) hne
  cases hs' : s.lookup k with
  | some e => exact (one hnow hst hs ht hs').symm
  | none =>
    cases ht' : t.lookup k with
    | none => rfl
    | some e =>
      rw [one hnow.symm hts ht hs ht'] at hs'
      cases hs'

section

variable [DecidableEq U]

/-- The step from `s` to `s'` is not about the user. -/
structure IdleFor (api : Api U R D B X) (v : U) (s s' : Server U R D B X) : Prop where
  now : s'.now = s.now
  data : s'.data = s.data
  delivered : s'.deliveredTo v = s.deliveredTo v
  calls : ∀ i c, c.user = v → (s'.calls i = some c ↔ s.calls i = some c)
  cache : ∀ k, s'.cache k = s.cache k ∨
    ∃ e, s'.cache k = some e ∧ e.owner ≠ v ∧ e.expiresAt = s.now + api.cacheTtl

theorem deliveredTo_deliver (s : Server U R D B X) (d : Delivery U R B X) :
    (s.deliver d).deliveredTo v = s.deliveredTo v ++ if d.user = v then [d] else [] := by
  simp only [Server.deliveredTo, Server.deliver, List.filter_append, List.filter_cons,
    List.filter_nil, decide_eq_true_eq]

theorem IdleFor.refl (s : Server U R D B X) : IdleFor api v s s :=
  ⟨rfl, rfl, rfl, fun _ _ _ => Iff.rfl, fun _ => .inl rfl⟩

theorem idleFor_intercept (hs : WellTimed api s) {user : U} (hne : user ≠ v)
    (request : Request R) : IdleFor api v s (s.intercept user request) := by
  rcases s.intercept_cases user request with ⟨entry, -, -, h⟩ | ⟨-, h⟩
  · rw [h]
    refine ⟨rfl, rfl, ?_, fun _ _ _ => Iff.rfl, fun _ => .inl rfl⟩
    exact (deliveredTo_deliver s _).trans (by rw [if_neg hne, List.append_nil])
  · rw [h]
    refine ⟨rfl, rfl, rfl, ?_, fun _ => .inl rfl⟩
    intro i c hc
    show Function.update s.calls s.nextCall _ i = _ ↔ _
    rw [Function.update_apply]
    split_ifs with hi
    · rw [hi, hs.fresh _ (Nat.le_refl _)]
      refine iff_of_false ?_ nofun
      intro h'
      obtain rfl := Option.some.inj h'
      exact hne hc
    · exact Iff.rfl

theorem idleFor_handle {i : ℕ} (h : ∀ request, s.calls i ≠ some (.handling v request)) :
    IdleFor api v s (s.handle api i) := by
  unfold Server.handle
  split
  · rename_i user request hcall
    have hne : user ≠ v := by
      rintro rfl
      exact h request hcall
    refine ⟨rfl, rfl, ?_, ?_, fun _ => .inl rfl⟩
    · exact (deliveredTo_deliver s _).trans (by rw [if_neg hne, List.append_nil])
    · intro j c hc
      show Function.update s.calls i _ j = _ ↔ _
      rw [Function.update_apply]
      split_ifs with hj
      · rw [hj, hcall]
        constructor
        · intro h'
          unfold Server.toStore at h'
          split at h'
          · split_ifs at h'
            obtain rfl := Option.some.inj h'
            exact absurd hc hne
          · cases h'
        · intro h'
          obtain rfl := Option.some.inj h'
          exact absurd hc hne
      · exact Iff.rfl
  · exact .refl s

theorem idleFor_store {i : ℕ} (h : ∀ k b, s.calls i ≠ some (.storing v k b)) :
    IdleFor api v s (s.store api i) := by
  unfold Server.store
  split
  · rename_i user key value hcall
    have hne : user ≠ v := by
      rintro rfl
      exact h key value hcall
    refine ⟨rfl, rfl, rfl, ?_, ?_⟩
    · intro j c hc
      show Function.update s.calls i _ j = _ ↔ _
      rw [Function.update_apply]
      split_ifs with hj
      · rw [hj, hcall]
        refine iff_of_false nofun ?_
        intro h'
        obtain rfl := Option.some.inj h'
        exact hne hc
      · exact Iff.rfl
    · intro k
      show Function.update s.cache key _ k = _ ∨ ∃ e, Function.update s.cache key _ k = some e ∧ _
      rw [Function.update_apply]
      split_ifs
      · exact .inr ⟨_, rfl, hne, rfl⟩
      · exact .inl rfl
  · exact .refl s

theorem Sees.idle (h : Sees v s t) (hs : WellTimed api s) (hnow : s.now = t.now)
    (h₁ : IdleFor api v s s') (h₂ : IdleFor api v t t') : Sees v s' t' := by
  refine ⟨?_, ?_⟩
  · intro i c hc hv
    rw [h₂.calls i c hv]
    exact h.calls i c ((h₁.calls i c hv).1 hc) hv
  · intro k e he hv
    have he : s.cache k = some e := by
      rcases h₁.cache k with h | ⟨e', h, hne, -⟩
      · rw [← h, he]
      · rw [he] at h
        obtain rfl := Option.some.inj h
        exact absurd hv hne
    rcases h₂.cache k with ht | ⟨e', ht, hne, hexp⟩
    · rw [ht]
      exact h.cache k e he hv
    -- the entry that took its place was written now, so it lives at least as long
    · refine .inr ⟨e', ht, hne, ?_⟩
      rw [hexp, ← hnow]
      exact hs.expires k e he

/-- Two servers look the same to the user. -/
structure SameFor (api : Api U R D B X) (v : U) (s t : Server U R D B X) : Prop where
  now : s.now = t.now
  data : Agree api v s.data t.data
  nextCall : s.nextCall = t.nextCall
  delivered : s.deliveredTo v = t.deliveredTo v
  left : Sees v s t
  right : Sees v t s
  timedLeft : WellTimed api s
  timedRight : WellTimed api t

/-- The same event in two runs; the data that is written may differ where the user's handlers do
not look. -/
inductive SameEvent (api : Api U R D B X) (v : U) : Event U R D → Event U R D → Prop
  | refl (e : Event U R D) : SameEvent api v e e
  | write {d d' : D} : Agree api v d d' → SameEvent api v (.write d) (.write d')

/-- Two steps that are not about the user. -/
theorem SameFor.idle (h : SameFor api v s t) (hs : IdleFor api v s s') (ht : IdleFor api v t t')
    (hnext : s'.nextCall = t'.nextCall) (hs' : WellTimed api s') (ht' : WellTimed api t') :
    SameFor api v s' t' where
  now := by rw [hs.now, ht.now, h.now]
  data := by
    rw [hs.data, ht.data]
    exact h.data
  nextCall := hnext
  delivered := by rw [hs.delivered, ht.delivered, h.delivered]
  left := h.left.idle h.timedLeft h.now hs ht
  right := h.right.idle h.timedRight h.now.symm ht hs
  timedLeft := hs'
  timedRight := ht'

theorem sameFor_request (h : SameFor api v s t) {user : U} {request : Request R}
    (hGs : OwnEntries (D := D) v s (.request user request))
    (hGt : OwnEntries (D := D) v t (.request user request))
    (hs' : WellTimed api (s.intercept user request))
    (ht' : WellTimed api (t.intercept user request)) :
    SameFor api v (s.intercept user request) (t.intercept user request) := by
  by_cases hv : user = v
  · -- the request of the user: both servers find the same
    subst hv
    have hlook (hget : request.method = "GET") : s.lookup request.generateCacheKey =
        t.lookup request.generateCacheKey :=
      lookup_eq_of_sees h.now h.left h.right (hGs rfl hget) (hGt rfl hget)
    rcases s.intercept_cases user request with ⟨entry, hget, hs, hes⟩ | ⟨hs, hes⟩
    · rcases t.intercept_cases user request with ⟨entry', -, ht, het⟩ | ⟨ht, het⟩
      · obtain rfl : entry = entry' := by
          rw [hlook hget, ht] at hs
          exact (Option.some.inj hs).symm
        rw [hes] at hs' ⊢
        rw [het] at ht' ⊢
        refine ⟨h.now, h.data, congrArg Nat.succ h.nextCall, ?_, ⟨h.left.calls, h.left.cache⟩,
          ⟨h.right.calls, h.right.cache⟩, hs', ht'⟩
        exact (deliveredTo_deliver s _).trans
          ((congrArg (· ++ _) h.delivered).trans (deliveredTo_deliver t _).symm)
      · rw [hlook hget, ht hget] at hs
        cases hs
    · rcases t.intercept_cases user request with ⟨entry', hget, ht, het⟩ | ⟨ht, het⟩
      · rw [← hlook hget, hs hget] at ht
        cases ht
      · rw [hes] at hs' ⊢
        rw [het] at ht' ⊢
        rw [← h.nextCall] at ht' ⊢
        exact ⟨h.now, h.data, rfl, h.delivered,
          ⟨(h.left.setCall _ _).calls, h.left.cache⟩, ⟨(h.right.setCall _ _).calls, h.right.cache⟩,
          hs', ht'⟩
  · refine h.idle (idleFor_intercept h.timedLeft hv request)
      (idleFor_intercept h.timedRight hv request) ?_ hs' ht'
    show s.nextCall + 1 = t.nextCall + 1
    rw [h.nextCall]

theorem sameFor_handle (h : SameFor api v s t) (i : ℕ) (hs' : WellTimed api (s.handle api i))
    (ht' : WellTimed api (t.handle api i)) :
    SameFor api v (s.handle api i) (t.handle api i) := by
  by_cases hs : ∃ request, s.calls i = some (.handling v request)
  · -- the handler runs for the user, with the same result
    obtain ⟨request, hs⟩ := hs
    have ht := h.left.calls i _ hs rfl
    let result := api.handle request.route v s.now s.data
    have hes : s.handle api i =
        (s.deliver ⟨v, request, result⟩).setCall i (Server.toStore api v request result) := by
      rw [Server.handle, hs]
    have hresult : api.handle request.route v t.now t.data = result := by
      rw [← h.now]
      exact (h.data _ _).symm
    have het : t.handle api i =
        (t.deliver ⟨v, request, result⟩).setCall i (Server.toStore api v request result) := by
      rw [Server.handle, ht, ← hresult]
    rw [hes] at hs' ⊢
    rw [het] at ht' ⊢
    refine ⟨h.now, h.data, h.nextCall, ?_, ?_, ?_, hs', ht'⟩
    · exact (deliveredTo_deliver s _).trans
        ((congrArg (· ++ _) h.delivered).trans (deliveredTo_deliver t _).symm)
    · exact (h.left.deliver _ _).setCall _ _
    · exact (h.right.deliver _ _).setCall _ _
  -- the call is someone else's in both runs
  · have ht : ¬ ∃ request, t.calls i = some (.handling v request) := fun ⟨request, ht⟩ =>
      hs ⟨request, h.right.calls i _ ht rfl⟩
    refine h.idle (idleFor_handle (not_exists.1 hs)) (idleFor_handle (not_exists.1 ht)) ?_ hs' ht'
    rw [nextCall_handle, nextCall_handle, h.nextCall]

theorem sameFor_store (h : SameFor api v s t) (i : ℕ) (hs' : WellTimed api (s.store api i))
    (ht' : WellTimed api (t.store api i)) : SameFor api v (s.store api i) (t.store api i) := by
  by_cases hs : ∃ k b, s.calls i = some (.storing v k b)
  · -- the same entry is written for the user
    obtain ⟨k, b, hs⟩ := hs
    have ht := h.left.calls i _ hs rfl
    have hes : s.store api i = (s.setEntry k ⟨b, s.now + api.cacheTtl, v⟩).setCall i none := by
      rw [Server.store, hs]
    have het : t.store api i = (t.setEntry k ⟨b, s.now + api.cacheTtl, v⟩).setCall i none := by
      rw [Server.store, ht, h.now]
    rw [hes] at hs' ⊢
    rw [het] at ht' ⊢
    exact ⟨h.now, h.data, h.nextCall, h.delivered, (h.left.setEntry _ _).setCall _ _,
      (h.right.setEntry _ _).setCall _ _, hs', ht'⟩
  · have ht : ¬ ∃ k b, t.calls i = some (.storing v k b) := fun ⟨k, b, ht⟩ =>
      hs ⟨k, b, h.right.calls i _ ht rfl⟩
    refine h.idle (idleFor_store fun k b hc => hs ⟨k, b, hc⟩)
      (idleFor_store fun k b hc => ht ⟨k, b, hc⟩) ?_ hs' ht'
    rw [nextCall_store, nextCall_store, h.nextCall]

theorem sameFor_step {e f : Event U R D} (h : SameFor api v s t) (hef : SameEvent api v e f)
    (hGs : OwnEntries v s e) (hGt : OwnEntries v t f) (hs : s.step api e = some s')
    (ht : t.step api f = some t') : SameFor api v s' t' := by
  have hs' := wellTimed_step h.timedLeft hs
  have ht' := wellTimed_step h.timedRight ht
  obtain rfl := Option.some.inj hs
  obtain rfl := Option.some.inj ht
  cases hef with
  | write hd =>
    exact ⟨h.now, hd, h.nextCall, h.delivered, ⟨h.left.calls, h.left.cache⟩,
      ⟨h.right.calls, h.right.cache⟩, hs', ht'⟩
  | refl =>
    cases e with
    | request user request => exact sameFor_request h hGs hGt hs' ht'
    | handle i => exact sameFor_handle h i hs' ht'
    | store i => exact sameFor_store h i hs' ht'
    | write data =>
      exact ⟨h.now, fun _ _ => rfl, h.nextCall, h.delivered, ⟨h.left.calls, h.left.cache⟩,
        ⟨h.right.calls, h.right.cache⟩, hs', ht'⟩
    | elapse ms =>
      exact ⟨congrArg (· + ms) h.now, h.data, h.nextCall, h.delivered,
        ⟨h.left.calls, h.left.cache⟩, ⟨h.right.calls, h.right.cache⟩, hs', ht'⟩

/-- **Non-interference**: two runs of the same events, in which no lookup for the user finds a live
entry of someone else, and whose data the user's handlers cannot tell apart, deliver the same to
the user. -/
theorem noninterference {data data' : D} {es fs : List (Event U R D)}
    (hs : Run (Server.step api) (OwnEntries v) (Server.started data) es s)
    (ht : Run (Server.step api) (OwnEntries v) (Server.started data') fs t)
    (hdata : Agree api v data data') (hes : List.Forall₂ (SameEvent api v) es fs) :
    s.deliveredTo v = t.deliveredTo v := by
  have hstart (d : D) : WellTimed api (Server.started d : Server U R D B X) :=
    ⟨nofun, fun _ _ => rfl⟩
  have h₀ : SameFor api v (Server.started data) (Server.started data') :=
    ⟨rfl, hdata, rfl, rfl, ⟨nofun, nofun⟩, ⟨nofun, nofun⟩, hstart data, hstart data'⟩
  exact (hs.lockstep ht hes h₀ fun _ _ _ _ _ _ h hef hG hG' hst hst' =>
    sameFor_step h hef hG hG' hst hst').delivered

end

end Http

end StudyOasis
