import Mathlib.Data.Rat.Floor
import Mathlib.Tactic.Linarith
import StudyOasis.Runs.Basic
import StudyOasis.Text.Json

/-!
# External calls

`withExternalCall` races the promise of `fn` against a timer.  The timer is only cleared in its
own callback, so it runs out even when `fn` has won, and its callback writes its log entry all the
same.  A run is the order in which the two happen, each at its time.

* `withExternalCall_runs` : the three runs that a call can have, with their results and logs;
* `settles_first_of_inTime` : a timeout that `setTimeout` can keep lets `fn` win in time;
* `withExternalCall_reported_iff` : **when the timeout is reported exactly for a timeout**.
-/

namespace StudyOasis

/-- `ExternalCallOptions`. -/
structure ExternalCallOptions where
  timeoutMs : JsNumber := .finite 10000
  /-- There is a `logger`. -/
  logger : Bool := false
  context : JsString := []
  resource : JsString := []
  deriving DecidableEq

/-- What a call is rejected with: the error of the timer, or what `fn` is rejected with. -/
inductive CallError (ε : Type) where
  | timeout
  | own (e : ε)
  deriving DecidableEq, Repr

/-- A call of `logger.error`; the error stands for its stack, or for itself as a text. -/
structure ErrorEntry (ε : Type) where
  message : JsString
  error : CallError ε
  context : JsString
  deriving DecidableEq, Repr

/-- When the promise of `fn` settles, counted from the call in milliseconds, and how.  If `fn`
throws, that counts as a rejection at once. -/
structure Settlement (ε α : Type) where
  time : ℚ
  outcome : Except ε α

/-- A call of `withExternalCall`. -/
structure CallState (ε α : Type) where
  now : ℚ := 0
  /-- The timer has not run out yet. -/
  timerPending : Bool := true
  /-- The promise of `fn` has settled. -/
  settled : Bool := false
  /-- What the call has settled with. -/
  result : Option (Except (CallError ε) α) := none
  log : List (ErrorEntry ε) := []

/-- What happens to a call. -/
inductive CallEvent where
  | settles
  | timerFires (time : ℚ)
  deriving DecidableEq, Repr

/-- The delay that `setTimeout` makes of its argument: whole milliseconds, and 1 for what is below
that, not a number, or too large for 31 bits. -/
def timerDelay : JsNumber → ℤ
  | .finite q => if 1 ≤ q ∧ q ≤ 2147483647 then ⌊q⌋ else 1
  | _ => 1

section

variable {ε α : Type}

/-- The last argument of the log entries: the context, and the resource behind a colon. -/
def ExternalCallOptions.label (options : ExternalCallOptions) : JsString :=
  (if options.context = [] then js "ExternalCall" else options.context) ++
    if options.resource = [] then [] else js ":" ++ options.resource

/-- `if (logger) logger.error(...)`. -/
def ExternalCallOptions.report (options : ExternalCallOptions) (message : JsString)
    (error : CallError ε) : List (ErrorEntry ε) :=
  if options.logger then [⟨message, error, options.label⟩] else []

/-- The `catch` of `withExternalCall`. -/
def ExternalCallOptions.catchError (options : ExternalCallOptions) :
    Except (CallError ε) α → List (ErrorEntry ε)
  | .ok _ => []
  | .error e => options.report (js "External call failed") e

/-- `Promise.race` : the first promise that settles decides. -/
def CallState.race (options : ExternalCallOptions) (s : CallState ε α)
    (outcome : Except (CallError ε) α) : CallState ε α :=
  if s.result.isSome then s
  else { s with result := some outcome, log := s.log ++ options.catchError outcome }

/-- `withExternalCall` : what an event does to a call. -/
def withExternalCall (options : ExternalCallOptions) (fn : Option (Settlement ε α))
    (s : CallState ε α) : CallEvent → Option (CallState ε α)
  | .settles =>
    match fn with
    | none => none
    | some p =>
      if s.settled ∨ p.time < s.now then none
      else some ({ s with now := p.time, settled := true }.race options
        (p.outcome.mapError CallError.own))
  -- `clearTimeout(id)` comes too late to clear anything
  | .timerFires time =>
    if !s.timerPending ∨ time < s.now ∨ time < timerDelay options.timeoutMs then none
    else some (CallState.race options
      { s with
        now := time
        timerPending := false
        log := s.log ++ options.report (js "External call timeout") .timeout }
      (.error .timeout))

/-- Nothing more can happen to the call. -/
def CallState.Complete (fn : Option (Settlement ε α)) (s : CallState ε α) : Prop :=
  s.timerPending = false ∧ (fn.isSome = true → s.settled = true)

/-! ### The runs of a call -/

variable {options : ExternalCallOptions} {fn : Option (Settlement ε α)} {s s' : CallState ε α}
  {es : List CallEvent} {time : ℚ}

theorem race_pending (h : s.result = none) (outcome : Except (CallError ε) α) :
    s.race options outcome =
      { s with result := some outcome, log := s.log ++ options.catchError outcome } :=
  if_neg (by simp [h])

theorem race_decided (h : s.result ≠ none) (outcome : Except (CallError ε) α) :
    s.race options outcome = s := if_pos (Option.isSome_iff_ne_none.2 h)

theorem settles_iff : withExternalCall options fn s .settles = some s' ↔
    ∃ p, fn = some p ∧ s.settled = false ∧ s.now ≤ p.time ∧
      s' = { s with now := p.time, settled := true }.race options
        (p.outcome.mapError CallError.own) := by
  cases fn with
  | none => simp [withExternalCall]
  | some p =>
    simp only [withExternalCall]
    split_ifs with h
    · simp only [false_iff]
      rintro ⟨q, hq, hsettled, hnow, -⟩
      obtain rfl := Option.some.inj hq
      rcases h with h | h
      · rw [h] at hsettled
        cases hsettled
      · exact absurd hnow (not_le.2 h)
    · rw [not_or, not_lt, Bool.not_eq_true] at h
      rw [Option.some.injEq]
      constructor
      · intro hs
        exact ⟨p, rfl, h.1, h.2, hs.symm⟩
      · rintro ⟨q, hq, -, -, hs⟩
        obtain rfl := Option.some.inj hq
        exact hs.symm

theorem timerFires_iff : withExternalCall options fn s (.timerFires time) = some s' ↔
    s.timerPending = true ∧ s.now ≤ time ∧ timerDelay options.timeoutMs ≤ time ∧
      s' = CallState.race options
        { s with
          now := time
          timerPending := false
          log := s.log ++ options.report (js "External call timeout") .timeout }
        (.error .timeout) := by
  simp only [withExternalCall]
  split_ifs with h
  · simp only [false_iff]
    rintro ⟨hpending, hnow, hdelay, -⟩
    rcases h with h | h | h
    · rw [hpending] at h
      cases h
    · exact absurd hnow (not_le.2 h)
    · exact absurd hdelay (not_le.2 h)
  · rw [not_or, not_or, not_lt, not_lt, Bool.not_eq_true, Bool.not_eq_false'] at h
    rw [Option.some.injEq]
    exact ⟨fun hs => ⟨h.1, h.2.1, h.2.2, hs.symm⟩, fun hs => hs.2.2.2.symm⟩

/-- Behind both events there is no other. -/
theorem no_more_events (h : AnyRun (withExternalCall options fn) s es s')
    (hpending : s.timerPending = false) (hsettled : fn.isSome = true → s.settled = true) :
    es = [] ∧ s' = s := by
  cases h with
  | nil => exact ⟨rfl, rfl⟩
  | @cons _ t _ e es _ hst _ =>
    cases e with
    | settles =>
      obtain ⟨p, rfl, hs, -⟩ := settles_iff.1 hst
      rw [hsettled rfl] at hs
      cases hs
    | timerFires time =>
      rw [(timerFires_iff.1 hst).1] at hpending
      cases hpending

/-- Behind the timer only `fn` settles, which changes nothing. -/
theorem events_behind_timer (h : AnyRun (withExternalCall options fn) s es s')
    (hpending : s.timerPending = false) (hresult : s.result ≠ none) :
    (es = [] ∧ s' = s) ∨ ∃ p, es = [.settles] ∧ fn = some p ∧ s.now ≤ p.time ∧
      s'.result = s.result ∧ s'.log = s.log := by
  cases h with
  | nil => exact .inl ⟨rfl, rfl⟩
  | @cons _ t _ e es _ hst hrun =>
    cases e with
    | settles =>
      obtain ⟨p, hp, -, hnow, rfl⟩ := settles_iff.1 hst
      rw [race_decided (by exact hresult)] at hrun
      obtain ⟨rfl, rfl⟩ := no_more_events hrun hpending fun _ => rfl
      exact .inr ⟨p, rfl, hp, hnow, rfl, rfl⟩
    | timerFires time =>
      rw [(timerFires_iff.1 hst).1] at hpending
      cases hpending

/-- Behind `fn` only the timer runs out, and it writes its entry. -/
theorem events_behind_fn (h : AnyRun (withExternalCall options fn) s es s')
    (hsettled : s.settled = true) (hresult : s.result ≠ none) :
    (es = [] ∧ s' = s) ∨ ∃ time, es = [.timerFires time] ∧ s.now ≤ time ∧
      s'.result = s.result ∧
      s'.log = s.log ++ options.report (js "External call timeout") .timeout := by
  cases h with
  | nil => exact .inl ⟨rfl, rfl⟩
  | @cons _ t _ e es _ hst hrun =>
    cases e with
    | settles =>
      obtain ⟨-, -, hs, -⟩ := settles_iff.1 hst
      rw [hsettled] at hs
      cases hs
    | timerFires time =>
      obtain ⟨-, hnow, -, rfl⟩ := timerFires_iff.1 hst
      rw [race_decided (by exact hresult)] at hrun
      obtain ⟨rfl, rfl⟩ := no_more_events hrun rfl fun _ => hsettled
      exact .inr ⟨time, rfl, hnow, rfl, rfl⟩

/-- The log of a call whose timer wins. -/
def ExternalCallOptions.timeoutLog (options : ExternalCallOptions) : List (ErrorEntry ε) :=
  options.report (js "External call timeout") .timeout ++
    options.report (js "External call failed") .timeout

/-- **The runs of a call**: the timer runs out, and `fn` settles never, behind it, or before it. -/
theorem withExternalCall_runs (h : AnyRun (withExternalCall options fn) {} es s)
    (hc : s.Complete fn) :
    (∃ time, es = [.timerFires time] ∧ fn = none ∧ s.result = some (.error .timeout) ∧
      s.log = options.timeoutLog) ∨
    (∃ time p, es = [.timerFires time, .settles] ∧ fn = some p ∧
      timerDelay options.timeoutMs ≤ time ∧ time ≤ p.time ∧
      s.result = some (.error .timeout) ∧ s.log = options.timeoutLog) ∨
    ∃ time p, es = [.settles, .timerFires time] ∧ fn = some p ∧ p.time ≤ time ∧
      s.result = some (p.outcome.mapError CallError.own) ∧
      s.log = options.catchError (p.outcome.mapError CallError.own) ++
        options.report (js "External call timeout") .timeout := by
  obtain ⟨hpending, hsettled⟩ := hc
  cases h with
  | nil => cases hpending
  | @cons _ t _ e es _ hst hrun =>
    cases e with
    | settles =>
      obtain ⟨p, hp, -, -, rfl⟩ := settles_iff.1 hst
      rw [race_pending rfl] at hrun
      rcases events_behind_fn hrun rfl (by simp) with ⟨-, rfl⟩ | ⟨time, rfl, hnow, hres, hlog⟩
      · cases hpending
      · exact .inr (.inr ⟨time, p, rfl, hp, hnow, hres, hlog⟩)
    | timerFires time =>
      obtain ⟨-, -, hdelay, rfl⟩ := timerFires_iff.1 hst
      rw [race_pending rfl] at hrun
      rcases events_behind_timer hrun rfl (by simp) with ⟨rfl, rfl⟩ | ⟨p, rfl, hp, hnow, hres, hlog⟩
      · refine .inl ⟨time, rfl, ?_, rfl, rfl⟩
        cases fn with
        | none => rfl
        | some p => cases hsettled rfl
      · exact .inr (.inl ⟨time, p, rfl, hp, hdelay, hnow, hres, hlog⟩)

/-! ### What is reported -/

/-- `fn` settles before the timeout. -/
def inTime (options : ExternalCallOptions) (fn : Option (Settlement ε α)) : Bool :=
  fn.any fun p => (JsNumber.finite p.time).lt options.timeoutMs

/-- The log says that there was a timeout. -/
def TimeoutLogged (s : CallState ε α) : Prop :=
  ∃ entry ∈ s.log, entry.message = js "External call timeout"

/-- The call settles as `fn` does if that is in time and is rejected with the timeout otherwise,
and the timeout is logged exactly then. -/
structure ReportedForTimeout (options : ExternalCallOptions) (fn : Option (Settlement ε α))
    (s : CallState ε α) : Prop where
  own : ∀ p, fn = some p → (JsNumber.finite p.time).lt options.timeoutMs = true →
    s.result = some (p.outcome.mapError CallError.own)
  timeout : inTime options fn = false → s.result = some (.error .timeout)
  logged : TimeoutLogged s ↔ inTime options fn = false

/-- With a logger, `fn` does not settle in time and the timer wins; without one, `fn` settles in
time and wins. -/
def ReportsRightly (options : ExternalCallOptions) (fn : Option (Settlement ε α))
    (es : List CallEvent) : Prop :=
  if options.logger then inTime options fn = false ∧ es.head? ≠ some .settles
  else inTime options fn = true ∧ es.head? = some .settles

theorem mapError_own_ne_timeout (outcome : Except ε α) :
    outcome.mapError CallError.own ≠ .error .timeout := by
  cases outcome <;> rintro ⟨⟩

theorem exists_mem_report (message : JsString) (error : CallError ε) :
    (∃ entry ∈ options.report message error, entry.message = js "External call timeout") ↔
      options.logger = true ∧ message = js "External call timeout" := by
  unfold ExternalCallOptions.report
  split_ifs with h <;> simp [h]

/-- The callback of the timer writes its entry whenever there is a logger. -/
theorem timeoutLogged_iff (h : AnyRun (withExternalCall options fn) {} es s)
    (hc : s.Complete fn) : TimeoutLogged s ↔ options.logger = true := by
  have hfailed : js "External call failed" ≠ js "External call timeout" := by decide
  have hcatch (outcome : Except (CallError ε) α) :
      ¬ ∃ entry ∈ options.catchError outcome, entry.message = js "External call timeout" := by
    cases outcome with
    | ok a => simp [ExternalCallOptions.catchError]
    | error e => exact fun hmem => hfailed ((exists_mem_report _ _).1 hmem).2
  have hwon (hlog : s.log = options.timeoutLog) : TimeoutLogged s ↔ options.logger = true := by
    simp only [TimeoutLogged, hlog, ExternalCallOptions.timeoutLog, List.mem_append, or_and_right,
      exists_or, exists_mem_report, hfailed, and_false, or_false, and_true]
  rcases withExternalCall_runs h hc with ⟨_, -, -, -, hlog⟩ | ⟨_, _, -, -, -, -, -, hlog⟩ |
    ⟨_, p, -, -, -, -, hlog⟩
  · exact hwon hlog
  · exact hwon hlog
  · have hnone := hcatch (p.outcome.mapError CallError.own)
    simp only [TimeoutLogged, hlog, List.mem_append, or_and_right, exists_or, exists_mem_report,
      hnone, false_or, and_true]

/-- The first event of the run decides what the call settles with. -/
theorem result_eq_own_iff (h : AnyRun (withExternalCall options fn) {} es s) (hc : s.Complete fn)
    {p : Settlement ε α} (hp : fn = some p) :
    s.result = some (p.outcome.mapError CallError.own) ↔ es.head? = some .settles := by
  have hne := mapError_own_ne_timeout p.outcome
  rcases withExternalCall_runs h hc with ⟨_, -, hnone, -⟩ | ⟨_, _, rfl, -, -, -, hres, -⟩ |
    ⟨_, q, rfl, hq, -, hres, -⟩
  · rw [hp] at hnone
    cases hnone
  · rw [hres]
    exact iff_of_false (fun heq => hne (Option.some.inj heq).symm) (by simp)
  · obtain rfl := Option.some.inj (hp.symm.trans hq)
    exact iff_of_true hres rfl

theorem result_eq_timeout_iff (h : AnyRun (withExternalCall options fn) {} es s)
    (hc : s.Complete fn) :
    s.result = some (.error .timeout) ↔ es.head? ≠ some .settles := by
  rcases withExternalCall_runs h hc with ⟨_, rfl, -, hres, -⟩ | ⟨_, _, rfl, -, -, -, hres, -⟩ |
    ⟨_, q, rfl, -, -, hres, -⟩
  · exact iff_of_true hres (by simp)
  · exact iff_of_true hres (by simp)
  · rw [hres]
    exact iff_of_false (fun heq => mapError_own_ne_timeout _ (Option.some.inj heq)) (by simp)

theorem inTime_iff : inTime options fn = true ↔
    ∃ p, fn = some p ∧ (JsNumber.finite p.time).lt options.timeoutMs = true := by
  cases fn <;> simp [inTime]

/-- **A timeout that `setTimeout` can keep** lets `fn` win whenever it settles in time. -/
theorem settles_first_of_inTime (h : AnyRun (withExternalCall options fn) {} es s)
    (hc : s.Complete fn) {ms : ℕ} (hms : options.timeoutMs = .finite ms)
    (hrange : 1 ≤ ms ∧ ms ≤ 2147483647) (hfn : inTime options fn = true) :
    es.head? = some .settles := by
  obtain ⟨p, hp, hlt⟩ := inTime_iff.1 hfn
  rcases withExternalCall_runs h hc with ⟨_, -, hnone, -⟩ | ⟨time, q, -, hq, hdelay, hle, -⟩ |
    ⟨_, q, rfl, -⟩
  · rw [hp] at hnone
    cases hnone
  · obtain rfl := Option.some.inj (hp.symm.trans hq)
    rw [hms] at hlt hdelay
    have htime : p.time < ms := of_decide_eq_true hlt
    have hceil : timerDelay (.finite ms) = ms := by
      rw [timerDelay, if_pos (by exact_mod_cast hrange)]
      exact Int.floor_natCast ms
    rw [hceil] at hdelay
    have hdelay' : (ms : ℚ) ≤ time := by exact_mod_cast hdelay
    linarith
  · rfl

/-- **When the timeout is reported exactly for a timeout.** -/
theorem withExternalCall_reported_iff (h : AnyRun (withExternalCall options fn) {} es s)
    (hc : s.Complete fn) :
    ReportedForTimeout options fn s ↔ ReportsRightly options fn es := by
  have hlogged := timeoutLogged_iff h hc
  have htimeout := result_eq_timeout_iff h hc
  unfold ReportsRightly
  constructor
  · rintro ⟨hown, htime, hlog⟩
    rw [hlogged] at hlog
    split_ifs with hlogger
    · have hlate := hlog.1 hlogger
      exact ⟨hlate, htimeout.1 (htime hlate)⟩
    · have hearly : inTime options fn = true := by
        by_contra hlate
        exact hlogger (hlog.2 (Bool.not_eq_true _ ▸ hlate))
      obtain ⟨p, hp, hlt⟩ := inTime_iff.1 hearly
      exact ⟨hearly, (result_eq_own_iff h hc hp).1 (hown p hp hlt)⟩
  · intro hmeets
    split_ifs at hmeets with hlogger
    · obtain ⟨hlate, hfirst⟩ := hmeets
      refine ⟨fun p hp hlt => ?_, fun _ => htimeout.2 hfirst, ?_⟩
      · have hearly := inTime_iff.2 ⟨p, hp, hlt⟩
        rw [hlate] at hearly
        cases hearly
      · exact iff_of_true (hlogged.2 hlogger) hlate
    · obtain ⟨hearly, hfirst⟩ := hmeets
      refine ⟨fun p hp _ => (result_eq_own_iff h hc hp).2 hfirst, fun hlate => ?_, ?_⟩
      · rw [hlate] at hearly
        cases hearly
      · rw [hlogged, hearly]
        exact iff_of_false hlogger (by simp)

/-- The options of `GcsService.uploadFile`. -/
def GcsService.uploadOptions (gcsPath : JsString) : ExternalCallOptions :=
  { logger := true, context := js "GCS_UPLOAD", resource := gcsPath }

/-- An upload that never settles is reported rightly. -/
theorem withExternalCall_reported_never :
    let options := GcsService.uploadOptions (js "uploads/a.pdf")
    let s : CallState Unit Unit :=
      { now := 10000
        timerPending := false
        result := some (.error .timeout)
        log := options.timeoutLog }
    ReportedForTimeout options none s := by
  intro options s
  have hdelay : (timerDelay options.timeoutMs : ℚ) ≤ 10000 := by decide +kernel
  have hrun : AnyRun (withExternalCall options (none : Option (Settlement Unit Unit))) {}
      [.timerFires 10000] s :=
    Run.single trivial (timerFires_iff.2 ⟨rfl, by norm_num, hdelay, rfl⟩)
  have hc : s.Complete none := ⟨rfl, fun h => (by cases h)⟩
  exact (withExternalCall_reported_iff hrun hc).2 ⟨rfl, by simp⟩

/-- An upload is stored after five milliseconds, and after ten seconds its timeout is logged. -/
theorem withExternalCall_not_reported :
    ¬ ∀ (options : ExternalCallOptions) (fn : Option (Settlement Unit Unit))
      (es : List CallEvent) (s : CallState Unit Unit),
      AnyRun (withExternalCall options fn) {} es s → s.Complete fn →
        ReportedForTimeout options fn s := by
  intro h
  let options := GcsService.uploadOptions (js "uploads/a.pdf")
  let fn : Option (Settlement Unit Unit) := some ⟨5, .ok ()⟩
  let s : CallState Unit Unit :=
    { now := 10000
      timerPending := false
      settled := true
      result := some (.ok ())
      log := options.report (js "External call timeout") .timeout }
  have hdelay : (timerDelay options.timeoutMs : ℚ) ≤ 10000 := by decide +kernel
  have hlater : (5 : ℚ) ≤ 10000 := by norm_num
  have hrun : AnyRun (withExternalCall options fn) {} [.settles, .timerFires 10000] s :=
    .cons trivial (settles_iff.2 ⟨⟨5, .ok ()⟩, rfl, rfl, by norm_num, rfl⟩)
      (Run.single trivial (timerFires_iff.2 ⟨rfl, hlater, hdelay, rfl⟩))
  have hc : s.Complete fn := ⟨rfl, fun _ => rfl⟩
  have hlogged : TimeoutLogged s := (timeoutLogged_iff hrun hc).2 rfl
  have hlate := (h options fn _ s hrun hc).logged.1 hlogged
  revert hlate
  decide +kernel

end

end StudyOasis
