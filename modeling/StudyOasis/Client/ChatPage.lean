import StudyOasis.Client.Persist

/-!
# The chat page

`useChatLogic` renders the store and reacts to it by effects.  After a render the effects whose
dependencies have changed run in source order; each has captured what the render read, and the
actions it calls work on the store as it is by then.  When an action has set the store, the page
is rendered again (`Page.pass`, until the page settles: `Page.settle`).

* `Page.tab_run` : what the page does is a run of the tab;
* `Page.atRest_of_run` : a page that need not be rendered again has run its effects for what it
  shows.
-/

namespace StudyOasis

namespace Client

/-! ### A render -/

/-- The search parameters of the page. -/
structure SearchParams where
  fileId : Option JsString := none
  documentId : Option JsString := none
  filename : Option JsString := none
  fileUrl : Option JsString := none
  initialMessage : Option JsString := none
  deriving DecidableEq, Repr

namespace SearchParams

/-- `filenameParam`. -/
def filenameParam (params : SearchParams) : Option JsString := truthy params.filename

/-- `fileUrlParam`. -/
def fileUrlParam (params : SearchParams) : Option JsString := truthy params.fileUrl

/-- `urlDocumentId`: `documentId || fileId || null`. -/
def urlDocumentId (params : SearchParams) : Option JsString :=
  (truthy params.documentId).or (truthy params.fileId)

end SearchParams

/-- `initialPromptRef.current`. -/
structure InitialPrompt where
  value : Option JsString := none
  sent : Bool := false
  deriving DecidableEq, Repr

/-- What a render reads.  Dependencies are compared by reference, so the array of messages has a
number. -/
structure Render where
  params : SearchParams
  messages : ℕ
  messagesLength : ℕ
  documentFilename : Option JsString
  documentUrl : Option JsString
  currentDocumentId : Option JsString
  sessionLoaded : Bool
  deriving DecidableEq, Repr

namespace Render

variable (last : Option Render) (r : Render)

/-- `effectiveDocumentId`: `currentDocumentId || urlDocumentId || null`. -/
def effectiveDocumentId : Option JsString :=
  (truthy r.currentDocumentId).or r.params.urlDocumentId

/-- A dependency has changed since the last render, or there was none. -/
def changed {δ : Type} [DecidableEq δ] (deps : Render → δ) : Bool :=
  decide (last.map deps ≠ some (deps r))

/-- `useEffect(body, deps)`: the body runs after the first render, and after every render that
changed a dependency. -/
def useEffect {δ : Type} [DecidableEq δ] (deps : Render → δ) (body : List Action) : List Action :=
  if r.changed last deps then body else []

/-- `[filenameParam, documentFilename]`. -/
def filenameDeps : Option JsString × Option JsString :=
  (r.params.filenameParam, r.documentFilename)

/-- The effect that sets the file name of the URL. -/
def filenameEffect : List Action :=
  r.useEffect last filenameDeps <|
    if r.params.filenameParam ≠ r.documentFilename then
      [.setDocumentFilename r.params.filenameParam]
    else []

/-- `[fileUrlParam, documentUrl]`. -/
def fileUrlDeps : Option JsString × Option JsString := (r.params.fileUrlParam, r.documentUrl)

/-- The effect that sets the file URL of the URL. -/
def fileUrlEffect : List Action :=
  r.useEffect last fileUrlDeps <|
    if r.params.fileUrlParam ≠ r.documentUrl then [.setDocumentUrl r.params.fileUrlParam] else []

/-- `[urlDocumentId, currentDocumentId]`. -/
def documentDeps : Option JsString × Option JsString :=
  (r.params.urlDocumentId, r.currentDocumentId)

/-- The effect that sets the document of the URL. -/
def documentEffect : List Action :=
  r.useEffect last documentDeps <|
    match r.params.urlDocumentId with
    | some documentId =>
      if r.currentDocumentId ≠ some documentId then [.setCurrentDocumentId (some documentId)]
      else []
    | none =>
      if (truthy r.currentDocumentId).isSome then [.setCurrentDocumentId none] else []

/-- The effect that loads the session. -/
def loadEffect : List Action :=
  r.useEffect last (fun r => (r.effectiveDocumentId, r.sessionLoaded)) <|
    if r.sessionLoaded then [] else [.loadSessionFromStorage r.effectiveDocumentId]

/-- `[messages, effectiveDocumentId, documentFilename, documentUrl]`. -/
def persistDeps : ℕ × Option JsString × Option JsString × Option JsString :=
  (r.messages, r.effectiveDocumentId, r.documentFilename, r.documentUrl)

/-- What `persistSession` is given. -/
def payload : PersistPayload where
  documentId := r.effectiveDocumentId
  filename := r.documentFilename
  fileUrl := r.documentUrl

/-- The effect that saves the session. -/
def persistEffect (random : JsString) : List Action :=
  r.useEffect last persistDeps [.persistSession r.payload random]

/-- The effect that sets `initialPromptRef`. -/
def initialPrompt (prompt : InitialPrompt) : InitialPrompt :=
  if r.changed last (·.params.initialMessage) then { value := r.params.initialMessage }
  else prompt

/-- The effect that sends the initial prompt. -/
def promptEffect (prompt : InitialPrompt) : List Action :=
  r.useEffect last (fun r => (r.messagesLength, r.sessionLoaded)) <|
    match truthy prompt.value with
    | some value =>
      if r.sessionLoaded && !prompt.sent && r.messagesLength = 0 then [.sendMessage value true]
      else []
    | none => []

/-- The actions that the effects call, in source order. -/
def effects (prompt : InitialPrompt) (random : JsString) : List Action :=
  r.filenameEffect last ++ (r.fileUrlEffect last ++ (r.documentEffect last ++
    (r.loadEffect last ++ (r.persistEffect last random ++ r.promptEffect last prompt))))

end Render

/-! ### Setting the store -/

namespace Tab

/-- The action calls `set`, after which the page is rendered. -/
def setsStore (t : Tab) (e : Event) : Bool :=
  match e.action with
  | .persistSession _ _ => false
  | .deleteSession _ => false
  | .clearAllSessions => false
  | .device _ _ => false
  | .abortActiveRequest => t.store.abortController.isSome
  | .loadSessionFromStorage _ => !t.store.sessionLoaded
  | .selectConversation sessionId =>
    (ChatStorage.getSessionById t.storage e.now sessionId).isSome
  | _ => true

/-- The action sets `messages` to another array. -/
def setsMessages (t : Tab) (e : Event) : Bool :=
  match e.action with
  | .startNewConversation _ => true
  | .clearConversation _ => true
  | .clearAllConversationsState => true
  | .reload => true
  | .sendMessage _ _ => true
  | .loadSessionFromStorage documentId =>
    (t.store.sessionToLoad t.storage e.now documentId).isSome
  | .selectConversation sessionId =>
    (ChatStorage.getSessionById t.storage e.now sessionId).isSome
  -- a completion that sets the messages adds one or drops one
  | .complete _ _ => (t.step e).map (·.store.messages) ≠ some t.store.messages
  | _ => false

end Tab

/-! ### The page -/

/-- The page: the tab, the URL, and what React keeps of the last render. -/
structure Page where
  tab : Tab
  params : SearchParams
  prompt : InitialPrompt := {}
  /-- The number of the array `messages`. -/
  messages : ℕ := 0
  /-- The last render, unless there was none since the page was mounted. -/
  last : Option Render := none
  /-- The page is to be rendered. -/
  stale : Bool := true
  deriving DecidableEq

namespace Page

/-- A page that has just been opened. -/
def opened (config : Option StorageConfig) (params : SearchParams) : Page :=
  { tab := Tab.opened config, params }

/-- What a render of the page reads. -/
def render (p : Page) : Render where
  params := p.params
  messages := p.messages
  messagesLength := p.tab.store.messages.length
  documentFilename := p.tab.store.documentFilename
  documentUrl := p.tab.store.documentUrl
  currentDocumentId := p.tab.store.currentDocumentId
  sessionLoaded := p.tab.store.sessionLoaded

/-- An event of the tab. -/
def dispatch (p : Page) (e : Event) : Option Page :=
  (p.tab.step e).map fun t =>
    { p with
      tab := t
      messages := if p.tab.setsMessages e then p.messages + 1 else p.messages
      stale := p.stale || p.tab.setsStore e }

/-- Actions one after the other. -/
def dispatchAll (now : ℤ) : List Action → Page → Option Page
  | [], p => some p
  | a :: as, p => (p.dispatch ⟨now, a⟩).bind (dispatchAll now as)

/-- A render of the page, and its effects. -/
def pass (p : Page) (now : ℤ) (random : JsString) : Option Page :=
  let r := p.render
  let prompt := r.initialPrompt p.last p.prompt
  dispatchAll now (r.effects p.last prompt random)
    { p with
      prompt := { prompt with sent := prompt.sent || !(r.promptEffect p.last prompt).isEmpty }
      last := some r
      stale := false }

/-- Render the page until it need not be rendered again; every pass takes one random part. -/
def settle (now : ℤ) : List JsString → Page → Option Page
  | [], p => if p.stale then none else some p
  | random :: randoms, p =>
    if p.stale then (p.pass now random).bind (settle now randoms) else some p

/-- The page is mounted: its first render is to come. -/
def mounted (p : Page) : Page := { p with prompt := {}, last := none, stale := true }

end Page

/-- What can happen to the page. -/
inductive PageEvent where
  /-- An action of the user, a completion, or a change of the device. -/
  | act (e : Event)
  /-- The URL changes. -/
  | navigate (params : SearchParams)
  /-- The page is left, and opened again later: `abortActiveRequest` is the clean-up. -/
  | remount (now : ℤ) (params : SearchParams)
  | render (now : ℤ) (random : JsString)
  deriving DecidableEq

/-- One event of the page. -/
def Page.step (p : Page) : PageEvent → Option Page
  | .act e => (p.dispatch e).map fun q => if e.action = .reload then q.mounted else q
  | .navigate params => some { p with params, stale := true }
  | .remount now params =>
    (p.dispatch ⟨now, .abortActiveRequest⟩).map fun q => { q.mounted with params }
  | .render now random => if p.stale then p.pass now random else none

/-! ### What the page does is a run of the tab -/

namespace Page

variable {p q : Page} {e : Event} {now : ℤ}

/-- An event of the tab changes the tab, the number of the messages, and whether the page is to
be rendered. -/
theorem dispatch_eq_some (h : p.dispatch e = some q) :
    ∃ t, p.tab.step e = some t ∧
      q = { p with
        tab := t
        messages := if p.tab.setsMessages e then p.messages + 1 else p.messages
        stale := p.stale || p.tab.setsStore e } := by
  obtain ⟨t, ht, rfl⟩ := Option.map_eq_some_iff.1 h
  exact ⟨t, ht, rfl⟩

theorem dispatchAll_append (as bs : List Action) :
    dispatchAll now (as ++ bs) p = (dispatchAll now as p).bind (dispatchAll now bs) := by
  induction as generalizing p with
  | nil => rfl
  | cons a as ih =>
    simp only [List.cons_append, dispatchAll, Option.bind_assoc]
    exact Option.bind_congr fun q _ => ih

/-- What every action keeps, a sequence of actions keeps. -/
theorem dispatchAll_invariant {I : Page → Prop} {as : List Action}
    (hstep : ∀ a ∈ as, ∀ p q, I p → p.dispatch ⟨now, a⟩ = some q → I q)
    (h : dispatchAll now as p = some q) (h₀ : I p) : I q := by
  induction as generalizing p with
  | nil =>
    obtain rfl := Option.some.inj h
    exact h₀
  | cons a as ih =>
    obtain ⟨r, hr, h⟩ := Option.bind_eq_some_iff.1 h
    exact ih (fun b hb => hstep b (List.mem_cons_of_mem a hb)) h
      (hstep a List.mem_cons_self p r h₀ hr)

theorem tab_run_dispatch (h : p.dispatch e = some q) : AnyRun Tab.step p.tab [e] q.tab := by
  obtain ⟨t, ht, rfl⟩ := dispatch_eq_some h
  exact .single trivial ht

theorem tab_run_dispatchAll {as : List Action} (h : dispatchAll now as p = some q) :
    ∃ es, AnyRun Tab.step p.tab es q.tab := by
  refine dispatchAll_invariant (I := fun q => ∃ es, AnyRun Tab.step p.tab es q.tab) ?_ h
    ⟨[], .nil _⟩
  rintro a - r s ⟨es, hr⟩ hs
  exact ⟨_, hr.append (tab_run_dispatch hs)⟩

theorem tab_run_step {e : PageEvent} (h : p.step e = some q) :
    ∃ es, AnyRun Tab.step p.tab es q.tab := by
  cases e with
  | act e =>
    obtain ⟨r, hr, rfl⟩ := Option.map_eq_some_iff.1 h
    have hrun := tab_run_dispatch hr
    refine ⟨[e], ?_⟩
    split_ifs
    · exact hrun
    · exact hrun
  | navigate params =>
    obtain rfl := Option.some.inj h
    exact ⟨[], .nil _⟩
  | remount now params =>
    simp only [step, Option.map_eq_some_iff] at h
    obtain ⟨r, hr, rfl⟩ := h
    have hrun := tab_run_dispatch hr
    exact ⟨_, hrun⟩
  | render now random =>
    simp only [step] at h
    split_ifs at h
    exact tab_run_dispatchAll (p := { p with prompt := _, last := some p.render, stale := false }) h

/-- **The page works on the tab by the actions of the tab alone.** -/
theorem tab_run {config : Option StorageConfig} {params : SearchParams} {es : List PageEvent}
    (h : AnyRun Page.step (opened config params) es p) :
    ∃ es', AnyRun Tab.step (Tab.opened config) es' p.tab := by
  refine h.invariant (I := fun p => ∃ es', AnyRun Tab.step (Tab.opened config) es' p.tab)
    ⟨[], .nil _⟩ ?_
  rintro p e q ⟨es, hp⟩ - hq
  obtain ⟨es', hes'⟩ := tab_run_step hq
  exact ⟨_, hp.append hes'⟩

/-- Settling is a run of renders, after which the page need not be rendered. -/
theorem run_settle {randoms : List JsString} (h : settle now randoms p = some q) :
    q.stale = false ∧ ∃ es, AnyRun Page.step p es q := by
  induction randoms generalizing p with
  | nil =>
    rw [settle] at h
    split_ifs at h with hp
    obtain rfl := Option.some.inj h
    exact ⟨by simpa using hp, [], .nil _⟩
  | cons random randoms ih =>
    rw [settle] at h
    split_ifs at h with hp
    · obtain ⟨r, hr, h⟩ := Option.bind_eq_some_iff.1 h
      obtain ⟨hq, es, hes⟩ := ih h
      exact ⟨hq, .render now random :: es, .cons trivial (by rw [step, if_pos hp, hr]) hes⟩
    · obtain rfl := Option.some.inj h
      exact ⟨by simpa using hp, [], .nil _⟩

end Page

/-! ### A page at rest -/

/-- An action that does not call `set` leaves the store as it is. -/
theorem Tab.store_of_not_setsStore {t t' : Tab} {e : Event} (h : t.step e = some t')
    (hs : t.setsStore e = false) : t'.store = t.store ∧ t.setsMessages e = false := by
  obtain ⟨u, hu, rfl⟩ := Tab.step_eq_some h
  obtain ⟨now, a⟩ := e
  cases a with
  | persistSession payload random =>
    obtain rfl := Option.some.inj hu
    exact ⟨rfl, rfl⟩
  | deleteSession sessionId =>
    obtain rfl := Option.some.inj hu
    exact ⟨rfl, rfl⟩
  | clearAllSessions =>
    obtain rfl := Option.some.inj hu
    exact ⟨rfl, rfl⟩
  | device available full =>
    obtain rfl := Option.some.inj hu
    exact ⟨rfl, rfl⟩
  | abortActiveRequest =>
    obtain rfl := Option.some.inj hu
    have hnone : t.store.abortController = none := Option.not_isSome_iff_eq_none.1 (by
      simpa [Tab.setsStore] using hs)
    refine ⟨?_, rfl⟩
    show t.store.abortActiveRequest = t.store
    rw [ChatStoreState.abortActiveRequest, hnone]
  | loadSessionFromStorage documentId =>
    obtain rfl := Option.some.inj hu
    have hl : t.store.sessionLoaded = true := by simpa [Tab.setsStore] using hs
    have hnone : t.store.sessionToLoad t.storage now documentId = none := if_pos hl
    constructor
    · show t.store.loadSessionFromStorage t.storage now documentId = t.store
      rw [ChatStoreState.loadSessionFromStorage, hnone, ← hl]
    · show (t.store.sessionToLoad t.storage now documentId).isSome = false
      rw [hnone]
      rfl
  | selectConversation sessionId =>
    obtain rfl := Option.some.inj hu
    have hnone : ChatStorage.getSessionById t.storage now sessionId = none :=
      Option.not_isSome_iff_eq_none.1 (by simpa [Tab.setsStore] using hs)
    constructor
    · show t.store.selectConversation t.storage now sessionId = t.store
      rw [ChatStoreState.selectConversation, hnone]
    · exact hs
  | _ => cases hs

theorem ChatStoreState.sessionLoaded_replied (s : ChatStoreState) (request : ChatRequest)
    (data : ChatResponse) : (s.replied request data).sessionLoaded = s.sessionLoaded := by
  unfold replied
  split <;> rfl

theorem ChatStoreState.sessionLoaded_abortActiveRequest (s : ChatStoreState) :
    s.abortActiveRequest.sessionLoaded = s.sessionLoaded := by
  unfold abortActiveRequest
  split <;> rfl

theorem ChatStoreState.sessionLoaded_startNewConversation (s : ChatStoreState)
    (preserveDocument : Bool) :
    (s.startNewConversation preserveDocument).sessionLoaded = s.sessionLoaded := by
  unfold startNewConversation
  split_ifs
  · exact s.sessionLoaded_abortActiveRequest
  · exact s.sessionLoaded_abortActiveRequest

theorem SendOp.sessionLoaded_complete {op : SendOp} {now : ℤ} {s : ChatStoreState}
    {answer : Completion} {r : ChatStoreState × Option SendOp}
    (h : op.complete now s answer = some r) : r.1.sessionLoaded = s.sessionLoaded := by
  revert h
  fun_cases SendOp.complete op now s answer <;> intro h <;> cases h
  case case1 =>
    dsimp only
    split_ifs <;> rfl
  case case9 => exact s.sessionLoaded_replied _ _
  all_goals rfl

theorem UploadOp.sessionLoaded_pollAgain (op : UploadOp) (s : ChatStoreState)
    (documentId : JsString) (attempts : ℕ) :
    (op.pollAgain s documentId attempts).1.sessionLoaded = s.sessionLoaded := by
  unfold pollAgain
  split_ifs <;> rfl

theorem UploadOp.sessionLoaded_complete {op : UploadOp} {now : ℤ} {s : ChatStoreState}
    {answer : Completion} {r : ChatStoreState × Option UploadOp}
    (h : op.complete now s answer = some r) : r.1.sessionLoaded = s.sessionLoaded := by
  revert h
  fun_cases UploadOp.complete op now s answer <;> intro h <;> cases h
  all_goals first
    | rfl
    | exact op.sessionLoaded_pollAgain s _ _
    | exact s.sessionLoaded_startNewConversation false

theorem Op.sessionLoaded_complete {op : Op} {now : ℤ} {s : ChatStoreState} {answer : Completion}
    {r : ChatStoreState × Option Op} (h : op.complete now s answer = some r) :
    r.1.sessionLoaded = s.sessionLoaded := by
  cases op with
  | send op =>
    obtain ⟨r', hr', rfl⟩ := Option.map_eq_some_iff.1 h
    exact SendOp.sessionLoaded_complete hr'
  | upload op =>
    obtain ⟨r', hr', rfl⟩ := Option.map_eq_some_iff.1 h
    exact UploadOp.sessionLoaded_complete hr'

/-- Once the session is loaded, it stays so until the page is loaded again. -/
theorem Tab.sessionLoaded_step {t t' : Tab} {e : Event} (h : t.step e = some t')
    (hl : t.store.sessionLoaded = true) (he : e.action ≠ .reload) :
    t'.store.sessionLoaded = true := by
  obtain ⟨u, hu, rfl⟩ := Tab.step_eq_some h
  obtain ⟨now, a⟩ := e
  cases a with
  | reload => exact absurd rfl he
  | startNewConversation preserveDocument =>
    obtain rfl := Option.some.inj hu
    exact (t.store.sessionLoaded_startNewConversation preserveDocument).trans hl
  | loadSessionFromStorage documentId =>
    obtain rfl := Option.some.inj hu
    rfl
  | abortActiveRequest =>
    obtain rfl := Option.some.inj hu
    exact t.store.sessionLoaded_abortActiveRequest.trans hl
  | sendMessage content streaming =>
    obtain rfl := Option.some.inj hu
    show (t.store.sendMessage now t.nextOp content streaming).1.sessionLoaded = true
    unfold ChatStoreState.sendMessage
    split_ifs <;> exact t.store.sessionLoaded_abortActiveRequest.trans hl
  | uploadAndProcessFile file =>
    simp only [Tab.act, ChatStoreState.uploadAndProcessFile] at hu
    split_ifs at hu <;> obtain rfl := Option.some.inj hu <;> exact hl
  | selectConversation sessionId =>
    obtain rfl := Option.some.inj hu
    show (t.store.selectConversation t.storage now sessionId).sessionLoaded = true
    unfold ChatStoreState.selectConversation
    split <;> exact hl
  | complete id answer =>
    obtain ⟨p, store, next, -, hc, rfl⟩ := Tab.act_complete rfl hu
    exact (Op.sessionLoaded_complete hc).trans hl
  | _ =>
    obtain rfl := Option.some.inj hu
    exact hl

namespace Page

variable {p q : Page} {e : Event} {now : ℤ} {random : JsString}

/-- The page has run its effects for what it shows, and has loaded its session. -/
structure AtRest (p : Page) : Prop where
  stale : p.stale = false
  last : p.last = some p.render
  loaded : p.tab.store.sessionLoaded = true

/-- The last render tells what the page shows, unless the page is to be rendered again. -/
structure Consistent (p : Page) : Prop where
  rendered : p.stale = false → p.last = some p.render
  loaded : p.last ≠ none → p.tab.store.sessionLoaded = true

theorem Consistent.atRest (h : p.Consistent) (hs : p.stale = false) : p.AtRest where
  stale := hs
  last := h.rendered hs
  loaded := h.loaded (by simp [h.rendered hs])

theorem rendered_dispatch (h : p.stale = false → p.last = some p.render)
    (hq : p.dispatch e = some q) (hs : q.stale = false) : q.last = some q.render := by
  obtain ⟨t, ht, rfl⟩ := dispatch_eq_some hq
  obtain ⟨hp, hset⟩ := Bool.or_eq_false_iff.1 hs
  obtain ⟨hstore, hmsg⟩ := Tab.store_of_not_setsStore ht hset
  simp only [render, hstore, hmsg, Bool.false_eq_true, if_false]
  exact h hp

theorem loaded_dispatch (h : p.tab.store.sessionLoaded = true) (he : e.action ≠ .reload)
    (hq : p.dispatch e = some q) : q.tab.store.sessionLoaded = true := by
  obtain ⟨t, ht, rfl⟩ := dispatch_eq_some hq
  exact Tab.sessionLoaded_step ht h he

theorem last_dispatch (hq : p.dispatch e = some q) : q.last = p.last := by
  obtain ⟨t, -, rfl⟩ := dispatch_eq_some hq
  rfl

/-- Actions that load the session, and do not load the page again. -/
theorem loaded_dispatchAll {as : List Action} (documentId : Option JsString)
    (hmem : .loadSessionFromStorage documentId ∈ as) (has : ∀ a ∈ as, a ≠ .reload)
    (h : dispatchAll now as p = some q) : q.tab.store.sessionLoaded = true := by
  obtain ⟨pre, post, rfl⟩ := List.append_of_mem hmem
  rw [dispatchAll_append] at h
  obtain ⟨r, -, h⟩ := Option.bind_eq_some_iff.1 h
  obtain ⟨s, hs, h⟩ := Option.bind_eq_some_iff.1 h
  have hload : s.tab.store.sessionLoaded = true := by
    obtain rfl := Option.some.inj hs
    rfl
  refine dispatchAll_invariant (I := fun p => p.tab.store.sessionLoaded = true)
    (fun a ha _ _ hl => loaded_dispatch hl (has a ?_)) h hload
  exact List.mem_append_right _ (List.mem_cons_of_mem _ ha)

theorem mem_useEffect {δ : Type} [DecidableEq δ] {last : Option Render} {r : Render}
    {deps : Render → δ} {body : List Action} {a : Action}
    (h : a ∈ r.useEffect last deps body) : a ∈ body := by
  unfold Render.useEffect at h
  split_ifs at h
  · exact h
  · cases h

/-- The effects do not load the page again. -/
theorem ne_reload_of_mem_effects {last : Option Render} {r : Render} {prompt : InitialPrompt}
    {a : Action} (ha : a ∈ r.effects last prompt random) : a ≠ .reload := by
  rintro rfl
  simp only [Render.effects, List.mem_append] at ha
  rcases ha with h | h | h | h | h | h
  · simpa using mem_useEffect h
  · simpa using mem_useEffect h
  · have := mem_useEffect h
    split at this <;> simp at this
  · simpa using mem_useEffect h
  · simpa using mem_useEffect h
  · have := mem_useEffect h
    split at this <;> simp at this

theorem Consistent.pass (h : p.Consistent) (hq : p.pass now random = some q) : q.Consistent := by
  constructor
  · refine dispatchAll_invariant (I := fun q => q.stale = false → q.last = some q.render)
      (fun _ _ _ _ => rendered_dispatch) hq ?_
    exact fun _ => rfl
  · intro _
    have has : ∀ a ∈ p.render.effects p.last (p.render.initialPrompt p.last p.prompt) random,
        a ≠ .reload := fun a => ne_reload_of_mem_effects
    by_cases hl : p.tab.store.sessionLoaded = true
    · refine dispatchAll_invariant (I := fun q => q.tab.store.sessionLoaded = true)
        (fun a ha _ _ hl => loaded_dispatch hl (has a ha)) hq ?_
      exact hl
    · -- the page was mounted, so the effect that loads the session runs
      have hlast : p.last = none := by
        by_contra hne
        exact hl (h.loaded hne)
      refine loaded_dispatchAll p.render.effectiveDocumentId ?_ has hq
      simp [Render.effects, Render.loadEffect, Render.useEffect, Render.changed, hlast, render, hl]

theorem Consistent.step {e : PageEvent} (h : p.Consistent) (hq : p.step e = some q) :
    q.Consistent := by
  have mounted (r : Page) (params : SearchParams) :
      Consistent { r.mounted with params } := ⟨nofun, fun hne => absurd rfl hne⟩
  cases e with
  | act e =>
    obtain ⟨r, hr, rfl⟩ := Option.map_eq_some_iff.1 hq
    split_ifs with he
    · exact mounted r r.params
    · refine ⟨rendered_dispatch h.rendered hr, fun hne => loaded_dispatch (h.loaded ?_) he hr⟩
      rwa [last_dispatch hr] at hne
  | navigate params =>
    obtain rfl := Option.some.inj hq
    exact ⟨nofun, h.loaded⟩
  | remount now params =>
    simp only [Page.step, Option.map_eq_some_iff] at hq
    obtain ⟨r, -, rfl⟩ := hq
    exact mounted r params
  | render now random =>
    simp only [Page.step] at hq
    split_ifs at hq
    exact h.pass hq

/-- **A page that need not be rendered again is at rest**, whatever has happened to it. -/
theorem atRest_of_run {config : Option StorageConfig} {params : SearchParams}
    {es : List PageEvent} (h : AnyRun Page.step (opened config params) es p)
    (hs : p.stale = false) : p.AtRest := by
  have hc : p.Consistent := h.invariant (I := Consistent) ⟨nofun, fun hne => absurd rfl hne⟩
    fun _ _ _ hp _ hst => hp.step hst
  exact hc.atRest hs

end Page

end Client

end StudyOasis
