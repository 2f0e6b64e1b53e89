import StudyOasis.Client.ChatStore

/-!
# A browser tab

The chat store, the local storage and the operations that have not finished, as a machine: one
event is an action of the user or of the page, or one completion of an operation.

The fields `shown`, `moment` and `savedAs` are history: no action reads them.  A conversation is
named by the moment it was opened, and `shown` is the one on the page.
-/

namespace StudyOasis

namespace Client

/-- A long action that has not finished. -/
inductive Op where
  | send (op : SendOp)
  | upload (op : UploadOp)
  deriving DecidableEq

/-- One completion of an operation. -/
def Op.complete (op : Op) (now : ℤ) (s : ChatStoreState) (answer : Completion) :
    Option (ChatStoreState × Option Op) :=
  match op with
  | .send op => (op.complete now s answer).map fun r => (r.1, r.2.map .send)
  | .upload op => (op.complete now s answer).map fun r => (r.1, r.2.map .upload)

/-- The completion opens a conversation: an upload starts one about its document. -/
def Op.opens : Op → Completion → Bool
  | .upload op, .uploaded _ => op.phase = .uploading
  | _, _ => false

/-- An operation in flight. -/
structure Pending where
  id : ℕ
  /-- History: the conversation the operation works for. -/
  conversation : ℕ
  op : Op
  deriving DecidableEq

/-- A tab. -/
structure Tab where
  store : ChatStoreState := {}
  storage : LocalStorage := {}
  ops : List Pending := []
  nextOp : ℕ := 0
  /-- History: the conversation that is shown. -/
  shown : ℕ := 0
  /-- History: the number of events so far. -/
  moment : ℕ := 0
  /-- History: the conversation that was saved under a session id. -/
  savedAs : List (JsString × ℕ) := []
  deriving DecidableEq

/-- What can happen. -/
inductive Action where
  | setDocumentFilename (value : Option JsString)
  | setDocumentUrl (value : Option JsString)
  | setCurrentDocumentId (value : Option JsString)
  | setUploadId (value : Option JsString)
  | setShowDocument (value : Bool)
  | toggleDocument
  | setError (value : Option JsString)
  | startNewConversation (preserveDocument : Bool)
  | loadSessionFromStorage (documentId : Option JsString)
  | persistSession (payload : PersistPayload) (random : JsString)
  | abortActiveRequest
  | sendMessage (content : JsString) (streaming : Bool)
  | uploadAndProcessFile (file : File)
  | clearConversation (documentIdToDelete : Option JsString)
  | clearAllConversationsState
  | selectConversation (sessionId : JsString)
  /-- The list of conversations deletes one. -/
  | deleteSession (sessionId : JsString)
  /-- The list of conversations deletes all. -/
  | clearAllSessions
  /-- The page is loaded again: the store and the operations are gone. -/
  | reload
  /-- The local storage becomes available or full, or stops being so. -/
  | device (available full : Bool)
  /-- An operation gets what it waits for. -/
  | complete (id : ℕ) (answer : Completion)
  deriving DecidableEq

/-- An action and the time of it. -/
structure Event where
  now : ℤ
  action : Action
  deriving DecidableEq

/-- The event is a completion of the operation. -/
def Action.completes (a : Action) (id : ℕ) : Bool :=
  match a with
  | .complete id' _ => id' = id
  | _ => false

namespace Tab

/-- A tab that has just been opened. -/
def opened (config : Option StorageConfig) : Tab := { storage := { config } }

/-- The conversation that showing a session brings back. -/
def conversationOf (t : Tab) (session : ChatSession) : ℕ :=
  (t.savedAs.lookup session.id).getD (t.moment + 1)

/-- The conversation that is shown after the event. -/
def shownAfter (t : Tab) (e : Event) : ℕ :=
  match e.action with
  | .startNewConversation _ => t.moment + 1
  | .clearConversation _ => t.moment + 1
  | .clearAllConversationsState => t.moment + 1
  | .reload => t.moment + 1
  | .selectConversation sessionId =>
    match ChatStorage.getSessionById t.storage e.now sessionId with
    | some session => t.conversationOf session
    | none => t.shown
  | .loadSessionFromStorage documentId =>
    match t.store.sessionToLoad t.storage e.now documentId with
    | some session => t.conversationOf session
    | none => t.shown
  | .complete id answer =>
    match t.ops.find? (·.id = id) with
    | some p => if p.op.opens answer then t.moment + 1 else t.shown
    | none => t.shown
  | _ => t.shown

/-- Add an operation that starts now. -/
def start (t : Tab) (op : Op) : Tab :=
  { t with ops := ⟨t.nextOp, t.shown, op⟩ :: t.ops, nextOp := t.nextOp + 1 }

/-- The operation after its completion, or nothing when it has finished. -/
def advance (p : Pending) (next : Option Op) (opened : Option ℕ) : Option Pending :=
  next.map fun op => { p with op, conversation := opened.getD p.conversation }

/-- The storage after `clearConversation` has deleted the session of the document. -/
def clearConversationStorage (t : Tab) (now : ℤ) (documentIdToDelete : Option JsString) :
    LocalStorage :=
  match truthy documentIdToDelete with
  | some targetId =>
    match ChatStorage.getSessionByFileId t.storage now targetId with
    | some session => ChatStorage.deleteSession t.storage now session.id
    | none => t.storage
  | none => t.storage

/-- What an event does, apart from the history. -/
def act (t : Tab) (e : Event) : Option Tab :=
  match e.action with
  | .setDocumentFilename value =>
    some { t with store := { t.store with documentFilename := value } }
  | .setDocumentUrl value => some { t with store := { t.store with documentUrl := value } }
  | .setCurrentDocumentId value =>
    some { t with store := { t.store with currentDocumentId := value } }
  | .setUploadId value => some { t with store := { t.store with uploadId := value } }
  | .setShowDocument value => some { t with store := { t.store with showDocument := value } }
  | .toggleDocument =>
    some { t with store := { t.store with showDocument := !t.store.showDocument } }
  | .setError value => some { t with store := { t.store with error := value } }
  | .startNewConversation preserveDocument =>
    some { t with store := t.store.startNewConversation preserveDocument }
  | .loadSessionFromStorage documentId =>
    some { t with store := t.store.loadSessionFromStorage t.storage e.now documentId }
  | .persistSession payload random =>
    let (storage, sessionId) := t.store.persistSession t.storage e.now random payload
    some { t with
      storage
      savedAs := if sessionId = [] then t.savedAs else (sessionId, t.shown) :: t.savedAs }
  | .abortActiveRequest => some { t with store := t.store.abortActiveRequest }
  | .sendMessage content streaming =>
    let (store, op) := t.store.sendMessage e.now t.nextOp content streaming
    some ({ t with store }.start (.send op))
  | .uploadAndProcessFile file =>
    match t.store.uploadAndProcessFile file with
    | (store, some op) => some ({ t with store }.start (.upload op))
    | (store, none) => some { t with store }
  | .clearConversation documentIdToDelete =>
    some { t with
      store := t.store.clearConversation
      storage := t.clearConversationStorage e.now documentIdToDelete }
  | .clearAllConversationsState => some { t with store := t.store.clearAllConversationsState }
  | .selectConversation sessionId =>
    some { t with store := t.store.selectConversation t.storage e.now sessionId }
  | .deleteSession sessionId =>
    some { t with storage := ChatStorage.deleteSession t.storage e.now sessionId }
  | .clearAllSessions => some { t with storage := ChatStorage.clearAllSessions t.storage }
  | .reload => some { t with store := {}, ops := [] }
  | .device available full => some { t with storage := { t.storage with available, full } }
  | .complete id answer =>
    match t.ops.find? (·.id = id) with
    | none => none
    | some p =>
      -- an upload works for the conversation it opens
      let opened := if p.op.opens answer then some (t.moment + 1) else none
      (p.op.complete e.now t.store answer).map fun r =>
        { t with
          store := r.1
          ops := t.ops.filterMap fun q => if q.id = id then advance q r.2 opened else some q }

/-- One event. -/
def step (t : Tab) (e : Event) : Option Tab :=
  (t.act e).map fun t' => { t' with shown := t.shownAfter e, moment := t.moment + 1 }

end Tab

/-! ### What an event does -/

/-- The event is a completion, or it completes nothing. -/
theorem Action.complete_or (a : Action) :
    (∃ id answer, a = .complete id answer) ∨ ∀ id, a.completes id = false := by
  cases a with
  | complete id answer => exact .inl ⟨id, answer, rfl⟩
  | _ => exact .inr fun _ => rfl

namespace Tab

variable {t t' : Tab} {e : Event}

theorem step_eq_some (h : t.step e = some t') :
    ∃ u, t.act e = some u ∧ t' = { u with shown := t.shownAfter e, moment := t.moment + 1 } := by
  obtain ⟨u, hu, rfl⟩ := Option.map_eq_some_iff.1 h
  exact ⟨u, hu, rfl⟩

/-- A completion: the operation that was waiting, and what becomes of it. -/
theorem act_complete {id : ℕ} {answer : Completion} (he : e.action = .complete id answer)
    (h : t.act e = some t') :
    ∃ p store next, t.ops.find? (·.id = id) = some p ∧
      p.op.complete e.now t.store answer = some (store, next) ∧
      t' = { t with
        store
        ops := t.ops.filterMap fun q =>
          if q.id = id then
            advance q next (if p.op.opens answer then some (t.moment + 1) else none)
          else some q } := by
  rw [act, he] at h
  dsimp only at h
  cases hp : t.ops.find? (·.id = id) with
  | none =>
    rw [hp] at h
    cases h
  | some p =>
    rw [hp] at h
    obtain ⟨⟨store, next⟩, hc, rfl⟩ := Option.map_eq_some_iff.1 h
    exact ⟨p, store, next, rfl, hc, rfl⟩

/-- An event that completes nothing: the operations stay, and at most one is added for the
conversation that is shown. -/
theorem act_ops (he : ∀ id, e.action.completes id = false) (h : t.act e = some t') :
    (e.action = .reload ∧ t'.ops = []) ∨
      (e.action ≠ .reload ∧ t'.ops = t.ops ∧ t'.nextOp = t.nextOp) ∨
      ∃ op, t'.ops = ⟨t.nextOp, t.shown, op⟩ :: t.ops ∧ t'.nextOp = t.nextOp + 1 ∧
        t.shownAfter e = t.shown := by
  obtain ⟨now, a⟩ := e
  cases a with
  | complete id answer => simpa [Action.completes] using he id
  | reload =>
    obtain rfl := Option.some.inj h
    exact .inl ⟨rfl, rfl⟩
  | sendMessage content streaming =>
    obtain rfl := Option.some.inj h
    exact .inr (.inr ⟨_, rfl, rfl, rfl⟩)
  | uploadAndProcessFile file =>
    simp only [act] at h
    split at h
    · obtain rfl := Option.some.inj h
      exact .inr (.inr ⟨_, rfl, rfl, rfl⟩)
    · obtain rfl := Option.some.inj h
      exact .inr (.inl ⟨nofun, rfl, rfl⟩)
  | _ =>
    obtain rfl := Option.some.inj h
    exact .inr (.inl ⟨nofun, rfl, rfl⟩)

theorem shownAfter_complete {id : ℕ} {answer : Completion} {p : Pending}
    (he : e.action = .complete id answer) (hp : t.ops.find? (·.id = id) = some p) :
    t.shownAfter e = if p.op.opens answer then t.moment + 1 else t.shown := by
  rw [shownAfter, he]
  dsimp only
  rw [hp]

/-- A completion, evaluated. -/
theorem step_complete {p : Pending} {id : ℕ} {now : ℤ} {answer : Completion}
    {store : ChatStoreState} {next : Option Op} (hp : t.ops.find? (·.id = id) = some p)
    (hc : p.op.complete now t.store answer = some (store, next)) :
    t.step ⟨now, .complete id answer⟩ = some { t with
      store
      ops := t.ops.filterMap fun q =>
        if q.id = id then
          advance q next (if p.op.opens answer then some (t.moment + 1) else none)
        else some q
      shown := if p.op.opens answer then t.moment + 1 else t.shown
      moment := t.moment + 1 } := by
  rw [step, act, shownAfter_complete rfl hp]
  dsimp only
  rw [hp]
  dsimp only
  rw [hc]
  rfl

/-- A completion after which the operation goes on waiting. -/
theorem step_of_waiting {p : Pending} (now : ℤ) (answer : Completion) {store : ChatStoreState}
    {op : Op} (hp : t.ops.find? (·.id = p.id) = some p) (hopens : p.op.opens answer = false)
    (hc : p.op.complete now t.store answer = some (store, some op)) :
    ∃ t', t.step ⟨now, .complete p.id answer⟩ = some t' ∧ t'.store = store ∧
      t'.shown = t.shown ∧ t'.ops.find? (·.id = p.id) = some { p with op } := by
  refine ⟨_, step_complete hp hc, rfl, by simp [hopens], ?_⟩
  -- a completion keeps the ids, so the operation is found where it was
  have hsame : (fun q : Pending => (if q.id = p.id then advance q (some op) none else some q).any
      fun q => decide (q.id = p.id)) = fun q => decide (q.id = p.id) := by
    funext q
    by_cases hq : q.id = p.id
    · simp [hq, advance]
    · simp [hq]
  simp only [hopens, Bool.false_eq_true, if_false]
  rw [List.find?_filterMap, hsame, hp]
  simp [advance]

/-- Where an operation after a completion comes from. -/
theorem mem_ops_complete {ops : List Pending} {id : ℕ} {next : Option Op} {opened : Option ℕ}
    {q : Pending}
    (hq : q ∈ ops.filterMap fun q => if q.id = id then advance q next opened else some q) :
    (q ∈ ops ∧ q.id ≠ id) ∨
      ∃ p ∈ ops, p.id = id ∧ q.id = id ∧ q.conversation = opened.getD p.conversation := by
  obtain ⟨p, hp, hpq⟩ := List.mem_filterMap.1 hq
  split_ifs at hpq with hid
  · obtain ⟨op, -, rfl⟩ := Option.map_eq_some_iff.1 hpq
    exact .inr ⟨p, hp, hid, hid, rfl⟩
  · obtain rfl := Option.some.inj hpq
    exact .inl ⟨hp, hid⟩

/-- An operation that is not completed goes on waiting, unless the page is loaded again. -/
theorem mem_ops_of_step (h : t.step e = some t') {p : Pending} (hp : p ∈ t.ops)
    (he : e.action ≠ .reload) (hcomp : e.action.completes p.id = false) : p ∈ t'.ops := by
  obtain ⟨u, hu, rfl⟩ := step_eq_some h
  rcases e.action.complete_or with ⟨id, answer, ha⟩ | ha
  · obtain ⟨_, _, _, -, -, rfl⟩ := act_complete ha hu
    have hid : p.id ≠ id := by simpa [Action.completes, ha, eq_comm] using hcomp
    exact List.mem_filterMap.2 ⟨p, hp, if_neg hid⟩
  · show p ∈ u.ops
    rcases act_ops ha hu with ⟨hreload, -⟩ | ⟨-, hops, -⟩ | ⟨op, hops, -, -⟩
    · exact absurd hreload he
    · rw [hops]
      exact hp
    · rw [hops]
      exact List.mem_cons_of_mem _ hp

end Tab

end Client

end StudyOasis
