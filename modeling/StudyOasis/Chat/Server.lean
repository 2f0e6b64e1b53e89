import StudyOasis.Chat.Service
import StudyOasis.Runs.Basic

/-!
# The chat server with many requests

Requests of `chat` and `chatStream` take turns: each runs from one `await` to the next, and the
database carries out an insert at some later moment, or refuses it.  What a request waits for is
its `Stage`.

When a stream ends, `chatStream` starts its two inserts and writes the final frame at once.  So
neither message is stored when the frame is written (`complete_before_stored`), and a later
request finds both in their order only if the database has carried out both inserts in the
meantime, that of the user message first (`stored_in_order_iff`).
-/

namespace StudyOasis

/-! ### One request -/

/-- The two entry points. -/
inductive EntryPoint where
  | chat
  | chatStream
  deriving DecidableEq, Repr

/-- What a request waits for. -/
inductive Stage where
  /-- `conversationRepo.findById`, or `conversationRepo.create`. -/
  | opening
  /-- `messageRepo.findLastN`. -/
  | reading (conv : Conversation)
  /-- The document context. -/
  | loading (conv : Conversation) (history : List DbMessage)
  /-- The response of the upstream service. -/
  | asking (conv : Conversation) (history : List DbMessage)
  /-- The next event of the stream. -/
  | streaming (conv : Conversation) (st : StreamState)
  /-- The insert of the user message, in `chat`. -/
  | savingUser (conv : Conversation) (response : ChatService.AiResponse)
  /-- The insert of the reply, in `chat`. -/
  | savingAssistant (conv : Conversation)
  /-- Nothing: the response is sent. -/
  | closed

/-- A request: its entry point, its body and what it waits for. -/
structure ChatRun where
  entry : EntryPoint
  request : ChatRequestDto
  stage : Stage

/-- What a request is waiting for happens. -/
inductive Progress where
  /-- The conversation is looked up, or made with the given id. -/
  | opened (newId : String)
  /-- The history is read; the database answers in the given order. -/
  | read (order : List DbMessage)
  /-- The document context is there, and the prompt is posted. -/
  | loaded
  /-- `callDeepSeekAPI` returns. -/
  | answered (response : ChatService.AiResponse)
  /-- The response of the streamed call begins. -/
  | connected
  /-- A piece of the stream. -/
  | piece (c : Contribution)
  /-- The end of the stream. -/
  | ended
  /-- A lookup or the streamed call is rejected, or the stream breaks. -/
  | failed (message : JsString)
  /-- The awaited insert is carried out. -/
  | saved
  /-- The awaited insert is refused. -/
  | unsaved
  deriving DecidableEq, Repr

/-- What a request does before it waits again. -/
structure Effect where
  /-- A conversation that was made. -/
  conversation : Option Conversation := none
  /-- The inserts that are started. -/
  inserts : List NewMessage := []
  /-- The frames that are written. -/
  frames : List SseData := []

/-- The order, if the database may answer in it. -/
def ChatDb.messageOrder (db : ChatDb) (conversationId : String) (order : List DbMessage) :
    Option (db.MessageOrder conversationId) :=
  if h : order.Perm (db.messagesOf conversationId) ∧
      order.Pairwise fun a b => b.createdAt ≤ a.createdAt then some ⟨order, h.1, h.2⟩ else none

namespace ChatRun

/-- The error frame of `chatStream`; `chat` answers with a status instead. -/
def errorFrames (x : ChatRun) (message : JsString) : List SseData :=
  match x.entry with
  | .chat => []
  | .chatStream => [.errorFrame message]

/-- The `end` handler: both inserts are started, and the final frame does not wait for them. -/
def onEnd (x : ChatRun) (conv : Conversation) (st : StreamState) : Effect :=
  { inserts :=
      [{ conversationId := conv.id, role := .user, content := x.request.message },
        { conversationId := conv.id, role := .assistant, content := st.fullReply
          tokensUsed := st.tokensUsed }]
    frames := [.finalFrame (some (js conv.id))] }

/-- The request goes on from one `await` to the next. -/
def advance (db : ChatDb) (x : ChatRun) : Progress → Option (Stage × Effect)
  | .opened newId =>
    match x.stage with
    | .opening =>
      match truthy x.request.conversationId with
      | some id =>
        match ConversationRepository.findById db id with
        | some conv => some (.reading conv, {})
        | none =>
          some (.closed, { frames := x.errorFrames (js ("Conversation " ++ id ++ " not found")) })
      | none =>
        let conv := ChatService.newConversation newId x.request
        some (.loading conv [], { conversation := some conv })
    | _ => none
  | .read order =>
    match x.stage with
    | .reading conv =>
      (db.messageOrder conv.id order).map fun order =>
        (.loading conv (MessageRepository.findLastN order 10), {})
    | _ => none
  | .loaded =>
    match x.stage with
    | .loading conv history => some (.asking conv history, {})
    | _ => none
  | .answered response =>
    match x.entry, x.stage with
    | .chat, .asking conv _ =>
      some (.savingUser conv response,
        { inserts := [{ conversationId := conv.id, role := .user, content := x.request.message }] })
    | _, _ => none
  | .connected =>
    match x.entry, x.stage with
    | .chatStream, .asking conv _ => some (.streaming conv {}, {})
    | _, _ => none
  | .piece c =>
    match x.stage with
    | .streaming conv st =>
      some (.streaming conv (st.add c), { frames := (st.add c).frames.drop st.frames.length })
    | _ => none
  | .ended =>
    match x.stage with
    | .streaming conv st => some (.closed, x.onEnd conv st)
    | _ => none
  | .saved =>
    match x.stage with
    | .savingUser conv response =>
      some (.savingAssistant conv,
        { inserts :=
            [{ conversationId := conv.id, role := .assistant, content := response.reply
               tokensUsed := response.tokensUsed }] })
    | .savingAssistant _ => some (.closed, {})
    | _ => none
  | .unsaved =>
    match x.stage with
    | .savingUser _ _ => some (.closed, {})
    | .savingAssistant _ => some (.closed, {})
    | _ => none
  | .failed message =>
    match x.entry, x.stage with
    | _, .opening => some (.closed, { frames := x.errorFrames message })
    | _, .reading _ => some (.closed, { frames := x.errorFrames message })
    | _, .loading _ _ => some (.closed, { frames := x.errorFrames message })
    -- `callDeepSeekAPI` is never rejected
    | .chatStream, .asking _ _ => some (.closed, { frames := x.errorFrames message })
    | .chatStream, .streaming _ _ => some (.closed, { frames := x.errorFrames message })
    | _, _ => none

end ChatRun

/-! ### The server -/

/-- The state of the server and its database. -/
structure ChatServer where
  /-- The tables. -/
  db : ChatDb
  /-- The time of the last insert. -/
  clock : ℤ
  /-- The requests, by number. -/
  run : ℕ → Option ChatRun := fun _ => none
  /-- The inserts that are under way, with the request that started them. -/
  inserts : List (ℕ × NewMessage) := []
  /-- The rows that were inserted, with the request that inserted them. -/
  commits : List (ℕ × DbMessage) := []
  /-- The frames that were written. -/
  frames : List (ℕ × SseData) := []
  /-- The ids of the conversations that were deleted. -/
  deleted : List String := []

/-- What happens next. -/
inductive ServerEvent where
  /-- A request arrives. -/
  | arrive (k : ℕ) (entry : EntryPoint) (request : ChatRequestDto)
  /-- What request `k` waits for happens. -/
  | progress (k : ℕ) (p : Progress)
  /-- The database carries out the insert of request `k` for a role. -/
  | commit (k : ℕ) (role : Role) (id : String) (time : ℤ)
  /-- The database refuses it. -/
  | refuse (k : ℕ) (role : Role)
  /-- A conversation is deleted. -/
  | delete (conversationId : String)
  deriving DecidableEq, Repr

namespace ChatServer

/-- Request `k` is set. -/
def setRun (s : ChatServer) (k : ℕ) (x : ChatRun) : ChatServer :=
  { s with run := fun j => if j = k then some x else s.run j }

/-- The effect of request `k`. -/
def apply (s : ChatServer) (k : ℕ) (e : Effect) : ChatServer :=
  { s with
    db := e.conversation.elim s.db s.db.addConversation
    inserts := s.inserts ++ e.inserts.map fun data => (k, data)
    frames := s.frames ++ e.frames.map fun frame => (k, frame) }

/-- Request `k` goes on. -/
def advance (s : ChatServer) (k : ℕ) (p : Progress) : Option ChatServer :=
  match s.run k with
  | none => none
  | some x =>
    (x.advance s.db p).map fun next => (s.setRun k { x with stage := next.1 }).apply k next.2

/-- The awaited insert of a `chat` is settled; `chatStream` does not wait for its inserts. -/
def settle (s : ChatServer) (k : ℕ) (p : Progress) : Option ChatServer :=
  match s.run k with
  | none => none
  | some x =>
    match x.entry with
    | .chat => s.advance k p
    | .chatStream => some s

/-- The insert of request `k` for a role, if it is under way. -/
def insertOf (s : ChatServer) (k : ℕ) (role : Role) : Option (ℕ × NewMessage) :=
  s.inserts.find? fun p => p.1 = k && p.2.role = role

/-- The insert is carried out at `time` as a row with the given id. -/
def store (s : ChatServer) (insert : ℕ × NewMessage) (key : RowKey) : ChatServer :=
  { s with
    db := s.db.addMessage (insert.2.row key)
    clock := key.createdAt
    inserts := s.inserts.erase insert
    commits := s.commits ++ [(insert.1, insert.2.row key)] }

/-- The id of a new conversation was never given before. -/
def fresh (s : ChatServer) (id : String) : Bool :=
  (ConversationRepository.findById s.db id).isNone && decide (id ∉ s.deleted)

end ChatServer

/-- One step of the server. -/
def serverStep (s : ChatServer) : ServerEvent → Option ChatServer
  | .arrive k entry request =>
    if (s.run k).isNone then some (s.setRun k ⟨entry, request, .opening⟩) else none
  | .progress k p =>
    match p with
    | .opened newId => if s.fresh newId then s.advance k p else none
    | .saved => none
    | .unsaved => none
    | _ => s.advance k p
  -- a row of a conversation that is not there breaks the foreign key
  | .commit k role id time =>
    match s.insertOf k role with
    | some insert =>
      if s.clock ≤ time ∧ (ConversationRepository.findById s.db insert.2.conversationId).isSome then
        (s.store insert ⟨id, time⟩).settle k .saved
      else none
    | none => none
  | .refuse k role =>
    match s.insertOf k role with
    | some insert =>
      ({ s with inserts := s.inserts.erase insert } : ChatServer).settle k .unsaved
    | none => none
  | .delete id =>
    if (ConversationRepository.findById s.db id).isSome then
      some { s with db := s.db.deleteConversation id, deleted := id :: s.deleted }
    else none

/-! ### Who has inserts -/

/-- The stages in which a request may have started an insert. -/
def Stage.Saves : Stage → Prop
  | .savingUser _ _ => True
  | .savingAssistant _ => True
  | .closed => True
  | _ => False

namespace ChatRun

/-- A request opens its conversation without an insert of a message. -/
theorem advance_opened {db : ChatDb} {x : ChatRun} {newId : String} {stage : Stage} {e : Effect}
    (h : x.advance db (.opened newId) = some (stage, e)) : x.stage = .opening ∧ e.inserts = [] := by
  unfold advance at h
  cases hstage : x.stage <;> rw [hstage] at h <;> try cases h
  refine ⟨rfl, ?_⟩
  cases hid : truthy x.request.conversationId with
  | none =>
    rw [hid] at h
    cases h
    rfl
  | some id =>
    cases hconv : ConversationRepository.findById db id <;> simp only [hid, hconv] at h <;>
      cases h <;> rfl

/-- A request reads its history in one of the orders of the messages, and does nothing else. -/
theorem advance_read {db : ChatDb} {x : ChatRun} {order : List DbMessage} {stage : Stage}
    {e : Effect} (h : x.advance db (.read order) = some (stage, e)) :
    e = {} ∧ ∃ (conv : Conversation) (o : db.MessageOrder conv.id), x.stage = .reading conv ∧
      o.list = order ∧ stage = .loading conv (MessageRepository.findLastN o 10) := by
  unfold advance at h
  cases hstage : x.stage <;> rw [hstage] at h <;> try cases h
  case reading conv =>
    obtain ⟨o, ho, heq⟩ := Option.map_eq_some_iff.1 h
    cases heq
    refine ⟨rfl, conv, o, rfl, ?_, rfl⟩
    unfold ChatDb.messageOrder at ho
    split_ifs at ho
    cases ho
    rfl

/-- Only a request that saves, or is closed, has started inserts. -/
theorem advance_saves {db : ChatDb} {x : ChatRun} {p : Progress} {stage : Stage} {e : Effect}
    (h : x.advance db p = some (stage, e)) :
    stage.Saves ∨ (¬ x.stage.Saves ∧ e.inserts = []) := by
  cases p with
  | opened newId =>
    obtain ⟨hstage, hinserts⟩ := advance_opened h
    exact .inr ⟨by simp [hstage, Stage.Saves], hinserts⟩
  | read order =>
    obtain ⟨rfl, conv, o, hstage, -, -⟩ := advance_read h
    exact .inr ⟨by simp [hstage, Stage.Saves], rfl⟩
  | _ =>
    obtain ⟨entry, request, before⟩ := x
    cases entry <;> cases before <;> simp only [advance, reduceCtorEq] at h
    all_goals
      cases h
      first
      | exact .inl trivial
      | exact .inr ⟨id, rfl⟩

end ChatRun

/-! ### The moves of the server -/

namespace ChatServer

/-- What a step consists of. -/
inductive Move : ChatServer → ChatServer → Prop
  /-- A request arrives. -/
  | arrive {s : ChatServer} {k : ℕ} (entry : EntryPoint) (request : ChatRequestDto) :
      s.run k = none → Move s (s.setRun k ⟨entry, request, .opening⟩)
  /-- A request goes on. -/
  | advance {s : ChatServer} {k : ℕ} {x : ChatRun} {p : Progress} {stage : Stage} {e : Effect} :
      s.run k = some x → x.advance s.db p = some (stage, e) →
        (∀ conv, e.conversation = some conv → s.fresh conv.id = true) →
          Move s ((s.setRun k { x with stage }).apply k e)
  /-- An insert is carried out. -/
  | store {s : ChatServer} {insert : ℕ × NewMessage} (key : RowKey) :
      insert ∈ s.inserts → s.clock ≤ key.createdAt →
        (ConversationRepository.findById s.db insert.2.conversationId).isSome →
          Move s (s.store insert key)
  /-- An insert is refused. -/
  | drop {s : ChatServer} {insert : ℕ × NewMessage} :
      insert ∈ s.inserts → Move s { s with inserts := s.inserts.erase insert }
  /-- A conversation is deleted. -/
  | delete {s : ChatServer} (id : String) :
      Move s { s with db := s.db.deleteConversation id, deleted := id :: s.deleted }

/-- Only an opening request makes a conversation, with the given id. -/
theorem conversation_advance {db : ChatDb} {x : ChatRun} {p : Progress} {stage : Stage}
    {e : Effect} (h : x.advance db p = some (stage, e)) {conv : Conversation}
    (hconv : e.conversation = some conv) : p = .opened conv.id := by
  cases p with
  | opened newId =>
    obtain ⟨hstage, -⟩ := ChatRun.advance_opened h
    simp only [ChatRun.advance, hstage] at h
    cases hid : truthy x.request.conversationId with
    | none =>
      rw [hid] at h
      cases h
      cases hconv
      rfl
    | some id =>
      cases hfind : ConversationRepository.findById db id <;> simp only [hid, hfind] at h <;>
        cases h <;> cases hconv
  | read order =>
    obtain ⟨rfl, -⟩ := ChatRun.advance_read h
    cases hconv
  | _ =>
    obtain ⟨entry, request, before⟩ := x
    cases entry <;> cases before <;> simp only [ChatRun.advance, reduceCtorEq] at h
    all_goals
      cases h
      cases hconv

/-- **What a request that goes on does.** -/
theorem advance_eq_some {s s' : ChatServer} {k : ℕ} {p : Progress}
    (h : s.advance k p = some s') :
    ∃ x stage e, s.run k = some x ∧ x.advance s.db p = some (stage, e) ∧
      s' = (s.setRun k { x with stage }).apply k e := by
  unfold ChatServer.advance at h
  cases hrun : s.run k with
  | none =>
    rw [hrun] at h
    cases h
  | some x =>
    rw [hrun] at h
    obtain ⟨⟨stage, e⟩, hadv, rfl⟩ := Option.map_eq_some_iff.1 h
    exact ⟨x, stage, e, rfl, hadv, rfl⟩

/-- When an insert is settled, a `chat` goes on and a `chatStream` does nothing. -/
theorem settle_eq_some {s s' : ChatServer} {k : ℕ} {p : Progress} (h : s.settle k p = some s') :
    s' = s ∨ s.advance k p = some s' := by
  unfold settle at h
  cases hrun : s.run k with
  | none =>
    rw [hrun] at h
    cases h
  | some x =>
    rw [hrun] at h
    cases hentry : x.entry with
    | chat =>
      simp only [hentry] at h
      exact .inr h
    | chatStream =>
      simp only [hentry, Option.some.injEq] at h
      exact .inl h.symm

/-- A request that goes on makes a move. -/
theorem move_of_advance {s s' : ChatServer} {k : ℕ} {p : Progress}
    (h : s.advance k p = some s') (hfresh : ∀ newId, p = .opened newId → s.fresh newId = true) :
    Move s s' := by
  obtain ⟨x, stage, e, hrun, hadv, rfl⟩ := advance_eq_some h
  exact .advance hrun hadv fun conv hconv => hfresh conv.id (conversation_advance hadv hconv)

/-- Settling an insert is no move for `chatStream`. -/
theorem move_of_settle {s s' : ChatServer} {k : ℕ} {p : Progress} (h : s.settle k p = some s')
    (hp : ∀ newId, p ≠ .opened newId) : s = s' ∨ Move s s' := by
  rcases settle_eq_some h with rfl | hadv
  · exact .inl rfl
  · exact .inr (move_of_advance hadv fun newId heq => absurd heq (hp newId))

theorem mem_of_insertOf {s : ChatServer} {k : ℕ} {role : Role} {insert : ℕ × NewMessage}
    (h : s.insertOf k role = some insert) :
    insert ∈ s.inserts ∧ insert.1 = k ∧ insert.2.role = role :=
  ⟨List.mem_of_find?_eq_some h, by simpa using List.find?_some h⟩

/-- A request arrives under a new number. -/
theorem step_arrive {s s' : ChatServer} {k : ℕ} {entry : EntryPoint} {request : ChatRequestDto}
    (h : serverStep s (.arrive k entry request) = some s') :
    s.run k = none ∧ s' = s.setRun k ⟨entry, request, .opening⟩ := by
  simp only [serverStep] at h
  split_ifs at h with hnone
  exact ⟨Option.isNone_iff_eq_none.1 hnone, (Option.some.inj h).symm⟩

/-- A request goes on; an id that it gives to a new conversation was never given before. -/
theorem step_progress {s s' : ChatServer} {k : ℕ} {p : Progress}
    (h : serverStep s (.progress k p) = some s') :
    s.advance k p = some s' ∧ ∀ newId, p = .opened newId → s.fresh newId = true := by
  cases p with
  | opened newId =>
    simp only [serverStep] at h
    split_ifs at h with hfresh
    refine ⟨h, fun id hid => ?_⟩
    cases hid
    exact hfresh
  | saved => cases h
  | unsaved => cases h
  | _ => exact ⟨h, fun newId hid => by cases hid⟩

/-- An insert is carried out. -/
theorem step_commit {s s' : ChatServer} {k : ℕ} {role : Role} {id : String} {time : ℤ}
    (h : serverStep s (.commit k role id time) = some s') :
    ∃ insert, s.insertOf k role = some insert ∧ s.clock ≤ time ∧
      (ConversationRepository.findById s.db insert.2.conversationId).isSome ∧
      (s.store insert ⟨id, time⟩).settle k .saved = some s' := by
  simp only [serverStep] at h
  split at h
  · rename_i insert hinsert
    split_ifs at h with hguard
    exact ⟨insert, hinsert, hguard.1, hguard.2, h⟩
  · cases h

/-- An insert is refused. -/
theorem step_refuse {s s' : ChatServer} {k : ℕ} {role : Role}
    (h : serverStep s (.refuse k role) = some s') :
    ∃ insert, s.insertOf k role = some insert ∧
      ({ s with inserts := s.inserts.erase insert } : ChatServer).settle k .unsaved = some s' := by
  simp only [serverStep] at h
  split at h
  · rename_i insert hinsert
    exact ⟨insert, hinsert, h⟩
  · cases h

/-- A conversation is deleted. -/
theorem step_delete {s s' : ChatServer} {id : String} (h : serverStep s (.delete id) = some s') :
    (ConversationRepository.findById s.db id).isSome ∧
      s' = { s with db := s.db.deleteConversation id, deleted := id :: s.deleted } := by
  simp only [serverStep] at h
  split_ifs at h with hfound
  exact ⟨hfound, (Option.some.inj h).symm⟩

/-- A step of the server is one or two moves. -/
theorem moves_of_step {s s' : ChatServer} {e : ServerEvent} (h : serverStep s e = some s') :
    ∃ t, Move s t ∧ (t = s' ∨ Move t s') := by
  cases e with
  | arrive k entry request =>
    obtain ⟨hnone, rfl⟩ := step_arrive h
    exact ⟨_, .arrive entry request hnone, .inl rfl⟩
  | progress k p =>
    obtain ⟨hadvance, hfresh⟩ := step_progress h
    exact ⟨s', move_of_advance hadvance hfresh, .inl rfl⟩
  | commit k role id time =>
    obtain ⟨insert, hinsert, hclock, hconv, hsettle⟩ := step_commit h
    exact ⟨_, .store ⟨id, time⟩ (mem_of_insertOf hinsert).1 hclock hconv,
      move_of_settle hsettle (by simp)⟩
  | refuse k role =>
    obtain ⟨insert, hinsert, hsettle⟩ := step_refuse h
    exact ⟨_, .drop (mem_of_insertOf hinsert).1, move_of_settle hsettle (by simp)⟩
  | delete id =>
    obtain ⟨-, rfl⟩ := step_delete h
    exact ⟨_, .delete id, .inl rfl⟩

/-- What every move keeps is kept by the steps of a run. -/
theorem invariant_of_moves {I : ChatServer → Prop} (hmove : ∀ s t, I s → Move s t → I t)
    {s s' : ChatServer} {es : List ServerEvent} (h : AnyRun serverStep s es s') (h₀ : I s) :
    I s' := by
  refine h.invariant h₀ ?_
  intro s e s' hs _ hstep
  obtain ⟨t, hst, rfl | hts⟩ := moves_of_step hstep
  · exact hmove _ _ hs hst
  · exact hmove _ _ (hmove _ _ hs hst) hts

/-! ### Who has started an insert -/

/-- Request `k` has an insert under way or carried out. -/
def Writes (s : ChatServer) (k : ℕ) : Prop :=
  (∃ data, (k, data) ∈ s.inserts) ∨ ∃ row, (k, row) ∈ s.commits

/-- Only a request that saves, or is closed, has started inserts. -/
def WritersSave (s : ChatServer) : Prop :=
  ∀ k, s.Writes k → ∃ x, s.run k = some x ∧ x.stage.Saves

theorem writes_apply {s : ChatServer} {j k : ℕ} {x : ChatRun} {e : Effect}
    (h : ((s.setRun k x).apply k e).Writes j) : s.Writes j ∨ (j = k ∧ e.inserts ≠ []) := by
  rcases h with ⟨data, hdata⟩ | ⟨row, hrow⟩
  · rcases List.mem_append.1 hdata with hdata | hdata
    · exact .inl (.inl ⟨data, hdata⟩)
    · obtain ⟨data', hmem, heq⟩ := List.mem_map.1 hdata
      cases heq
      exact .inr ⟨rfl, List.ne_nil_of_mem hmem⟩
  · exact .inl (.inr ⟨row, hrow⟩)

theorem writes_store {s : ChatServer} {j : ℕ} {insert : ℕ × NewMessage} {key : RowKey}
    (hmem : insert ∈ s.inserts) (h : (s.store insert key).Writes j) : s.Writes j := by
  rcases h with ⟨data, hdata⟩ | ⟨row, hrow⟩
  · exact .inl ⟨data, List.mem_of_mem_erase hdata⟩
  · rcases List.mem_append.1 hrow with hrow | hrow
    · exact .inr ⟨row, hrow⟩
    · cases List.mem_singleton.1 hrow
      exact .inl ⟨insert.2, hmem⟩

theorem writersSave_move {s t : ChatServer} (hs : WritersSave s) (h : Move s t) :
    WritersSave t := by
  intro j hj
  cases h with
  | @arrive k entry request hnone =>
    obtain ⟨x, hx, hsaves⟩ := hs j hj
    refine ⟨x, ?_, hsaves⟩
    -- the number of a new request is that of no writer
    have hne : j ≠ k := by
      rintro rfl
      rw [hnone] at hx
      cases hx
    simpa [setRun, hne] using hx
  | @advance k x p stage e hrun hadv _ =>
    rcases writes_apply hj with hold | ⟨rfl, hinserts⟩
    · obtain ⟨y, hy, hsaves⟩ := hs j hold
      by_cases hne : j = k
      · subst hne
        rw [hrun] at hy
        cases hy
        refine ⟨{ x with stage }, by simp [apply, setRun], ?_⟩
        rcases ChatRun.advance_saves hadv with h | ⟨h, -⟩
        · exact h
        · exact absurd hsaves h
      · exact ⟨y, by simpa [apply, setRun, hne] using hy, hsaves⟩
    · refine ⟨{ x with stage }, by simp [apply, setRun], ?_⟩
      rcases ChatRun.advance_saves hadv with h | ⟨-, h⟩
      · exact h
      · exact absurd h hinserts
  | store key hmem _ _ => exact hs j (writes_store hmem hj)
  | drop hmem =>
    refine hs j ?_
    rcases hj with ⟨data, hdata⟩ | hrow
    · exact .inl ⟨data, List.mem_of_mem_erase hdata⟩
    · exact .inr hrow
  | delete id => exact hs j hj

/-! ### Deleted conversations -/

/-- What is known of deleted conversations: they are not there, and their rows are gone. -/
structure Deletions (s : ChatServer) : Prop where
  conversation : ∀ conv ∈ s.db.conversation, conv.id ∉ s.deleted
  rows : ∀ p ∈ s.commits, p.2 ∈ s.db.message ↔ p.2.conversationId ∉ s.deleted

theorem not_mem_deleted {s : ChatServer} (hs : Deletions s) {id : String}
    (h : (ConversationRepository.findById s.db id).isSome) : id ∉ s.deleted := by
  obtain ⟨conv, hconv⟩ := Option.isSome_iff_exists.1 h
  have hid : conv.id = id := by simpa using List.find?_some hconv
  exact hid ▸ hs.conversation conv (List.mem_of_find?_eq_some hconv)

theorem deletions_move {s t : ChatServer} (hs : Deletions s) (h : Move s t) : Deletions t := by
  cases h with
  | arrive entry request _ => exact ⟨hs.conversation, hs.rows⟩
  | @advance k x p stage e _ _ hfresh =>
    cases hconv : e.conversation with
    | none =>
      constructor
      · simpa [apply, setRun, hconv] using hs.conversation
      · simpa [apply, setRun, hconv] using hs.rows
    | some conv =>
      have hnew : conv.id ∉ s.deleted := by
        have := hfresh conv hconv
        simp only [fresh, Bool.and_eq_true, decide_eq_true_eq] at this
        exact this.2
      constructor
      · intro c hc
        simp only [apply, setRun, hconv, Option.elim_some, ChatDb.addConversation,
          List.mem_append, List.mem_singleton] at hc
        rcases hc with hc | rfl
        · exact hs.conversation c hc
        · exact hnew
      · simpa [apply, setRun, hconv, ChatDb.addConversation] using hs.rows
  | @store insert key hmem _ hconv =>
    have hnot := not_mem_deleted hs hconv
    constructor
    · exact hs.conversation
    · intro p hp
      simp only [store, ChatDb.addMessage, List.mem_append, List.mem_singleton] at hp ⊢
      rcases hp with hp | rfl
      · rw [hs.rows p hp]
        constructor
        · rintro (h | h)
          · exact h
          · rw [h]
            exact hnot
        · exact .inl
      · exact iff_of_true (.inr rfl) hnot
  | drop _ => exact ⟨hs.conversation, hs.rows⟩
  | delete id =>
    constructor
    · intro conv hconv
      simp only [ChatDb.deleteConversation, List.mem_filter, decide_eq_true_eq] at hconv
      simp [hs.conversation conv hconv.1, hconv.2]
    · intro p hp
      simp [ChatDb.deleteConversation, hs.rows p hp, and_comm]

/-! ### A closed stream -/

/-- Request `k` is closed, and its inserts are for the given conversation. -/
structure ClosedOn (k : ℕ) (conversationId : String) (s : ChatServer) : Prop where
  closed : ∃ x, s.run k = some x ∧ x.stage = .closed
  inserts : ∀ data, (k, data) ∈ s.inserts → data.conversationId = conversationId
  commits : ∀ row, (k, row) ∈ s.commits → row.conversationId = conversationId

theorem advance_closed {db : ChatDb} {x : ChatRun} {p : Progress} (h : x.stage = .closed) :
    x.advance db p = none := by
  obtain ⟨entry, request, stage⟩ := x
  cases h
  cases p <;> cases entry <;> rfl

theorem closedOn_move {k : ℕ} {id : String} {s t : ChatServer} (hs : ClosedOn k id s)
    (h : Move s t) : ClosedOn k id t := by
  obtain ⟨y, hy, hclosed⟩ := hs.closed
  cases h with
  | @arrive j entry request hnone =>
    have hne : k ≠ j := by
      rintro rfl
      rw [hnone] at hy
      cases hy
    exact ⟨⟨y, by simpa [setRun, hne] using hy, hclosed⟩, hs.inserts, hs.commits⟩
  | @advance j x p stage e hrun hadv _ =>
    -- a closed request does not go on
    have hne : k ≠ j := by
      rintro rfl
      rw [hrun] at hy
      cases hy
      rw [advance_closed hclosed] at hadv
      cases hadv
    refine ⟨⟨y, by simpa [apply, setRun, hne] using hy, hclosed⟩, ?_, hs.commits⟩
    intro data hdata
    rcases List.mem_append.1 hdata with hdata | hdata
    · exact hs.inserts data hdata
    · obtain ⟨_, _, heq⟩ := List.mem_map.1 hdata
      cases heq
      exact absurd rfl hne
  | @store insert key hmem _ _ =>
    refine ⟨⟨y, hy, hclosed⟩, fun data hdata => hs.inserts data (List.mem_of_mem_erase hdata), ?_⟩
    intro row hrow
    rcases List.mem_append.1 hrow with hrow | hrow
    · exact hs.commits row hrow
    · cases List.mem_singleton.1 hrow
      exact hs.inserts insert.2 hmem
  | drop _ =>
    exact ⟨⟨y, hy, hclosed⟩, fun data hdata => hs.inserts data (List.mem_of_mem_erase hdata),
      hs.commits⟩
  | delete _ => exact ⟨⟨y, hy, hclosed⟩, hs.inserts, hs.commits⟩

/-! ### What a run inserts and deletes -/

theorem advance_commits {s s' : ChatServer} {k : ℕ} {p : Progress} (h : s.advance k p = some s') :
    s'.commits = s.commits ∧ s'.deleted = s.deleted := by
  obtain ⟨x, stage, e, -, -, rfl⟩ := advance_eq_some h
  exact ⟨rfl, rfl⟩

theorem settle_commits {s s' : ChatServer} {k : ℕ} {p : Progress} (h : s.settle k p = some s') :
    s'.commits = s.commits ∧ s'.deleted = s.deleted := by
  rcases settle_eq_some h with rfl | hadv
  · exact ⟨rfl, rfl⟩
  · exact advance_commits hadv

/-- A commit inserts one row, into a conversation that is there. -/
theorem commit_step {s s' : ChatServer} {k : ℕ} {role : Role} {id : String} {time : ℤ}
    (h : serverStep s (.commit k role id time) = some s') :
    s'.deleted = s.deleted ∧ ∃ row, s'.commits = s.commits ++ [(k, row)] ∧ row.role = role ∧
      row.id = id ∧ row.createdAt = time ∧
      (ConversationRepository.findById s.db row.conversationId).isSome := by
  obtain ⟨insert, hinsert, -, hconv, hsettle⟩ := step_commit h
  obtain ⟨hcommits, hdeleted⟩ := settle_commits hsettle
  obtain ⟨-, rfl, hrole⟩ := mem_of_insertOf hinsert
  exact ⟨hdeleted, insert.2.row ⟨id, time⟩, hcommits, hrole, rfl, rfl, hconv⟩

/-- No other event inserts a row, and only a deletion deletes. -/
theorem commits_step {s s' : ChatServer} {e : ServerEvent} (h : serverStep s e = some s')
    (hcommit : ∀ k role id time, e ≠ .commit k role id time) :
    s'.commits = s.commits ∧
      (s'.deleted = s.deleted ∨ ∃ id, e = .delete id ∧ s'.deleted = id :: s.deleted) := by
  cases e with
  | arrive k entry request =>
    obtain ⟨-, rfl⟩ := step_arrive h
    exact ⟨rfl, .inl rfl⟩
  | progress k p =>
    obtain ⟨hcommits, hdeleted⟩ := advance_commits (step_progress h).1
    exact ⟨hcommits, .inl hdeleted⟩
  | commit k role id time => exact absurd rfl (hcommit k role id time)
  | refuse k role =>
    obtain ⟨insert, -, hsettle⟩ := step_refuse h
    obtain ⟨hcommits, hdeleted⟩ := settle_commits hsettle
    exact ⟨hcommits, .inl hdeleted⟩
  | delete id =>
    obtain ⟨-, rfl⟩ := step_delete h
    exact ⟨rfl, .inr ⟨id, rfl, rfl⟩⟩

/-- What one step inserts. -/
theorem mem_commits_step {s s' : ChatServer} {e : ServerEvent} (h : serverStep s e = some s')
    {p : ℕ × DbMessage} :
    (p ∈ s.commits → p ∈ s'.commits) ∧
      (p ∈ s'.commits → p ∈ s.commits ∨ e = .commit p.1 p.2.role p.2.id p.2.createdAt) := by
  by_cases hcommit : ∃ k role id time, e = .commit k role id time
  · obtain ⟨k, role, id, time, rfl⟩ := hcommit
    obtain ⟨-, row, hcommits, rfl, rfl, rfl, -⟩ := commit_step h
    rw [hcommits, List.mem_append, List.mem_singleton]
    constructor
    · exact .inl
    · rintro (hp | rfl)
      · exact .inl hp
      · exact .inr rfl
  · rw [(commits_step h fun k role id time heq => hcommit ⟨k, role, id, time, heq⟩).1]
    exact ⟨id, .inl⟩

/-- What one step deletes. -/
theorem mem_deleted_step {s s' : ChatServer} {e : ServerEvent} (h : serverStep s e = some s')
    {id : String} : id ∈ s'.deleted ↔ id ∈ s.deleted ∨ e = .delete id := by
  by_cases hcommit : ∃ k role id time, e = .commit k role id time
  · obtain ⟨k, role, id', time, rfl⟩ := hcommit
    simp [(commit_step h).1]
  · obtain ⟨-, hdeleted | ⟨id', rfl, hdeleted⟩⟩ :=
      commits_step h fun k role id time heq => hcommit ⟨k, role, id, time, heq⟩
    · rw [hdeleted]
      have hnot : e ≠ .delete id := by
        rintro rfl
        obtain ⟨-, rfl⟩ := step_delete h
        simpa using congrArg List.length hdeleted
      simp [hnot]
    · rw [hdeleted, List.mem_cons, or_comm]
      simp [eq_comm]

/-- A row was inserted before the run, or by an event of the run. -/
theorem mem_commits_run {s t : ChatServer} {es : List ServerEvent} (h : AnyRun serverStep s es t)
    {p : ℕ × DbMessage} :
    (p ∈ s.commits → p ∈ t.commits) ∧
      (p ∈ t.commits → p ∈ s.commits ∨ .commit p.1 p.2.role p.2.id p.2.createdAt ∈ es) := by
  induction h with
  | nil s => exact ⟨id, .inl⟩
  | cons _ hstep _ ih =>
    obtain ⟨hkeep, hnew⟩ := mem_commits_step hstep (p := p)
    refine ⟨fun hp => ih.1 (hkeep hp), fun hp => ?_⟩
    rcases ih.2 hp with hp | hp
    · rcases hnew hp with hp | rfl
      · exact .inl hp
      · exact .inr List.mem_cons_self
    · exact .inr (List.mem_cons_of_mem _ hp)

theorem mem_deleted_run {s t : ChatServer} {es : List ServerEvent} (h : AnyRun serverStep s es t)
    {id : String} : id ∈ t.deleted ↔ id ∈ s.deleted ∨ .delete id ∈ es := by
  induction h with
  | nil s => simp
  | cons _ hstep _ ih =>
    rw [ih, mem_deleted_step hstep, List.mem_cons, or_assoc]
    simp [eq_comm]

/-- A commit of the run has inserted a row, into a conversation that was not deleted before. -/
theorem exists_of_commit {s t : ChatServer} {es : List ServerEvent}
    (h : AnyRun serverStep s es t) (hs : Deletions s) {k : ℕ} {role : Role} {id : String} {time : ℤ}
    (hmem : .commit k role id time ∈ es) :
    ∃ row, (k, row) ∈ t.commits ∧ row.role = role ∧ row.createdAt = time ∧
      row.conversationId ∉ s.deleted := by
  induction h with
  | nil s => cases hmem
  | @cons s s' t e es _ hstep hrun ih =>
    rcases List.mem_cons.1 hmem with rfl | hmem
    · obtain ⟨-, row, hcommits, hrole, -, htime, hconv⟩ := commit_step hstep
      refine ⟨row, (mem_commits_run hrun).1 ?_, hrole, htime, not_mem_deleted hs hconv⟩
      rw [hcommits]
      exact List.mem_append_right _ (List.mem_singleton_self _)
    · obtain ⟨row, hrow, hrole, htime, hnot⟩ :=
        ih (invariant_of_moves (fun _ _ => deletions_move) (.single trivial hstep) hs) hmem
      refine ⟨row, hrow, hrole, htime, fun hdeleted => hnot ?_⟩
      exact (mem_deleted_step hstep).2 (.inl hdeleted)

/-! ### What a step does to the tables -/

/-- A request that goes on writes at most the conversation it makes. -/
theorem advance_db {s s' : ChatServer} {k : ℕ} {p : Progress} (h : s.advance k p = some s') :
    s'.db = s.db ∨ ∃ conv, p = .opened conv.id ∧ s'.db = s.db.addConversation conv := by
  obtain ⟨x, stage, e, -, hadv, rfl⟩ := advance_eq_some h
  cases hconv : e.conversation with
  | none => exact .inl (by simp [apply, setRun, hconv])
  | some conv =>
    exact .inr ⟨conv, conversation_advance hadv hconv, by simp [apply, setRun, hconv]⟩

theorem settle_db {s s' : ChatServer} {k : ℕ} {p : Progress} (h : s.settle k p = some s')
    (hp : ∀ newId, p ≠ .opened newId) : s'.db = s.db := by
  rcases settle_eq_some h with rfl | hadv
  · rfl
  · rcases advance_db hadv with hdb | ⟨conv, hopened, -⟩
    · exact hdb
    · exact absurd hopened (hp conv.id)

/-- A commit adds the row of an insert that is under way, to a conversation that is there. -/
theorem commit_db {s s' : ChatServer} {k : ℕ} {role : Role} {id : String} {time : ℤ}
    (h : serverStep s (.commit k role id time) = some s') :
    ∃ insert, s.insertOf k role = some insert ∧ s.clock ≤ time ∧
      (ConversationRepository.findById s.db insert.2.conversationId).isSome ∧
      s'.db = s.db.addMessage (insert.2.row ⟨id, time⟩) := by
  obtain ⟨insert, hinsert, hclock, hconv, hsettle⟩ := step_commit h
  exact ⟨insert, hinsert, hclock, hconv, settle_db hsettle (by simp)⟩

/-- No other step adds a message. -/
theorem db_step {s s' : ChatServer} {e : ServerEvent} (h : serverStep s e = some s')
    (hcommit : ∀ k role id time, e ≠ .commit k role id time) :
    s'.db = s.db ∨ (∃ conv, s.fresh conv.id = true ∧ s'.db = s.db.addConversation conv) ∨
      ∃ id, e = .delete id ∧ s'.db = s.db.deleteConversation id := by
  cases e with
  | arrive k entry request =>
    obtain ⟨-, rfl⟩ := step_arrive h
    exact .inl rfl
  | progress k p =>
    obtain ⟨hadvance, hfresh⟩ := step_progress h
    rcases advance_db hadvance with hdb | ⟨conv, hopened, hdb⟩
    · exact .inl hdb
    · exact .inr (.inl ⟨conv, hfresh _ hopened, hdb⟩)
  | commit k role id time => exact absurd rfl (hcommit k role id time)
  | refuse k role =>
    obtain ⟨insert, -, hsettle⟩ := step_refuse h
    have hdb := settle_db hsettle (by simp)
    exact .inl hdb
  | delete id =>
    obtain ⟨-, rfl⟩ := step_delete h
    exact .inr (.inr ⟨id, rfl, rfl⟩)

/-! ### When the final frame is written -/

/-- The server before the first request. -/
structure Started (s : ChatServer) : Prop where
  run : ∀ k, s.run k = none
  inserts : s.inserts = []
  commits : s.commits = []
  deleted : s.deleted = []

/-- The two messages of request `k` are in the stored history of the conversation, that of the
user first. -/
def StoredInOrder (s : ChatServer) (k : ℕ) (conversationId : String) : Prop :=
  ∃ user assistant, (k, user) ∈ s.commits ∧ user.role = .user ∧
    (k, assistant) ∈ s.commits ∧ assistant.role = .assistant ∧
    user ∈ s.db.messagesOf conversationId ∧ assistant ∈ s.db.messagesOf conversationId ∧
    user.createdAt < assistant.createdAt

/-- The database carried out both inserts of request `k`, that of the user message at an earlier
time, and the conversation was not deleted. -/
def CommittedInOrder (es : List ServerEvent) (k : ℕ) (conversationId : String) : Prop :=
  (∃ id id' time time', ServerEvent.commit k .user id time ∈ es ∧
    ServerEvent.commit k .assistant id' time' ∈ es ∧ time < time') ∧
  ServerEvent.delete conversationId ∉ es

theorem mem_messagesOf_iff {s : ChatServer} (hs : Deletions s) {p : ℕ × DbMessage}
    (hp : p ∈ s.commits) {id : String} (hid : p.2.conversationId = id) :
    p.2 ∈ s.db.messagesOf id ↔ id ∉ s.deleted := by
  rw [ChatDb.messagesOf, List.mem_filter, hs.rows p hp, hid]
  simp

/-- What later requests find of a stream that is closed and has nothing stored yet. -/
theorem storedInOrder_iff {s t : ChatServer} {es : List ServerEvent}
    (h : AnyRun serverStep s es t) (hs : Deletions s) {k : ℕ} {id : String}
    (hclosed : ClosedOn k id s) (hnone : ∀ row, (k, row) ∉ s.commits) :
    StoredInOrder t k id ↔ CommittedInOrder es k id := by
  have ht : Deletions t := invariant_of_moves (fun _ _ => deletions_move) h hs
  have hclosed' : ClosedOn k id t := invariant_of_moves (fun _ _ => closedOn_move) h hclosed
  constructor
  · rintro ⟨user, assistant, huser, hrole, hassistant, hrole', hmem, -, hlt⟩
    refine ⟨⟨user.id, assistant.id, user.createdAt, assistant.createdAt, ?_, ?_, hlt⟩, ?_⟩
    · rw [← hrole]
      exact ((mem_commits_run h).2 huser).resolve_left (hnone user)
    · rw [← hrole']
      exact ((mem_commits_run h).2 hassistant).resolve_left (hnone assistant)
    · intro hdelete
      have hnot := (mem_messagesOf_iff ht huser (hclosed'.commits _ huser)).1 hmem
      exact hnot ((mem_deleted_run h).2 (.inr hdelete))
  · rintro ⟨⟨_, _, _, _, hcommit, hcommit', hlt⟩, hdelete⟩
    obtain ⟨user, huser, hrole, rfl, hnot⟩ := exists_of_commit h hs hcommit
    obtain ⟨assistant, hassistant, hrole', rfl, -⟩ := exists_of_commit h hs hcommit'
    have hid := hclosed'.commits _ huser
    rw [hid] at hnot
    have halive : id ∉ t.deleted := by
      rw [mem_deleted_run h, not_or]
      exact ⟨hnot, hdelete⟩
    exact ⟨user, assistant, huser, hrole, hassistant, hrole',
      (mem_messagesOf_iff ht huser hid).2 halive,
      (mem_messagesOf_iff ht hassistant (hclosed'.commits _ hassistant)).2 halive, hlt⟩

/-- **The final frame comes before the messages.**  In every run the frame `complete: true` of a
stream is written while neither of its messages is stored; they are in the stored history, in
their order, from the moment when the database has carried out both inserts in this order. -/
theorem complete_before_stored {s₀ s s' : ChatServer} {es : List ServerEvent} {k : ℕ} {x : ChatRun}
    {conv : Conversation} {st : StreamState} (h₀ : Started s₀) (hrun : AnyRun serverStep s₀ es s)
    (hk : s.run k = some x) (hstage : x.stage = .streaming conv st)
    (hstep : serverStep s (.progress k .ended) = some s') :
    s'.frames = s.frames ++ [(k, .finalFrame (some (js conv.id)))] ∧
      ¬ StoredInOrder s' k conv.id ∧
      ∀ es' t, AnyRun serverStep s' es' t →
        (StoredInOrder t k conv.id ↔ CommittedInOrder es' k conv.id) := by
  have hwriters : WritersSave s := by
    refine invariant_of_moves (fun _ _ => writersSave_move) hrun ?_
    rintro j (⟨data, hdata⟩ | ⟨row, hrow⟩)
    · rw [h₀.inserts] at hdata
      cases hdata
    · rw [h₀.commits] at hrow
      cases hrow
  have hdeletions : Deletions s := by
    refine invariant_of_moves (fun _ _ => deletions_move) hrun ⟨?_, ?_⟩
    · simp [h₀.deleted]
    · simp [h₀.commits]
  -- a stream that has not ended has not started an insert
  have hnot : ¬ s.Writes k := by
    intro hwrites
    obtain ⟨y, hy, hsaves⟩ := hwriters k hwrites
    rw [hk] at hy
    cases hy
    rw [hstage] at hsaves
    exact hsaves
  have hs' : serverStep s (.progress k .ended) =
      some ((s.setRun k { x with stage := .closed }).apply k (x.onEnd conv st)) := by
    simp only [serverStep, ChatServer.advance, hk, ChatRun.advance, hstage, Option.map_some]
  obtain rfl := Option.some.inj (hstep.symm.trans hs')
  have hnone : ∀ row, (k, row) ∉ s.commits := fun row hrow => hnot (.inr ⟨row, hrow⟩)
  have hclosed : ClosedOn k conv.id
      ((s.setRun k { x with stage := .closed }).apply k (x.onEnd conv st)) := by
    refine ⟨⟨{ x with stage := .closed }, by simp [apply, setRun], rfl⟩, ?_, ?_⟩
    · intro data hdata
      rcases List.mem_append.1 hdata with hdata | hdata
      · exact absurd (.inl ⟨data, hdata⟩) hnot
      · simp only [ChatRun.onEnd, List.map_cons, List.map_nil, List.mem_cons, Prod.mk.injEq,
          true_and, List.not_mem_nil, or_false] at hdata
        rcases hdata with rfl | rfl <;> rfl
    · intro row hrow
      exact absurd hrow (hnone row)
  have hdeletions' :=
    invariant_of_moves (fun _ _ => deletions_move) (.single trivial hs') hdeletions
  refine ⟨rfl, ?_, fun es' t hrun' => storedInOrder_iff hrun' hdeletions' hclosed hnone⟩
  rintro ⟨user, -, huser, -⟩
  exact hnone user huser

/-- A server with one conversation. -/
def oneConversation : ChatServer :=
  { db := { conversation := [⟨"c", none, none, none⟩], message := [] }, clock := 0 }

theorem started_oneConversation : Started oneConversation := ⟨fun _ => rfl, rfl, rfl, rfl⟩

/-- A streamed reply, up to its last piece. -/
def helloEvents : List ServerEvent :=
  [.arrive 0 .chatStream { message := js "hi", conversationId := some "c" },
    .progress 0 (.opened "d"), .progress 0 (.read []), .progress 0 .loaded, .progress 0 .connected,
    .progress 0 (.piece { token := js "hello" })]

/-- The server waits for the end of the stream. -/
theorem exists_helloEvents : ∃ s x st, AnyRun serverStep oneConversation helloEvents s ∧
    s.run 0 = some x ∧ x.stage = .streaming ⟨"c", none, none, none⟩ st ∧ s.commits = [] ∧
    (serverStep s (.progress 0 .ended)).isSome := by
  exact ⟨_, _, _, .cons trivial rfl (.cons trivial rfl (.cons trivial rfl (.cons trivial rfl
    (.cons trivial rfl (.cons trivial rfl (.nil _)))))), rfl, rfl, rfl, rfl⟩

/-- The end of this stream. -/
theorem complete_before_stored_hello :
    ∃ s s', AnyRun serverStep oneConversation helloEvents s ∧
      serverStep s (.progress 0 .ended) = some s' ∧
      s'.frames = s.frames ++ [(0, .finalFrame (some (js "c")))] ∧ ¬ StoredInOrder s' 0 "c" := by
  obtain ⟨s, x, st, hrun, hk, hstage, -, hsome⟩ := exists_helloEvents
  obtain ⟨s', hstep⟩ := Option.isSome_iff_exists.1 hsome
  obtain ⟨hframes, hstored, -⟩ :=
    complete_before_stored started_oneConversation hrun hk hstage hstep
  exact ⟨s, s', hrun, hstep, hframes, hstored⟩

/-- The client is told that the reply is complete when nothing is stored. -/
theorem complete_not_stored :
    ¬ ∀ (s₀ s s' : ChatServer) (es : List ServerEvent) (k : ℕ) (x : ChatRun) (conv : Conversation)
        (st : StreamState), Started s₀ → AnyRun serverStep s₀ es s → s.run k = some x →
      x.stage = .streaming conv st → serverStep s (.progress k .ended) = some s' →
      StoredInOrder s' k conv.id := by
  intro h
  obtain ⟨s, x, st, hrun, hk, hstage, hcommits, hsome⟩ := exists_helloEvents
  obtain ⟨s', hstep⟩ := Option.isSome_iff_exists.1 hsome
  obtain ⟨user, -, huser, -⟩ :=
    h _ s s' _ 0 x _ st started_oneConversation hrun hk hstage hstep
  rcases (mem_commits_step hstep).2 huser with huser | hevent
  · rw [hcommits] at huser
    cases huser
  · cases hevent

end ChatServer

end StudyOasis
