import StudyOasis.Chat.Parity

/-!
# Conversations of another user

Of the three operations that take the id of a conversation, only `deleteConversation` compares
its owner with the user of the request, and only for a user id that is not empty.  `chat` and
`chatStream` go on as for a conversation of the user's own, so the request is refused only when
some other step turns it down before anything is posted or stored (`refused_iff`).
-/

namespace StudyOasis

namespace ChatService

variable {w : ChatWorld} {db : ChatDb}

/-- The operations that take the id of a conversation. -/
inductive ConversationOp where
  | chat (request : ChatRequestDto)
  | chatStream (request : ChatRequestDto)
  | deleteConversation (conversationId : String) (userId : Option String)
  deriving DecidableEq, Repr

namespace ConversationOp

/-- The user of the operation. -/
def userId : ConversationOp → Option String
  | chat request => request.userId
  | chatStream request => request.userId
  | deleteConversation _ userId => userId

/-- The conversation that the operation names. -/
def conversationId : ConversationOp → Option String
  | chat request => truthy request.conversationId
  | chatStream request => truthy request.conversationId
  | deleteConversation conversationId _ => some conversationId

/-- The operation. -/
def action (w : ChatWorld) : ConversationOp → ChatAction Unit
  | chat request => (fun _ => ()) <$> ChatService.chat w request
  | chatStream request => chatStreamRequest w request
  | deleteConversation conversationId userId =>
    ChatService.deleteConversation w conversationId userId

end ConversationOp

/-- The operation fails: it is rejected, or the last frame it writes is an error. -/
def Failed (outcome : Except ServiceError Unit × ChatState) : Prop :=
  (∃ error, outcome.1 = .error error) ∨
    ∃ message, outcome.2.frames.getLast? = some (.errorFrame message)

/-- No message of the conversation is sent to the model. -/
def KeptFromModel (id : String) (s : ChatState) : Prop :=
  ∀ p ∈ s.posted, ∀ msg ∈ p.history, msg.conversationId ≠ id

/-- The operation fails, the tables stay as they are, also after every insert it started, and no
message of the conversation is sent to the model. -/
def Refused (w : ChatWorld) (op : ConversationOp) (db : ChatDb) (id : String) : Prop :=
  let outcome := (op.action w).runOn { db }
  Failed outcome ∧ outcome.2.db = db ∧ outcome.2.started = [] ∧ KeptFromModel id outcome.2

/-- What turns an operation on a conversation of somebody else down: the check of the owner in
`deleteConversation`, or an error on the way. -/
def TurnsDown (w : ChatWorld) (op : ConversationOp) (db : ChatDb) (id : String) : Prop :=
  match op with
  | .deleteConversation _ userId =>
    (truthy userId).isSome ∨ (w.fails .findConversation).isSome ∨
      (w.fails .deleteConversation).isSome
  | .chat request =>
    AsksModel w request db →
      (w.fails .insertUser).isSome ∧ (w.apiKey = true → db.messagesOf id = [])
  | .chatStream request =>
    AsksModel w request db →
      w.apiKey = true ∧ ¬ Delivered w ∧ db.messagesOf id = []

/-! ### What is posted -/

theorem mem_findLastN {id : String} {order : db.MessageOrder id} {n : ℕ} {msg : DbMessage}
    (h : msg ∈ MessageRepository.findLastN order n) : msg.conversationId = id := by
  have hmem := order.perm.mem_iff.1 (List.mem_of_mem_take h)
  simpa using (List.mem_filter.1 hmem).2

theorem findLastN_eq_nil_iff {id : String} (order : db.MessageOrder id) :
    MessageRepository.findLastN order 10 = [] ↔ db.messagesOf id = [] := by
  rw [MessageRepository.findLastN, List.take_eq_nil_iff, ← List.length_eq_zero_iff,
    ← List.length_eq_zero_iff, order.perm.length_eq]
  simp

/-- The history that is read is kept from the model exactly when nothing is posted or nothing was
there to be read. -/
theorem keptFromModel_iff {id : String} {order : db.MessageOrder id} {s : ChatState}
    {messages : List DeepSeekMessage}
    (h : s.posted = [⟨MessageRepository.findLastN order 10, messages⟩]) :
    KeptFromModel id s ↔ db.messagesOf id = [] := by
  rw [← findLastN_eq_nil_iff order]
  unfold KeptFromModel
  simp only [h, List.mem_singleton, forall_eq]
  constructor
  · intro hkept
    rw [List.eq_nil_iff_forall_not_mem]
    intro msg hmsg
    exact hkept msg hmsg (mem_findLastN hmsg)
  · intro hnil msg hmsg
    rw [hnil] at hmsg
    cases hmsg

theorem keptFromModel_of_nil {id : String} {s : ChatState} (h : s.posted = []) :
    KeptFromModel id s := by
  intro p hp
  rw [h] at hp
  cases hp

theorem refused_iff_of_run {op : ConversationOp} {id : String}
    {outcome : Except ServiceError Unit × ChatState} (h : (op.action w).runOn { db } = outcome) :
    Refused w op db id ↔ Failed outcome ∧ outcome.2.db = db ∧ outcome.2.started = [] ∧
      KeptFromModel id outcome.2 := by
  rw [Refused, h]

/-- An operation that is rejected before it does anything is refused. -/
theorem refused_of_rejected {op : ConversationOp} {id : String} {error : ServiceError}
    (h : (op.action w).runOn { db } = (.error error, { db })) : Refused w op db id :=
  (refused_iff_of_run h).2 ⟨.inl ⟨error, rfl⟩, rfl, rfl, keptFromModel_of_nil rfl⟩

/-! ### `deleteConversation` -/

theorem deleteConversation_ne {id : String} {conv : Conversation}
    (hconv : ConversationRepository.findById db id = some conv) :
    db.deleteConversation id ≠ db := by
  intro h
  have hmem := List.mem_of_find?_eq_some hconv
  have hid := List.find?_some hconv
  rw [← h] at hmem
  simp only [ChatDb.deleteConversation, List.mem_filter, decide_eq_true_eq] at hmem
  exact hmem.2 (by simpa using hid)

theorem refused_delete_of_rejected {id : String} {userId : Option String} {error : ServiceError}
    (h : (deleteConversation w id userId).runOn { db } = (.error error, { db })) :
    Refused w (.deleteConversation id userId) db id := refused_of_rejected h

/-- How `deleteConversation` ends on a stored conversation of somebody else. -/
theorem refused_delete_iff {id : String} {userId : Option String} {conv : Conversation}
    (hconv : ConversationRepository.findById db id = some conv) (howner : conv.userId ≠ userId) :
    Refused w (.deleteConversation id userId) db id ↔
      (truthy userId).isSome ∨ (w.fails .findConversation).isSome ∨
        (w.fails .deleteConversation).isSome := by
  cases hfind : w.fails .findConversation with
  | some message =>
    have h : (deleteConversation w id userId).runOn { db } = (.error (.error message), { db }) := by
      simp [deleteConversation, ChatWorld.await_of_some hfind]
    simp [refused_delete_of_rejected h]
  | none =>
    by_cases huser : (truthy userId).isSome
    · have hcond : (truthy userId).isSome ∧ conv.userId ≠ userId := ⟨huser, howner⟩
      have h : ∃ error, (deleteConversation w id userId).runOn { db } = (.error error, { db }) := by
        refine ⟨.business notOwner, ?_⟩
        simp only [deleteConversation, Action.runOn_bind, ChatWorld.await_of_none hfind,
          Action.andThen_ok, Action.runOn_get, hconv, if_pos hcond]
        rfl
      obtain ⟨error, h⟩ := h
      simp [refused_delete_of_rejected h, huser]
    · have hcond : ¬ ((truthy userId).isSome ∧ conv.userId ≠ userId) := fun h => huser h.1
      cases hdelete : w.fails .deleteConversation with
      | some message =>
        have h : (deleteConversation w id userId).runOn { db } =
            (.error (.error message), { db }) := by
          simp only [deleteConversation, Action.runOn_bind, ChatWorld.await_of_none hfind,
            Action.andThen_ok, Action.runOn_get, hconv, if_neg hcond,
            ChatWorld.await_of_some hdelete, Action.andThen_error]
        simp [refused_delete_of_rejected h]
      -- without a user id the conversation is deleted
      | none =>
        have h : (deleteConversation w id userId).runOn { db } =
            (.ok (), { db := db.deleteConversation id }) := by
          simp only [deleteConversation, Action.runOn_bind, ChatWorld.await_of_none hfind,
            Action.andThen_ok, Action.runOn_get, hconv, if_neg hcond,
            ChatWorld.await_of_none hdelete, Action.runOn_modify]
        have hnot : ¬ Refused w (.deleteConversation id userId) db id := by
          rintro ⟨-, hdb, -⟩
          rw [ConversationOp.action, h] at hdb
          exact deleteConversation_ne hconv hdb
        simp [hnot, huser]

/-! ### `chat` and `chatStream` -/

section Chat

variable {request : ChatRequestDto} {id : String}

theorem refused_stream_iff_of_run {outcome : Except ServiceError Unit × ChatState}
    (h : (chatStreamRequest w request).runOn { db } = outcome) :
    Refused w (.chatStream request) db id ↔ Failed outcome ∧ outcome.2.db = db ∧
      outcome.2.started = [] ∧ KeptFromModel id outcome.2 := refused_iff_of_run h

/-- A request that is turned down before the model is asked is refused. -/
theorem refused_of_turnedDown (hid : truthy request.conversationId = some id)
    (h : TurnedDown w request db) :
    Refused w (.chat request) db id ∧ Refused w (.chatStream request) db id := by
  have hsome : (truthy request.conversationId).isSome := by rw [hid]; rfl
  constructor
  · obtain ⟨error, db', hrun, -, hdb⟩ := h.chat
    rw [hdb hsome] at hrun
    have haction : (ConversationOp.action w (.chat request)).runOn { db } =
        (.error error, { db }) := by simp [ConversationOp.action, hrun]
    exact refused_of_rejected haction
  · obtain ⟨message, db', hrun, -, hdb⟩ := h.stream
    rw [hdb hsome] at hrun
    exact (refused_stream_iff_of_run hrun).2
      ⟨.inr ⟨message, rfl⟩, rfl, rfl, keptFromModel_of_nil rfl⟩

/-- How `chat` ends once it is ready to ask the model. -/
theorem chat_ready_cases {conv : Conversation} {messages : List DbMessage}
    (h : Ready w request db conv messages db) :
    ((w.fails .insertUser).isSome ∧ ∃ error, (chat w request).runOn { db } =
        (.error error, asked w request conv messages { db })) ∨
      (w.fails .insertUser = none ∧ ((chat w request).runOn { db }).2.db ≠ db) := by
  rw [chat_of_open h.1]
  rcases answer_cases (w := w) request conv messages { db } with
    ⟨message, hdoc, hctx, -⟩ | ⟨-, ⟨message, huser, hrun⟩ | ⟨message, huser, -, hrun⟩ |
      ⟨huser, -, hrun⟩⟩
  · have hlook := h.2
    rw [lookUpDocument, if_pos hdoc, ChatWorld.await_of_some hctx] at hlook
    cases hlook
  · exact .inl ⟨by rw [huser]; rfl, _, hrun⟩
  · refine .inr ⟨huser, ?_⟩
    rw [hrun]
    simpa using addMessage_ne db _
  · refine .inr ⟨huser, ?_⟩
    rw [hrun]
    intro hdb
    have := congrArg (·.message.length) hdb
    simp [ChatDb.addMessage] at this

theorem snd_action_chat (s : ChatState) :
    ((ConversationOp.action w (.chat request)).runOn s).2 = ((chat w request).runOn s).2 := by
  rw [ConversationOp.action, Action.runOn_map]
  rcases (chat w request).runOn s with ⟨_ | _, _⟩ <;> rfl

theorem started_asked (conv : Conversation) (messages : List DbMessage) :
    (asked w request conv messages { db }).started = [] := by
  unfold asked
  split <;> rfl

/-- What was posted of the history. -/
theorem keptFromModel_asked (conv : Conversation) :
    KeptFromModel id
        (asked w request conv (MessageRepository.findLastN (w.orders db id) 10) { db }) ↔
      (w.apiKey = true → db.messagesOf id = []) := by
  unfold asked
  by_cases hkey : w.apiKey = true
  · rw [if_pos hkey, keptFromModel_iff rfl]
    simp [hkey]
  · rw [if_neg hkey]
    simp [keptFromModel_of_nil, hkey]

/-- How `chat` ends on a stored conversation. -/
theorem refused_chat_iff (hid : truthy request.conversationId = some id) :
    Refused w (.chat request) db id ↔
      (AsksModel w request db →
        (w.fails .insertUser).isSome ∧ (w.apiKey = true → db.messagesOf id = [])) := by
  rcases ready_or_turnedDown w request db with ⟨hasks, conv, messages, db', hready, -⟩ |
    ⟨hnot, hdown⟩
  · obtain ⟨rfl, rfl⟩ := ready_existing hid hready
    rcases chat_ready_cases hready with ⟨huser, error, hrun⟩ | ⟨huser, hne⟩
    -- the first insert is rejected: all that happened is that the prompt was posted
    · have haction : (ConversationOp.action w (.chat request)).runOn { db := db' } =
          (.error error, asked w request conv (MessageRepository.findLastN (w.orders db' id) 10)
            { db := db' }) := by simp [ConversationOp.action, hrun]
      rw [refused_iff_of_run haction, keptFromModel_asked]
      simp [hasks, huser, Failed, started_asked]
    -- the user message was stored
    · have hnot : ¬ Refused w (.chat request) db' id := by
        rintro ⟨-, hdb, -⟩
        rw [snd_action_chat] at hdb
        exact hne hdb
      simp [hasks, huser, hnot]
  · simp [hnot, (refused_of_turnedDown hid hdown).1]

theorem not_failed_of_finalFrame {frames : List SseData} {s : ChatState}
    {conversationId : Option JsString} (h : s.frames = frames ++ [.finalFrame conversationId]) :
    ¬ Failed (.ok (), s) := by
  rintro (⟨_, h'⟩ | ⟨message, h'⟩)
  · cases h'
  · rw [show (Except.ok (), s).2.frames = s.frames from rfl, h, List.getLast?_concat] at h'
    cases h'

/-- How `chatStream` ends on a stored conversation. -/
theorem refused_chatStream_iff (hid : truthy request.conversationId = some id) :
    Refused w (.chatStream request) db id ↔
      (AsksModel w request db →
        w.apiKey = true ∧ ¬ Delivered w ∧ db.messagesOf id = []) := by
  rcases ready_or_turnedDown w request db with ⟨hasks, conv, messages, db', hready, -⟩ |
    ⟨hnot, hdown⟩
  · obtain ⟨rfl, rfl⟩ := ready_existing hid hready
    cases hkey : w.apiKey with
    | false =>
      have hnot : ¬ Refused w (.chatStream request) db' id := by
        rw [refused_stream_iff_of_run (stream_of_no_key hready hkey)]
        rintro ⟨hfailed, -⟩
        exact not_failed_of_finalFrame rfl hfailed
      simp [hasks, hnot]
    | true =>
      cases hup : w.upstream with
      | delivers reply totalTokens buffers =>
        rw [refused_stream_iff_of_run (stream_of_delivers hready hkey hup)]
        simp [hasks, Delivered, hkey, hup, startedInserts]
      -- the error frame is all that the user sees, but the history was posted
      | fails buffers message =>
        rw [refused_stream_iff_of_run (stream_of_fails hready hkey hup),
          keptFromModel_iff rfl]
        simp [hasks, Delivered, hup, Failed]
  · simp [hnot, (refused_of_turnedDown hid hdown).2]

end Chat

/-- **When a conversation of somebody else is protected.**  An operation of the user `u` on a
stored conversation of another user `v` fails, changes nothing and keeps the conversation from the
model exactly when `deleteConversation` checks the owner or an error turns the operation down. -/
theorem refused_iff (w : ChatWorld) (op : ConversationOp) (db : ChatDb) {conv : Conversation}
    {u v : String} (hid : op.conversationId = some conv.id) (hu : op.userId = some u)
    (hconv : ConversationRepository.findById db conv.id = some conv) (hv : conv.userId = some v)
    (hne : v ≠ u) : Refused w op db conv.id ↔ TurnsDown w op db conv.id := by
  cases op with
  | chat request => exact refused_chat_iff hid
  | chatStream request => exact refused_chatStream_iff hid
  | deleteConversation id userId =>
    obtain rfl : id = conv.id := Option.some.inj hid
    have howner : conv.userId ≠ userId := by
      intro h
      rw [hv, show userId = some u from hu] at h
      exact hne (Option.some.inj h)
    exact refused_delete_iff hconv howner

/-- A conversation of Alice. -/
def aliceConversation : Conversation := ⟨"c", some "alice", none, none⟩

/-- The tables with her conversation and its message. -/
def aliceDb : ChatDb :=
  { conversation := [aliceConversation]
    message := [⟨"m", .user, js "secret", none, none, none, 1, "c"⟩] }

theorem findById_aliceDb :
    ConversationRepository.findById aliceDb aliceConversation.id = some aliceConversation := by
  decide

/-- Bob cannot delete it. -/
theorem refused_iff_delete :
    Refused (upstreamWorld (.fails [] (js "timeout"))) (.deleteConversation "c" (some "bob"))
      aliceDb aliceConversation.id := by
  have hv : aliceConversation.userId = some "alice" := rfl
  exact (refused_iff (upstreamWorld (.fails [] (js "timeout")))
    (.deleteConversation "c" (some "bob")) aliceDb rfl rfl findById_aliceDb hv (by decide)).2
      (.inl (by decide))

/-- Bob can go on with it, and the model gets its message. -/
theorem foreign_conversation_answered :
    ¬ ∀ (w : ChatWorld) (op : ConversationOp) (db : ChatDb) (conv : Conversation) (u v : String),
      op.conversationId = some conv.id → op.userId = some u →
      ConversationRepository.findById db conv.id = some conv → conv.userId = some v → v ≠ u →
      Refused w op db conv.id := by
  intro h
  let w := upstreamWorld (deliversHihi 46)
  let request : ChatRequestDto :=
    { message := js "what was it?", conversationId := some "c", userId := some "bob" }
  have hid : truthy request.conversationId = some aliceConversation.id := by decide
  have hrefused := h w (.chat request) aliceDb aliceConversation "bob" "alice" hid rfl
    findById_aliceDb rfl (by decide)
  have hasks : AsksModel w request aliceDb := by
    rw [AsksModel, hid]
    exact ⟨rfl, rfl, _, findById_aliceDb, fun _ => rfl⟩
  obtain ⟨huser, -⟩ := (refused_chat_iff hid).1 hrefused hasks
  cases huser

end ChatService

end StudyOasis
