import StudyOasis.Chat.Service

/-!
# What a failed chat request leaves behind

`ChatService.chat` inserts up to three rows in two tables without a transaction.  A request that
is rejected leaves the tables as they were exactly when the step that fails comes before the first
insert (`chat_all_or_nothing_iff`).
-/

namespace StudyOasis

namespace ChatService

variable {w : ChatWorld} {request : ChatRequestDto} {db : ChatDb}

/-- A rejected `chat` adds nothing, and a resolved one exactly a user row and then an assistant
row, to the conversation it returns. -/
def AllOrNothing (w : ChatWorld) (request : ChatRequestDto) (db : ChatDb) : Prop :=
  (∃ error s, (chat w request).runOn { db } = (.error error, s) ∧ s.db = db) ∨
    ∃ response s user assistant, (chat w request).runOn { db } = (.ok response, s) ∧
      s.db.message = db.message ++ [user, assistant] ∧
      user.role = .user ∧ user.conversationId = response.conversationId ∧
      user.content = request.message ∧
      assistant.role = .assistant ∧ assistant.conversationId = response.conversationId ∧
      assistant.content = response.reply

/-- The step that fails comes after an insert: after that of a new conversation, or else after
that of the user message. -/
def FailsAfterInsert (w : ChatWorld) (request : ChatRequestDto) (db : ChatDb) : Prop :=
  match truthy request.conversationId with
  | none =>
    (truthy request.documentId).isSome ∧ (w.fails .documentContext).isSome ∨
      (w.fails .insertUser).isSome ∨ (w.fails .insertAssistant).isSome
  | some id =>
    (ConversationRepository.findById db id).isSome ∧ (w.fails .insertAssistant).isSome

theorem allOrNothing_of_error {error : ServiceError} {s : ChatState}
    (h : (chat w request).runOn { db } = (.error error, s)) :
    AllOrNothing w request db ↔ s.db = db := by
  unfold AllOrNothing
  rw [h]
  constructor
  · rintro (⟨_, _, heq, hdb⟩ | ⟨_, _, _, _, heq, -⟩)
    · cases heq
      exact hdb
    · cases heq
  · intro hdb
    exact .inl ⟨error, s, rfl, hdb⟩

/-- What `chat` does once the conversation is open. -/
theorem chat_of_open {s t : ChatState} {conv : Conversation} {messages : List DbMessage}
    (h : (openConversation w request).runOn s = (.ok (some (conv, messages)), t)) :
    (chat w request).runOn s = (answer w request conv messages).runOn t := by
  simp [chat, h]

theorem chat_of_not_found {s t : ChatState}
    (h : (openConversation w request).runOn s = (.ok none, t)) :
    (chat w request).runOn s =
      (.error (.business (notFound (request.conversationId.getD ""))), t) := by
  simp [chat, h]

theorem chat_of_rejected {s t : ChatState} {error : ServiceError}
    (h : (openConversation w request).runOn s = (.error error, t)) :
    (chat w request).runOn s = (.error error, t) := by
  simp [chat, h]

theorem addMessage_ne (db : ChatDb) (msg : DbMessage) : db.addMessage msg ≠ db := by
  intro h
  have := congrArg (·.message.length) h
  simp [ChatDb.addMessage] at this

theorem addConversation_ne (db : ChatDb) (conv : Conversation) :
    db.addConversation conv ≠ db := by
  intro h
  have := congrArg (·.conversation.length) h
  simp [ChatDb.addConversation] at this

theorem addMessage_addConversation_ne (db : ChatDb) (conv : Conversation) (msg : DbMessage) :
    (db.addConversation conv).addMessage msg ≠ db := by
  intro h
  have := congrArg (·.message.length) h
  simp [ChatDb.addMessage, ChatDb.addConversation] at this

/-- A request on a stored conversation. -/
theorem allOrNothing_existing_iff {id : String} (hid : truthy request.conversationId = some id) :
    AllOrNothing w request db ↔
      ¬ ((ConversationRepository.findById db id).isSome ∧ (w.fails .insertAssistant).isSome) := by
  rcases openConversation_existing (w := w) hid { db } with
    ⟨message, hopen, hfail⟩ | ⟨-, hfind, hopen⟩ | ⟨-, -, conv, hfind, hopen⟩
  -- the lookup is rejected: nothing was written, and the failing step is not the last insert
  · have hlast : w.fails .insertAssistant = none := by
      rcases hfail with hfail | ⟨-, hfail⟩ <;> exact ChatWorld.fails_eq_none hfail (by decide)
    simp [allOrNothing_of_error (chat_of_rejected hopen), hlast]
  · simp [allOrNothing_of_error (chat_of_not_found hopen), show
      ConversationRepository.findById db id = none from hfind]
  · have hfound : ConversationRepository.findById db id = some conv := hfind
    have hchat := chat_of_open hopen
    rcases answer_cases (w := w) request conv (MessageRepository.findLastN (w.orders db id) 10)
        { db } with
      ⟨message, -, hctx, hrun⟩ | ⟨-, ⟨message, huser, hrun⟩ | ⟨message, -, hassistant, hrun⟩ |
        ⟨-, hassistant, hrun⟩⟩
    · have hlast : w.fails .insertAssistant = none :=
        ChatWorld.fails_eq_none hctx (by decide)
      simp [allOrNothing_of_error (hchat.trans hrun), hlast]
    · have hlast : w.fails .insertAssistant = none :=
        ChatWorld.fails_eq_none huser (by decide)
      simp [allOrNothing_of_error (hchat.trans hrun), hlast]
    -- the user message was stored before the reply was refused
    · simp [allOrNothing_of_error (hchat.trans hrun), hassistant, hfound, addMessage_ne]
    · simp only [hassistant, Option.isSome_none, Bool.false_eq_true, and_false, not_false_eq_true,
        iff_true]
      exact .inr ⟨_, _, userRow w request conv, assistantRow w request conv, hchat.trans hrun,
        by simp [ChatDb.addMessage], rfl, rfl, rfl, rfl, rfl, rfl⟩

theorem documentOf_newConversation (id : String) (request : ChatRequestDto) :
    (documentOf request (newConversation id request)).isSome =
      (truthy request.documentId).isSome := by
  simp only [documentOf, newConversation]
  cases h : truthy request.documentId <;> simp [truthy]

/-- A request that starts a conversation. -/
theorem allOrNothing_new_iff (hid : truthy request.conversationId = none) :
    AllOrNothing w request db ↔
      ¬ ((truthy request.documentId).isSome ∧ (w.fails .documentContext).isSome ∨
        (w.fails .insertUser).isSome ∨ (w.fails .insertAssistant).isSome) := by
  rcases openConversation_new (w := w) hid { db } with ⟨message, hopen, hcreate⟩ | ⟨-, hopen⟩
  -- the conversation itself was refused, so no later step fails
  · have hctx : w.fails .documentContext = none := ChatWorld.fails_eq_none hcreate (by decide)
    have huser : w.fails .insertUser = none := ChatWorld.fails_eq_none hcreate (by decide)
    have hassistant : w.fails .insertAssistant = none :=
      ChatWorld.fails_eq_none hcreate (by decide)
    simp [allOrNothing_of_error (chat_of_rejected hopen), hctx, huser, hassistant]
  have hchat := chat_of_open hopen
  rw [← documentOf_newConversation w.newConversationId request]
  rcases answer_cases (w := w) request (newConversation w.newConversationId request) [] _ with
    ⟨message, hdoc, hctx, hrun⟩ | ⟨hctx, ⟨message, huser, hrun⟩ |
      ⟨message, huser, hassistant, hrun⟩ | ⟨huser, hassistant, hrun⟩⟩
  -- the new conversation stays behind
  · simp [allOrNothing_of_error (hchat.trans hrun), hdoc, hctx, addConversation_ne]
  · simp [allOrNothing_of_error (hchat.trans hrun), huser, addConversation_ne]
  · simp [allOrNothing_of_error (hchat.trans hrun), hassistant, addMessage_addConversation_ne]
  · have hnot : ¬ ((documentOf request (newConversation w.newConversationId request)).isSome ∧
        (w.fails .documentContext).isSome) := by
      rintro ⟨hdoc, hsome⟩
      rw [hctx hdoc] at hsome
      cases hsome
    have hholds : AllOrNothing w request db :=
      .inr ⟨_, _, userRow w request (newConversation w.newConversationId request),
        assistantRow w request (newConversation w.newConversationId request), hchat.trans hrun,
        by simp [ChatDb.addMessage, ChatDb.addConversation], rfl, rfl, rfl, rfl, rfl, rfl⟩
    simp [hholds, hnot, huser, hassistant]

/-- **When `chat` is all or nothing.**  Whatever the request, the tables and the step that fails,
a rejected request leaves no row behind and a resolved one adds its two messages, exactly when the
failing step does not come after an insert. -/
theorem chat_all_or_nothing_iff (w : ChatWorld) (request : ChatRequestDto) (db : ChatDb) :
    AllOrNothing w request db ↔ ¬ FailsAfterInsert w request db := by
  unfold FailsAfterInsert
  cases hid : truthy request.conversationId with
  | none => exact allOrNothing_new_iff hid
  | some id => exact allOrNothing_existing_iff hid

/-- An upstream service that replies `hi`, and a failing insert of the reply. -/
def replyNotStored : ChatWorld :=
  { apiKey := true
    upstream := .delivers (js "hi") 2 [upstreamBytes hiLines]
    parse := hiParse
    loadContext := fun _ _ => none
    newConversationId := "c"
    userKey := ⟨"m", 1⟩
    assistantKey := ⟨"n", 2⟩
    fault := some ⟨.insertAssistant, js "connection lost"⟩ }

/-- The conversation and the user message stay when the reply is not stored. -/
theorem chat_not_all_or_nothing : ¬ ∀ w request db, AllOrNothing w request db := by
  intro h
  have hholds := h replyNotStored { message := js "hi" } { conversation := [], message := [] }
  exact (allOrNothing_new_iff (by decide)).1 hholds (by decide)

end ChatService

end StudyOasis
