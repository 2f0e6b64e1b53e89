import StudyOasis.Chat.Prompt
import StudyOasis.Chat.Sse
import StudyOasis.Common.Exceptions
import StudyOasis.Common.QueryOrder

/-!
# The history in the prompt

Both entry points of `ChatService` read the last ten messages of a conversation with `findLastN`,
newest first, and send them in the order they are read.  So the history that is sent is the
chronological one exactly when it reads the same backwards (`prompt_chronological_iff`).
-/

namespace StudyOasis

/-- A row of `conversations`, as far as it decides the prompt. -/
structure Conversation where
  id : String
  userId : Option String
  documentId : Option String
  title : Option JsString
  deriving DecidableEq, Repr

/-- The tables of the chat. -/
structure ChatDb where
  /-- `conversations`. -/
  conversation : List Conversation
  /-- `messages`. -/
  message : List DbMessage

/-- The messages of a conversation. -/
def ChatDb.messagesOf (db : ChatDb) (conversationId : String) : List DbMessage :=
  db.message.filter fun msg => msg.conversationId = conversationId

/-- `ConversationRepository.findById`, without the messages it includes. -/
def ConversationRepository.findById (db : ChatDb) (id : String) : Option Conversation :=
  db.conversation.find? fun conv => conv.id = id

/-- An order in which the database may answer for the messages of a conversation: by `createdAt`
alone, latest first. -/
abbrev ChatDb.MessageOrder (db : ChatDb) (conversationId : String) :=
  QueryOrder (·.createdAt) (db.messagesOf conversationId)

/-- The orders in which the database answers. -/
abbrev MessageOrders := ∀ (db : ChatDb) (conversationId : String), db.MessageOrder conversationId

/-- `MessageRepository.findLastN`, answered in the given order. -/
def MessageRepository.findLastN {db : ChatDb} {conversationId : String}
    (order : db.MessageOrder conversationId) (n : ℕ) : List DbMessage :=
  order.list.take n

/-- `ChatRequestDto`, as far as the service reads it. -/
structure ChatRequestDto where
  message : JsString
  conversationId : Option String := none
  documentId : Option String := none
  userId : Option String := none
  deriving DecidableEq, Repr

/-- A string that is not empty, as in `if (x)`. -/
def truthy (x : Option String) : Option String := x.filter (· ≠ "")

namespace ChatService

/-- What the services give for a document and a message: `VisionService.getDocumentContext`, then
`DocumentContextHelper.buildContext`. -/
abbrev LoadContext := String → JsString → Option JsString

variable (loadContext : LoadContext) (orders : MessageOrders)

/-- The messages that are sent for a conversation with the given messages, current one last. -/
def promptMessages (request : ChatRequestDto) (documentId : Option String)
    (messages : List DbMessage) : List DeepSeekMessage :=
  let docId := truthy request.documentId <|> truthy documentId
  let documentContext := docId.bind fun id => loadContext id request.message
  let userMessageCount := (messages.filter fun msg => msg.role = .user).length
  let hintLevel := ChatPromptBuilder.calculateHintLevel userMessageCount
  ChatMessageHelper.buildMessageHistory messages documentContext hintLevel ++
    [⟨.user, request.message⟩]

/-- The messages that `chat` sends. -/
def chatMessages (db : ChatDb) (request : ChatRequestDto) :
    Except BusinessException (List DeepSeekMessage) :=
  match truthy request.conversationId with
  | some conversationId =>
    match ConversationRepository.findById db conversationId with
    | none =>
      .error ⟨.conversationNotFound, "Conversation " ++ conversationId ++ " not found", 404⟩
    | some existingConv =>
      .ok (promptMessages loadContext request existingConv.documentId
        (MessageRepository.findLastN (orders db conversationId) 10))
  -- a new conversation has no history
  | none => .ok (promptMessages loadContext request request.documentId [])

/-- The messages that `chatStream` sends, or the frame it answers with. -/
def chatStreamMessages (db : ChatDb) (request : ChatRequestDto) :
    Except SseData (List DeepSeekMessage) :=
  match truthy request.conversationId with
  | some conversationId =>
    match ConversationRepository.findById db conversationId with
    | none => .error (.errorFrame (js ("Conversation " ++ conversationId ++ " not found")))
    | some existingConv =>
      .ok (promptMessages loadContext request existingConv.documentId
        (MessageRepository.findLastN (orders db conversationId) 10))
  | none => .ok (promptMessages loadContext request request.documentId [])

end ChatService

/-! ### The chronological history -/

/-- The last `min(10, n)` messages of a conversation in the order they were created. -/
def ChatDb.recent (db : ChatDb) (conversationId : String) : List DbMessage :=
  let messages := orderByAsc (·.createdAt) (db.messagesOf conversationId)
  messages.drop (messages.length - 10)

/-- What is sent of a stored message. -/
def DbMessage.toDeepSeek (msg : DbMessage) : DeepSeekMessage := ⟨msg.role, msg.content⟩

/-- The messages are some system messages of the prompt, the last stored messages in the order
they were created, and the current message. -/
def Chronological (loadContext : ChatService.LoadContext) (db : ChatDb) (request : ChatRequestDto)
    (conv : Conversation) (sent : List DeepSeekMessage) : Prop :=
  let docId := truthy request.documentId <|> truthy conv.documentId
  let documentContext := docId.bind fun id => loadContext id request.message
  ∃ hintLevel, sent =
    ChatMessageHelper.buildMessageHistory [] documentContext hintLevel ++
      (db.recent conv.id).map DbMessage.toDeepSeek ++ [⟨.user, request.message⟩]

namespace ChatMessageHelper

theorem buildMessageHistory_eq (dbMessages : List DbMessage) (documentContext : Option JsString)
    (hintLevel : HintLevel) :
    buildMessageHistory dbMessages documentContext hintLevel =
      buildMessageHistory [] documentContext hintLevel ++
        (dbMessages.drop (dbMessages.length - 10)).map DbMessage.toDeepSeek := by
  simp only [buildMessageHistory, List.length_nil, List.drop_nil, List.map_nil, List.append_nil]
  rfl

theorem length_buildMessageHistory_nil (documentContext : Option JsString)
    (hintLevel hintLevel' : HintLevel) :
    (buildMessageHistory [] documentContext hintLevel).length =
      (buildMessageHistory [] documentContext hintLevel').length := by
  simp [buildMessageHistory]

end ChatMessageHelper

theorem length_recent_le (db : ChatDb) (conversationId : String) :
    (db.recent conversationId).length ≤ 10 := by
  simp only [ChatDb.recent, List.length_drop]
  omega

/-- `findLastN` reads the history backwards. -/
theorem findLastN_eq_reverse {db : ChatDb} {conversationId : String}
    (order : db.MessageOrder conversationId)
    (hd : DistinctKeys (·.createdAt) (db.messagesOf conversationId)) :
    MessageRepository.findLastN order 10 = (db.recent conversationId).reverse := by
  rw [MessageRepository.findLastN, order.list_eq hd, orderByDesc_eq_reverse hd, List.take_reverse]
  rfl

/-- What is sent for a stored conversation: its history backwards. -/
theorem promptMessages_findLastN (loadContext : ChatService.LoadContext) {db : ChatDb}
    {conversationId : String} (order : db.MessageOrder conversationId)
    (hd : DistinctKeys (·.createdAt) (db.messagesOf conversationId)) (request : ChatRequestDto)
    (documentId : Option String) :
    ∃ hintLevel, ChatService.promptMessages loadContext request documentId
        (MessageRepository.findLastN order 10) =
      ChatMessageHelper.buildMessageHistory []
          ((truthy request.documentId <|> truthy documentId).bind
            fun id => loadContext id request.message) hintLevel ++
        ((db.recent conversationId).map DbMessage.toDeepSeek).reverse ++
          [⟨.user, request.message⟩] := by
  -- there are at most ten messages, so `slice(-10)` keeps them all
  have hlen : (MessageRepository.findLastN order 10).length - 10 = 0 := by
    rw [findLastN_eq_reverse order hd, List.length_reverse]
    have := length_recent_le db conversationId
    omega
  refine ⟨ChatPromptBuilder.calculateHintLevel
    ((MessageRepository.findLastN order 10).filter fun msg => msg.role = .user).length, ?_⟩
  rw [ChatService.promptMessages, ChatMessageHelper.buildMessageHistory_eq, hlen, List.drop_zero,
    findLastN_eq_reverse order hd, List.map_reverse]

theorem chronological_promptMessages_iff (loadContext : ChatService.LoadContext) {db : ChatDb}
    {conv : Conversation} (order : db.MessageOrder conv.id)
    (hd : DistinctKeys (·.createdAt) (db.messagesOf conv.id)) (request : ChatRequestDto) :
    Chronological loadContext db request conv (ChatService.promptMessages loadContext request
        conv.documentId (MessageRepository.findLastN order 10)) ↔
      ((db.recent conv.id).map DbMessage.toDeepSeek).reverse =
        (db.recent conv.id).map DbMessage.toDeepSeek := by
  obtain ⟨hintLevel, heq⟩ := promptMessages_findLastN loadContext order hd request conv.documentId
  rw [heq]
  constructor
  -- the prompts are equally long for all hint levels, so the histories are compared
  · rintro ⟨hintLevel', h⟩
    exact (List.append_inj (List.append_cancel_right h)
      (ChatMessageHelper.length_buildMessageHistory_nil ..)).2
  · intro h
    exact ⟨hintLevel, by rw [h]⟩

/-- **When the history is sent in the order it was written.**  For a request on a stored
conversation both entry points send the last ten messages in chronological order exactly when
they read the same backwards. -/
theorem prompt_chronological_iff (loadContext : ChatService.LoadContext) (orders : MessageOrders)
    {db : ChatDb} {request : ChatRequestDto} {conv : Conversation}
    (hreq : truthy request.conversationId = some conv.id)
    (hconv : ConversationRepository.findById db conv.id = some conv)
    (hd : DistinctKeys (·.createdAt) (db.messagesOf conv.id)) :
    ((∃ sent, ChatService.chatMessages loadContext orders db request = .ok sent ∧
        Chronological loadContext db request conv sent) ↔
      ((db.recent conv.id).map DbMessage.toDeepSeek).reverse =
        (db.recent conv.id).map DbMessage.toDeepSeek) ∧
    ((∃ sent, ChatService.chatStreamMessages loadContext orders db request = .ok sent ∧
        Chronological loadContext db request conv sent) ↔
      ((db.recent conv.id).map DbMessage.toDeepSeek).reverse =
        (db.recent conv.id).map DbMessage.toDeepSeek) := by
  rw [← chronological_promptMessages_iff loadContext (orders db conv.id) hd request]
  constructor
  · simp [ChatService.chatMessages, hreq, hconv]
  · simp [ChatService.chatStreamMessages, hreq, hconv]

/-- A question, its answer, and the question once more. -/
def askedTwice : ChatDb :=
  { conversation := [⟨"c", none, none, none⟩]
    message := [⟨"m", .user, js "hi", none, none, none, 1, "c"⟩,
      ⟨"n", .assistant, js "hello", none, none, none, 2, "c"⟩,
      ⟨"o", .user, js "hi", none, none, none, 3, "c"⟩] }

/-- The three messages read the same backwards. -/
theorem prompt_chronological_iff_askedTwice :
    let conv : Conversation := ⟨"c", none, none, none⟩
    let request : ChatRequestDto := { message := js "more", conversationId := some "c" }
    let loadContext : ChatService.LoadContext := fun _ _ => none
    let orders : MessageOrders := fun db id => .stable _ (db.messagesOf id)
    (∃ sent, ChatService.chatMessages loadContext orders askedTwice request = .ok sent ∧
        Chronological loadContext askedTwice request conv sent) ∧
      ∃ sent, ChatService.chatStreamMessages loadContext orders askedTwice request = .ok sent ∧
        Chronological loadContext askedTwice request conv sent := by
  intro conv request loadContext orders
  have hreq : truthy request.conversationId = some conv.id := by decide
  have hconv : ConversationRepository.findById askedTwice conv.id = some conv := by decide
  have hd : DistinctKeys (·.createdAt) (askedTwice.messagesOf conv.id) := by decide
  obtain ⟨h1, h2⟩ := prompt_chronological_iff loadContext orders hreq hconv hd
  have hsame : ((askedTwice.recent conv.id).map DbMessage.toDeepSeek).reverse =
    (askedTwice.recent conv.id).map DbMessage.toDeepSeek := by decide
  exact ⟨h1.2 hsame, h2.2 hsame⟩

/-- A user message and the reply to it. -/
def twoMessages : ChatDb := { askedTwice with message := askedTwice.message.take 2 }

/-- The reply is sent before the message it replies to. -/
theorem prompt_not_chronological :
    ¬ ∀ (loadContext : ChatService.LoadContext) (orders : MessageOrders) (db : ChatDb)
        (request : ChatRequestDto) (conv : Conversation),
      truthy request.conversationId = some conv.id →
      ConversationRepository.findById db conv.id = some conv →
      DistinctKeys (·.createdAt) (db.messagesOf conv.id) →
      (∃ sent, ChatService.chatMessages loadContext orders db request = .ok sent ∧
        Chronological loadContext db request conv sent) ∧
      ∃ sent, ChatService.chatStreamMessages loadContext orders db request = .ok sent ∧
        Chronological loadContext db request conv sent := by
  intro h
  let loadContext : ChatService.LoadContext := fun _ _ => none
  let orders : MessageOrders := fun db id => .stable _ (db.messagesOf id)
  let conv : Conversation := ⟨"c", none, none, none⟩
  let request : ChatRequestDto := { message := js "more", conversationId := some "c" }
  have hd : DistinctKeys (·.createdAt) (twoMessages.messagesOf conv.id) := by decide
  obtain ⟨⟨sent, hsent, hchron⟩, -⟩ :=
    h loadContext orders twoMessages request conv (by decide) (by decide) hd
  have heq : ChatService.promptMessages loadContext request conv.documentId
      (MessageRepository.findLastN (orders twoMessages conv.id) 10) = sent := Except.ok.inj hsent
  rw [← heq] at hchron
  have hsame :=
    (chronological_promptMessages_iff loadContext (orders twoMessages conv.id) hd request).1 hchron
  revert hsame
  decide

end StudyOasis
