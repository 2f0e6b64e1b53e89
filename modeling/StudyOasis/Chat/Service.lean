import StudyOasis.Chat.History
import StudyOasis.Chat.Upstream
import StudyOasis.Runs.Action

/-!
# The chat service

`ChatService.chat`, `ChatService.chatStream` and `ChatService.deleteConversation` as actions on
the tables: each awaits one step after another, one of the steps may fail, and what was written
before it stays.

What a request does not decide (the configuration, the upstream service, the generated ids, the
step that fails) is its `ChatWorld`.
-/

namespace StudyOasis

/-! ### What a request meets -/

/-- The steps of a request that may be rejected. -/
inductive ChatStep where
  /-- `conversationRepo.findById`. -/
  | findConversation
  /-- `messageRepo.findLastN`. -/
  | findLastN
  /-- `conversationRepo.create`. -/
  | createConversation
  /-- `visionService.getDocumentContext`. -/
  | documentContext
  /-- `messageRepo.create` for the user message. -/
  | insertUser
  /-- `messageRepo.create` for the assistant message. -/
  | insertAssistant
  /-- `conversationRepo.delete`. -/
  | deleteConversation
  deriving DecidableEq, Repr

/-- A step that is rejected, with the message of its error. -/
structure ChatFault where
  step : ChatStep
  message : JsString
  deriving DecidableEq, Repr

/-- What the upstream service does with a prompt. -/
inductive Upstream where
  /-- It delivers a reply: in the body of the response, and in these buffers when it streams. -/
  | delivers (reply : JsString) (totalTokens : ℤ) (buffers : List (List UInt8))
  /-- The call is rejected; a streamed call after these buffers. -/
  | fails (buffers : List (List UInt8)) (message : JsString)
  deriving DecidableEq, Repr

/-- What the database gives a new row. -/
structure RowKey where
  id : String
  createdAt : ℤ
  deriving DecidableEq, Repr

/-- What a request meets outside. -/
structure ChatWorld where
  /-- `DEEPSEEK_API_KEY` is set. -/
  apiKey : Bool
  /-- The upstream service. -/
  upstream : Upstream
  /-- `JSON.parse`, on what a line of its stream holds. -/
  parse : List Char → Option UpstreamChunk
  /-- What is known of the documents. -/
  loadContext : ChatService.LoadContext
  /-- The orders in which the database answers. -/
  orders : MessageOrders := fun db id => .stable _ (db.messagesOf id)
  /-- The id that a new conversation gets. -/
  newConversationId : String
  /-- What the row of the user message gets. -/
  userKey : RowKey
  /-- What the row of the reply gets. -/
  assistantKey : RowKey
  /-- The step that fails, if one does. -/
  fault : Option ChatFault

/-- The message that a step is rejected with, if it is the one that fails. -/
def ChatWorld.fails (w : ChatWorld) (step : ChatStep) : Option JsString :=
  (w.fault.filter fun f => f.step = step).map (·.message)

/-! ### What a request does -/

/-- The argument of `MessageRepository.create`. -/
structure NewMessage where
  conversationId : String
  role : Role
  content : JsString
  tokensUsed : ℤ := 0
  deriving DecidableEq, Repr

/-- The row that `MessageRepository.create` inserts; `tokensUsed || null`. -/
def NewMessage.row (data : NewMessage) (key : RowKey) : DbMessage :=
  { id := key.id
    role := data.role
    content := data.content
    tokensUsed := if data.tokensUsed = 0 then none else some data.tokensUsed.toNat
    hintLevel := none
    modelUsed := none
    createdAt := key.createdAt
    conversationId := data.conversationId }

/-- A prompt that was posted to the upstream service, with the stored messages it was made of. -/
structure Posted where
  history : List DbMessage
  messages : List DeepSeekMessage
  deriving DecidableEq, Repr

/-- The effects of a request. -/
structure ChatState where
  /-- The tables. -/
  db : ChatDb
  /-- The prompts that were posted. -/
  posted : List Posted := []
  /-- The frames that were written to the response. -/
  frames : List SseData := []
  /-- The inserts that were started and not awaited. -/
  started : List NewMessage := []

/-- A part of a request. -/
abbrev ChatAction := Action ChatState ServiceError

namespace ChatDb

/-- The tables with one more conversation. -/
def addConversation (db : ChatDb) (conv : Conversation) : ChatDb :=
  { db with conversation := db.conversation ++ [conv] }

/-- The tables with one more message. -/
def addMessage (db : ChatDb) (msg : DbMessage) : ChatDb :=
  { db with message := db.message ++ [msg] }

/-- `ConversationRepository.delete`; the messages of the conversation go with it. -/
def deleteConversation (db : ChatDb) (id : String) : ChatDb :=
  { conversation := db.conversation.filter fun conv => conv.id ≠ id
    message := db.message.filter fun msg => msg.conversationId ≠ id }

end ChatDb

/-- Awaits a step: it is rejected if it is the one that fails. -/
def ChatWorld.await (w : ChatWorld) (step : ChatStep) : ChatAction Unit :=
  match w.fails step with
  | some message => throw (.error message)
  | none => pure ()

namespace ChatPromptBuilder

/-- `ChatPromptBuilder.generateConversationTitle`. -/
def generateConversationTitle (message : JsString) : JsString :=
  let title := message.take 50
  if title.length < message.length then title ++ js "..." else title

/-- The text of `generateFallbackResponse`. -/
def fallbackText : String :=
  "🤔 感谢你的提问！由于 AI 服务暂时不可用，这里是一些通用建议：

1. **理解问题**：确保你完全理解了问题要求
2. **寻找关键概念**：识别问题中的核心概念和术语
3. **回顾相关知识**：复习与问题相关的基础知识
4. **尝试分解问题**：将复杂问题分解为更小的子问题
5. **使用资源**：查阅教科书、笔记或在线资源

如果你继续遇到困难，请稍后再试，我的 AI 功能应该会恢复。💪"

/-- `ChatPromptBuilder.generateFallbackResponse`, whatever the message is. -/
def generateFallbackResponse (_message : JsString) : JsString := js fallbackText

end ChatPromptBuilder

namespace ChatService

variable (w : ChatWorld)

/-- The conversation that a request starts. -/
def newConversation (id : String) (request : ChatRequestDto) : Conversation :=
  { id
    userId := truthy request.userId
    documentId := truthy request.documentId
    title := some (ChatPromptBuilder.generateConversationTitle request.message) }

/-- What both entry points start with: the conversation of the request and the messages that are
read of it, or a new conversation; `none` when the id of the request is unknown. -/
def openConversation (request : ChatRequestDto) :
    ChatAction (Option (Conversation × List DbMessage)) :=
  match truthy request.conversationId with
  | some conversationId => do
    w.await .findConversation
    let s ← get
    match ConversationRepository.findById s.db conversationId with
    | none => pure none
    | some existingConv => do
      w.await .findLastN
      pure (some (existingConv, MessageRepository.findLastN (w.orders s.db conversationId) 10))
  | none => do
    w.await .createConversation
    let conversation := newConversation w.newConversationId request
    modify fun s => { s with db := s.db.addConversation conversation }
    pure (some (conversation, []))

/-- The document that a request is about. -/
def documentOf (request : ChatRequestDto) (conversation : Conversation) : Option String :=
  truthy request.documentId <|> truthy conversation.documentId

/-- The document context is looked up if the request is about a document. -/
def lookUpDocument (request : ChatRequestDto) (conversation : Conversation) : ChatAction Unit :=
  if (documentOf request conversation).isSome then w.await .documentContext else pure ()

/-- The prompt is posted to the upstream service. -/
def post (history : List DbMessage) (messages : List DeepSeekMessage) : ChatAction Unit :=
  modify fun s => { s with posted := s.posted ++ [⟨history, messages⟩] }

/-! ### `chat` -/

/-- The result of `callDeepSeekAPI`. -/
structure AiResponse where
  reply : JsString
  tokensUsed : ℤ
  deriving DecidableEq, Repr

/-- The reply of `callDeepSeekAPI` when the call fails. -/
def unavailableReply : JsString := js "抱歉，AI 服务暂时不可用。我会尽快恢复！请稍后再试。"

/-- The response of `callDeepSeekAPI` for the user message `message`. -/
def aiResponse (message : JsString) : AiResponse :=
  if w.apiKey then
    match w.upstream with
    | .delivers reply totalTokens _ => ⟨reply, totalTokens⟩
    | .fails _ _ => ⟨unavailableReply, 0⟩
  else ⟨ChatPromptBuilder.generateFallbackResponse message, 0⟩

/-- `callDeepSeekAPI`: it is never rejected. -/
def callDeepSeekAPI (history : List DbMessage) (messages : List DeepSeekMessage)
    (message : JsString) : ChatAction AiResponse := do
  if w.apiKey then post history messages
  pure (aiResponse w message)

/-- `messageRepo.create`, awaited. -/
def createMessage (step : ChatStep) (key : RowKey) (data : NewMessage) : ChatAction Unit := do
  w.await step
  modify fun s => { s with db := s.db.addMessage (data.row key) }

/-- `ChatResponse`, without its timestamp. -/
structure ChatResponse where
  reply : JsString
  hintLevel : HintLevel
  conversationId : String
  tokensUsed : ℤ
  deriving DecidableEq, Repr

/-- The exception for an unknown conversation. -/
def notFound (conversationId : String) : BusinessException :=
  ⟨.conversationNotFound, "Conversation " ++ conversationId ++ " not found", 404⟩

/-- What `chat` does once it has a conversation. -/
def answer (request : ChatRequestDto) (conversation : Conversation) (messages : List DbMessage) :
    ChatAction ChatResponse := do
  lookUpDocument w request conversation
  let aiResponse ← callDeepSeekAPI w messages
    (promptMessages w.loadContext request conversation.documentId messages) request.message
  createMessage w .insertUser w.userKey
    { conversationId := conversation.id, role := .user, content := request.message }
  createMessage w .insertAssistant w.assistantKey
    { conversationId := conversation.id, role := .assistant, content := aiResponse.reply
      tokensUsed := aiResponse.tokensUsed }
  let userMessageCount := (messages.filter fun msg => msg.role = .user).length
  pure
    { reply := aiResponse.reply
      hintLevel := ChatPromptBuilder.calculateHintLevel userMessageCount
      conversationId := conversation.id
      tokensUsed := aiResponse.tokensUsed }

/-- `ChatService.chat`. -/
def chat (request : ChatRequestDto) : ChatAction ChatResponse := do
  match ← openConversation w request with
  | none => throw (.business (notFound (request.conversationId.getD "")))
  | some (conversation, messages) => answer w request conversation messages

/-! ### `chatStream` -/

/-- `res.write`. -/
def write (frames : List SseData) : ChatAction Unit :=
  modify fun s => { s with frames := s.frames ++ frames }

@[simp] theorem write_runOn (frames : List SseData) (s : ChatState) :
    (write frames).runOn s = (.ok (), { s with frames := s.frames ++ frames }) := rfl

/-- `messageRepo.create`, not awaited. -/
def startCreate (data : NewMessage) : ChatAction Unit :=
  modify fun s => { s with started := s.started ++ [data] }

/-- The frames of the fallback: `for (const char of fallbackReply)` takes one character at a
time, also where it has two code units. -/
def fallbackFrames : List SseData :=
  ChatPromptBuilder.fallbackText.toList.map fun char => .tokenFrame (utf16EncodeChar char)

/-- The `end` handler: both inserts are started, and the final frame does not wait for them. -/
def onEnd (request : ChatRequestDto) (conversation : Conversation) (st : StreamState) :
    ChatAction Unit := do
  startCreate { conversationId := conversation.id, role := .user, content := request.message }
  startCreate
    { conversationId := conversation.id, role := .assistant, content := st.fullReply
      tokensUsed := st.tokensUsed }
  write [.finalFrame (some (js conversation.id))]

/-- What `chatStream` does once it has a conversation. -/
def streamAnswer (request : ChatRequestDto) (conversation : Conversation)
    (messages : List DbMessage) : ChatAction Unit := do
  lookUpDocument w request conversation
  if w.apiKey then do
    post messages (promptMessages w.loadContext request conversation.documentId messages)
    match w.upstream with
    | .delivers _ _ buffers => do
      let st := chatStream w.parse buffers
      write st.frames
      onEnd request conversation st
    | .fails buffers message => do
      write (chatStream w.parse buffers).frames
      throw (.error message)
  else write (fallbackFrames ++ [.finalFrame none])

/-- The body of `chatStream`, inside its outer `try`. -/
def streamBody (request : ChatRequestDto) : ChatAction Unit := do
  match ← openConversation w request with
  | none =>
    write [.errorFrame (js ("Conversation " ++ request.conversationId.getD "" ++ " not found"))]
  | some (conversation, messages) => streamAnswer w request conversation messages

/-- `ChatService.chatStream`, a whole request: an error becomes a frame. -/
def chatStreamRequest (request : ChatRequestDto) : ChatAction Unit :=
  tryCatch (streamBody w request) fun error => write [.errorFrame error.message]

/-! ### `deleteConversation` -/

/-- The exception for a conversation of somebody else. -/
def notOwner : BusinessException :=
  ⟨.unauthorizedAccess, "You do not have permission to delete this conversation", 403⟩

/-- `ChatService.deleteConversation`. -/
def deleteConversation (conversationId : String) (userId : Option String) : ChatAction Unit := do
  w.await .findConversation
  let s ← get
  match ConversationRepository.findById s.db conversationId with
  | none => throw (.business (notFound conversationId))
  | some conversation =>
    if (truthy userId).isSome ∧ conversation.userId ≠ userId then
      throw (.business notOwner)
    else do
      w.await .deleteConversation
      modify fun s => { s with db := s.db.deleteConversation conversationId }

end ChatService

/-! ### How the requests end -/

namespace ChatWorld

variable {w : ChatWorld}

theorem await_of_none {step : ChatStep} (h : w.fails step = none) (s : ChatState) :
    (w.await step).runOn s = (.ok (), s) := by
  rw [await, h]
  rfl

theorem await_of_some {step : ChatStep} {message : JsString} (h : w.fails step = some message)
    (s : ChatState) : (w.await step).runOn s = (.error (.error message), s) := by
  rw [await, h]
  rfl

/-- At most one step fails. -/
theorem fails_eq_none {step step' : ChatStep} {message : JsString}
    (h : w.fails step = some message) (hne : step ≠ step') : w.fails step' = none := by
  unfold fails at h ⊢
  cases hf : w.fault with
  | none => rfl
  | some f =>
    rw [hf] at h
    by_cases hstep : f.step = step
    · have hstep' : f.step ≠ step' := by
        rw [hstep]
        exact hne
      simp [Option.filter, hstep']
    · simp [Option.filter, hstep] at h

end ChatWorld

namespace ChatService

variable {w : ChatWorld}

/-- How `openConversation` ends for a request that names a conversation. -/
theorem openConversation_existing {request : ChatRequestDto} {id : String}
    (hid : truthy request.conversationId = some id) (s : ChatState) :
    (∃ message, (openConversation w request).runOn s = (.error (.error message), s) ∧
      (w.fails .findConversation = some message ∨
        (ConversationRepository.findById s.db id).isSome ∧ w.fails .findLastN = some message)) ∨
    (w.fails .findConversation = none ∧ ConversationRepository.findById s.db id = none ∧
      (openConversation w request).runOn s = (.ok none, s)) ∨
    (w.fails .findConversation = none ∧ w.fails .findLastN = none ∧
      ∃ conv, ConversationRepository.findById s.db id = some conv ∧
        (openConversation w request).runOn s =
          (.ok (some (conv, MessageRepository.findLastN (w.orders s.db id) 10)), s)) := by
  unfold openConversation
  rw [hid]
  cases hfind : w.fails .findConversation with
  | some message =>
    left
    refine ⟨message, ?_, .inl rfl⟩
    simp [ChatWorld.await_of_some hfind]
  | none =>
    cases hconv : ConversationRepository.findById s.db id with
    | none =>
      right; left
      refine ⟨rfl, rfl, ?_⟩
      simp [ChatWorld.await_of_none hfind, hconv]
    | some conv =>
      cases hlast : w.fails .findLastN with
      | some message =>
        left
        refine ⟨message, ?_, .inr ⟨rfl, rfl⟩⟩
        simp [ChatWorld.await_of_none hfind, hconv, ChatWorld.await_of_some hlast]
      | none =>
        right; right
        refine ⟨rfl, rfl, conv, rfl, ?_⟩
        simp [ChatWorld.await_of_none hfind, hconv, ChatWorld.await_of_none hlast]

/-- How `openConversation` ends for a request that names none. -/
theorem openConversation_new {request : ChatRequestDto}
    (hid : truthy request.conversationId = none) (s : ChatState) :
    (∃ message, (openConversation w request).runOn s = (.error (.error message), s) ∧
      w.fails .createConversation = some message) ∨
    (w.fails .createConversation = none ∧ (openConversation w request).runOn s =
      (.ok (some (newConversation w.newConversationId request, [])),
        { s with db := s.db.addConversation (newConversation w.newConversationId request) })) := by
  unfold openConversation
  rw [hid]
  cases hcreate : w.fails .createConversation with
  | some message =>
    left
    refine ⟨message, ?_, rfl⟩
    simp [ChatWorld.await_of_some hcreate]
  | none =>
    right
    refine ⟨rfl, ?_⟩
    simp [ChatWorld.await_of_none hcreate]

/-- How `lookUpDocument` ends. -/
theorem lookUpDocument_cases (request : ChatRequestDto) (conv : Conversation) (s : ChatState) :
    (∃ message, (lookUpDocument w request conv).runOn s = (.error (.error message), s) ∧
      (documentOf request conv).isSome ∧ w.fails .documentContext = some message) ∨
    (((documentOf request conv).isSome → w.fails .documentContext = none) ∧
      (lookUpDocument w request conv).runOn s = (.ok (), s)) := by
  unfold lookUpDocument
  by_cases hdoc : (documentOf request conv).isSome
  · rw [if_pos hdoc]
    cases hctx : w.fails .documentContext with
    | some message => exact .inl ⟨message, ChatWorld.await_of_some hctx s, hdoc, rfl⟩
    | none => exact .inr ⟨fun _ => rfl, ChatWorld.await_of_none hctx s⟩
  · rw [if_neg hdoc]
    exact .inr ⟨fun h => absurd h hdoc, rfl⟩

/-- The effects after the prompt is posted, if there is a key to post it with. -/
def asked (w : ChatWorld) (request : ChatRequestDto) (conv : Conversation)
    (messages : List DbMessage) (s : ChatState) : ChatState :=
  if w.apiKey then
    { s with
      posted := s.posted ++
        [⟨messages, promptMessages w.loadContext request conv.documentId messages⟩] }
  else s

@[simp] theorem asked_db (request : ChatRequestDto) (conv : Conversation)
    (messages : List DbMessage) (s : ChatState) : (asked w request conv messages s).db = s.db := by
  unfold asked
  split <;> rfl

theorem callDeepSeekAPI_runOn (request : ChatRequestDto) (conv : Conversation)
    (messages : List DbMessage) (s : ChatState) :
    (callDeepSeekAPI w messages
        (promptMessages w.loadContext request conv.documentId messages) request.message).runOn s =
      (.ok (aiResponse w request.message), asked w request conv messages s) := by
  unfold callDeepSeekAPI asked
  by_cases hkey : w.apiKey <;> simp [hkey, post]

/-- The row of the user message. -/
def userRow (w : ChatWorld) (request : ChatRequestDto) (conv : Conversation) : DbMessage :=
  NewMessage.row { conversationId := conv.id, role := .user, content := request.message } w.userKey

/-- The row of the reply. -/
def assistantRow (w : ChatWorld) (request : ChatRequestDto) (conv : Conversation) : DbMessage :=
  let response := aiResponse w request.message
  NewMessage.row
    { conversationId := conv.id, role := .assistant, content := response.reply
      tokensUsed := response.tokensUsed } w.assistantKey

/-- The response of `chat`. -/
def chatResponse (w : ChatWorld) (request : ChatRequestDto) (conv : Conversation)
    (messages : List DbMessage) : ChatResponse :=
  let response := aiResponse w request.message
  { reply := response.reply
    hintLevel := ChatPromptBuilder.calculateHintLevel
      (messages.filter fun msg => msg.role = .user).length
    conversationId := conv.id
    tokensUsed := response.tokensUsed }

/-- How `answer` ends: rejected at one of its three steps, or resolved with both rows stored. -/
theorem answer_cases (request : ChatRequestDto) (conv : Conversation) (messages : List DbMessage)
    (s : ChatState) :
    let t := asked w request conv messages s
    let stored := { t with db := t.db.addMessage (userRow w request conv) }
    (∃ message, (documentOf request conv).isSome ∧ w.fails .documentContext = some message ∧
      (answer w request conv messages).runOn s = (.error (.error message), s)) ∨
    ((documentOf request conv).isSome → w.fails .documentContext = none) ∧
      ((∃ message, w.fails .insertUser = some message ∧
        (answer w request conv messages).runOn s = (.error (.error message), t)) ∨
      (∃ message, w.fails .insertUser = none ∧ w.fails .insertAssistant = some message ∧
        (answer w request conv messages).runOn s = (.error (.error message), stored)) ∨
      (w.fails .insertUser = none ∧ w.fails .insertAssistant = none ∧
        (answer w request conv messages).runOn s =
          (.ok (chatResponse w request conv messages),
            { stored with db := stored.db.addMessage (assistantRow w request conv) }))) := by
  intro t stored
  rcases lookUpDocument_cases (w := w) request conv s with
    ⟨message, hrun, hdoc, hctx⟩ | ⟨hctx, hrun⟩
  · left
    refine ⟨message, hdoc, hctx, ?_⟩
    simp [answer, hrun]
  right
  refine ⟨hctx, ?_⟩
  cases huser : w.fails .insertUser with
  | some message =>
    left
    refine ⟨message, rfl, ?_⟩
    simp [answer, hrun, callDeepSeekAPI_runOn, createMessage, ChatWorld.await_of_some huser, t]
  | none =>
    cases hassistant : w.fails .insertAssistant with
    | some message =>
      right; left
      refine ⟨message, rfl, rfl, ?_⟩
      simp [answer, hrun, callDeepSeekAPI_runOn, createMessage, ChatWorld.await_of_none huser,
        ChatWorld.await_of_some hassistant, t, stored, userRow]
    | none =>
      right; right
      refine ⟨rfl, rfl, ?_⟩
      simp [answer, hrun, callDeepSeekAPI_runOn, createMessage, ChatWorld.await_of_none huser,
        ChatWorld.await_of_none hassistant, t, stored, userRow, assistantRow, chatResponse]

end ChatService

end StudyOasis
