import StudyOasis.Chat.Atomicity
import StudyOasis.Client.ChatStore

/-!
# A message that is posted again

Without streaming, `sendMessage` posts the message again after every answer with a status of at
least 500, up to three times.  `ChatService.chat` answers so when one of its steps fails, and the
rows it inserted before stay.  So one message is stored at most once exactly when at most one of
the attempts gets past its first insert (`stored_at_most_once_iff`).
-/

namespace StudyOasis

namespace ChatService

open Client

/-! ### The client and the server together -/

/-- The body of the request as the server reads it; `readId` is how it reads an id. -/
def dtoOf (readId : JsString → String) (request : ChatRequest) : ChatRequestDto :=
  { message := request.message
    conversationId := request.conversationId.map readId
    documentId := request.documentId.map readId }

/-- What `ApiClient.chat` gives for the outcome of `ChatService.chat`; `AllExceptionsFilter` makes
a response of an error. -/
def answerOf (timestamp : ℤ) : Except ServiceError ChatService.ChatResponse → Completion
  | .ok response =>
    .reply
      { reply := response.reply
        hintLevel := response.hintLevel
        timestamp
        conversationId := some (js response.conversationId) }
  | .error error => .failed (.api error.message (AllExceptionsFilter.status error))

/-- One `sendMessage` and the attempts that it makes, each with what it meets: the tables after
them. -/
def exchange (readId : JsString → String) (now : ℤ) :
    List ChatWorld → SendOp → ChatStoreState → ChatDb → ChatDb
  | [], _, _, db => db
  | w :: worlds, op, s, db =>
    let outcome := (chat w (dtoOf readId op.request)).runOn { db }
    match op.complete now s (answerOf now outcome.1) with
    | some (s', some backoff) =>
      match backoff.complete now s' .timer with
      | some (s'', some op') => exchange readId now worlds op' s'' outcome.2.db
      | _ => outcome.2.db
    | _ => outcome.2.db

/-- The tables after a `sendMessage` without streaming. -/
def sendMessage (readId : JsString → String) (now : ℤ) (s : ChatStoreState) (controller : ℕ)
    (content : JsString) (worlds : List ChatWorld) (db : ChatDb) : ChatDb :=
  let sent := s.sendMessage now controller content false
  exchange readId now worlds sent.2 sent.1 db

/-- The request that it posts each time. -/
def sentRequest (readId : JsString → String) (s : ChatStoreState) (content : JsString) :
    ChatRequestDto :=
  { message := content
    conversationId := (Client.truthy s.conversationId).map readId
    documentId := (Client.truthy s.currentDocumentId).map readId }

/-! ### One attempt -/

/-- The stored conversation that a request names. -/
def storedConversation (request : ChatRequestDto) (db : ChatDb) : Option Conversation :=
  (truthy request.conversationId).bind (ConversationRepository.findById db)

/-- The request starts a conversation. -/
def starts (request : ChatRequestDto) : Bool := (truthy request.conversationId).isNone

/-- The three steps of `answer` that may fail, in the order in which they come. -/
def answerFails (request : ChatRequestDto) (conv : Conversation) (w : ChatWorld) : Bool :=
  (documentOf request conv).isSome && (w.fails .documentContext).isSome ||
    (w.fails .insertUser).isSome || (w.fails .insertAssistant).isSome

/-- `answer` gets past the insert of the user message. -/
def answerAdds (request : ChatRequestDto) (conv : Conversation) (w : ChatWorld) : Bool :=
  ((documentOf request conv).isNone || (w.fails .documentContext).isNone) &&
    (w.fails .insertUser).isNone

/-- An attempt gets past its first insert: that of the conversation it starts, or that of the user
message in a stored one. -/
def adds (request : ChatRequestDto) (stored : Option Conversation) (w : ChatWorld) : Bool :=
  if starts request then (w.fails .createConversation).isNone
  else
    (w.fails .findConversation).isNone &&
      stored.any fun conv => (w.fails .findLastN).isNone && answerAdds request conv w

/-- One of the steps of an attempt fails, which is answered with the status 500. -/
def failsInternally (request : ChatRequestDto) (stored : Option Conversation) (w : ChatWorld) :
    Bool :=
  if starts request then
    (w.fails .createConversation).isSome ||
      (truthy request.documentId).isSome && (w.fails .documentContext).isSome ||
        (w.fails .insertUser).isSome || (w.fails .insertAssistant).isSome
  else
    (w.fails .findConversation).isSome ||
      stored.any fun conv => (w.fails .findLastN).isSome || answerFails request conv w

/-- The number of messages of a role. -/
def countOf (role : Role) (db : ChatDb) : ℕ := db.message.countP fun msg => msg.role = role

/-- What `k` attempts that get past their first insert add. -/
structure Grew (request : ChatRequestDto) (k : ℕ) (db db' : ChatDb) : Prop where
  /-- A new conversation each, if the request starts one. -/
  conversations : db'.conversation.length =
    db.conversation.length + if starts request then k else 0
  /-- At most one user message each. -/
  users : countOf .user db' ≤ countOf .user db + k
  /-- At most one reply each. -/
  assistants : countOf .assistant db' ≤ countOf .assistant db + k
  /-- Exactly one user message each in a stored conversation. -/
  stored : starts request = false →
    db'.conversation = db.conversation ∧ countOf .user db' = countOf .user db + k

/-- The status that the server answers with makes the client try again. -/
def Retriable : Except ServiceError ChatService.ChatResponse → Prop
  | .ok _ => False
  | .error error => 500 ≤ AllExceptionsFilter.status error

variable {w : ChatWorld} {request : ChatRequestDto} {db : ChatDb}

/-- What `answer` adds to the tables, and when its error makes the client try again. -/
theorem answer_rows (request : ChatRequestDto) (conv : Conversation) (messages : List DbMessage)
    (db : ChatDb) :
    let outcome := (answer w request conv messages).runOn { db }
    (Retriable outcome.1 ↔ answerFails request conv w = true) ∧
      outcome.2.db.conversation = db.conversation ∧
      countOf .user outcome.2.db =
        countOf .user db + (if answerAdds request conv w then 1 else 0) ∧
      countOf .assistant outcome.2.db ≤
        countOf .assistant db + (if answerAdds request conv w then 1 else 0) := by
  intro outcome
  rcases answer_cases (w := w) request conv messages { db } with
    ⟨message, hdoc, hctx, hrun⟩ | ⟨hctx, hrest⟩
  · rw [show outcome = _ from hrun]
    have hadds : answerAdds request conv w = false := by
      obtain ⟨id, hid⟩ := Option.isSome_iff_exists.1 hdoc
      simp [answerAdds, hctx, hid]
    simp [Retriable, AllExceptionsFilter.status, answerFails, hadds, hdoc, hctx]
  have hpast : ((documentOf request conv).isNone || (w.fails .documentContext).isNone) = true := by
    cases hdoc : documentOf request conv with
    | none => rfl
    | some id => simp [hctx (by rw [hdoc]; rfl)]
  have hnot : ((documentOf request conv).isSome && (w.fails .documentContext).isSome) = false := by
    cases hdoc : documentOf request conv with
    | none => rfl
    | some id => simp [hctx (by rw [hdoc]; rfl)]
  rcases hrest with ⟨message, huser, hrun⟩ | ⟨message, huser, hassistant, hrun⟩ |
    ⟨huser, hassistant, hrun⟩
  · rw [show outcome = _ from hrun]
    simp [Retriable, AllExceptionsFilter.status, answerFails, answerAdds, huser]
  · rw [show outcome = _ from hrun]
    simp [Retriable, AllExceptionsFilter.status, answerFails, answerAdds, huser, hassistant, hpast,
      countOf, ChatDb.addMessage, userRow, NewMessage.row]
  · rw [show outcome = _ from hrun]
    simp [Retriable, answerFails, answerAdds, huser, hassistant, hpast, hnot, countOf,
      ChatDb.addMessage, userRow, assistantRow, NewMessage.row]

/-- An attempt that starts a conversation. -/
theorem attempt_new (hid : truthy request.conversationId = none) (stored : Option Conversation) :
    let outcome := (chat w request).runOn { db }
    (Retriable outcome.1 ↔ failsInternally request stored w = true) ∧
      Grew request (if adds request stored w then 1 else 0) db outcome.2.db := by
  intro outcome
  have hstarts : starts request = true := by simp [starts, hid]
  rcases openConversation_new (w := w) hid { db } with ⟨message, hopen, hcreate⟩ | ⟨hcreate, hopen⟩
  · have hrun : outcome = (.error (.error message), { db }) := chat_of_rejected hopen
    have hadds : adds request stored w = false := by simp [adds, hstarts, hcreate]
    rw [hrun, hadds]
    constructor
    · simp [Retriable, AllExceptionsFilter.status, failsInternally, hstarts, hcreate]
    · constructor <;> simp
  -- the conversation is stored, and stays whatever happens then
  · have hadds : adds request stored w = true := by simp [adds, hstarts, hcreate]
    have hchat : outcome = (answer w request (newConversation w.newConversationId request) []).runOn
        { db := db.addConversation (newConversation w.newConversationId request) } :=
      chat_of_open hopen
    obtain ⟨hretry, hconversation, husers, hassistants⟩ := answer_rows (w := w) request
      (newConversation w.newConversationId request) []
      (db.addConversation (newConversation w.newConversationId request))
    rw [← hchat] at hretry hconversation husers hassistants
    rw [hadds]
    have hcount (role : Role) :
        countOf role (db.addConversation (newConversation w.newConversationId request)) =
          countOf role db := rfl
    rw [hcount] at husers hassistants
    constructor
    · rw [hretry, answerFails, documentOf_newConversation]
      simp [failsInternally, hstarts, hcreate]
    · refine ⟨?_, ?_, ?_, by simp [hstarts]⟩
      · simp [hconversation, ChatDb.addConversation, hstarts]
      · rw [husers, if_pos rfl]
        split <;> omega
      · rw [if_pos rfl]
        split at hassistants <;> omega

/-- An attempt on a stored conversation, or on an unknown one. -/
theorem attempt_existing {id : String} (hid : truthy request.conversationId = some id) :
    let outcome := (chat w request).runOn { db }
    let stored := ConversationRepository.findById db id
    (Retriable outcome.1 ↔ failsInternally request stored w = true) ∧
      Grew request (if adds request stored w then 1 else 0) db outcome.2.db := by
  intro outcome stored
  have hstarts : starts request = false := by simp [starts, hid]
  have hsame : Grew request 0 db db := by constructor <;> simp
  rcases openConversation_existing (w := w) hid { db } with
    ⟨message, hopen, hfail⟩ | ⟨hfail, hfind, hopen⟩ | ⟨hfail, hlast, conv, hfind, hopen⟩
  -- the lookup fails
  · have hrun : outcome = (.error (.error message), { db }) := chat_of_rejected hopen
    have hadds : adds request stored w = false := by
      rcases hfail with hfail | ⟨-, hfail⟩ <;> simp [adds, hstarts, hfail]
    have hfails : failsInternally request stored w = true := by
      rcases hfail with hfail | ⟨hsome, hfail⟩
      · simp [failsInternally, hstarts, hfail]
      · obtain ⟨conv, hconv⟩ := Option.isSome_iff_exists.1 hsome
        have hstored : stored = some conv := hconv
        simp [failsInternally, hstarts, hstored, hfail]
    rw [hrun, hadds, hfails]
    exact ⟨by simp [Retriable, AllExceptionsFilter.status], hsame⟩
  -- a conversation that is not there is answered with 404
  · have hstored : stored = none := hfind
    have hrun : outcome =
        (.error (.business (notFound (request.conversationId.getD ""))), { db }) :=
      chat_of_not_found hopen
    have hadds : adds request stored w = false := by simp [adds, hstarts, hstored]
    rw [hrun, hadds]
    refine ⟨?_, hsame⟩
    simp [Retriable, AllExceptionsFilter.status, notFound, failsInternally, hstarts, hfail,
      hstored]
  · have hstored : stored = some conv := hfind
    have hchat : outcome =
        (answer w request conv (MessageRepository.findLastN (w.orders db id) 10)).runOn { db } :=
      chat_of_open hopen
    obtain ⟨hretry, hconversation, husers, hassistants⟩ := answer_rows (w := w) request conv
      (MessageRepository.findLastN (w.orders db id) 10) db
    rw [← hchat] at hretry hconversation husers hassistants
    have hadds : adds request stored w = answerAdds request conv w := by
      simp [adds, hstarts, hstored, hfail, hlast]
    rw [hadds]
    constructor
    · rw [hretry]
      simp [failsInternally, hstarts, hstored, hfail, hlast]
    · exact ⟨by simp [hconversation, hstarts], le_of_eq husers, hassistants,
        fun _ => ⟨hconversation, husers⟩⟩

/-! ### All attempts -/

/-- The attempts that are made: the next one only after one that fails internally, and at most
`maxRetries` of them. -/
def attemptsMade (request : ChatRequestDto) (stored : Option Conversation) :
    ℕ → List ChatWorld → List ChatWorld
  | _, [] => []
  | attempt, w :: worlds =>
    if attempt < maxRetries && failsInternally request stored w then
      w :: attemptsMade request stored (attempt + 1) worlds
    else [w]

/-- One attempt of the loop: the client tries again after an error with a status of at least 500,
as long as it may. -/
theorem exchange_cons (readId : JsString → String) (now : ℤ) (worlds : List ChatWorld)
    {op : SendOp} {attempt : ℕ} (hop : op.phase = .asking attempt) (s : ChatStoreState)
    (db : ChatDb) :
    let outcome := (chat w (dtoOf readId op.request)).runOn { db }
    (attempt < maxRetries ∧ Retriable outcome.1 ∧ exchange readId now (w :: worlds) op s db =
        exchange readId now worlds { op with phase := .asking (attempt + 1) } s outcome.2.db) ∨
      (¬ (attempt < maxRetries ∧ Retriable outcome.1) ∧
        exchange readId now (w :: worlds) op s db = outcome.2.db) := by
  intro outcome
  rcases houtcome : outcome with ⟨error | response, t⟩
  · have hrun : (chat w (dtoOf readId op.request)).runOn { db } = (.error error, t) := houtcome
    by_cases hretry : attempt < maxRetries ∧ 500 ≤ AllExceptionsFilter.status error
    · left
      have hretries : retries attempt (.api error.message (AllExceptionsFilter.status error)) =
        true := by simp [retries, hretry.1, hretry.2]
      refine ⟨hretry.1, hretry.2, ?_⟩
      simp only [exchange, hrun, answerOf, SendOp.complete, hop, hretries, if_true]
    · right
      have hretries : retries attempt (.api error.message (AllExceptionsFilter.status error)) =
        false := by simpa [retries] using hretry
      refine ⟨hretry, ?_⟩
      simp only [exchange, hrun, answerOf, SendOp.complete, hop, hretries, Bool.false_eq_true,
        if_false]
  · have hrun : (chat w (dtoOf readId op.request)).runOn { db } = (.ok response, t) := houtcome
    right
    refine ⟨fun h => h.2, ?_⟩
    simp only [exchange, hrun, answerOf, SendOp.complete, hop]

theorem storedConversation_congr {db' : ChatDb} (h : db'.conversation = db.conversation) :
    storedConversation request db' = storedConversation request db := by
  unfold storedConversation
  congr 1
  funext id
  rw [ConversationRepository.findById, ConversationRepository.findById, h]

theorem Grew.refl (request : ChatRequestDto) (db : ChatDb) : Grew request 0 db db := by
  constructor <;> simp

theorem Grew.trans {k l : ℕ} {db db' db'' : ChatDb} (h : Grew request k db db')
    (h' : Grew request l db' db'') : Grew request (k + l) db db'' := by
  refine ⟨?_, ?_, ?_, ?_⟩
  · rw [h'.conversations, h.conversations]
    split <;> omega
  · have := h.users
    have := h'.users
    omega
  · have := h.assistants
    have := h'.assistants
    omega
  · intro hstarts
    obtain ⟨hconversation, husers⟩ := h.stored hstarts
    obtain ⟨hconversation', husers'⟩ := h'.stored hstarts
    exact ⟨hconversation'.trans hconversation, by omega⟩

/-- One attempt, for whatever the request names. -/
theorem attempt_grew (stored : Option Conversation)
    (hstored : starts request = false → stored = storedConversation request db) :
    let outcome := (chat w request).runOn { db }
    (Retriable outcome.1 ↔ failsInternally request stored w = true) ∧
      Grew request (if adds request stored w then 1 else 0) db outcome.2.db := by
  cases hid : truthy request.conversationId with
  | none => exact attempt_new hid stored
  | some id =>
    rw [hstored (by simp [starts, hid]), storedConversation, hid]
    exact attempt_existing hid

/-- What all the attempts of a message add. -/
theorem exchange_grew (readId : JsString → String) (now : ℤ) (worlds : List ChatWorld)
    {op : SendOp} {attempt : ℕ} (hop : op.phase = .asking attempt) (s : ChatStoreState)
    (db : ChatDb) (stored : Option Conversation)
    (hstored : starts (dtoOf readId op.request) = false →
      stored = storedConversation (dtoOf readId op.request) db) :
    Grew (dtoOf readId op.request)
      ((attemptsMade (dtoOf readId op.request) stored attempt worlds).countP
        (adds (dtoOf readId op.request) stored)) db (exchange readId now worlds op s db) := by
  induction worlds generalizing op attempt db with
  | nil => exact Grew.refl _ db
  | cons w worlds ih =>
    obtain ⟨hretry, hgrew⟩ := attempt_grew (w := w) stored hstored
    rcases exchange_cons (w := w) readId now worlds hop s db with ⟨hlt, hretriable, heq⟩ |
      ⟨hnot, heq⟩
    · have hmade : attemptsMade (dtoOf readId op.request) stored attempt (w :: worlds) =
          w :: attemptsMade (dtoOf readId op.request) stored (attempt + 1) worlds := by
        simp [attemptsMade, hlt, hretry.1 hretriable]
      rw [heq, hmade, List.countP_cons, Nat.add_comm]
      have hop' : SendOp.phase { op with phase := .asking (attempt + 1) } =
        .asking (attempt + 1) := rfl
      refine hgrew.trans (ih hop' _ ?_)
      -- a stored conversation is still the same one
      intro hstarts
      rw [hstored hstarts, storedConversation_congr (hgrew.stored hstarts).1]
    · have hmade : attemptsMade (dtoOf readId op.request) stored attempt (w :: worlds) = [w] := by
        have hcond : (attempt < maxRetries && failsInternally (dtoOf readId op.request) stored w) =
            false := by
          rw [← Bool.not_eq_true, Bool.and_eq_true, decide_eq_true_eq, ← hretry]
          exact hnot
        rw [attemptsMade, hcond]
        rfl
      rw [heq, hmade, List.countP_singleton]
      exact hgrew

/-- What a `sendMessage` without streaming adds. -/
theorem sendMessage_grew (readId : JsString → String) (now : ℤ) (s : ChatStoreState)
    (controller : ℕ) (content : JsString) (worlds : List ChatWorld) (db : ChatDb) :
    let request := sentRequest readId s content
    let stored := storedConversation request db
    Grew request ((attemptsMade request stored 0 worlds).countP (adds request stored)) db
      (sendMessage readId now s controller content worlds db) := by
  intro request stored
  have hphase : (s.sendMessage now controller content false).2.phase = .asking 0 := rfl
  exact exchange_grew readId now worlds hphase _ db stored fun _ => rfl

/-- One message is stored at most once: no more than one new conversation, user message and
reply. -/
def AtMostOnce (db db' : ChatDb) : Prop :=
  db'.conversation.length ≤ db.conversation.length + 1 ∧
    countOf .user db' ≤ countOf .user db + 1 ∧
    countOf .assistant db' ≤ countOf .assistant db + 1

theorem Grew.atMostOnce_iff {k : ℕ} {db' : ChatDb} (h : Grew request k db db') :
    AtMostOnce db db' ↔ k ≤ 1 := by
  have hconversations := h.conversations
  have husers := h.users
  have hassistants := h.assistants
  unfold AtMostOnce
  constructor
  · rintro ⟨h1, h2, -⟩
    cases hstarts : starts request with
    | true =>
      rw [hstarts, if_pos rfl] at hconversations
      omega
    | false =>
      have := (h.stored hstarts).2
      omega
  · intro hk
    refine ⟨?_, by omega, by omega⟩
    split at hconversations <;> omega

/-- **When one message is stored once.**  Whatever the attempts of a `sendMessage` without
streaming meet, they add at most one conversation, one user message and one reply exactly when at
most one of those that are made gets past its first insert. -/
theorem stored_at_most_once_iff (readId : JsString → String) (now : ℤ) (s : ChatStoreState)
    (controller : ℕ) (content : JsString) (worlds : List ChatWorld) (db : ChatDb) :
    let request := sentRequest readId s content
    let stored := storedConversation request db
    AtMostOnce db (sendMessage readId now s controller content worlds db) ↔
      (attemptsMade request stored 0 worlds).countP (adds request stored) ≤ 1 := by
  intro request stored
  exact (sendMessage_grew readId now s controller content worlds db).atMostOnce_iff

/-- The reply is not stored at first, and then it is. -/
def twoAttempts : List ChatWorld :=
  [replyNotStored, { replyNotStored with newConversationId := "d", fault := none }]

/-- The second attempt stores the message again, in another conversation. -/
theorem message_stored_twice :
    ¬ ∀ readId now s controller content worlds db,
      AtMostOnce db (sendMessage readId now s controller content worlds db) := by
  intro h
  have hgrew := sendMessage_grew (fun _ => "") 1 {} 0 (js "hi") twoAttempts
    { conversation := [], message := [] }
  have hle := hgrew.atMostOnce_iff.1
    (h (fun _ => "") 1 {} 0 (js "hi") twoAttempts { conversation := [], message := [] })
  exact absurd hle (by decide)

end ChatService

end StudyOasis
