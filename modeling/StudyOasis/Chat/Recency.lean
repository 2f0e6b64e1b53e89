import StudyOasis.Chat.Server

/-!
# How recent a conversation is

The rows of `conversations` carry the time of their last write, by which conversations are listed
and by which old ones are deleted.  A message is a row of another table: its insert does not write
the row of its conversation, and `touch`, which would, is called by nobody.

* `recency_always_iff` : in a run, every conversation is as recent as its messages all the time
  exactly when every message is inserted in the millisecond in which the row of its conversation
  was written last;
* `Recent.kept_active` and `Recent.getConversations_eq` : what depends on it.
-/

namespace StudyOasis

/-- The times of a row of `conversations`. -/
structure RowTimes where
  createdAt : ℤ
  updatedAt : ℤ
  deriving DecidableEq, Repr

/-- The chat server with the times of its conversations. -/
structure TimedServer where
  server : ChatServer
  /-- The times of a conversation, by id. -/
  times : String → RowTimes

/-! ### The repositories -/

namespace ChatDb

/-- `ConversationRepository.updateTitle`. -/
def updateTitle (db : ChatDb) (id : String) (title : JsString) : ChatDb :=
  { db with
    conversation := db.conversation.map fun conv =>
      if conv.id = id then { conv with title := some title } else conv }

/-- Conversations are deleted, and their messages with them. -/
def deleteConversations (db : ChatDb) (p : Conversation → Bool) : ChatDb :=
  { conversation := db.conversation.filter fun conv => !p conv
    message := db.message.filter fun msg =>
      !db.conversation.any fun conv => p conv && conv.id = msg.conversationId }

/-- The tables with more messages. -/
def addMessages (db : ChatDb) (rows : List DbMessage) : ChatDb :=
  { db with message := db.message ++ rows }

/-- `MessageRepository.update`; what is not given stays. -/
def updateMessage (db : ChatDb) (id : String) (content : Option JsString)
    (tokensUsed : Option ℕ) : ChatDb :=
  { db with
    message := db.message.map fun msg =>
      if msg.id = id then
        { msg with
          content := content.getD msg.content
          tokensUsed := tokensUsed <|> msg.tokensUsed }
      else msg }

/-- `MessageRepository.delete`. -/
def deleteMessage (db : ChatDb) (id : String) : ChatDb :=
  { db with message := db.message.filter fun msg => msg.id ≠ id }

/-- `MessageRepository.deleteByConversationId`. -/
def deleteByConversationId (db : ChatDb) (conversationId : String) : ChatDb :=
  { db with message := db.message.filter fun msg => msg.conversationId ≠ conversationId }

end ChatDb

/-- What happens to the tables. -/
inductive TableEvent where
  /-- A step of the requests of `chat` and `chatStream`, or a deletion. -/
  | server (e : ServerEvent)
  /-- `ConversationRepository.create`. -/
  | createConversation (id : String) (title : JsString) (userId documentId : Option String)
  | updateTitle (id : String) (title : JsString)
  | touch (id : String)
  | deleteExpired (beforeDate : ℤ)
  /-- `MessageRepository.create`. -/
  | createMessage (id : String) (data : NewMessage)
  /-- `MessageRepository.createMany`. -/
  | createMany (rows : List (String × NewMessage))
  | updateMessage (id : String) (content : Option JsString) (tokensUsed : Option ℕ)
  | deleteMessage (id : String)
  | deleteByConversationId (conversationId : String)
  deriving DecidableEq, Repr

/-- An event and the time of it. -/
structure TimedEvent where
  now : ℤ
  event : TableEvent
  deriving DecidableEq, Repr

/-- A row that the server inserts is dated by the moment. -/
def ServerEvent.happensAt (now : ℤ) : ServerEvent → Bool
  | .commit _ _ _ time => time = now
  | _ => true

namespace TimedServer

/-- The conversation is there. -/
def has (s : TimedServer) (id : String) : Bool :=
  (ConversationRepository.findById s.server.db id).isSome

/-- Other tables. -/
def setDb (s : TimedServer) (db : ChatDb) : TimedServer :=
  { s with server := { s.server with db } }

/-- The times when rows that were not there have been written. -/
def newTimes (s : TimedServer) (now : ℤ) (id : String) : RowTimes :=
  if s.has id then s.times id else ⟨now, now⟩

/-- The row of a conversation is written. -/
def write (s : TimedServer) (now : ℤ) (id : String) : TimedServer :=
  { s with
    times := fun id' => if id' = id then { s.times id with updatedAt := now } else s.times id' }

/-- `ConversationRepository.deleteExpired`. -/
def deleteExpired (s : TimedServer) (beforeDate : ℤ) : TimedServer :=
  let expired := fun conv : Conversation => decide ((s.times conv.id).updatedAt < beforeDate)
  { s with
    server :=
      { s.server with
        db := s.server.db.deleteConversations expired
        deleted := (s.server.db.conversation.filter expired).map (·.id) ++ s.server.deleted } }

/-- Messages are inserted, all of them or none. -/
def insert (s : TimedServer) (now : ℤ) (rows : List (String × NewMessage)) : Option TimedServer :=
  if rows.all fun row => s.has row.2.conversationId then
    some (s.setDb (s.server.db.addMessages (rows.map fun row => row.2.row ⟨row.1, now⟩)))
  else none

/-- What an event does. -/
def act (s : TimedServer) (now : ℤ) : TableEvent → Option TimedServer
  | .server e =>
    if e.happensAt now then
      (serverStep s.server e).map fun server => { server, times := s.newTimes now }
    else none
  | .createConversation id title userId documentId =>
    if s.server.fresh id then
      some { s.setDb (s.server.db.addConversation
        { id, userId := truthy userId, documentId := truthy documentId, title := some title }) with
        times := s.newTimes now }
    else none
  | .updateTitle id title =>
    if s.has id then some ((s.setDb (s.server.db.updateTitle id title)).write now id) else none
  | .touch id => if s.has id then some (s.write now id) else none
  | .deleteExpired beforeDate => some (s.deleteExpired beforeDate)
  | .createMessage id data => s.insert now [(id, data)]
  | .createMany rows => s.insert now rows
  | .updateMessage id content tokensUsed =>
    some (s.setDb (s.server.db.updateMessage id content tokensUsed))
  | .deleteMessage id => some (s.setDb (s.server.db.deleteMessage id))
  | .deleteByConversationId conversationId =>
    some (s.setDb (s.server.db.deleteByConversationId conversationId))

/-- One event; the clock does not go back. -/
def step (s : TimedServer) (e : TimedEvent) : Option TimedServer :=
  if s.server.clock ≤ e.now then
    (s.act e.now e.event).map fun t => { t with server := { t.server with clock := e.now } }
  else none

/-- Before the first request. -/
def opened (clock : ℤ) : TimedServer :=
  { server := { db := { conversation := [], message := [] }, clock }, times := fun _ => ⟨0, 0⟩ }

end TimedServer

/-! ### Listing the conversations -/

/-- `lastMessage` of a `ConversationListPreview`. -/
structure LastMessage where
  id : String
  content : JsString
  createdAt : ℤ
  deriving DecidableEq, Repr

/-- `ConversationListPreview`. -/
structure ConversationListPreview where
  id : String
  title : Option JsString
  userId : Option String
  documentId : Option String
  createdAt : ℤ
  updatedAt : ℤ
  messageCount : ℕ
  lastMessage : Option LastMessage
  deriving DecidableEq, Repr

/-- `ConversationSummary`. -/
structure ConversationSummary where
  id : String
  title : Option JsString
  documentId : Option String
  messageCount : ℕ
  lastMessage : Option JsString
  lastMessageAt : ℤ
  createdAt : ℤ
  updatedAt : ℤ
  deriving DecidableEq, Repr

/-- `PaginatedResponse`. -/
structure PaginatedResponse (α : Type) where
  data : List α
  total : ℕ
  limit : ℕ
  offset : ℕ
  hasMore : Bool
  deriving DecidableEq, Repr

/-- `createPaginatedResponse`. -/
def createPaginatedResponse {α : Type} (data : List α) (total limit offset : ℕ) :
    PaginatedResponse α :=
  { data, total, limit, offset, hasMore := offset + data.length < total }

namespace TimedServer

/-- The conversations of a user, or all. -/
def conversationsOf (s : TimedServer) (userId : Option String) : List Conversation :=
  match truthy userId with
  | some userId => s.server.db.conversation.filter fun conv => conv.userId = some userId
  | none => s.server.db.conversation

/-- A conversation in the list. -/
def preview (s : TimedServer) (conv : Conversation) : ConversationListPreview :=
  let messages := s.server.db.messagesOf conv.id
  { id := conv.id
    title := conv.title
    userId := conv.userId
    documentId := conv.documentId
    createdAt := (s.times conv.id).createdAt
    updatedAt := (s.times conv.id).updatedAt
    messageCount := messages.length
    lastMessage := (orderByDesc (·.createdAt) messages).head?.map fun msg =>
      ⟨msg.id, msg.content, msg.createdAt⟩ }

/-- `ConversationRepository.findMany`, in the order of `key`, latest first. -/
def findManyBy (s : TimedServer) (key : Conversation → ℤ) (userId : Option String)
    (limit offset : ℕ) : List ConversationListPreview :=
  (((orderByDesc key (s.conversationsOf userId)).drop offset).take limit).map s.preview

/-- `conv.lastMessage?.content || null`, and the other fields. -/
def summary (conv : ConversationListPreview) : ConversationSummary :=
  { id := conv.id
    title := conv.title
    documentId := conv.documentId
    messageCount := conv.messageCount
    lastMessage := (conv.lastMessage.map (·.content)).filter (· ≠ [])
    lastMessageAt := (conv.lastMessage.map (·.createdAt)).getD conv.createdAt
    createdAt := conv.createdAt
    updatedAt := conv.updatedAt }

/-- `getConversations` with an order of its own. -/
def getConversationsBy (s : TimedServer) (key : Conversation → ℤ) (userId : Option String)
    (limit offset : ℕ) : PaginatedResponse ConversationSummary :=
  let limit := if limit = 0 then 20 else limit
  createPaginatedResponse ((s.findManyBy key userId limit offset).map summary)
    (s.conversationsOf userId).length limit offset

/-- `ChatService.getConversations`: `orderBy: { updatedAt: 'desc' }`. -/
def getConversations (s : TimedServer) (userId : Option String) (limit offset : ℕ) :
    PaginatedResponse ConversationSummary :=
  s.getConversationsBy (fun conv => (s.times conv.id).updatedAt) userId limit offset

/-! ### What recency means -/

/-- Every conversation is as recent as its messages. -/
def Recent (s : TimedServer) : Prop :=
  ∀ conv ∈ s.server.db.conversation, ∀ msg ∈ s.server.db.messagesOf conv.id,
    msg.createdAt ≤ (s.times conv.id).updatedAt

/-- The last time at which the row of a conversation was written or a message of it was stored. -/
def lastActivity (s : TimedServer) (conv : Conversation) : ℤ :=
  ((s.server.db.messagesOf conv.id).map (·.createdAt)).foldl max (s.times conv.id).updatedAt

/-- `deleteExpired` keeps a conversation that has a message from the given date or later. -/
def KeepsActive (s : TimedServer) : Prop :=
  ∀ beforeDate, ∀ conv ∈ s.server.db.conversation,
    (∃ msg ∈ s.server.db.messagesOf conv.id, beforeDate ≤ msg.createdAt) →
      conv ∈ (s.deleteExpired beforeDate).server.db.conversation

/-- `getConversations` lists the conversations by their latest activity. -/
def ListsByActivity (s : TimedServer) : Prop :=
  ∀ userId limit offset,
    s.getConversations userId limit offset =
      s.getConversationsBy s.lastActivity userId limit offset

/-- What recency is for. -/
structure Recency (s : TimedServer) : Prop where
  recent : s.Recent
  keepsActive : s.KeepsActive
  listsByActivity : s.ListsByActivity

/-! ### What depends on it -/

/-- The maximum of a number and numbers below it. -/
theorem foldl_max_eq {a : ℤ} {l : List ℤ} (h : ∀ x ∈ l, x ≤ a) : l.foldl max a = a := by
  induction l with
  | nil => rfl
  | cons x l ih =>
    rw [List.foldl_cons, max_eq_left (h x List.mem_cons_self)]
    exact ih fun y hy => h y (List.mem_cons_of_mem _ hy)

theorem mem_conversationsOf {s : TimedServer} {userId : Option String} {conv : Conversation}
    (h : conv ∈ s.conversationsOf userId) : conv ∈ s.server.db.conversation := by
  unfold conversationsOf at h
  split at h
  · exact List.mem_of_mem_filter h
  · exact h

theorem Recent.lastActivity {s : TimedServer} (hs : s.Recent) {conv : Conversation}
    (hconv : conv ∈ s.server.db.conversation) :
    s.lastActivity conv = (s.times conv.id).updatedAt := by
  refine foldl_max_eq fun x hx => ?_
  obtain ⟨msg, hmsg, rfl⟩ := List.mem_map.1 hx
  exact hs conv hconv msg hmsg

/-- **The list is ordered by the latest activity.** -/
theorem Recent.listsByActivity {s : TimedServer} (hs : s.Recent) : s.ListsByActivity := by
  intro userId limit offset
  unfold getConversations getConversationsBy findManyBy
  rw [orderByDesc_congr fun conv hconv => (hs.lastActivity (mem_conversationsOf hconv)).symm]

/-- **`deleteExpired` keeps what is still in use.** -/
theorem Recent.keepsActive {s : TimedServer} (hs : s.Recent) : s.KeepsActive := by
  rintro beforeDate conv hconv ⟨msg, hmsg, hdate⟩
  refine List.mem_filter.2 ⟨hconv, ?_⟩
  have := hs conv hconv msg hmsg
  simp only [Bool.not_eq_true', decide_eq_false_iff_not, not_lt]
  omega

theorem Recent.recency {s : TimedServer} (hs : s.Recent) : s.Recency :=
  ⟨hs, hs.keepsActive, hs.listsByActivity⟩

/-! ### What an event does -/

/-- The conversations that an event puts messages into. -/
def targets (s : TimedServer) : TableEvent → List String
  | .server (.commit k role _ _) => ((s.server.insertOf k role).map (·.2.conversationId)).toList
  | .createMessage _ data => [data.conversationId]
  | .createMany rows => rows.map (·.2.conversationId)
  | _ => []

/-- No message is added, and a conversation keeps its times or is dated by the moment. -/
structure Kept (s t : TimedServer) (now : ℤ) : Prop where
  message : ∀ msg ∈ t.server.db.message, ∃ msg' ∈ s.server.db.message,
    msg'.conversationId = msg.conversationId ∧ msg'.createdAt = msg.createdAt
  conversation : ∀ conv ∈ t.server.db.conversation,
    (∃ conv' ∈ s.server.db.conversation, conv'.id = conv.id ∧ t.times conv.id = s.times conv.id) ∨
      now ≤ (t.times conv.id).updatedAt

/-- Rows are added, to conversations that are there, and nothing else happens to these. -/
structure Inserted (s t : TimedServer) (now : ℤ) (rows : List DbMessage) : Prop where
  message : t.server.db.message = s.server.db.message ++ rows
  conversation : t.server.db.conversation = s.server.db.conversation
  times : ∀ id, s.has id = true → t.times id = s.times id
  createdAt : ∀ row ∈ rows, row.createdAt = now
  has : ∀ row ∈ rows, s.has row.conversationId = true

section

variable {s t : TimedServer} {now : ℤ}

theorem has_of_mem {conv : Conversation} (h : conv ∈ s.server.db.conversation) :
    s.has conv.id = true :=
  List.find?_isSome.2 ⟨conv, h, by simp⟩

theorem exists_of_has {id : String} (h : s.has id = true) :
    ∃ conv ∈ s.server.db.conversation, conv.id = id := by
  obtain ⟨conv, hconv, hid⟩ := List.find?_isSome.1 h
  exact ⟨conv, hconv, by simpa using hid⟩

theorem newTimes_of_has {id : String} (h : s.has id = true) : s.newTimes now id = s.times id :=
  if_pos h

theorem newTimes_of_fresh {id : String} (h : s.server.fresh id = true) :
    s.newTimes now id = ⟨now, now⟩ := by
  refine if_neg ?_
  simp only [ChatServer.fresh, Bool.and_eq_true, Option.isNone_iff_eq_none] at h
  simp [has, h.1]

theorem Kept.of_subset (hm : t.server.db.message ⊆ s.server.db.message)
    (hc : t.server.db.conversation ⊆ s.server.db.conversation)
    (ht : ∀ id, s.has id = true → t.times id = s.times id) : Kept s t now where
  message msg hmsg := ⟨msg, hm hmsg, rfl, rfl⟩
  conversation conv hconv := .inl ⟨conv, hc hconv, rfl, ht _ (has_of_mem (hc hconv))⟩

/-- A new conversation is dated by the moment. -/
theorem Kept.of_addConversation {conv : Conversation} (hfresh : s.server.fresh conv.id = true)
    (hdb : t.server.db = s.server.db.addConversation conv) (ht : t.times = s.newTimes now) :
    Kept s t now := by
  constructor
  · intro msg hmsg
    rw [hdb] at hmsg
    exact ⟨msg, hmsg, rfl, rfl⟩
  · intro c hc
    rw [hdb] at hc
    rw [ht]
    rcases List.mem_append.1 hc with hc | hc
    · exact .inl ⟨c, hc, rfl, newTimes_of_has (has_of_mem hc)⟩
    · obtain rfl := List.mem_singleton.1 hc
      rw [newTimes_of_fresh hfresh]
      exact .inr le_rfl

/-- The row of a conversation is written, perhaps with other data. -/
theorem Kept.of_write {id : String} {f : Conversation → Conversation} (hf : ∀ c, (f c).id = c.id)
    (hm : t.server.db.message = s.server.db.message)
    (hc : t.server.db.conversation = s.server.db.conversation.map f)
    (ht : t.times = (s.write now id).times) : Kept s t now := by
  constructor
  · intro msg hmsg
    rw [hm] at hmsg
    exact ⟨msg, hmsg, rfl, rfl⟩
  · intro conv hconv
    rw [hc] at hconv
    obtain ⟨c, hc, rfl⟩ := List.mem_map.1 hconv
    rw [ht, hf]
    by_cases hid : c.id = id
    · exact .inr (by simp [write, hid])
    · exact .inl ⟨c, hc, rfl, by simp [write, hid]⟩

theorem inserted_of_insert {rows : List (String × NewMessage)} (h : s.insert now rows = some t) :
    Inserted s t now (rows.map fun row => row.2.row ⟨row.1, now⟩) := by
  unfold insert at h
  split_ifs at h with hall
  obtain rfl := Option.some.inj h
  refine ⟨rfl, rfl, fun _ _ => rfl, ?_, ?_⟩
  · intro row hrow
    obtain ⟨_, -, rfl⟩ := List.mem_map.1 hrow
    rfl
  · intro row hrow
    obtain ⟨r, hr, rfl⟩ := List.mem_map.1 hrow
    exact List.all_eq_true.1 hall r hr

/-- A step of the requests. -/
theorem act_server {e : ServerEvent} (h : s.act now (.server e) = some t) :
    (s.targets (.server e) = [] ∧ Kept s t now) ∨
      ∃ rows, rows.map (·.conversationId) = s.targets (.server e) ∧ Inserted s t now rows := by
  simp only [act] at h
  split_ifs at h with hat
  obtain ⟨server, hst, rfl⟩ := Option.map_eq_some_iff.1 h
  by_cases hcommit : ∃ k role id time, e = .commit k role id time
  · obtain ⟨k, role, id, time, rfl⟩ := hcommit
    obtain ⟨row, hrow, -, hhas, hdb⟩ := ChatServer.commit_db hst
    obtain rfl : time = now := by simpa [ServerEvent.happensAt] using hat
    refine .inr ⟨[row.2.row ⟨id, time⟩], ?_, ?_⟩
    · simp [targets, hrow, NewMessage.row]
    · constructor
      · simp [hdb, ChatDb.addMessage]
      · simp [hdb, ChatDb.addMessage]
      · intro id hid
        exact newTimes_of_has hid
      · simp [NewMessage.row]
      · simpa [NewMessage.row, has] using hhas
  · simp only [not_exists] at hcommit
    refine .inl ⟨?_, ?_⟩
    · cases e with
      | commit k role id time => exact absurd rfl (hcommit k role id time)
      | _ => rfl
    · rcases ChatServer.db_step hst hcommit with hdb | ⟨conv, hfresh, hdb⟩ | ⟨id, -, hdb⟩
      · exact .of_subset (by simp [hdb]) (by simp [hdb]) fun _ => newTimes_of_has
      · exact .of_addConversation hfresh hdb rfl
      · refine .of_subset ?_ ?_ fun _ => newTimes_of_has <;> rw [hdb] <;>
          exact List.filter_subset_self _

/-- Every event adds rows, or none and keeps the times that matter. -/
theorem act_cases {e : TableEvent} (h : s.act now e = some t) :
    (s.targets e = [] ∧ Kept s t now) ∨
      ∃ rows, rows.map (·.conversationId) = s.targets e ∧ Inserted s t now rows := by
  cases e with
  | server e => exact act_server h
  | createConversation id title userId documentId =>
    simp only [act] at h
    split_ifs at h with hfresh
    obtain rfl := Option.some.inj h
    let conv : Conversation := ⟨id, truthy userId, truthy documentId, some title⟩
    have hconv : s.server.fresh conv.id = true := hfresh
    exact .inl ⟨rfl, .of_addConversation hconv rfl rfl⟩
  | updateTitle id title =>
    simp only [act] at h
    split_ifs at h with hid
    obtain rfl := Option.some.inj h
    refine .inl ⟨rfl, .of_write ?_ rfl rfl rfl⟩
    intro conv
    split_ifs <;> rfl
  | touch id =>
    simp only [act] at h
    split_ifs at h with hid
    obtain rfl := Option.some.inj h
    exact .inl ⟨rfl, .of_write (f := fun conv => conv) (fun _ => rfl) rfl (List.map_id' _).symm rfl⟩
  | deleteExpired beforeDate =>
    obtain rfl := Option.some.inj h
    exact .inl ⟨rfl, .of_subset (List.filter_subset_self _) (List.filter_subset_self _)
      fun _ _ => rfl⟩
  | createMessage id data =>
    exact .inr ⟨_, rfl, inserted_of_insert h⟩
  | createMany rows =>
    refine .inr ⟨_, ?_, inserted_of_insert h⟩
    rw [List.map_map]
    rfl
  | updateMessage id content tokensUsed =>
    obtain rfl := Option.some.inj h
    refine .inl ⟨rfl, ?_, fun conv hconv => .inl ⟨conv, hconv, rfl, rfl⟩⟩
    intro msg hmsg
    obtain ⟨msg', hmsg', rfl⟩ := List.mem_map.1 hmsg
    refine ⟨msg', hmsg', ?_⟩
    split_ifs <;> exact ⟨rfl, rfl⟩
  | deleteMessage id =>
    obtain rfl := Option.some.inj h
    exact .inl ⟨rfl, .of_subset (List.filter_subset_self _) (List.Subset.refl _) fun _ _ => rfl⟩
  | deleteByConversationId conversationId =>
    obtain rfl := Option.some.inj h
    exact .inl ⟨rfl, .of_subset (List.filter_subset_self _) (List.Subset.refl _) fun _ _ => rfl⟩

/-! ### When a conversation stays recent -/

/-- No message is dated later than the clock. -/
def Dated (s : TimedServer) : Prop := ∀ msg ∈ s.server.db.message, msg.createdAt ≤ s.server.clock

/-- A message is inserted in the millisecond in which the row of its conversation was written. -/
def InTime (s : TimedServer) (e : TimedEvent) : Prop :=
  ∀ id ∈ s.targets e.event, e.now ≤ (s.times id).updatedAt

instance (s : TimedServer) (e : TimedEvent) : Decidable (s.InTime e) :=
  inferInstanceAs (Decidable (∀ id ∈ s.targets e.event, e.now ≤ (s.times id).updatedAt))

theorem recent_of_kept (hs : s.Recent) (hd : s.Dated) (hnow : s.server.clock ≤ now)
    (hk : Kept s t now) : t.Recent := by
  intro conv hconv msg hmsg
  obtain ⟨hmem, hid⟩ := List.mem_filter.1 hmsg
  obtain ⟨msg', hmsg', hid', hat⟩ := hk.message msg hmem
  rcases hk.conversation conv hconv with ⟨conv', hconv', hid'', htimes⟩ | hnew
  · rw [htimes, ← hid'', ← hat]
    refine hs conv' hconv' msg' (List.mem_filter.2 ⟨hmsg', ?_⟩)
    rw [hid', hid'']
    exact hid
  · have := hd msg' hmsg'
    omega

/-- An insert keeps the conversations recent exactly when their rows have just been written. -/
theorem recent_iff_of_inserted (hs : s.Recent) {rows : List DbMessage}
    (hi : Inserted s t now rows) :
    t.Recent ↔ ∀ id ∈ rows.map (·.conversationId), now ≤ (s.times id).updatedAt := by
  constructor
  · intro ht id hid
    obtain ⟨row, hrow, rfl⟩ := List.mem_map.1 hid
    obtain ⟨conv, hconv, hid⟩ := exists_of_has (hi.has row hrow)
    rw [← hi.times _ (hi.has row hrow), ← hi.createdAt row hrow, ← hid]
    refine ht conv (by rwa [hi.conversation]) row (List.mem_filter.2 ⟨?_, by simp [hid]⟩)
    rw [hi.message]
    exact List.mem_append_right _ hrow
  · intro hrows conv hconv msg hmsg
    rw [hi.conversation] at hconv
    rw [hi.times _ (has_of_mem hconv)]
    obtain ⟨hmem, hid⟩ := List.mem_filter.1 hmsg
    rw [hi.message] at hmem
    rcases List.mem_append.1 hmem with hmem | hmem
    · exact hs conv hconv msg (List.mem_filter.2 ⟨hmem, hid⟩)
    · have hid' : msg.conversationId = conv.id := by simpa using hid
      rw [hi.createdAt msg hmem, ← hid']
      exact hrows _ (List.mem_map_of_mem hmem)

theorem step_eq_some {e : TimedEvent} (h : s.step e = some t) :
    s.server.clock ≤ e.now ∧ ∃ u, s.act e.now e.event = some u ∧
      t = { u with server := { u.server with clock := e.now } } := by
  unfold step at h
  split_ifs at h with hnow
  obtain ⟨u, hu, rfl⟩ := Option.map_eq_some_iff.1 h
  exact ⟨hnow, u, hu, rfl⟩

theorem dated_step {e : TimedEvent} (hd : s.Dated) (h : s.step e = some t) : t.Dated := by
  obtain ⟨hnow, u, hu, rfl⟩ := step_eq_some h
  intro msg hmsg
  rcases act_cases hu with ⟨-, hk⟩ | ⟨rows, -, hi⟩
  · obtain ⟨msg', hmsg', -, hat⟩ := hk.message msg hmsg
    have := hd msg' hmsg'
    show msg.createdAt ≤ e.now
    omega
  · have hmem : msg ∈ u.server.db.message := hmsg
    rw [hi.message] at hmem
    show msg.createdAt ≤ e.now
    rcases List.mem_append.1 hmem with hmem | hmem
    · exact (hd msg hmem).trans hnow
    · exact (hi.createdAt msg hmem).le

/-- **A step keeps the conversations recent exactly when its inserts are in time.** -/
theorem recent_step_iff {e : TimedEvent} (hs : s.Recent) (hd : s.Dated) (h : s.step e = some t) :
    t.Recent ↔ s.InTime e := by
  obtain ⟨hnow, u, hu, rfl⟩ := step_eq_some h
  show u.Recent ↔ _
  rcases act_cases hu with ⟨hnone, hk⟩ | ⟨rows, htargets, hi⟩
  · refine iff_of_true (recent_of_kept hs hd hnow hk) ?_
    unfold InTime
    rw [hnone]
    exact fun id hid => absurd hid List.not_mem_nil
  · unfold InTime
    rw [← htargets]
    exact recent_iff_of_inserted hs hi

/-- **Conversations are as recent as their messages exactly when every message is inserted in the
millisecond in which the row of its conversation was written last**: for every run of requests and
repository operations, about all the states that it passes. -/
theorem recency_always_iff {clock : ℤ} {es : List TimedEvent}
    (h : AnyRun step (opened clock) es t) :
    Run.Always step Recency (opened clock) es ↔ Run step InTime (opened clock) es t := by
  have hopened : (opened clock).Recent := fun conv hconv => absurd hconv List.not_mem_nil
  rw [h.guarded_iff_always (I := Dated) (fun msg hmsg => absurd hmsg List.not_mem_nil)
    hopened.recency (fun _ _ _ hd hst => dated_step hd hst)]
  intro s e s' hd hs hst
  rw [← recent_step_iff hs.recent hd hst]
  exact ⟨Recency.recent, Recent.recency⟩

end

/-- A conversation that is made, and a message in the same millisecond. -/
theorem recency_always_iff_at_once : ∃ es t, AnyRun step (opened 0) es t ∧
    Run.Always step Recency (opened 0) es ∧ t.server.db.message.length = 1 := by
  let data : NewMessage := { conversationId := "c", role := .user, content := js "q" }
  have h : Run step InTime (opened 0)
      [⟨1, .createConversation "c" (js "q") none none⟩, ⟨1, .createMessage "m" data⟩] _ :=
    .cons (by decide) rfl (.single (by decide) rfl)
  have h' : AnyRun step (opened 0)
      [⟨1, .createConversation "c" (js "q") none none⟩, ⟨1, .createMessage "m" data⟩] _ :=
    .cons trivial rfl (.single trivial rfl)
  exact ⟨_, _, h', (recency_always_iff h').2 h, rfl⟩

/-- The first request of a conversation: the question is stored later than the conversation, and
`deleteExpired` with a date in between deletes both. -/
theorem active_conversation_deleted :
    ¬ ∀ (clock : ℤ) (es : List TimedEvent) (t : TimedServer), AnyRun step (opened clock) es t →
      Run.Always step Recency (opened clock) es := by
  intro h
  let response : ChatService.AiResponse := ⟨js "a", 0⟩
  have hrun : AnyRun step (opened 0)
      [⟨1, .server (.arrive 0 .chat { message := js "q" })⟩,
        ⟨1, .server (.progress 0 (.opened "c"))⟩, ⟨2, .server (.progress 0 .loaded)⟩,
        ⟨5, .server (.progress 0 (.answered response))⟩,
        ⟨6, .server (.commit 0 .user "m" 6)⟩] _ :=
    .cons trivial rfl (.cons trivial rfl (.cons trivial rfl (.cons trivial rfl
      (.single trivial rfl))))
  have hkept := (h 0 _ _ hrun _ [] _ (List.append_nil _).symm hrun).keepsActive 3
    (ChatService.newConversation "c" { message := js "q" }) List.mem_cons_self
    ⟨_, List.mem_cons_self, by decide⟩
  exact absurd hkept (by decide)

end TimedServer

end StudyOasis
