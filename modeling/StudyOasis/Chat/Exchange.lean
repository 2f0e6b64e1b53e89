import StudyOasis.Chat.Parity
import StudyOasis.Chat.Retry
import StudyOasis.Chat.StreamRequest
import StudyOasis.Client.Reply

/-!
# One message and its two ends

What a tab shows of a message that it sends, and what the server stores of it.

* `converse_stored`, `converse_started` : without streaming, over all the attempts that
  `sendMessage` makes, in a stored conversation and in one that the message starts.  Answers can get
  lost;
* `stream_cases`, `readStream_frames` : with streaming, what the server writes and what the tab
  makes of the frames that arrive.  Streams can break off.
-/

namespace StudyOasis

/-! ### The rows of a conversation -/

/-- Conversations have ids, and messages belong to one of them. -/
structure ChatDb.Linked (db : ChatDb) : Prop where
  named : ∀ conv ∈ db.conversation, conv.id ≠ ""
  belongs : ∀ msg ∈ db.message, msg.conversationId ∈ db.conversation.map (·.id)

namespace ChatService

open Client

/-- The messages of a conversation, as they are shown. -/
def rows (db : ChatDb) (id : String) : List DeepSeekMessage :=
  (db.messagesOf id).map DbMessage.toDeepSeek

/-- The inserts into a conversation, as the messages that they add. -/
def rowsOf (started : List NewMessage) (id : String) : List DeepSeekMessage :=
  (started.filter fun data => data.conversationId = id).map fun data => ⟨data.role, data.content⟩

/-- The id is not taken. -/
def Fresh (db : ChatDb) (id : String) : Prop := id ≠ "" ∧ id ∉ db.conversation.map (·.id)

instance (db : ChatDb) (id : String) : Decidable (Fresh db id) :=
  inferInstanceAs (Decidable (_ ∧ _))

section Rows

variable {db : ChatDb} {id : String}

@[simp] theorem rows_addConversation (conv : Conversation) :
    rows (db.addConversation conv) id = rows db id := rfl

theorem rows_addMessage (msg : DbMessage) :
    rows (db.addMessage msg) id =
      rows db id ++ if msg.conversationId = id then [msg.toDeepSeek] else [] := by
  unfold rows ChatDb.messagesOf ChatDb.addMessage
  rw [List.filter_append, List.map_append]
  by_cases h : msg.conversationId = id <;> simp [h]

theorem rows_eq_nil (hdb : db.Linked) (hid : id ∉ db.conversation.map (·.id)) :
    rows db id = [] := by
  rw [rows, List.map_eq_nil_iff, ChatDb.messagesOf, List.filter_eq_nil_iff]
  intro msg hmsg heq
  exact hid (of_decide_eq_true heq ▸ hdb.belongs msg hmsg)

theorem linked_addConversation (hdb : db.Linked) {conv : Conversation} (hid : conv.id ≠ "") :
    (db.addConversation conv).Linked := by
  constructor
  · intro conv' hconv'
    rcases List.mem_append.1 hconv' with h | h
    · exact hdb.named conv' h
    · exact List.mem_singleton.1 h ▸ hid
  · intro msg hmsg
    rw [ChatDb.addConversation, List.map_append]
    exact List.mem_append_left _ (hdb.belongs msg hmsg)

theorem linked_addMessage (hdb : db.Linked) {msg : DbMessage}
    (hid : msg.conversationId ∈ db.conversation.map (·.id)) : (db.addMessage msg).Linked := by
  refine ⟨hdb.named, fun msg' hmsg' => ?_⟩
  rcases List.mem_append.1 hmsg' with h | h
  · exact hdb.belongs msg' h
  · exact List.mem_singleton.1 h ▸ hid

end Rows

/-! ### What an attempt stores -/

/-- A question and its answer. -/
def exchanged (question answer : JsString) : List DeepSeekMessage :=
  [⟨.user, question⟩, ⟨.assistant, answer⟩]

/-- The tables after a request that leaves the conversations of before as they were, those in
`ids` apart. -/
structure Kept (ids : List String) (db db' : ChatDb) : Prop where
  linked : db.Linked → db'.Linked
  conversation : db.conversation <+: db'.conversation
  rows_eq : ∀ id ∈ db.conversation.map (·.id), id ∉ ids → rows db' id = rows db id

section Attempt

variable {w : ChatWorld} {request : ChatRequestDto} {db : ChatDb} {id : String}

theorem Kept.refl (ids : List String) (db : ChatDb) : Kept ids db db :=
  ⟨fun h => h, List.prefix_rfl, fun _ _ _ => rfl⟩

theorem Kept.trans {ids : List String} {db' db'' : ChatDb} (h : Kept ids db db')
    (h' : Kept ids db' db'') : Kept ids db db'' := by
  refine ⟨fun hdb => h'.linked (h.linked hdb), h.conversation.trans h'.conversation, ?_⟩
  intro id hid hnot
  have hid' : id ∈ db'.conversation.map (·.id) := (h.conversation.sublist.map _).subset hid
  exact (h'.rows_eq id hid' hnot).trans (h.rows_eq id hid hnot)

theorem kept_addMessage (msg : DbMessage) (hid : msg.conversationId ∈ db.conversation.map (·.id)) :
    Kept [msg.conversationId] db (db.addMessage msg) := by
  refine ⟨fun hdb => linked_addMessage hdb hid, List.prefix_rfl, fun id' _ hnot => ?_⟩
  rw [rows_addMessage, if_neg (fun h => hnot (List.mem_singleton.2 h.symm)), List.append_nil]

theorem kept_addConversation {conv : Conversation} (hid : conv.id ≠ "") (ids : List String) :
    Kept ids db (db.addConversation conv) :=
  ⟨fun hdb => linked_addConversation hdb hid, List.prefix_append _ _, fun _ _ _ => rfl⟩

theorem id_of_findById {conv : Conversation}
    (h : ConversationRepository.findById db id = some conv) :
    conv ∈ db.conversation ∧ conv.id = id :=
  ⟨List.mem_of_find?_eq_some h, by simpa using List.find?_some h⟩

/-- The message and the reply of an attempt. -/
def bothRows (w : ChatWorld) (request : ChatRequestDto) (conv : Conversation) (db : ChatDb) :
    ChatDb :=
  (db.addMessage (userRow w request conv)).addMessage (assistantRow w request conv)

theorem kept_userRow {conv : Conversation} (hconv : conv ∈ db.conversation) :
    Kept [conv.id] db (db.addMessage (userRow w request conv)) :=
  kept_addMessage (userRow w request conv) (List.mem_map_of_mem hconv)

theorem kept_bothRows {conv : Conversation} (hconv : conv ∈ db.conversation) :
    Kept [conv.id] db (bothRows w request conv db) :=
  (kept_userRow hconv).trans
    (kept_addMessage (assistantRow w request conv) (List.mem_map_of_mem hconv))

theorem rows_userRow (conv : Conversation) :
    rows (db.addMessage (userRow w request conv)) conv.id =
      rows db conv.id ++ [⟨.user, request.message⟩] := by
  have hid : (userRow w request conv).conversationId = conv.id := rfl
  rw [rows_addMessage, if_pos hid]
  rfl

theorem rows_bothRows (conv : Conversation) :
    rows (bothRows w request conv db) conv.id =
      rows db conv.id ++ exchanged request.message (aiResponse w request.message).reply := by
  have hid : (assistantRow w request conv).conversationId = conv.id := rfl
  rw [bothRows, rows_addMessage, rows_userRow, if_pos hid, List.append_assoc]
  rfl

/-- How `answer` ends, and what it stores. -/
theorem answer_stores (request : ChatRequestDto) (conv : Conversation)
    (messages : List DbMessage) (db : ChatDb) :
    let outcome := (answer w request conv messages).runOn { db }
    (answerAdds request conv w = false ∧ outcome.2.db = db ∧
      ∃ error, outcome.1 = .error error) ∨
    (answerAdds request conv w = true ∧ answerFails request conv w = true ∧
      outcome.2.db = db.addMessage (userRow w request conv) ∧
      ∃ error, outcome.1 = .error error) ∨
    (answerAdds request conv w = true ∧ answerFails request conv w = false ∧
      outcome.2.db = bothRows w request conv db ∧
      outcome.1 = .ok (chatResponse w request conv messages)) := by
  intro outcome
  rcases answer_cases (w := w) request conv messages { db } with
    ⟨message, hdoc, hctx, hrun⟩ | ⟨hctx, hrest⟩
  · left
    rw [show outcome = _ from hrun]
    refine ⟨?_, rfl, _, rfl⟩
    obtain ⟨docId, hdocId⟩ := Option.isSome_iff_exists.1 hdoc
    simp [answerAdds, hctx, hdocId]
  have hpast : ((documentOf request conv).isNone || (w.fails .documentContext).isNone) = true := by
    cases hdoc : documentOf request conv with
    | none => rfl
    | some docId => simp [hctx (by rw [hdoc]; rfl)]
  have hnot : ((documentOf request conv).isSome && (w.fails .documentContext).isSome) = false := by
    cases hdoc : documentOf request conv with
    | none => rfl
    | some docId => simp [hctx (by rw [hdoc]; rfl)]
  rcases hrest with ⟨message, huser, hrun⟩ | ⟨message, huser, hassistant, hrun⟩ |
    ⟨huser, hassistant, hrun⟩
  · left
    rw [show outcome = _ from hrun]
    exact ⟨by simp [answerAdds, huser], by simp, _, rfl⟩
  · right; left
    rw [show outcome = _ from hrun]
    exact ⟨by simp [answerAdds, huser, hpast], by simp [answerFails, hassistant], by simp, _, rfl⟩
  · right; right
    rw [show outcome = _ from hrun]
    exact ⟨by simp [answerAdds, huser, hpast], by simp [answerFails, huser, hassistant, hnot],
      by simp [bothRows], rfl⟩

/-- What a `chat` stores in the conversation that it names: nothing, or the message, or both. -/
theorem chat_stored {conv : Conversation} (hid : truthy request.conversationId = some id)
    (hconv : ConversationRepository.findById db id = some conv) :
    let outcome := (chat w request).runOn { db }
    (adds request (some conv) w = false ∧ outcome.2.db = db ∧
      ∃ error, outcome.1 = .error error) ∨
    (adds request (some conv) w = true ∧ failsInternally request (some conv) w = true ∧
      outcome.2.db = db.addMessage (userRow w request conv) ∧
      ∃ error, outcome.1 = .error error) ∨
    (adds request (some conv) w = true ∧ failsInternally request (some conv) w = false ∧
      outcome.2.db = bothRows w request conv db ∧
      ∃ response, outcome.1 = .ok response ∧ response.conversationId = conv.id ∧
        response.reply = (aiResponse w request.message).reply) := by
  intro outcome
  have hstarts : starts request = false := by simp [starts, hid]
  rcases openConversation_existing (w := w) hid { db } with
    ⟨message, hopen, hfail⟩ | ⟨-, hfind, -⟩ | ⟨hfail, hlast, conv', hfind, hopen⟩
  · left
    have hadds : adds request (some conv) w = false := by
      rcases hfail with hfail | ⟨-, hfail⟩ <;> simp [adds, hstarts, hfail]
    rw [show outcome = _ from chat_of_rejected hopen]
    exact ⟨hadds, rfl, _, rfl⟩
  · exact absurd (hconv.symm.trans hfind) (Option.some_ne_none conv)
  · obtain rfl := Option.some.inj (hconv.symm.trans hfind)
    have hadds : adds request (some conv) w = answerAdds request conv w := by
      simp [adds, hstarts, hfail, hlast]
    have hfails : failsInternally request (some conv) w = answerFails request conv w := by
      simp [failsInternally, hstarts, hfail, hlast]
    rw [hadds, hfails, show outcome = _ from chat_of_open hopen]
    rcases answer_stores (w := w) request conv (MessageRepository.findLastN (w.orders db id) 10)
        db with
      h | h | ⟨hadd, hno, hdb, hok⟩
    · exact .inl h
    · exact .inr (.inl h)
    · exact .inr (.inr ⟨hadd, hno, hdb, _, hok, rfl, rfl⟩)

/-- What a `chat` stores that names no conversation: all of it is in a new one, and a reply comes
with both messages. -/
theorem chat_started (hid : truthy request.conversationId = none)
    (hfresh : Fresh db w.newConversationId) :
    let outcome := (chat w request).runOn { db }
    Kept [] db outcome.2.db ∧
      ∀ response, outcome.1 = .ok response → response.conversationId = w.newConversationId ∧
        w.newConversationId ∈ outcome.2.db.conversation.map (·.id) ∧
        (db.Linked → rows outcome.2.db w.newConversationId =
          exchanged request.message response.reply) := by
  intro outcome
  rcases openConversation_new (w := w) hid { db } with ⟨message, hopen, -⟩ | ⟨-, hopen⟩
  · rw [show outcome = _ from chat_of_rejected hopen]
    exact ⟨.refl _ _, nofun⟩
  rw [show outcome = _ from chat_of_open hopen]
  set conv := newConversation w.newConversationId request
  have hnew : conv.id ∉ db.conversation.map (·.id) := hfresh.2
  have hmem : conv ∈ (db.addConversation conv).conversation :=
    List.mem_append_right _ (List.mem_singleton_self conv)
  have hadded : Kept [conv.id] db (db.addConversation conv) := kept_addConversation hfresh.1 _
  have hkept {db' : ChatDb} (h : Kept [conv.id] (db.addConversation conv) db') :
      Kept [] db db' := by
    have hall := hadded.trans h
    refine ⟨hall.linked, hall.conversation, fun id' hid' _ => hall.rows_eq id' hid' ?_⟩
    exact fun heq => hnew (List.mem_singleton.1 heq ▸ hid')
  rcases answer_stores (w := w) request conv [] (db.addConversation conv) with
    ⟨-, hdb, error, herr⟩ | ⟨-, -, hdb, error, herr⟩ | ⟨-, -, hdb, hok⟩
  · rw [hdb, herr]
    exact ⟨hkept (.refl _ _), nofun⟩
  · rw [hdb, herr]
    exact ⟨hkept (kept_userRow hmem), nofun⟩
  · rw [hdb, hok]
    refine ⟨hkept (kept_bothRows hmem), ?_⟩
    rintro response ⟨⟩
    refine ⟨rfl, List.mem_map_of_mem hmem, fun hdb' => ?_⟩
    have hrows : rows (bothRows w request conv (db.addConversation conv)) conv.id = _ :=
      rows_bothRows conv
    rw [rows_addConversation, rows_eq_nil hdb' hnew, List.nil_append] at hrows
    exact hrows

end Attempt

/-! ### A message that is not streamed -/

/-- The role of a row. -/
def roleOf : MessageRole → Role
  | .user => .user
  | .assistant => .assistant

/-- What a tab shows of a conversation. -/
def shown (s : ChatStoreState) : List DeepSeekMessage :=
  s.messages.map fun msg => ⟨roleOf msg.role, msg.content⟩

/-- How the server reads an id. -/
def readId (id : JsString) : String := String.ofList (Utf16.decode id)

@[simp] theorem readId_js (id : String) : readId (js id) = id := by
  have hjs : js id = Utf16.encode id.toList := rfl
  rw [readId, hjs, Utf16.decode_encode, String.ofList_toList]

/-- What becomes of a request of `ApiClient.chat`. -/
inductive Attempt where
  /-- The server handles it, and its answer arrives. -/
  | answered (w : ChatWorld)
  /-- The server handles it, and the answer is lost. -/
  | lost (w : ChatWorld) (err : JsError)
  /-- The server never sees it. -/
  | unreachable (err : JsError)

/-- What the tab gets for an attempt, and the tables after it.  The id of a conversation that is
created is a new one. -/
def Attempt.run (now : ℤ) (request : ChatRequestDto) (db : ChatDb) :
    Attempt → Option (Completion × ChatDb)
  | .answered w =>
    if Fresh db w.newConversationId then
      let outcome := (chat w request).runOn { db }
      some (answerOf now outcome.1, outcome.2.db)
    else none
  | .lost w err =>
    if Fresh db w.newConversationId then some (.failed err, ((chat w request).runOn { db }).2.db)
    else none
  | .unreachable err => some (.failed err, db)

/-- The attempts that a `sendMessage` makes, all of them. -/
def converse (now : ℤ) : List Attempt → SendOp → ChatStoreState → ChatDb →
    Option (ChatStoreState × ChatDb)
  | [], _, _, _ => none
  | a :: attempts, op, s, db =>
    match a.run now (dtoOf readId op.request) db with
    | none => none
    | some (answer, db) =>
      match op.complete now s answer with
      | none => none
      | some (s, none) => if attempts.isEmpty then some (s, db) else none
      | some (s, some backoff) =>
        match backoff.complete now s .timer with
        | some (s, some op) => converse now attempts op s db
        | _ => none

section Converse

variable {now : ℤ} {a : Attempt} {attempts : List Attempt} {op : SendOp} {s s' : ChatStoreState}
  {request : ChatRequestDto} {db db' : ChatDb} {answer : Completion} {k : ℕ}

/-- An attempt is answered with a reply or an error. -/
theorem Attempt.run_cases (h : a.run now request db = some (answer, db')) :
    (∃ data, answer = .reply data) ∨ ∃ err, answer = .failed err := by
  cases a with
  | answered w =>
    simp only [run] at h
    split_ifs at h
    obtain ⟨rfl, -⟩ := Prod.mk.inj (Option.some.inj h)
    cases (chat w request).runOn { db } |>.1 with
    | ok response => exact .inl ⟨_, rfl⟩
    | error error => exact .inr ⟨_, rfl⟩
  | lost w err =>
    simp only [run] at h
    split_ifs at h
    obtain ⟨rfl, -⟩ := Prod.mk.inj (Option.some.inj h)
    exact .inr ⟨err, rfl⟩
  | unreachable err =>
    obtain ⟨rfl, -⟩ := Prod.mk.inj (Option.some.inj h)
    exact .inr ⟨err, rfl⟩

/-- **One attempt after another**: it is the last one, or the tab tries again. -/
theorem converse_cons (hop : op.phase = .asking k)
    (h : converse now (a :: attempts) op s db = some (s', db')) :
    ∃ answer db₁, a.run now (dtoOf readId op.request) db = some (answer, db₁) ∧
      ((attempts = [] ∧ db' = db₁ ∧
          ((∃ data, answer = .reply data ∧ s' = s.replied op.request data) ∨
            ∃ err, answer = .failed err ∧ s' = s.sendFailed err)) ∨
        ∃ err, answer = .failed err ∧
          converse now attempts { op with phase := .asking (k + 1) } s db₁ = some (s', db')) := by
  rw [converse] at h
  rcases hrun : a.run now (dtoOf readId op.request) db with _ | ⟨answer, db₁⟩
  · rw [hrun] at h
    cases h
  rw [hrun] at h
  refine ⟨answer, db₁, rfl, ?_⟩
  rcases Attempt.run_cases hrun with ⟨data, rfl⟩ | ⟨err, rfl⟩
  · simp only [SendOp.complete, hop] at h
    split_ifs at h with hempty
    obtain ⟨rfl, rfl⟩ := Prod.mk.inj (Option.some.inj h)
    exact .inl ⟨List.isEmpty_iff.1 hempty, rfl, .inl ⟨data, rfl, rfl⟩⟩
  · by_cases hretry : retries k err = true
    · simp only [SendOp.complete, hop, hretry, if_true] at h
      exact .inr ⟨err, rfl, h⟩
    · simp only [SendOp.complete, hop, hretry, if_false, Bool.false_eq_true] at h
      split_ifs at h with hempty
      obtain ⟨rfl, rfl⟩ := Prod.mk.inj (Option.some.inj h)
      exact .inl ⟨List.isEmpty_iff.1 hempty, rfl, .inr ⟨err, rfl, rfl⟩⟩

/-- The attempt stores nothing in a stored conversation, or is answered with the reply. -/
def Attempt.Quiet (request : ChatRequestDto) (stored : Option Conversation) : Attempt → Prop
  | .answered w => adds request stored w = true → failsInternally request stored w = false
  | .lost w _ => adds request stored w = false
  | .unreachable _ => True

theorem conversation_of_chat {w : ChatWorld} {id : String} {conv : Conversation}
    (hid : truthy request.conversationId = some id)
    (hconv : ConversationRepository.findById db id = some conv) :
    Kept [id] db ((chat w request).runOn { db }).2.db ∧
      ((chat w request).runOn { db }).2.db.conversation = db.conversation := by
  obtain ⟨hmem, rfl⟩ := id_of_findById hconv
  rcases chat_stored (w := w) hid hconv with ⟨-, hdb, -⟩ | ⟨-, -, hdb, -⟩ | ⟨-, -, hdb, -⟩
  · rw [hdb]
    exact ⟨.refl _ _, rfl⟩
  · rw [hdb]
    exact ⟨kept_userRow hmem, rfl⟩
  · rw [hdb]
    exact ⟨kept_bothRows hmem, rfl⟩

/-- An attempt in a stored conversation. -/
theorem Attempt.run_stored {id : String} {conv : Conversation}
    (hid : truthy request.conversationId = some id)
    (hconv : ConversationRepository.findById db id = some conv)
    (h : a.run now request db = some (answer, db')) :
    Kept [id] db db' ∧ db'.conversation = db.conversation ∧
      ((a.Quiet request (some conv) ∧ ∃ data, answer = .reply data ∧
          rows db' id = rows db id ++ exchanged request.message data.reply) ∨
        ∃ err extra, answer = .failed err ∧ rows db' id = rows db id ++ extra ∧
          (a.Quiet request (some conv) ↔ extra = [])) := by
  obtain ⟨-, rfl⟩ := id_of_findById hconv
  have hsame (db : ChatDb) : rows db conv.id = rows db conv.id ++ [] := (List.append_nil _).symm
  cases a with
  | answered w =>
    simp only [run] at h
    split_ifs at h
    obtain ⟨hanswer, rfl⟩ := Prod.mk.inj (Option.some.inj h)
    obtain ⟨hkept, hconversation⟩ := conversation_of_chat (w := w) hid hconv
    refine ⟨hkept, hconversation, ?_⟩
    rcases chat_stored (w := w) hid hconv with ⟨hadds, hdb, error, herr⟩ |
      ⟨hadds, hfails, hdb, error, herr⟩ | ⟨hadds, hfails, hdb, response, hok, -, hreply⟩
    · rw [herr] at hanswer
      refine .inr ⟨_, [], hanswer.symm, by rw [hdb, List.append_nil], iff_of_true ?_ rfl⟩
      intro h
      exact absurd (hadds.symm.trans h) Bool.false_ne_true
    · rw [herr] at hanswer
      refine .inr ⟨_, _, hanswer.symm, by rw [hdb, rows_userRow], ?_⟩
      refine iff_of_false (fun h => ?_) (List.cons_ne_nil _ _)
      exact absurd ((h hadds).symm.trans hfails) Bool.false_ne_true
    · rw [hok] at hanswer
      refine .inl ⟨fun _ => hfails, _, hanswer.symm, ?_⟩
      rw [hdb, rows_bothRows, ← hreply]
  | lost w err =>
    simp only [run] at h
    split_ifs at h
    obtain ⟨hanswer, rfl⟩ := Prod.mk.inj (Option.some.inj h)
    obtain ⟨hkept, hconversation⟩ := conversation_of_chat (w := w) hid hconv
    refine ⟨hkept, hconversation, .inr ?_⟩
    rcases chat_stored (w := w) hid hconv with ⟨hadds, hdb, -⟩ | ⟨hadds, -, hdb, -⟩ |
      ⟨hadds, -, hdb, -⟩
    · exact ⟨err, [], hanswer.symm, by rw [hdb, List.append_nil], iff_of_true hadds rfl⟩
    · refine ⟨err, _, hanswer.symm, by rw [hdb, rows_userRow], ?_⟩
      exact iff_of_false (fun h => Bool.false_ne_true (h.symm.trans hadds)) (List.cons_ne_nil _ _)
    · refine ⟨err, _, hanswer.symm, by rw [hdb, rows_bothRows], ?_⟩
      exact iff_of_false (fun h => Bool.false_ne_true (h.symm.trans hadds)) (List.cons_ne_nil _ _)
  | unreachable err =>
    obtain ⟨rfl, rfl⟩ := Prod.mk.inj (Option.some.inj h)
    exact ⟨.refl _ _, rfl, .inr ⟨err, [], rfl, (List.append_nil _).symm, iff_of_true trivial rfl⟩⟩

theorem shown_replied (s : ChatStoreState) (request : ChatRequest) (data : Client.ChatResponse) :
    shown (s.replied request data) = shown s ++ [⟨.assistant, data.reply⟩] := by
  unfold ChatStoreState.replied
  split <;> simp [shown, ChatStoreState.sendFinally, ChatStoreState.append, roleOf]

theorem conversationId_replied_of_ne_none {s : ChatStoreState} {request : ChatRequest}
    {data : Client.ChatResponse} (h : request.conversationId ≠ none) :
    (s.replied request data).conversationId = s.conversationId := by
  unfold ChatStoreState.replied
  split
  · exact absurd ‹_› h
  · rfl

theorem conversationId_replied_of_none {s : ChatStoreState} {request : ChatRequest}
    {data : Client.ChatResponse} {c : JsString} (h : request.conversationId = none)
    (hc : Client.truthy data.conversationId = some c) :
    (s.replied request data).conversationId = some c := by
  simp only [ChatStoreState.replied, hc, h]
  rfl

theorem shown_sendFailed (s : ChatStoreState) (err : JsError) :
    shown (s.sendFailed err) = (shown s).dropLast := by
  simp [shown, ChatStoreState.sendFailed, ChatStoreState.sendFinally]

/-- **A message in a stored conversation**: what is stored of it, and what is shown. -/
theorem converse_stored {id : String} {conv : Conversation} {base : List DeepSeekMessage}
    (hid : truthy (dtoOf readId op.request).conversationId = some id)
    (hconv : ConversationRepository.findById db id = some conv) (hop : op.phase = .asking k)
    (hshown : shown s = base ++ [⟨.user, op.request.message⟩])
    (h : converse now attempts op s db = some (s', db')) :
    Kept [id] db db' ∧ s'.conversationId = s.conversationId ∧
      ∃ extra added, rows db' id = rows db id ++ extra ∧ shown s' = base ++ added ∧
        ((∀ a ∈ attempts, a.Quiet (dtoOf readId op.request) (some conv)) → extra = added) ∧
        (¬ (∀ a ∈ attempts, a.Quiet (dtoOf readId op.request) (some conv)) →
          added.length < extra.length) := by
  induction attempts generalizing op db k with
  | nil => cases h
  | cons a attempts ih =>
    obtain ⟨answer, db₁, hrun, hnext⟩ := converse_cons hop h
    obtain ⟨hkept, hconversation, hstored⟩ := Attempt.run_stored hid hconv hrun
    rcases hnext with ⟨rfl, rfl, hlast⟩ | ⟨err, rfl, hrest⟩
    · simp only [List.mem_singleton, forall_eq]
      rcases hstored with ⟨hquiet, data, rfl, hrows⟩ | ⟨err, extra, rfl, hrows, hquiet⟩
      · obtain ⟨data', hdata, rfl⟩ := hlast.resolve_right (by rintro ⟨err, ⟨⟩, -⟩)
        obtain rfl := Completion.reply.inj hdata
        refine ⟨hkept, ?_, _, exchanged op.request.message data.reply, hrows, ?_, fun _ => rfl,
          fun hnot => absurd hquiet hnot⟩
        · refine conversationId_replied_of_ne_none fun hnone => ?_
          simp [dtoOf, hnone, truthy] at hid
        · rw [shown_replied, hshown, List.append_assoc]
          rfl
      · obtain ⟨err', -, rfl⟩ := hlast.resolve_left (by rintro ⟨data, ⟨⟩, -⟩)
        refine ⟨hkept, rfl, extra, [], hrows, ?_, fun hq => hquiet.1 hq, fun hnot => ?_⟩
        · rw [shown_sendFailed, hshown, List.dropLast_concat, List.append_nil]
        · exact List.length_pos_iff.2 fun hnil => hnot (hquiet.2 hnil)
    · obtain ⟨err', extra₁, -, hrows₁, hquiet⟩ :=
        hstored.resolve_left (by rintro ⟨-, data, ⟨⟩, -⟩)
      have hconv₁ : ConversationRepository.findById db₁ id = some conv := by
        rw [ConversationRepository.findById, hconversation]
        exact hconv
      obtain ⟨hkept₂, hsame, extra₂, added, hrows₂, hshown₂, hall, hnot⟩ :=
        @ih { op with phase := .asking (k + 1) } db₁ (k + 1) hid hconv₁ rfl hshown hrest
      refine ⟨hkept.trans hkept₂, hsame, extra₁ ++ extra₂, added, ?_, hshown₂, ?_, ?_⟩
      · rw [hrows₂, hrows₁, List.append_assoc]
      · intro hq
        rw [hquiet.1 (hq a List.mem_cons_self), List.nil_append]
        exact hall fun a' ha' => hq a' (List.mem_cons_of_mem _ ha')
      · intro hn
        rw [List.length_append]
        by_cases hq : ∀ a' ∈ attempts, a'.Quiet (dtoOf readId op.request) (some conv)
        · have hfirst : extra₁ ≠ [] := fun hnil =>
            hn (List.forall_mem_cons.2 ⟨hquiet.2 hnil, hq⟩)
          have hlen := List.length_pos_iff.2 hfirst
          have hequal := congrArg List.length (hall hq)
          omega
        · have hless := hnot hq
          omega

theorem truthy_js {id : String} (hid : id ≠ "") : Client.truthy (some (js id)) = some (js id) := by
  have hne : js id ≠ [] := by
    intro hnil
    refine hid ?_
    rw [← readId_js id, hnil]
    rfl
  exact if_pos (decide_eq_true hne)

/-- An attempt that starts a conversation. -/
theorem Attempt.run_started (hid : truthy request.conversationId = none) (hdb : db.Linked)
    (h : a.run now request db = some (answer, db')) :
    Kept [] db db' ∧
      ((∃ data id, answer = .reply data ∧ data.conversationId = some (js id) ∧ Fresh db id ∧
          id ∈ db'.conversation.map (·.id) ∧
          rows db' id = exchanged request.message data.reply) ∨
        ∃ err, answer = .failed err) := by
  cases a with
  | answered w =>
    simp only [run] at h
    split_ifs at h with hfresh
    obtain ⟨rfl, rfl⟩ := Prod.mk.inj (Option.some.inj h)
    obtain ⟨hkept, hreply⟩ := chat_started (w := w) hid hfresh
    refine ⟨hkept, ?_⟩
    rcases houtcome : ((chat w request).runOn { db }).1 with error | response
    · exact .inr ⟨_, rfl⟩
    · obtain ⟨hname, hmem, hrows⟩ := hreply response houtcome
      refine .inl ⟨_, w.newConversationId, rfl, ?_, hfresh, hmem, hrows hdb⟩
      rw [← hname]
  | lost w err =>
    simp only [run] at h
    split_ifs at h with hfresh
    obtain ⟨rfl, rfl⟩ := Prod.mk.inj (Option.some.inj h)
    exact ⟨(chat_started hid hfresh).1, .inr ⟨err, rfl⟩⟩
  | unreachable err =>
    obtain ⟨rfl, rfl⟩ := Prod.mk.inj (Option.some.inj h)
    exact ⟨.refl _ _, .inr ⟨err, rfl⟩⟩

/-- **A message that starts a conversation**: what is stored of it, and what is shown. -/
theorem converse_started {base : List DeepSeekMessage} (hnone : op.request.conversationId = none)
    (hdb : db.Linked) (hop : op.phase = .asking k)
    (hshown : shown s = base ++ [⟨.user, op.request.message⟩])
    (h : converse now attempts op s db = some (s', db')) :
    Kept [] db db' ∧
      ((shown s' = base ∧ s'.conversationId = s.conversationId) ∨
        ∃ id reply, s'.conversationId = some (js id) ∧ Fresh db id ∧
          id ∈ db'.conversation.map (·.id) ∧
          rows db' id = exchanged op.request.message reply ∧
          shown s' = base ++ exchanged op.request.message reply) := by
  have hid : truthy (dtoOf readId op.request).conversationId = none := by
    simp [dtoOf, hnone, truthy]
  induction attempts generalizing op db k with
  | nil => cases h
  | cons a attempts ih =>
    obtain ⟨answer, db₁, hrun, hnext⟩ := converse_cons hop h
    obtain ⟨hkept, hstarted⟩ := Attempt.run_started hid hdb hrun
    rcases hnext with ⟨-, rfl, ⟨data, rfl, rfl⟩ | ⟨err, -, rfl⟩⟩ | ⟨err, rfl, hrest⟩
    · obtain ⟨data', id, hdata, hc, hfresh, hmem, hrows⟩ :=
        hstarted.resolve_right (by rintro ⟨err, ⟨⟩⟩)
      obtain rfl := Completion.reply.inj hdata
      refine ⟨hkept, .inr ⟨id, data.reply, ?_, hfresh, hmem, hrows, ?_⟩⟩
      · exact conversationId_replied_of_none hnone (by rw [hc, truthy_js hfresh.1])
      · rw [shown_replied, hshown, List.append_assoc]
        rfl
    · refine ⟨hkept, .inl ⟨?_, rfl⟩⟩
      rw [shown_sendFailed, hshown, List.dropLast_concat]
    · obtain ⟨hkept₂, hend⟩ := @ih { op with phase := .asking (k + 1) } db₁ (k + 1) hnone
        (hkept.linked hdb) rfl hshown hrest hid
      refine ⟨hkept.trans hkept₂, hend.imp_right ?_⟩
      rintro ⟨id, reply, hc, hfresh, hrest⟩
      refine ⟨id, reply, hc, ⟨hfresh.1, fun hmem => hfresh.2 ?_⟩, hrest⟩
      exact (hkept.conversation.sublist.map _).subset hmem

end Converse

/-! ### A message that is streamed -/

section Stream

variable {w : ChatWorld} {request : ChatRequestDto} {db : ChatDb}

/-- The request of the service for a message that is streamed. -/
def streamDtoOf (request : ChatRequest) : ChatRequestDto :=
  let dto := ChatController.streamRequest
    (FormUrl.parse (FormUrl.urlQuery (ApiClient.chatStreamQuery request none)))
  { message := dto.message.getD []
    conversationId := dto.conversationId.map readId
    documentId := dto.documentId.map readId }

/-- The tab reads the chunks of a stream, one animation frame each, up to a complete one; when
there are no more, the stream ends, or it is broken off. -/
def readStream (now : ℤ) (broken : Option JsError) :
    List StreamChunk → SendOp → ChatStoreState → Option ChatStoreState
  | [], op, s =>
    match broken with
    | none => (op.complete now s .done).map (·.1)
    | some err => (op.complete now s (.failed err)).map (·.1)
  | chunk :: chunks, op, s =>
    match op.complete now s (.chunk chunk) with
    | some (s, some op) =>
      match op.complete now s .frame with
      | some (s, some op) =>
        if chunk.complete then (op.complete now s .closed).map (·.1)
        else readStream now broken chunks op s
      | _ => none
    | _ => none

/-- The store after a chunk and its frame. -/
def painted (s : ChatStoreState) (l : StreamLoop) : ChatStoreState :=
  { (if l.chunkCount = 1 then { s with isThinking := false } else s) with
    streamingContent := l.fullResponse }

@[simp] theorem messages_painted (s : ChatStoreState) (l : StreamLoop) :
    (painted s l).messages = s.messages := by
  unfold painted
  split_ifs <;> rfl

@[simp] theorem conversationId_painted (s : ChatStoreState) (l : StreamLoop) :
    (painted s l).conversationId = s.conversationId := by
  unfold painted
  split_ifs <;> rfl

theorem readStream_cons (now : ℤ) (broken : Option JsError) (chunk : StreamChunk)
    (chunks : List StreamChunk) (request : ChatRequest) (l : StreamLoop) (s : ChatStoreState) :
    readStream now broken (chunk :: chunks) ⟨request, .reading l⟩ s =
      if chunk.complete then some ((painted s (l.read chunk)).streamFinished now (l.read chunk))
      else readStream now broken chunks ⟨request, .reading (l.read chunk)⟩
        (painted s (l.read chunk)) := by
  cases hcomplete : chunk.complete <;> simp [readStream, SendOp.complete, hcomplete, painted]

/-- Only the end of a stream touches the messages and the conversation. -/
theorem readStream_eq (now : ℤ) (broken : Option JsError) (chunks : List StreamChunk)
    (request : ChatRequest) (l : StreamLoop) (s : ChatStoreState) :
    ∃ t : ChatStoreState, t.messages = s.messages ∧ t.conversationId = s.conversationId ∧
      readStream now broken chunks ⟨request, .reading l⟩ s =
        match broken, chunks.any (·.complete) with
        | some err, false => some (t.streamFailed err)
        | _, _ => some (t.streamFinished now (l.readAll chunks)) := by
  induction chunks generalizing l s with
  | nil => cases broken <;> exact ⟨s, rfl, rfl, rfl⟩
  | cons chunk chunks ih =>
    rw [readStream_cons, StreamLoop.readAll]
    cases hcomplete : chunk.complete with
    | true =>
      refine ⟨painted s (l.read chunk), messages_painted _ _, conversationId_painted _ _, ?_⟩
      cases broken <;> simp [hcomplete]
    | false =>
      obtain ⟨t, hmessages, hconversation, heq⟩ := ih (l.read chunk) (painted s (l.read chunk))
      refine ⟨t, hmessages.trans (messages_painted _ _),
        hconversation.trans (conversationId_painted _ _), ?_⟩
      simpa [hcomplete] using heq

theorem db_streamAnswer (conv : Conversation) (messages : List DbMessage) (s : ChatState) :
    ((streamAnswer w request conv messages).runOn s).2.db = s.db := by
  rcases lookUpDocument_cases (w := w) request conv s with ⟨message, hrun, -⟩ | ⟨-, hrun⟩
  · simp [streamAnswer, hrun]
  · unfold streamAnswer
    cases w.apiKey with
    | false =>
      simp only [Action.runOn_bind, hrun, Action.andThen_ok, Bool.false_eq_true, if_false,
        write_runOn]
    | true => cases w.upstream <;> simp [hrun, post, onEnd, startCreate]

/-- A stream changes the tables only where it opens its conversation. -/
theorem db_chatStreamRequest :
    ((chatStreamRequest w request).runOn { db }).2.db =
      ((openConversation w request).runOn { db }).2.db := by
  rcases hopen : (openConversation w request).runOn { db } with
    ⟨error | _ | ⟨conv, messages⟩, s⟩
  · simp [chatStreamRequest, streamBody, hopen]
  · simp [chatStreamRequest, streamBody, hopen]
  · have hdb := @db_streamAnswer w request conv messages s
    rcases hanswer : (streamAnswer w request conv messages).runOn s with ⟨error | ok, s'⟩ <;>
    · rw [hanswer] at hdb
      simpa [chatStreamRequest, streamBody, hopen, hanswer] using hdb

/-- How `openConversation` leaves the tables, and which conversation it gives. -/
theorem openConversation_kept (hfresh : Fresh db w.newConversationId) :
    let outcome := (openConversation w request).runOn { db }
    Kept [] db outcome.2.db ∧ outcome.2.db.message = db.message ∧
      ∀ conv messages, outcome.1 = .ok (some (conv, messages)) →
        conv ∈ outcome.2.db.conversation ∧
          (∀ id, truthy request.conversationId = some id → conv.id = id) ∧
          (truthy request.conversationId = none → conv.id = w.newConversationId) := by
  intro outcome
  cases hid : truthy request.conversationId with
  | none =>
    rcases openConversation_new (w := w) hid { db } with ⟨message, hopen, -⟩ | ⟨-, hopen⟩
    · rw [show outcome = _ from hopen]
      exact ⟨.refl _ _, rfl, nofun⟩
    · rw [show outcome = _ from hopen]
      refine ⟨kept_addConversation hfresh.1 _, rfl, ?_⟩
      rintro conv messages ⟨⟩
      exact ⟨List.mem_append_right _ (List.mem_singleton_self _), nofun, fun _ => rfl⟩
  | some id =>
    rcases openConversation_existing (w := w) hid { db } with
      ⟨message, hopen, -⟩ | ⟨-, -, hopen⟩ | ⟨-, -, conv, hfind, hopen⟩
    · rw [show outcome = _ from hopen]
      exact ⟨.refl _ _, rfl, nofun⟩
    · rw [show outcome = _ from hopen]
      exact ⟨.refl _ _, rfl, nofun⟩
    · rw [show outcome = _ from hopen]
      refine ⟨.refl _ _, rfl, ?_⟩
      rintro conv' messages ⟨⟩
      obtain ⟨hmem, hconv⟩ := id_of_findById hfind
      exact ⟨hmem, fun id' hid' => hconv.trans (Option.some.inj hid'), nofun⟩

/-- The tokens of the frames are what is accumulated. -/
theorem frames_chatStream (parse : List Char → Option UpstreamChunk) (buffers : List (List UInt8)) :
    ∃ tokens : List JsString,
      (chatStream parse buffers).frames = tokens.map SseData.tokenFrame ∧
        (∀ token ∈ tokens, token ≠ []) ∧
        tokens.flatten = (chatStream parse buffers).fullReply := by
  rw [chatStream_eq_accumulate, accumulate, foldl_add]
  generalize (linePieces 10 buffers).flatten.map (pieceContribution parse) = pieces
  refine ⟨(pieces.filter (·.token ≠ [])).map (·.token), ?_, ?_, ?_⟩
  · rw [List.map_map]
    rfl
  · rw [List.forall_mem_map]
    exact fun piece hpiece => of_decide_eq_true (List.mem_filter.1 hpiece).2
  · rw [← List.flatMap_def]
    induction pieces with
    | nil => rfl
    | cons piece pieces ih => by_cases h : piece.token = [] <;> simpa [h] using ih

theorem fallbackFrames_eq :
    fallbackFrames =
      (ChatPromptBuilder.fallbackText.toList.map utf16EncodeChar).map SseData.tokenFrame := by
  rw [fallbackFrames, List.map_map]
  rfl

/-- What a stream writes, and which inserts it starts. -/
theorem stream_cases (hfresh : Fresh db w.newConversationId) :
    let served := ((chatStreamRequest w request).runOn { db }).2
    (¬ (AsksModel w request db ∧ Delivered w) ∧ served.started = [] ∧
      ∃ (tokens : List JsString) (last : SseData),
      served.frames = tokens.map SseData.tokenFrame ++ [last] ∧ last.complete = some true ∧
        last.conversationId = none) ∨
    ((AsksModel w request db ∧ Delivered w) ∧
      ∃ (conv : Conversation) (tokens : List JsString) (tokensUsed : ℤ),
      served.frames = tokens.map SseData.tokenFrame ++ [.finalFrame (some (js conv.id))] ∧
        (∀ token ∈ tokens, token ≠ []) ∧ served.started = [⟨conv.id, .user, request.message, 0⟩,
          ⟨conv.id, .assistant, tokens.flatten, tokensUsed⟩] ∧
        conv ∈ served.db.conversation ∧
        (∀ id, truthy request.conversationId = some id → conv.id = id) ∧
        (truthy request.conversationId = none → conv.id = w.newConversationId)) := by
  intro served
  rcases ready_or_turnedDown w request db with ⟨hasks, conv, messages, db', hready, -⟩ |
    ⟨hnot, hdown⟩
  · cases hkey : w.apiKey with
    | false =>
      left
      rw [show served = _ from congrArg Prod.snd (stream_of_no_key hready hkey)]
      refine ⟨fun h => ?_, rfl, ChatPromptBuilder.fallbackText.toList.map utf16EncodeChar,
        .finalFrame none, ?_, rfl, rfl⟩
      · exact absurd (h.2.1.symm.trans hkey) nofun
      · rw [← fallbackFrames_eq]
    | true =>
      cases hup : w.upstream with
      | fails buffers message =>
        left
        obtain ⟨tokens, hframes, -, -⟩ := frames_chatStream w.parse buffers
        rw [show served = _ from congrArg Prod.snd (stream_of_fails hready hkey hup)]
        refine ⟨?_, rfl, tokens, .errorFrame message, congrArg (· ++ _) hframes, rfl, rfl⟩
        rintro ⟨-, -, reply, n, buffers', hdelivers⟩
        exact absurd (hup.symm.trans hdelivers) nofun
      | delivers reply totalTokens buffers =>
        right
        obtain ⟨tokens, hframes, hne, hflat⟩ := frames_chatStream w.parse buffers
        obtain ⟨-, -, hconv⟩ := @openConversation_kept w request db hfresh
        obtain ⟨hmem, hsome, hnone⟩ := hconv conv messages (congrArg Prod.fst hready.1)
        rw [show served = _ from congrArg Prod.snd (stream_of_delivers hready hkey hup)]
        refine ⟨⟨hasks, hkey, reply, totalTokens, buffers, hup⟩, conv, tokens,
          (chatStream w.parse buffers).tokensUsed, congrArg (· ++ _) hframes, hne, ?_, ?_, hsome,
          hnone⟩
        · rw [hflat]
          rfl
        · rw [hready.1] at hmem
          exact hmem
  · left
    obtain ⟨message, db', hstream, -⟩ := hdown.stream
    rw [show served = _ from congrArg Prod.snd hstream]
    exact ⟨fun h => hnot h.1, rfl, [], .errorFrame message, rfl, rfl, rfl⟩

/-- The chunks that arrive, up to the last one. -/
theorem take_chunks (tokens : List JsString) (last : SseData) (n : ℕ) :
    ((tokens.map SseData.tokenFrame ++ [last]).map SseData.toChunk).take n =
      if n ≤ tokens.length then (tokens.take n).map fun token => (SseData.tokenFrame token).toChunk
      else (tokens.map fun token => (SseData.tokenFrame token).toChunk) ++ [last.toChunk] := by
  rw [List.map_append, List.map_map, List.map_singleton]
  split_ifs with hn
  · rw [List.take_append_of_le_length (by simpa using hn), List.map_take]
    rfl
  · rw [List.take_of_length_le (by simp; omega)]
    rfl

/-- What is read of some tokens, and of the last chunk behind them. -/
theorem readAll_tokens (l : StreamLoop) (tokens : List JsString) (rest : List StreamChunk) :
    ∃ l' : StreamLoop, l'.fullResponse = l.fullResponse ++ tokens.flatten ∧
      l'.lastConversationId = l.lastConversationId ∧
      l.readAll ((tokens.map fun token => (SseData.tokenFrame token).toChunk) ++ rest) =
        l'.readAll rest := by
  induction tokens generalizing l with
  | nil => exact ⟨l, by simp, rfl, rfl⟩
  | cons token tokens ih =>
    obtain ⟨l', hfull, hlast, heq⟩ := ih (l.read (SseData.tokenFrame token).toChunk)
    refine ⟨l', ?_, hlast, heq⟩
    rw [hfull, List.flatten_cons, ← List.append_assoc]
    rfl

theorem shown_streamFinished (s : ChatStoreState) (now : ℤ) (l : StreamLoop) :
    shown (s.streamFinished now l) = shown s ++ [⟨.assistant, l.fullResponse⟩] := by
  simp [shown, ChatStoreState.streamFinished, ChatStoreState.sendFinally, roleOf]

/-- **What the tab makes of a stream** of which `n` frames arrive: it takes its message back when
the stream is broken off before its last frame, and otherwise shows the tokens as the reply. -/
theorem readStream_frames {now : ℤ} {broken : Option JsError} {tokens : List JsString}
    {last : SseData} {n : ℕ} {request : ChatRequest} {s s' : ChatStoreState}
    {base : List DeepSeekMessage} (hlast : last.complete = some true)
    (hshown : shown s = base ++ [⟨.user, request.message⟩])
    (h : readStream now broken
      (((tokens.map SseData.tokenFrame ++ [last]).map SseData.toChunk).take n)
      ⟨request, .reading { lastConversationId := request.conversationId }⟩ s = some s') :
    (n ≤ tokens.length ∧ broken ≠ none ∧ shown s' = base ∧
        s'.conversationId = s.conversationId) ∨
      (n ≤ tokens.length ∧ broken = none ∧
        shown s' = base ++ exchanged request.message (tokens.take n).flatten ∧
        s'.conversationId = (Client.truthy s.conversationId).or
          (Client.truthy request.conversationId)) ∨
      (tokens.length < n ∧
        shown s' = base ++ exchanged request.message (tokens.flatten ++ last.token.getD []) ∧
        s'.conversationId = (Client.truthy s.conversationId).or
          (Client.truthy ((Client.truthy last.conversationId).or request.conversationId))) := by
  have hfinished (t : ChatStoreState) (ht : t.messages = s.messages)
      (hc : t.conversationId = s.conversationId) (l : StreamLoop) :
      shown (t.streamFinished now l) = base ++ exchanged request.message l.fullResponse ∧
        (t.streamFinished now l).conversationId = (Client.truthy s.conversationId).or
          (Client.truthy l.lastConversationId) := by
    constructor
    · have hsame : shown t = shown s := by rw [shown, ht, shown]
      rw [shown_streamFinished, hsame, hshown, List.append_assoc]
      rfl
    · simp only [ChatStoreState.streamFinished, ChatStoreState.sendFinally, hc]
      cases Client.truthy s.conversationId <;> rfl
  obtain ⟨t, hmessages, hconversation, heq⟩ := readStream_eq now broken
    (((tokens.map SseData.tokenFrame ++ [last]).map SseData.toChunk).take n) request
    { lastConversationId := request.conversationId } s
  rw [heq, take_chunks] at h
  by_cases hn : n ≤ tokens.length
  · have hnone : ((tokens.take n).map fun token => (SseData.tokenFrame token).toChunk).any
        (·.complete) = false := by
      rw [List.any_map, List.any_eq_false]
      exact fun token _ => Bool.false_ne_true
    rw [if_pos hn, hnone] at h
    cases broken with
    | some err =>
      obtain rfl := Option.some.inj h
      refine .inl ⟨hn, nofun, ?_, hconversation⟩
      have hsame : shown (t.streamFailed err) = (shown t).dropLast := by
        simp [shown, ChatStoreState.streamFailed, ChatStoreState.sendFailed,
          ChatStoreState.sendFinally]
      have hbefore : shown t = shown s := by rw [shown, hmessages, shown]
      rw [hsame, hbefore, hshown, List.dropLast_concat]
    | none =>
      obtain rfl := Option.some.inj h
      obtain ⟨l', hfull, hlastId, hread⟩ := readAll_tokens
        { lastConversationId := request.conversationId } (tokens.take n) []
      rw [List.append_nil] at hread
      rw [hread]
      obtain ⟨hs, hc⟩ := hfinished t hmessages hconversation l'
      refine .inr (.inl ⟨hn, rfl, ?_, ?_⟩)
      · rw [StreamLoop.readAll, hs, hfull]
        rfl
      · rw [StreamLoop.readAll, hc, hlastId]
  · have hany : ((tokens.map fun token => (SseData.tokenFrame token).toChunk) ++
        [last.toChunk]).any (·.complete) = true := by
      simp [SseData.toChunk, hlast]
    rw [if_neg hn, hany] at h
    obtain ⟨l', hfull, hlastId, hread⟩ := readAll_tokens
      { lastConversationId := request.conversationId } tokens [last.toChunk]
    have hend : l'.readAll [last.toChunk] = l'.read last.toChunk := by
      simp [StreamLoop.readAll]
    have hs' : s' = t.streamFinished now (l'.read last.toChunk) := by
      cases broken <;> exact (Option.some.inj h).symm.trans (by rw [hread, hend])
    obtain ⟨hs, hc⟩ := hfinished t hmessages hconversation (l'.read last.toChunk)
    subst hs'
    refine .inr (.inr ⟨Nat.lt_of_not_le hn, ?_, ?_⟩)
    · rw [hs, StreamLoop.read, hfull]
      rfl
    · rw [hc, StreamLoop.read, hlastId]
      have hid : last.toChunk.conversationId = last.conversationId := rfl
      rw [hid]
      cases Client.truthy last.conversationId <;> rfl

end Stream

end ChatService

end StudyOasis
