import StudyOasis.Chat.Atomicity

/-!
# What the two entry points store

`chat` stores a message and the reply whatever the upstream service does: without a key, and when
the call fails, the reply is a text of its own.  `chatStream` stores the two only after a reply was
delivered, and of the reply only the tokens whose lines arrive in one piece.  So the rows are the
same exactly when a reply is delivered with no token torn apart, or the model is not asked at all
(`same_rows_iff`).
-/

namespace StudyOasis

namespace ChatService

variable {w : ChatWorld} {request : ChatRequestDto} {db : ChatDb}

/-! ### Requests that reach the model -/

/-- The model is asked: the conversation is found or made, and the document context is there. -/
def AsksModel (w : ChatWorld) (request : ChatRequestDto) (db : ChatDb) : Prop :=
  match truthy request.conversationId with
  | none =>
    w.fails .createConversation = none ∧
      ((truthy request.documentId).isSome → w.fails .documentContext = none)
  | some id =>
    w.fails .findConversation = none ∧ w.fails .findLastN = none ∧
      ∃ conv, ConversationRepository.findById db id = some conv ∧
        ((documentOf request conv).isSome → w.fails .documentContext = none)

/-- A request that both entry points turn down before anything is posted or stored. -/
structure TurnedDown (w : ChatWorld) (request : ChatRequestDto) (db : ChatDb) : Prop where
  /-- `chat` is rejected. -/
  chat : ∃ error db', (chat w request).runOn { db } = (.error error, { db := db' }) ∧
    db'.message = db.message ∧ ((truthy request.conversationId).isSome → db' = db)
  /-- `chatStream` writes an error and starts no insert. -/
  stream : ∃ message db', (chatStreamRequest w request).runOn { db } =
      (.ok (), { db := db', frames := [.errorFrame message] }) ∧
    db'.message = db.message ∧ ((truthy request.conversationId).isSome → db' = db)

/-- What a request can be before it asks the model: the conversation open, and the document
context there. -/
def Ready (w : ChatWorld) (request : ChatRequestDto) (db : ChatDb) (conv : Conversation)
    (messages : List DbMessage) (db' : ChatDb) : Prop :=
  (openConversation w request).runOn { db } = (.ok (some (conv, messages)), { db := db' }) ∧
    (lookUpDocument w request conv).runOn { db := db' } = (.ok (), { db := db' })

theorem turnedDown_of_rejected {error : ServiceError}
    (h : (openConversation w request).runOn { db } = (.error error, { db })) :
    TurnedDown w request db := by
  constructor
  · exact ⟨error, db, chat_of_rejected h, rfl, fun _ => rfl⟩
  · refine ⟨error.message, db, ?_, rfl, fun _ => rfl⟩
    simp [chatStreamRequest, streamBody, h]

theorem turnedDown_of_unknown (h : (openConversation w request).runOn { db } = (.ok none, { db })) :
    TurnedDown w request db := by
  constructor
  · exact ⟨_, db, chat_of_not_found h, rfl, fun _ => rfl⟩
  · let message := js ("Conversation " ++ request.conversationId.getD "" ++ " not found")
    refine ⟨message, db, ?_, rfl, fun _ => rfl⟩
    simp [chatStreamRequest, streamBody, h, message]

theorem turnedDown_of_noContext {conv : Conversation} {messages : List DbMessage}
    {error : ServiceError} {db' : ChatDb}
    (h : (openConversation w request).runOn { db } = (.ok (some (conv, messages)), { db := db' }))
    (hctx : (lookUpDocument w request conv).runOn { db := db' } = (.error error, { db := db' }))
    (hmsg : db'.message = db.message)
    (hdb : (truthy request.conversationId).isSome → db' = db) : TurnedDown w request db := by
  constructor
  · refine ⟨error, db', ?_, hmsg, hdb⟩
    simp [chat, h, answer, hctx]
  · refine ⟨error.message, db', ?_, hmsg, hdb⟩
    simp [chatStreamRequest, streamBody, h, streamAnswer, hctx]

/-- A request reaches the model, or both entry points turn it down. -/
theorem ready_or_turnedDown (w : ChatWorld) (request : ChatRequestDto) (db : ChatDb) :
    (AsksModel w request db ∧ ∃ conv messages db', Ready w request db conv messages db' ∧
        db'.message = db.message) ∨
      (¬ AsksModel w request db ∧ TurnedDown w request db) := by
  unfold AsksModel
  cases hid : truthy request.conversationId with
  | none =>
    have hnew : (truthy request.conversationId).isSome →
        db.addConversation (newConversation w.newConversationId request) = db := by simp [hid]
    rcases openConversation_new (w := w) hid { db } with
      ⟨message, hopen, hcreate⟩ | ⟨hcreate, hopen⟩
    · exact .inr ⟨by simp [hcreate], turnedDown_of_rejected hopen⟩
    · have hdoc := documentOf_newConversation w.newConversationId request
      rcases lookUpDocument_cases (w := w) request (newConversation w.newConversationId request) _
        with ⟨message, hrun, hsome, hctx⟩ | ⟨hctx, hrun⟩
      · rw [hdoc] at hsome
        exact .inr ⟨by simp [hsome, hctx], turnedDown_of_noContext hopen hrun rfl hnew⟩
      · rw [hdoc] at hctx
        exact .inl ⟨⟨hcreate, hctx⟩, _, _, _, ⟨hopen, hrun⟩, rfl⟩
  | some id =>
    rcases openConversation_existing (w := w) hid { db } with
      ⟨message, hopen, hfail⟩ | ⟨-, hfind, hopen⟩ | ⟨hfail, hlast, conv, hfind, hopen⟩
    · refine .inr ⟨?_, turnedDown_of_rejected hopen⟩
      rcases hfail with hfail | ⟨-, hfail⟩ <;> simp [hfail]
    · refine .inr ⟨?_, turnedDown_of_unknown hopen⟩
      simp [show ConversationRepository.findById db id = none from hfind]
    · have hfound : ConversationRepository.findById db id = some conv := hfind
      rcases lookUpDocument_cases (w := w) request conv { db } with
        ⟨message, hrun, hsome, hctx⟩ | ⟨hctx, hrun⟩
      · refine .inr ⟨?_, turnedDown_of_noContext hopen hrun rfl fun _ => rfl⟩
        rintro ⟨-, -, conv', hfound', hnone⟩
        obtain rfl := Option.some.inj (hfound.symm.trans hfound')
        rw [hnone hsome] at hctx
        cases hctx
      · exact .inl ⟨⟨hfail, hlast, conv, hfound, hctx⟩, conv, _, _, ⟨hopen, hrun⟩, rfl⟩

/-! ### Requests that reach it -/

section Ready

variable {conv : Conversation} {messages : List DbMessage} {db' : ChatDb}

/-- `chat` stores the message and a reply, whatever the upstream service does. -/
theorem chat_of_ready (h : Ready w request db conv messages db')
    (huser : w.fails .insertUser = none) (hassistant : w.fails .insertAssistant = none) :
    ((chat w request).runOn { db }).2.db =
      (db'.addMessage (userRow w request conv)).addMessage (assistantRow w request conv) := by
  rw [chat_of_open h.1]
  simp [answer, h.2, callDeepSeekAPI_runOn, createMessage, ChatWorld.await_of_none huser,
    ChatWorld.await_of_none hassistant, userRow, assistantRow]

theorem chatStreamRequest_of_ready (h : Ready w request db conv messages db') :
    (chatStreamRequest w request).runOn { db } =
      Action.orElse (fun error => write [.errorFrame error.message])
        ((streamAnswer w request conv messages).runOn { db := db' }) := by
  simp [chatStreamRequest, streamBody, h.1]

/-- The inserts that `chatStream` starts when the stream has ended. -/
def startedInserts (request : ChatRequestDto) (conv : Conversation) (st : StreamState) :
    List NewMessage :=
  [{ conversationId := conv.id, role := .user, content := request.message },
    { conversationId := conv.id, role := .assistant, content := st.fullReply
      tokensUsed := st.tokensUsed }]

/-- A delivered reply: both inserts are started. -/
theorem stream_of_delivers (h : Ready w request db conv messages db') (hkey : w.apiKey = true)
    {reply : JsString} {totalTokens : ℤ} {buffers : List (List UInt8)}
    (hup : w.upstream = .delivers reply totalTokens buffers) :
    (chatStreamRequest w request).runOn { db } =
      (.ok (),
        { db := db'
          posted := [⟨messages, promptMessages w.loadContext request conv.documentId messages⟩]
          frames := (chatStream w.parse buffers).frames ++ [.finalFrame (some (js conv.id))]
          started := startedInserts request conv (chatStream w.parse buffers) }) := by
  rw [chatStreamRequest_of_ready h]
  simp [streamAnswer, h.2, hkey, hup, post, onEnd, startCreate, startedInserts]

/-- A failed call: nothing is stored. -/
theorem stream_of_fails (h : Ready w request db conv messages db') (hkey : w.apiKey = true)
    {buffers : List (List UInt8)} {message : JsString}
    (hup : w.upstream = .fails buffers message) :
    (chatStreamRequest w request).runOn { db } =
      (.ok (),
        { db := db'
          posted := [⟨messages, promptMessages w.loadContext request conv.documentId messages⟩]
          frames := (chatStream w.parse buffers).frames ++ [.errorFrame message] }) := by
  rw [chatStreamRequest_of_ready h]
  simp [streamAnswer, h.2, hkey, hup, post, ServiceError.message]

/-- No key: the fallback is written and not stored. -/
theorem stream_of_no_key (h : Ready w request db conv messages db') (hkey : w.apiKey = false) :
    (chatStreamRequest w request).runOn { db } =
      (.ok (), { db := db', frames := fallbackFrames ++ [.finalFrame none] }) := by
  rw [chatStreamRequest_of_ready h]
  -- the frames are kept apart, so that nothing unfolds their text
  have hwrite (frames : List SseData) :
      (write frames).runOn { db := db' } = (.ok (), { db := db', frames }) := rfl
  simp only [streamAnswer, Action.runOn_bind, h.2, Action.andThen_ok, hkey, Bool.false_eq_true,
    if_false, hwrite, Action.orElse_ok]

/-! ### What is posted -/

/-- A stored conversation is opened with the messages that are read of it. -/
theorem ready_existing {id : String} (hid : truthy request.conversationId = some id)
    (h : Ready w request db conv messages db') :
    messages = MessageRepository.findLastN (w.orders db id) 10 ∧ db' = db := by
  rcases openConversation_existing (w := w) hid { db } with
    ⟨_, hopen, -⟩ | ⟨-, -, hopen⟩ | ⟨-, -, _, -, hopen⟩
  · rw [h.1] at hopen
    cases hopen
  · rw [h.1] at hopen
    cases hopen
  · rw [h.1] at hopen
    cases hopen
    exact ⟨rfl, rfl⟩

/-- A request that is ready posts what its entry point sends for the stored messages. -/
theorem messages_of_ready (h : Ready w request db conv messages db') :
    chatMessages w.loadContext w.orders db request =
        .ok (promptMessages w.loadContext request conv.documentId messages) ∧
      chatStreamMessages w.loadContext w.orders db request =
        .ok (promptMessages w.loadContext request conv.documentId messages) := by
  unfold chatMessages chatStreamMessages
  cases hid : truthy request.conversationId with
  | none =>
    rcases openConversation_new (w := w) hid { db } with ⟨message, hopen, -⟩ | ⟨-, hopen⟩
    · rw [h.1] at hopen
      cases hopen
    · rw [h.1] at hopen
      cases hopen
      -- the document of a new conversation is that of the request
      have hdoc : promptMessages w.loadContext request request.documentId [] =
          promptMessages w.loadContext request (truthy request.documentId) [] := by
        unfold promptMessages truthy
        rw [Option.filter_filter]
        simp only [Bool.and_self]
      exact ⟨congrArg Except.ok hdoc, congrArg Except.ok hdoc⟩
  | some id =>
    obtain ⟨rfl, rfl⟩ := ready_existing hid h
    rcases openConversation_existing (w := w) hid { db := db' } with
      ⟨_, hopen, -⟩ | ⟨-, -, hopen⟩ | ⟨-, -, found, hfind, hopen⟩
    · rw [h.1] at hopen
      cases hopen
    · rw [h.1] at hopen
      cases hopen
    · rw [h.1] at hopen
      cases hopen
      simp only [show ConversationRepository.findById db' id = some conv from hfind, and_self]

theorem posted_chat_of_ready (h : Ready w request db conv messages db') :
    ((chat w request).runOn { db }).2.posted =
      (asked w request conv messages { db := db' }).posted := by
  rw [chat_of_open h.1]
  rcases answer_cases (w := w) request conv messages { db := db' } with
    ⟨_, hdoc, hctx, -⟩ | ⟨-, ⟨_, -, hrun⟩ | ⟨_, -, -, hrun⟩ | ⟨-, -, hrun⟩⟩
  · have hlook := h.2
    rw [lookUpDocument, if_pos hdoc, ChatWorld.await_of_some hctx] at hlook
    cases hlook
  all_goals rw [hrun]

theorem posted_stream_of_ready (h : Ready w request db conv messages db')
    (hkey : w.apiKey = true) :
    ((chatStreamRequest w request).runOn { db }).2.posted =
      [⟨messages, promptMessages w.loadContext request conv.documentId messages⟩] := by
  cases hup : w.upstream with
  | delivers reply totalTokens buffers => rw [stream_of_delivers h hkey hup]
  | fails buffers message => rw [stream_of_fails h hkey hup]

/-- **What a request posts**: the messages of its entry point, exactly when there is a key and the
request reaches the model. -/
theorem mem_posted_iff (w : ChatWorld) (request : ChatRequestDto) (db : ChatDb)
    (sent : List DeepSeekMessage) :
    ((∃ p ∈ ((chat w request).runOn { db }).2.posted, p.messages = sent) ↔
      w.apiKey = true ∧ AsksModel w request db ∧
        chatMessages w.loadContext w.orders db request = .ok sent) ∧
    ((∃ p ∈ ((chatStreamRequest w request).runOn { db }).2.posted, p.messages = sent) ↔
      w.apiKey = true ∧ AsksModel w request db ∧
        chatStreamMessages w.loadContext w.orders db request = .ok sent) := by
  rcases ready_or_turnedDown w request db with ⟨hasks, conv, messages, db', hready, -⟩ |
    ⟨hnot, hdown⟩
  · obtain ⟨hchat, hstream⟩ := messages_of_ready hready
    rw [posted_chat_of_ready hready, hchat, hstream]
    cases hkey : w.apiKey with
    | false =>
      rw [stream_of_no_key hready hkey]
      simp [asked, hkey]
    | true =>
      rw [posted_stream_of_ready hready hkey]
      simp [asked, hkey, hasks]
  · obtain ⟨error, chatDb, hchat, -⟩ := hdown.chat
    obtain ⟨message, streamDb, hstream, -⟩ := hdown.stream
    rw [hchat, hstream]
    simp [hnot]

end Ready

/-! ### The rows -/

/-- The tables after all the inserts that a request started are carried out, in any order. -/
def Settles (s : ChatState) (settled : ChatDb) : Prop :=
  ∃ inserts : List (NewMessage × RowKey), (inserts.map (·.1)).Perm s.started ∧
    settled = { s.db with message := s.db.message ++ inserts.map fun p => p.1.row p.2 }

/-- The role and the content of the messages that were added behind those of `db`. -/
def addedMessages (db db' : ChatDb) : List DeepSeekMessage :=
  (db'.message.drop db.message.length).map DbMessage.toDeepSeek

/-- Once its inserts are carried out, `chatStream` has added the same messages as `chat`. -/
def SameRows (w : ChatWorld) (request : ChatRequestDto) (db : ChatDb) : Prop :=
  ∀ settled, Settles ((chatStreamRequest w request).runOn { db }).2 settled →
    (addedMessages db settled).Perm (addedMessages db ((chat w request).runOn { db }).2.db)

/-- The upstream service delivers a reply. -/
def Delivered (w : ChatWorld) : Prop :=
  w.apiKey = true ∧ ∃ reply totalTokens buffers, w.upstream = .delivers reply totalTokens buffers

/-- The buffers are an event stream whose lines carry the reply. -/
structure Streams (parse : List Char → Option UpstreamChunk) (IsObject : List Char → Prop)
    (lines : List UpstreamLine) (reply : JsString) (buffers : List (List UInt8)) : Prop where
  wellFormed : ∀ l ∈ lines, l.WellFormed IsObject
  bytes : buffers.flatten = upstreamBytes lines
  content : lines.flatMap (·.content parse) = reply

/-- No line with a token is torn apart by the buffers. -/
def TokensWhole (parse : List Char → Option UpstreamChunk) (lines : List UpstreamLine)
    (buffers : List (List UInt8)) : Prop :=
  ∀ p ∈ lines.zip (linePieces 10 buffers), Torn p.2 → p.1.content parse = []

instance (parse : List Char → Option UpstreamChunk) (lines : List UpstreamLine)
    (buffers : List (List UInt8)) : Decidable (TokensWhole parse lines buffers) :=
  inferInstanceAs (Decidable (∀ p ∈ _, _))

/-- A streamed reply is accumulated in full exactly when no token of it is torn apart. -/
theorem fullReply_eq_iff {parse : List Char → Option UpstreamChunk} {IsObject : List Char → Prop}
    {lines : List UpstreamLine} {reply : JsString} {buffers : List (List UInt8)}
    (hJ : JsonLaws parse IsObject) (h : Streams parse IsObject lines reply buffers) :
    (chatStream parse buffers).fullReply = reply ↔ TokensWhole parse lines buffers := by
  rw [chatStream_wholeLines hJ h.wellFormed h.bytes, ← h.content]
  exact wholeLines_flatMap_eq_iff h.wellFormed h.bytes (·.content parse)

/-- A reply is delivered, and no token of its stream is torn apart. -/
def DeliveredWhole (w : ChatWorld) (lines : List UpstreamLine) : Prop :=
  w.apiKey = true ∧ ∃ reply totalTokens buffers,
    w.upstream = .delivers reply totalTokens buffers ∧ TokensWhole w.parse lines buffers

/-- What the settled inserts add. -/
theorem addedMessages_settled {s : ChatState} {settled : ChatDb} (h : Settles s settled)
    (hmsg : s.db.message = db.message) :
    (addedMessages db settled).Perm (s.started.map fun data => ⟨data.role, data.content⟩) := by
  obtain ⟨inserts, hperm, rfl⟩ := h
  have heq : addedMessages db
      { s.db with message := s.db.message ++ inserts.map fun p => p.1.row p.2 } =
      (inserts.map (·.1)).map fun data => ⟨data.role, data.content⟩ := by
    simp only [addedMessages, hmsg, List.drop_left, List.map_map]
    rfl
  rw [heq]
  exact hperm.map _

theorem exists_settles (s : ChatState) : ∃ settled, Settles s settled :=
  ⟨_, s.started.map fun data => (data, ⟨"", 0⟩), by simp [Function.comp_def], rfl⟩

/-- `chat` and `chatStream` store the same when what the inserts carry is the same. -/
theorem sameRows_iff_perm {rows rows' : List DeepSeekMessage}
    (hstream : ((chatStreamRequest w request).runOn { db }).2.db.message = db.message)
    (hrows : (((chatStreamRequest w request).runOn { db }).2.started.map
      fun data => (⟨data.role, data.content⟩ : DeepSeekMessage)) = rows)
    (hrows' : addedMessages db ((chat w request).runOn { db }).2.db = rows') :
    SameRows w request db ↔ rows.Perm rows' := by
  unfold SameRows
  rw [hrows', ← hrows]
  constructor
  · intro h
    obtain ⟨settled, hsettled⟩ := exists_settles ((chatStreamRequest w request).runOn { db }).2
    exact (addedMessages_settled hsettled hstream).symm.trans (h settled hsettled)
  · intro h settled hsettled
    exact (addedMessages_settled hsettled hstream).trans h

/-- **When streaming stores the same.**  When no insert fails, the messages that `chatStream` adds
are those that `chat` adds exactly when the upstream service delivers a reply whose tokens all
arrive whole, or is not asked. -/
theorem same_rows_iff (w : ChatWorld) (request : ChatRequestDto) (db : ChatDb)
    {IsObject : List Char → Prop} {lines : List UpstreamLine} (hJ : JsonLaws w.parse IsObject)
    (hstreams : ∀ reply totalTokens buffers, w.upstream = .delivers reply totalTokens buffers →
      Streams w.parse IsObject lines reply buffers)
    (huser : w.fails .insertUser = none) (hassistant : w.fails .insertAssistant = none) :
    SameRows w request db ↔ (AsksModel w request db → DeliveredWhole w lines) := by
  rcases ready_or_turnedDown w request db with ⟨hasks, conv, messages, db', hready, hmsg⟩ |
    ⟨hnot, hdown⟩
  · have hchat : addedMessages db ((chat w request).runOn { db }).2.db =
        [⟨.user, request.message⟩, ⟨.assistant, (aiResponse w request.message).reply⟩] := by
      rw [chat_of_ready hready huser hassistant]
      simp only [addedMessages, ChatDb.addMessage, hmsg, List.append_assoc, List.drop_left]
      rfl
    cases hkey : w.apiKey with
    | false =>
      have hstream := stream_of_no_key hready hkey
      rw [sameRows_iff_perm (by rw [hstream, hmsg]) (by rw [hstream]) hchat]
      simp [hasks, DeliveredWhole, hkey]
    | true =>
      cases hup : w.upstream with
      | fails buffers message =>
        have hstream := stream_of_fails hready hkey hup
        rw [sameRows_iff_perm (by rw [hstream, hmsg]) (by rw [hstream]) hchat]
        simp [hasks, DeliveredWhole, hup]
      | delivers reply totalTokens buffers =>
        have hstream := stream_of_delivers hready hkey hup
        rw [sameRows_iff_perm (by rw [hstream, hmsg]) (by rw [hstream]) hchat]
        -- the user message is the same in both, so the replies are compared
        have hreply := fullReply_eq_iff hJ (hstreams reply totalTokens buffers hup)
        simp [hasks, DeliveredWhole, hkey, hup, startedInserts, aiResponse, ← hreply]
  · obtain ⟨error, chatDb, hchat, hmsg, -⟩ := hdown.chat
    obtain ⟨message, streamDb, hstream, hmsg', -⟩ := hdown.stream
    have hnone : addedMessages db chatDb = [] := by
      rw [addedMessages, hmsg, List.drop_length, List.map_nil]
    rw [sameRows_iff_perm (by rw [hstream, hmsg']) (by rw [hstream]) (by rw [hchat, hnone])]
    simp [hnot]

/-- A world with an upstream service. -/
def upstreamWorld (upstream : Upstream) : ChatWorld :=
  { apiKey := true
    upstream
    parse := hiParse
    loadContext := fun _ _ => none
    newConversationId := "c"
    userKey := ⟨"m", 1⟩
    assistantKey := ⟨"n", 2⟩
    fault := none }

/-- A reply of two tokens. -/
def hihiLines : List UpstreamLine := [.data hiJson, .blank, .data hiJson, .blank, .done]

/-- The service delivers it in two buffers, cut after `n` bytes. -/
def deliversHihi (n : ℕ) : Upstream :=
  .delivers (js "hihi") 2 [(upstreamBytes hihiLines).take n, (upstreamBytes hihiLines).drop n]

theorem streams_hihi (n : ℕ) (reply : JsString) (totalTokens : ℤ) (buffers : List (List UInt8))
    (h : deliversHihi n = .delivers reply totalTokens buffers) :
    Streams hiParse (· = hiJson) hihiLines reply buffers := by
  cases h
  refine ⟨?_, by simp, by decide +kernel⟩
  simp only [hihiLines, List.forall_mem_cons]
  exact ⟨⟨rfl, by decide⟩, trivial, ⟨rfl, by decide⟩, trivial, trivial, by simp⟩

/-- Cut between its tokens, the reply is stored by both. -/
theorem same_rows_iff_hihi :
    SameRows (upstreamWorld (deliversHihi 46)) { message := js "hello" }
      { conversation := [], message := [] } := by
  have hwhole : DeliveredWhole (upstreamWorld (deliversHihi 46)) hihiLines :=
    ⟨rfl, _, _, _, rfl, by decide +kernel⟩
  exact (same_rows_iff (upstreamWorld (deliversHihi 46)) { message := js "hello" }
    { conversation := [], message := [] } hiParse_laws (streams_hihi 46) rfl rfl).2
    fun _ => hwhole

/-- After a failed call `chat` has stored two messages, and `chatStream` none. -/
theorem stream_stores_less :
    ¬ ∀ (w : ChatWorld) (request : ChatRequestDto) (db : ChatDb) (IsObject : List Char → Prop)
        (lines : List UpstreamLine), JsonLaws w.parse IsObject →
      (∀ reply totalTokens buffers, w.upstream = .delivers reply totalTokens buffers →
        Streams w.parse IsObject lines reply buffers) →
      w.fails .insertUser = none → w.fails .insertAssistant = none → SameRows w request db := by
  intro h
  let w := upstreamWorld (.fails [] (js "timeout"))
  have hsame := h w { message := js "hi" } { conversation := [], message := [] } (· = hiJson) []
    hiParse_laws nofun rfl rfl
  rw [sameRows_iff_perm rfl rfl rfl] at hsame
  revert hsame
  decide

end ChatService

end StudyOasis
