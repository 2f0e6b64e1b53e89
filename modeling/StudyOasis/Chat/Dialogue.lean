import StudyOasis.Chat.Exchange

/-!
# A conversation and its two ends

A tab on the chat page sends one message after another, streaming or not, while the server handles
its requests, carries out the inserts that a stream has started, and serves other tabs.  Answers
can get lost, and streams can break off.  Opening stored conversations and uploading files is left
out.  One event is a whole exchange, and the order of the messages is not compared: the inserts of
a stream are not awaited.

* `agrees_always_iff` : after every event **the tab shows the messages that are stored** (or about
  to be), each as often, exactly when every exchange that stores something is shown, every one that
  is shown is stored, and no other tab writes into the conversation (`Dialogue.Harmless`).
-/

namespace StudyOasis

open ChatService Client

/-! ### The two ends -/

/-- What becomes of a request of `ApiClient.chatStream`. -/
inductive Arrival where
  /-- The server never sees it. -/
  | unreachable (err : JsError)
  /-- The server handles it, and `n` frames arrive before the stream ends or is broken off. -/
  | served (w : ChatWorld) (n : ℕ) (broken : Option JsError)

/-- A tab, the tables, and the inserts that the server has started and not awaited. -/
structure Dialogue where
  store : ChatStoreState := {}
  db : ChatDb
  started : List NewMessage := []

/-- What can happen.  The tab sends one message at a time: the input is disabled while it loads. -/
inductive DialogueEvent where
  | chat (now : ℤ) (controller : ℕ) (content : JsString) (attempts : List Attempt)
  | stream (now : ℤ) (controller : ℕ) (content : JsString) (arrival : Arrival)
  | startNewConversation (preserveDocument : Bool)
  /-- An insert is carried out. -/
  | inserted (i : ℕ) (key : RowKey)
  /-- An insert fails. -/
  | refused (i : ℕ)
  /-- Another tab starts a conversation. -/
  | otherConversation (conv : Conversation)
  /-- Another tab adds a message to a conversation. -/
  | otherMessage (msg : DbMessage)

namespace Dialogue

/-- The conversation that the tab names in its requests. -/
def tabId (d : Dialogue) : Option String := (Client.truthy d.store.conversationId).map readId

/-- The messages of the conversation of the tab, stored or about to be. -/
def stored (d : Dialogue) : List DeepSeekMessage :=
  match d.tabId with
  | none => []
  | some id => rows d.db id ++ rowsOf d.started id

/-- The tab shows the messages that are stored, and each of them once. -/
def Agrees (d : Dialogue) : Prop := (shown d.store).Perm d.stored

/-- The request of a stream, as the service gets it. -/
def streamed (d : Dialogue) (content : JsString) : ChatRequestDto :=
  streamDtoOf (d.store.sendMessage 0 0 content true).2.request

/-- The server handles the request of a stream. -/
def serve (d : Dialogue) (w : ChatWorld) (content : JsString) : ChatState :=
  ((chatStreamRequest w (d.streamed content)).runOn { db := d.db }).2

/-- One event. -/
def step (d : Dialogue) : DialogueEvent → Option Dialogue
  | .chat now controller content attempts =>
    let sent := d.store.sendMessage now controller content false
    (converse now attempts sent.2 sent.1 d.db).map fun p => { d with store := p.1, db := p.2 }
  | .stream now controller content (.unreachable err) =>
    let sent := d.store.sendMessage now controller content true
    (sent.2.complete now sent.1 (.failed err)).map fun p => { d with store := p.1 }
  | .stream now controller content (.served w n broken) =>
    let sent := d.store.sendMessage now controller content true
    let served := d.serve w content
    if Fresh d.db w.newConversationId then
      (readStream now broken ((served.frames.map SseData.toChunk).take n) sent.2 sent.1).map
        fun store => { store, db := served.db, started := d.started ++ served.started }
    else none
  | .startNewConversation preserveDocument =>
    some { d with store := d.store.startNewConversation preserveDocument }
  | .inserted i key =>
    (d.started[i]?).map fun data =>
      { d with db := d.db.addMessage (data.row key), started := d.started.eraseIdx i }
  | .refused i => (d.started[i]?).map fun _ => { d with started := d.started.eraseIdx i }
  | .otherConversation conv =>
    if Fresh d.db conv.id then some { d with db := d.db.addConversation conv } else none
  | .otherMessage msg =>
    if msg.conversationId ∈ d.db.conversation.map (·.id) then
      some { d with db := d.db.addMessage msg }
    else none

/-- The stream is broken off before its last frame: the message is taken back. -/
def TakenBack (n : ℕ) (broken : Option JsError) (frames : List SseData) : Prop :=
  broken ≠ none ∧ n < frames.length

instance (n : ℕ) (broken : Option JsError) (frames : List SseData) :
    Decidable (TakenBack n broken frames) :=
  inferInstanceAs (Decidable (_ ∧ _))

/-- What is stored is shown, and what is shown is stored:
* without streaming, an attempt in a stored conversation stores nothing or is answered with the
  reply;
* a stream that is broken off stores nothing in a stored conversation;
* any other stream is delivered, all its tokens arrive, and in a new conversation the last frame,
  too; and the message has no lone surrogates;
* no insert into the conversation of the tab fails, and no other tab adds a message to it. -/
def Harmless (d : Dialogue) : DialogueEvent → Prop
  | .chat _ _ content attempts =>
    let request := sentRequest readId d.store content
    d.tabId = none ∨ ∀ a ∈ attempts, a.Quiet request (storedConversation request d.db)
  | .stream _ _ content (.served w n broken) =>
    let asked := AsksModel w (d.streamed content) d.db ∧ Delivered w
    let frames := (d.serve w content).frames
    if TakenBack n broken frames then asked → d.tabId = none
    else
      asked ∧ Utf16.WellFormed content ∧ frames.length ≤ if d.tabId = none then n else n + 1
  | .refused i => ∀ data ∈ d.started[i]?, d.tabId ≠ some data.conversationId
  | .otherMessage msg => d.tabId ≠ some msg.conversationId
  | _ => True

/-- What holds of every state: the conversations that the tab and the inserts name are stored. -/
structure Sound (d : Dialogue) : Prop where
  linked : d.db.Linked
  started : ∀ data ∈ d.started, data.conversationId ∈ d.db.conversation.map (·.id)
  named : ∀ c, Client.truthy d.store.conversationId = some c →
    ∃ id ∈ d.db.conversation.map (·.id), c = js id

section Parts

variable {d : Dialogue} {id : String} {ids : List String} {db' : ChatDb}

theorem stored_of_none (h : d.tabId = none) : d.stored = [] := by rw [stored, h]

theorem stored_of_some (h : d.tabId = some id) :
    d.stored = rows d.db id ++ rowsOf d.started id := by rw [stored, h]

/-- What is stored when the tab has not changed. -/
theorem stored_with (d : Dialogue) (db : ChatDb) (started : List NewMessage) :
    stored { d with db, started } = d.tabId.elim [] fun id => rows db id ++ rowsOf started id := by
  have hsame : tabId { d with db, started } = d.tabId := rfl
  rw [stored, hsame]
  cases d.tabId <;> rfl

/-- The tab names a stored conversation, or none. -/
theorem Sound.cases (hd : d.Sound) :
    (d.tabId = none ∧ Client.truthy d.store.conversationId = none) ∨
    ∃ conv, ConversationRepository.findById d.db conv.id = some conv ∧ conv.id ≠ "" ∧
      d.tabId = some conv.id ∧ Client.truthy d.store.conversationId = some (js conv.id) := by
  cases hc : Client.truthy d.store.conversationId with
  | none => exact .inl ⟨by rw [tabId, hc, Option.map_none], rfl⟩
  | some c =>
    right
    obtain ⟨id, hid, rfl⟩ := hd.named c hc
    obtain ⟨conv, hconv, rfl⟩ := List.mem_map.1 hid
    have hfound : (ConversationRepository.findById d.db conv.id).isSome = true :=
      List.find?_isSome.2 ⟨conv, hconv, decide_eq_true rfl⟩
    obtain ⟨conv', hfind⟩ := Option.isSome_iff_exists.1 hfound
    obtain ⟨hmem, hsame⟩ := id_of_findById hfind
    refine ⟨conv', hsame.symm ▸ hfind, hd.linked.named conv' hmem, ?_, by rw [hsame]⟩
    rw [tabId, hc, Option.map_some, readId_js, hsame]

theorem mem_ids_of_kept (hkept : Kept ids d.db db') (hid : id ∈ d.db.conversation.map (·.id)) :
    id ∈ db'.conversation.map (·.id) := (hkept.conversation.sublist.map _).subset hid

/-- A request leaves the conversations that are named. -/
theorem Sound.kept (hd : d.Sound) (hkept : Kept ids d.db db') {store : ChatStoreState}
    {started : List NewMessage}
    (hstarted : ∀ data ∈ started, data.conversationId ∈ db'.conversation.map (·.id))
    (hstore : ∀ c, Client.truthy store.conversationId = some c →
      Client.truthy d.store.conversationId = some c ∨
        ∃ id ∈ db'.conversation.map (·.id), c = js id) :
    Sound { store, db := db', started := d.started ++ started } := by
  refine ⟨hkept.linked hd.linked, fun data hdata => ?_, fun c hc => ?_⟩
  · rcases List.mem_append.1 hdata with hdata | hdata
    · exact mem_ids_of_kept hkept (hd.started data hdata)
    · exact hstarted data hdata
  · rcases hstore c hc with hc | hc
    · obtain ⟨id, hid, rfl⟩ := hd.named c hc
      exact ⟨id, mem_ids_of_kept hkept hid, rfl⟩
    · exact hc

/-- Nothing is about to be inserted into a conversation that does not exist. -/
theorem Sound.rowsOf_fresh (hd : d.Sound) (hid : Fresh d.db id) : rowsOf d.started id = [] := by
  rw [rowsOf, List.map_eq_nil_iff, List.filter_eq_nil_iff]
  intro data hdata heq
  exact hid.2 (of_decide_eq_true heq ▸ hd.started data hdata)

/-- The conversation of the tab is not a new one. -/
theorem Sound.mem_of_tabId (hd : d.Sound) (h : d.tabId = some id) :
    id ∈ d.db.conversation.map (·.id) := by
  rcases hd.cases with ⟨hnone, -⟩ | ⟨conv, hfind, -, htab, -⟩
  · exact absurd (h.symm.trans hnone) nofun
  · obtain rfl := Option.some.inj (htab.symm.trans h)
    exact List.mem_map_of_mem (id_of_findById hfind).1

theorem truthy_sentRequest (hd : d.Sound) (content : JsString) :
    truthy (sentRequest readId d.store content).conversationId = d.tabId := by
  rcases hd.cases with ⟨hnone, hc⟩ | ⟨conv, -, hne, htab, hc⟩
  · rw [hnone, sentRequest, hc]
    rfl
  · rw [htab, sentRequest, hc, Option.map_some, readId_js]
    exact if_pos (decide_eq_true hne)

/-- What the service gets of a stream. -/
theorem streamed_eq (d : Dialogue) (content : JsString) :
    (d.streamed content).message = Utf16.toWellFormed content ∧
      (d.streamed content).conversationId =
        (Client.truthy d.store.conversationId).map (readId ∘ Utf16.toWellFormed) := by
  simp only [streamed, streamDtoOf, StreamRequest.streamRequest_chatStreamQuery,
    StreamRequest.wellFormed, StreamRequest.received, ChatStoreState.sendMessage, if_true,
    Client.truthy_truthy, Option.map_map, Option.map_some, Option.getD_some, and_self]

theorem truthy_streamed (hd : d.Sound) (content : JsString) :
    truthy (d.streamed content).conversationId = d.tabId := by
  rw [(streamed_eq d content).2]
  rcases hd.cases with ⟨hnone, hc⟩ | ⟨conv, -, hne, htab, hc⟩
  · rw [hnone, hc]
    rfl
  · have hwf : Utf16.toWellFormed (js conv.id) = js conv.id :=
      Utf16.toWellFormed_eq_iff.2 (Utf16.wellFormed_js _)
    rw [htab, hc, Option.map_some, Function.comp_apply, hwf, readId_js]
    exact if_pos (decide_eq_true hne)

theorem rowsOf_append (started started' : List NewMessage) (id : String) :
    rowsOf (started ++ started') id = rowsOf started id ++ rowsOf started' id := by
  rw [rowsOf, List.filter_append, List.map_append, rowsOf, rowsOf]

/-- Two exchanges are the same when the messages and the replies are. -/
theorem exchanged_perm_iff {question question' answer answer' : JsString} :
    (exchanged question answer).Perm (exchanged question' answer') ↔
      question = question' ∧ answer = answer' := by
  constructor
  · intro h
    have hquestion : ⟨.user, question⟩ ∈ exchanged question' answer' :=
      h.subset (by simp [exchanged])
    have hanswer : ⟨.assistant, answer⟩ ∈ exchanged question' answer' :=
      h.subset (by simp [exchanged])
    simpa [exchanged] using And.intro hquestion hanswer
  · rintro ⟨rfl, rfl⟩
    exact .refl _

end Parts

/-! ### One event -/

section Step

variable {d d' : Dialogue} {now : ℤ} {controller : ℕ} {content : JsString}

/-- What an exchange stores, and what is shown of it. -/
structure Exchanged (d d' : Dialogue) (added extra : List DeepSeekMessage) : Prop where
  shown_eq : shown d'.store = shown d.store ++ added
  stored_perm : d'.stored.Perm (d.stored ++ extra)

theorem Exchanged.agrees_iff {added extra : List DeepSeekMessage} (h : Exchanged d d' added extra)
    (hd : d.Agrees) : d'.Agrees ↔ added.Perm extra := by
  rw [Agrees, h.shown_eq]
  constructor
  · intro hperm
    have hall : (d.stored ++ added).Perm (d.stored ++ extra) :=
      (hd.symm.append_right added).trans (hperm.trans h.stored_perm)
    exact (List.perm_append_left_iff _).1 hall
  · exact fun hperm => (hd.append hperm).trans h.stored_perm.symm

/-- What is stored behind the rows, and what is about to be stored, is in any order. -/
theorem stored_perm_of_rows {id : String} {extra more : List DeepSeekMessage}
    (h : d.tabId = some id) (h' : d'.tabId = some id)
    (hrows : rows d'.db id = rows d.db id ++ extra)
    (hstarted : rowsOf d'.started id = rowsOf d.started id ++ more) :
    d'.stored.Perm (d.stored ++ (extra ++ more)) := by
  rw [stored_of_some h, stored_of_some h', hrows, hstarted, List.append_assoc, List.append_assoc]
  refine List.Perm.append_left _ ?_
  rw [← List.append_assoc, ← List.append_assoc]
  exact List.perm_append_comm.append_right _

theorem shown_sent (s : ChatStoreState) (streaming : Bool) :
    shown (s.sendMessage now controller content streaming).1 =
      shown s ++ [⟨.user, content⟩] := by
  cases streaming <;> simp [shown, ChatStoreState.sendMessage, roleOf]

theorem conversationId_sent (s : ChatStoreState) (streaming : Bool) :
    (s.sendMessage now controller content streaming).1.conversationId = s.conversationId := by
  have habort : s.abortActiveRequest.conversationId = s.conversationId := by
    unfold ChatStoreState.abortActiveRequest
    split <;> rfl
  cases streaming <;> exact habort

/-- A message that is not streamed. -/
theorem chat_step {attempts : List Attempt} (hd : d.Sound)
    (h : d.step (.chat now controller content attempts) = some d') :
    d'.Sound ∧ ∃ added extra, Exchanged d d' added extra ∧
      (d.Harmless (.chat now controller content attempts) ↔ added.Perm extra) := by
  obtain ⟨⟨store, db'⟩, hrun, rfl⟩ := Option.map_eq_some_iff.1 h
  set sent := d.store.sendMessage now controller content false
  have hshown : shown sent.1 = shown d.store ++ [⟨.user, content⟩] := shown_sent d.store false
  have hstore : sent.1.conversationId = d.store.conversationId := conversationId_sent d.store false
  have hid := truthy_sentRequest hd content
  have hsound {ids : List String} (hkept : Kept ids d.db db')
      (hnamed : ∀ c, Client.truthy store.conversationId = some c →
        Client.truthy d.store.conversationId = some c ∨
          ∃ id ∈ db'.conversation.map (·.id), c = js id) :
      Sound { d with store, db := db' } := by
    have hkeeps := @Sound.kept _ _ _ hd hkept store [] nofun hnamed
    rwa [List.append_nil] at hkeeps
  rcases hd.cases with ⟨hnone, hc⟩ | ⟨conv, hfind, hne, htab, hc⟩
  · rw [hnone] at hid
    obtain ⟨hkept, hend⟩ := converse_started (k := 0) hc hd.linked rfl hshown hrun
    rcases hend with ⟨hs, hsame⟩ | ⟨id, reply, hnew, hfresh, hmem, hrows, hs⟩
    · rw [hstore] at hsame
      refine ⟨hsound hkept fun c hc' => .inl (hsame ▸ hc'), [], [], ⟨?_, ?_⟩,
        iff_of_true (.inl hnone) (.refl _)⟩
      · exact hs.trans (List.append_nil _).symm
      · have hnone' : tabId { d with store, db := db' } = none := by
          rw [tabId, hsame, hc, Option.map_none]
        rw [stored_of_none hnone, stored_of_none hnone']
        exact .refl _
    · have htruthy : Client.truthy store.conversationId = some (js id) := by
        rw [hnew, truthy_js hfresh.1]
      refine ⟨hsound hkept fun c hc' => .inr ⟨id, hmem, ?_⟩, _, _, ⟨hs, ?_⟩,
        iff_of_true (.inl hnone) (.refl _)⟩
      · exact Option.some.inj (hc'.symm.trans htruthy)
      · have htab' : tabId { d with store, db := db' } = some id := by
          rw [tabId, htruthy, Option.map_some, readId_js]
        rw [stored_of_none hnone, stored_of_some htab', hd.rowsOf_fresh hfresh, hrows,
          List.append_nil]
        exact .refl _
  · rw [htab] at hid
    have hnames : truthy (dtoOf readId sent.2.request).conversationId = some conv.id := hid
    obtain ⟨hkept, hsame, extra, added, hrows, hs, hall, hless⟩ :=
      converse_stored (k := 0) hnames hfind rfl hshown hrun
    rw [hstore] at hsame
    refine ⟨hsound hkept fun c hc' => .inl (hsame ▸ hc'), added, extra, ⟨hs, ?_⟩, ?_⟩
    · have htab' : tabId { d with store, db := db' } = some conv.id := by
        rw [tabId, hsame, hc, Option.map_some, readId_js]
      have hperm := stored_perm_of_rows htab htab' hrows (List.append_nil _).symm
      rwa [List.append_nil] at hperm
    · have hstored : storedConversation (sentRequest readId d.store content) d.db = some conv := by
        rw [storedConversation, hid]
        exact hfind
      simp only [Harmless, htab, hstored, reduceCtorEq, false_or]
      constructor
      · intro hq
        rw [hall hq]
      · intro hperm
        by_contra hq
        exact absurd hperm.length_eq (hless hq).ne

/-- Where no frame names a conversation, the tab stays in its own. -/
theorem stored_same {store : ChatStoreState} {db' : ChatDb} {started : List NewMessage}
    (hd : d.Sound) (hkept : Kept [] d.db db')
    (hsame : Client.truthy store.conversationId = Client.truthy d.store.conversationId) :
    (stored { store, db := db', started := d.started ++ started }).Perm
      (d.stored ++ d.tabId.elim [] (rowsOf started)) := by
  cases htab : d.tabId with
  | none =>
    have hnone : tabId { store, db := db', started := d.started ++ started } = none := by
      rw [tabId, hsame, ← htab, tabId]
    rw [stored_of_none htab, stored_of_none hnone]
    exact .refl _
  | some id =>
    have hsome : tabId { store, db := db', started := d.started ++ started } = some id := by
      rw [tabId, hsame, ← htab, tabId]
    have hrows : rows db' id = rows d.db id ++ [] := by
      rw [hkept.rows_eq id (hd.mem_of_tabId htab) List.not_mem_nil, List.append_nil]
    exact stored_perm_of_rows htab hsome hrows (rowsOf_append _ _ _)

/-- All the tokens arrive when as many arrive as there are. -/
theorem flatten_take_eq_iff {tokens : List JsString} {n : ℕ} (hne : ∀ token ∈ tokens, token ≠ [])
    (hn : n ≤ tokens.length) : (tokens.take n).flatten = tokens.flatten ↔ n = tokens.length := by
  constructor
  · intro h
    have hrest : (tokens.drop n).flatten = [] := by
      have hall : (tokens.take n).flatten ++ (tokens.drop n).flatten = (tokens.take n).flatten := by
        rw [← List.flatten_append, List.take_append_drop, h]
      exact List.append_right_eq_self.1 hall
    by_contra hless
    obtain ⟨token, rest, hdrop⟩ := List.exists_cons_of_ne_nil
      (List.ne_nil_of_length_pos (l := tokens.drop n) (by rw [List.length_drop]; omega))
    have hmem : token ∈ tokens.drop n := hdrop ▸ List.mem_cons_self
    refine hne token (List.drop_subset n tokens hmem) ?_
    exact List.flatten_eq_nil_iff.1 hrest token hmem
  · rintro rfl
    rw [List.take_length]

/-- The conversation of the tab stays, and one that a frame names comes second. -/
theorem truthy_or (c last : Option JsString) :
    Client.truthy ((Client.truthy c).or (Client.truthy ((Client.truthy last).or
      (Client.truthy c)))) = (Client.truthy c).or (Client.truthy last) := by
  have hc := Client.truthy_truthy c
  have hlast := Client.truthy_truthy last
  cases hd : Client.truthy c with
  | some c' =>
    rw [hd] at hc
    exact hc
  | none =>
    cases hl : Client.truthy last with
    | none => rfl
    | some l =>
      rw [hl] at hlast
      rw [Option.none_or, Option.some_or, hlast, hlast, Option.none_or]

/-- What the tab makes of the frames that arrive. -/
theorem read_frames {n : ℕ} {broken : Option JsError} {tokens : List JsString} {last : SseData}
    {store : ChatStoreState} (hlast : last.complete = some true)
    (h : readStream now broken
      (((tokens.map SseData.tokenFrame ++ [last]).map SseData.toChunk).take n)
      (d.store.sendMessage now controller content true).2
      (d.store.sendMessage now controller content true).1 = some store) :
    let frames := tokens.map SseData.tokenFrame ++ [last]
    (TakenBack n broken frames ∧ shown store = shown d.store ∧
      Client.truthy store.conversationId = Client.truthy d.store.conversationId) ∨
    (¬ TakenBack n broken frames ∧
      shown store = shown d.store ++ exchanged content ((tokens.take n).flatten ++
        if frames.length ≤ n then last.token.getD [] else []) ∧
      Client.truthy store.conversationId = (Client.truthy d.store.conversationId).or
        (if frames.length ≤ n then Client.truthy last.conversationId else none)) := by
  intro frames
  have hlength : frames.length = tokens.length + 1 := by simp [frames]
  rcases readStream_frames hlast (shown_sent d.store true) h with ⟨hn, hbroken, hs, hc⟩ |
    ⟨hn, hbroken, hs, hc⟩ | ⟨hn, hs, hc⟩
  · rw [conversationId_sent] at hc
    exact .inl ⟨⟨hbroken, by omega⟩, hs, by rw [hc]⟩
  · rw [conversationId_sent] at hc
    have hnot : ¬ frames.length ≤ n := by omega
    refine .inr ⟨fun hback => hback.1 hbroken, ?_, ?_⟩
    · rw [if_neg hnot, List.append_nil]
      exact hs
    · rw [hc, if_neg hnot]
      exact truthy_or _ none
  · rw [conversationId_sent] at hc
    have hall : frames.length ≤ n := by omega
    refine .inr ⟨fun hback => by have := hback.2; omega, ?_, ?_⟩
    · rw [if_pos hall, List.take_of_length_le hn.le]
      exact hs
    · rw [hc, if_pos hall]
      exact truthy_or _ last.conversationId

theorem kept_serve {w : ChatWorld} (hfresh : Fresh d.db w.newConversationId)
    (content : JsString) : Kept [] d.db (d.serve w content).db := by
  rw [serve, db_chatStreamRequest]
  exact (openConversation_kept hfresh).1

/-- The message and the reply are those that are stored. -/
theorem shown_perm_iff {reply reply' : JsString} :
    (exchanged content reply).Perm (exchanged (Utf16.toWellFormed content) reply') ↔
      Utf16.WellFormed content ∧ reply = reply' := by
  rw [exchanged_perm_iff, ← Utf16.toWellFormed_eq_iff, eq_comm]

theorem not_perm_exchanged {question answer : JsString} :
    ¬ ([] : List DeepSeekMessage).Perm (exchanged question answer) :=
  fun h => absurd h.length_eq nofun

/-- A stream that stores nothing. -/
theorem stream_step_rejected {w : ChatWorld} {n : ℕ} {broken : Option JsError}
    {store : ChatStoreState} {tokens : List JsString} {last : SseData} (hd : d.Sound)
    (hkept : Kept [] d.db (d.serve w content).db)
    (hnot : ¬ (AsksModel w (d.streamed content) d.db ∧ Delivered w))
    (hframes : (d.serve w content).frames = tokens.map SseData.tokenFrame ++ [last])
    (hlast : last.complete = some true) (hnone : last.conversationId = none)
    (h : readStream now broken (((tokens.map SseData.tokenFrame ++ [last]).map
      SseData.toChunk).take n) (d.store.sendMessage now controller content true).2
      (d.store.sendMessage now controller content true).1 = some store) :
    let d' : Dialogue := { store, db := (d.serve w content).db, started := d.started ++ [] }
    d'.Sound ∧ ∃ added extra, Exchanged d d' added extra ∧
      (d.Harmless (.stream now controller content (.served w n broken)) ↔ added.Perm extra) := by
  intro d'
  have hread := read_frames hlast h
  have hsame : Client.truthy store.conversationId = Client.truthy d.store.conversationId := by
    rcases hread with ⟨-, -, hc⟩ | ⟨-, -, hc⟩
    · exact hc
    · rw [hc, hnone, show Client.truthy none = none from rfl, ite_self, Option.or_none]
  have hstored : d'.stored.Perm (d.stored ++ []) := by
    have hperm := @stored_same _ store _ [] hd hkept hsame
    cases htab : d.tabId <;> rwa [htab] at hperm
  refine ⟨hd.kept hkept nofun fun c hc => .inl (hsame ▸ hc), ?_⟩
  rcases hread with ⟨hback, hs, -⟩ | ⟨hback, hs, -⟩
  · refine ⟨[], [], ⟨hs.trans (List.append_nil _).symm, hstored⟩, ?_⟩
    rw [Harmless, hframes, if_pos hback]
    exact iff_of_true (fun hasks => absurd hasks hnot) (.refl _)
  · refine ⟨_, [], ⟨hs, hstored⟩, ?_⟩
    rw [Harmless, hframes, if_neg hback]
    exact iff_of_false (fun hasks => hnot hasks.1) fun hperm => not_perm_exchanged hperm.symm

/-- A stream that starts a conversation and stores its message and its reply. -/
theorem stream_step_started {w : ChatWorld} {n : ℕ} {broken : Option JsError}
    {store : ChatStoreState} {tokens : List JsString} {started : List NewMessage} {id : String}
    (hd : d.Sound) (hkept : Kept [] d.db (d.serve w content).db) (htab : d.tabId = none)
    (hc₀ : Client.truthy d.store.conversationId = none)
    (hasks : AsksModel w (d.streamed content) d.db ∧ Delivered w)
    (hframes : (d.serve w content).frames =
      tokens.map SseData.tokenFrame ++ [.finalFrame (some (js id))])
    (hfresh : Fresh d.db id)
    (hmem : id ∈ (d.serve w content).db.conversation.map (·.id))
    (hrows : rows (d.serve w content).db id = [])
    (hin : ∀ data ∈ started, data.conversationId = id)
    (hstarted : rowsOf started id = exchanged (Utf16.toWellFormed content) tokens.flatten)
    (h : readStream now broken (((tokens.map SseData.tokenFrame ++
      [SseData.finalFrame (some (js id))]).map SseData.toChunk).take n)
      (d.store.sendMessage now controller content true).2
      (d.store.sendMessage now controller content true).1 = some store) :
    let d' : Dialogue := { store, db := (d.serve w content).db, started := d.started ++ started }
    d'.Sound ∧ ∃ added extra, Exchanged d d' added extra ∧
      (d.Harmless (.stream now controller content (.served w n broken)) ↔ added.Perm extra) := by
  intro d'
  have hin' (data : NewMessage) (hdata : data ∈ started) :
      data.conversationId ∈ (d.serve w content).db.conversation.map (·.id) :=
    (hin data hdata).symm ▸ hmem
  have hstay (hsame : Client.truthy store.conversationId = Client.truthy d.store.conversationId) :
      d'.Sound ∧ d'.stored.Perm (d.stored ++ []) := by
    have hperm := @stored_same _ store _ started hd hkept hsame
    rw [htab] at hperm
    exact ⟨hd.kept hkept hin' fun c hc => .inl (hsame ▸ hc), hperm⟩
  rcases read_frames rfl h with ⟨hback, hs, hc⟩ | ⟨hback, hs, hc⟩
  · obtain ⟨hsound, hstored⟩ := hstay hc
    refine ⟨hsound, [], [], ⟨hs.trans (List.append_nil _).symm, hstored⟩, ?_⟩
    rw [Harmless, hframes, if_pos hback]
    exact iff_of_true (fun _ => htab) (.refl _)
  by_cases hall : (tokens.map SseData.tokenFrame ++
      [SseData.finalFrame (some (js id))]).length ≤ n
  · rw [if_pos hall] at hs hc
    have hlong : tokens.length ≤ n := by
      simp at hall
      omega
    have hnew : Client.truthy store.conversationId = some (js id) := by
      rw [hc, hc₀, Option.none_or]
      exact truthy_js hfresh.1
    have htab' : d'.tabId = some id := by rw [tabId, hnew, Option.map_some, readId_js]
    refine ⟨hd.kept hkept hin' fun c hc => .inr ⟨id, hmem, ?_⟩, _,
      exchanged (Utf16.toWellFormed content) tokens.flatten, ⟨hs, ?_⟩, ?_⟩
    · exact Option.some.inj (hc.symm.trans hnew)
    · rw [stored_of_none htab, stored_of_some htab', hrows, rowsOf_append, hd.rowsOf_fresh hfresh,
        hstarted]
      exact .refl _
    · rw [Harmless, hframes, if_neg hback, if_pos htab, shown_perm_iff,
        List.take_of_length_le hlong]
      simp only [hasks, true_and, hall, and_true]
      exact (and_iff_left (List.append_nil _)).symm
  · rw [if_neg hall] at hs hc
    obtain ⟨hsound, hstored⟩ := hstay (hc.trans (Option.or_none))
    refine ⟨hsound, _, [], ⟨hs, hstored⟩, ?_⟩
    rw [Harmless, hframes, if_neg hback, if_pos htab]
    exact iff_of_false (fun hharm => hall hharm.2.2) fun hperm => not_perm_exchanged hperm.symm

/-- A stream that stores its message and its reply in the conversation of the tab. -/
theorem stream_step_stored {w : ChatWorld} {n : ℕ} {broken : Option JsError}
    {store : ChatStoreState} {tokens : List JsString} {started : List NewMessage} {id : String}
    (hd : d.Sound) (hkept : Kept [] d.db (d.serve w content).db) (htab : d.tabId = some id)
    (hc₀ : Client.truthy d.store.conversationId = some (js id))
    (hasks : AsksModel w (d.streamed content) d.db ∧ Delivered w)
    (hframes : (d.serve w content).frames =
      tokens.map SseData.tokenFrame ++ [.finalFrame (some (js id))])
    (hne : ∀ token ∈ tokens, token ≠ []) (hin : ∀ data ∈ started, data.conversationId = id)
    (hstarted : rowsOf started id = exchanged (Utf16.toWellFormed content) tokens.flatten)
    (h : readStream now broken (((tokens.map SseData.tokenFrame ++
      [SseData.finalFrame (some (js id))]).map SseData.toChunk).take n)
      (d.store.sendMessage now controller content true).2
      (d.store.sendMessage now controller content true).1 = some store) :
    let d' : Dialogue := { store, db := (d.serve w content).db, started := d.started ++ started }
    d'.Sound ∧ ∃ added extra, Exchanged d d' added extra ∧
      (d.Harmless (.stream now controller content (.served w n broken)) ↔ added.Perm extra) := by
  intro d'
  have hread := read_frames rfl h
  have hsame : Client.truthy store.conversationId = Client.truthy d.store.conversationId := by
    rcases hread with ⟨-, -, hc⟩ | ⟨-, -, hc⟩
    · exact hc
    · rw [hc, hc₀, Option.some_or]
  have hstored : d'.stored.Perm
      (d.stored ++ exchanged (Utf16.toWellFormed content) tokens.flatten) := by
    have hperm := @stored_same _ store _ started hd hkept hsame
    rw [htab] at hperm
    exact hstarted ▸ hperm
  refine ⟨hd.kept hkept (fun data hdata => ?_) fun c hc => .inl (hsame ▸ hc), ?_⟩
  · exact (hin data hdata).symm ▸ mem_ids_of_kept hkept (hd.mem_of_tabId htab)
  rcases hread with ⟨hback, hs, -⟩ | ⟨hback, hs, -⟩
  · refine ⟨[], _, ⟨hs.trans (List.append_nil _).symm, hstored⟩, ?_⟩
    rw [Harmless, hframes, if_pos hback]
    exact iff_of_false (fun hharm => nomatch (hharm hasks).symm.trans htab) not_perm_exchanged
  · refine ⟨_, _, ⟨hs, hstored⟩, ?_⟩
    have hnil : (SseData.finalFrame (some (js id))).token.getD [] = [] := rfl
    rw [Harmless, hframes, if_neg hback, htab, if_neg (Option.some_ne_none id), shown_perm_iff,
      hnil, ite_self, List.append_nil]
    simp only [hasks, true_and, List.length_append, List.length_map, List.length_singleton]
    refine and_congr_right fun _ => ?_
    by_cases hn : n ≤ tokens.length
    · rw [flatten_take_eq_iff hne hn]
      omega
    · rw [List.take_of_length_le (by omega)]
      exact iff_of_true (by omega) rfl

/-- A message that is streamed. -/
theorem stream_step {w : ChatWorld} {n : ℕ} {broken : Option JsError} (hd : d.Sound)
    (h : d.step (.stream now controller content (.served w n broken)) = some d') :
    d'.Sound ∧ ∃ added extra, Exchanged d d' added extra ∧
      (d.Harmless (.stream now controller content (.served w n broken)) ↔ added.Perm extra) := by
  simp only [step] at h
  split_ifs at h with hfresh
  obtain ⟨store, hrun, rfl⟩ := Option.map_eq_some_iff.1 h
  have hkept := kept_serve hfresh content
  have hid := truthy_streamed hd content
  rcases @stream_cases w (d.streamed content) d.db hfresh with
    ⟨hnot, hstarted, tokens, last, hframes, hlast, hnone⟩ |
    ⟨hasks, conv, tokens, tokensUsed, hframes, hne, hstarted, hmem, hsome, hnew⟩
  · have hframes' : (d.serve w content).frames = tokens.map SseData.tokenFrame ++ [last] := by
      rw [serve, hframes]
    have hstarted' : (d.serve w content).started = [] := by rw [serve, hstarted]
    rw [hframes'] at hrun
    rw [hstarted']
    exact stream_step_rejected hd hkept hnot hframes' hlast hnone hrun
  · have hframes' : (d.serve w content).frames =
        tokens.map SseData.tokenFrame ++ [.finalFrame (some (js conv.id))] := by
      rw [serve, hframes]
    rw [hframes'] at hrun
    have hstarted' : (d.serve w content).started =
      [⟨conv.id, .user, (d.streamed content).message, 0⟩,
        ⟨conv.id, .assistant, tokens.flatten, tokensUsed⟩] := by rw [serve, hstarted]
    have hin (data : NewMessage) (hdata : data ∈ (d.serve w content).started) :
        data.conversationId = conv.id := by
      rw [hstarted'] at hdata
      rcases List.mem_pair.1 hdata with rfl | rfl <;> rfl
    have hrowsOf : rowsOf (d.serve w content).started conv.id =
        exchanged (Utf16.toWellFormed content) tokens.flatten := by
      rw [hstarted', (streamed_eq d content).1]
      simp [rowsOf, exchanged]
    rcases hd.cases with ⟨htab, hc₀⟩ | ⟨conv', -, -, htab, hc₀⟩
    · have hfreshId : Fresh d.db conv.id := by
        rw [hnew (hid.trans htab)]
        exact hfresh
      have hrows : rows (d.serve w content).db conv.id = [] := by
        have hmessage : (d.serve w content).db.message = d.db.message := by
          rw [serve, db_chatStreamRequest]
          exact (openConversation_kept hfresh).2.1
        rw [rows, ChatDb.messagesOf, hmessage]
        exact rows_eq_nil hd.linked hfreshId.2
      have hmem' : conv.id ∈ (d.serve w content).db.conversation.map (·.id) := by
        rw [serve]
        exact List.mem_map_of_mem hmem
      exact stream_step_started hd hkept htab hc₀ hasks hframes' hfreshId hmem' hrows hin hrowsOf
        hrun
    · have hsameId : conv.id = conv'.id := hsome conv'.id (hid.trans htab)
      rw [← hsameId] at htab hc₀
      exact stream_step_stored hd hkept htab hc₀ hasks hframes' hne hin hrowsOf hrun

/-- A stream that the server never sees: the message is taken back. -/
theorem unreachable_step {err : JsError} (hd : d.Sound)
    (h : d.step (.stream now controller content (.unreachable err)) = some d') :
    d'.Sound ∧ (d.Agrees → d'.Agrees) := by
  have hshown := @shown_sent now controller content d.store true
  have hstore := @conversationId_sent now controller content d.store true
  simp only [step] at h
  set s := (d.store.sendMessage now controller content true).1
  obtain rfl := Option.some.inj h
  refine ⟨⟨hd.linked, hd.started, fun c hc => hd.named c (hstore ▸ hc)⟩, fun hagrees => ?_⟩
  have hback : shown (s.streamFailed err) = shown d.store := by
    have hfailed : shown (s.streamFailed err) = (shown s).dropLast := by
      simp [shown, ChatStoreState.streamFailed, ChatStoreState.sendFailed,
        ChatStoreState.sendFinally]
    rw [hfailed, hshown, List.dropLast_concat]
  have hconversation : (s.streamFailed err).conversationId = d.store.conversationId := hstore
  have htab : tabId { d with store := s.streamFailed err } = d.tabId := by
    rw [tabId, hconversation, tabId]
  rw [Agrees, stored, htab, hback]
  exact hagrees

theorem startNewConversation_step {preserveDocument : Bool} (hd : d.Sound)
    (h : d.step (.startNewConversation preserveDocument) = some d') : d'.Sound ∧ d'.Agrees := by
  obtain rfl := Option.some.inj h
  have hnone : (d.store.startNewConversation preserveDocument).conversationId = none := by
    cases preserveDocument <;> rfl
  have hnil : shown (d.store.startNewConversation preserveDocument) = [] := by
    cases preserveDocument <;> rfl
  have htab : tabId { d with store := d.store.startNewConversation preserveDocument } = none := by
    rw [tabId, hnone]
    rfl
  refine ⟨⟨hd.linked, hd.started, fun c hc => ?_⟩, ?_⟩
  · rw [hnone] at hc
    exact nomatch hc
  · rw [Agrees, stored_of_none htab, hnil]

/-- The row of an insert, where it is in the conversation. -/
def rowIn (data : NewMessage) (id : String) : List DeepSeekMessage :=
  if data.conversationId = id then [⟨data.role, data.content⟩] else []

/-- An insert is one of those that are about to be carried out. -/
theorem rowsOf_eraseIdx {started : List NewMessage} {i : ℕ} {data : NewMessage}
    (h : started[i]? = some data) (id : String) :
    (rowIn data id ++ rowsOf (started.eraseIdx i) id).Perm (rowsOf started id) := by
  obtain ⟨hi, hget⟩ := List.getElem?_eq_some_iff.1 h
  have hperm : (data :: started.eraseIdx i).Perm started :=
    hget ▸ List.getElem_cons_eraseIdx_perm hi
  have hrows := (hperm.filter fun data => data.conversationId = id).map
    fun data => (⟨data.role, data.content⟩ : DeepSeekMessage)
  refine .trans (.of_eq ?_) hrows
  by_cases hid : data.conversationId = id <;> simp [rowIn, rowsOf, hid]

theorem inserted_step {i : ℕ} {key : RowKey} (hd : d.Sound)
    (h : d.step (.inserted i key) = some d') : d'.Sound ∧ (d.Agrees → d'.Agrees) := by
  obtain ⟨data, hdata, rfl⟩ := Option.map_eq_some_iff.1 h
  have hmem : data ∈ d.started := List.mem_of_getElem? hdata
  refine ⟨⟨linked_addMessage hd.linked (hd.started data hmem), fun data' hdata' => ?_,
    hd.named⟩, fun hagrees => hagrees.trans ?_⟩
  · exact hd.started data' (List.mem_of_mem_eraseIdx hdata')
  rw [stored_with d (d.db.addMessage (data.row key)) (d.started.eraseIdx i)]
  cases htab : d.tabId with
  | none => rw [stored_of_none htab, Option.elim_none]
  | some id =>
    rw [stored_of_some htab, Option.elim_some, rows_addMessage, List.append_assoc]
    exact (rowsOf_eraseIdx hdata id).symm.append_left _

theorem refused_step {i : ℕ} (hd : d.Sound) (h : d.step (.refused i) = some d') :
    d'.Sound ∧ (d.Agrees → (d'.Agrees ↔ d.Harmless (.refused i))) := by
  obtain ⟨data, hdata, rfl⟩ := Option.map_eq_some_iff.1 h
  refine ⟨⟨hd.linked, fun data' hdata' => hd.started data' (List.mem_of_mem_eraseIdx hdata'),
    hd.named⟩, fun hagrees => ?_⟩
  have hharmless : d.Harmless (.refused i) ↔ d.tabId ≠ some data.conversationId := by
    simp [Harmless, hdata]
  rw [hharmless, Agrees, stored_with]
  cases htab : d.tabId with
  | none =>
    refine iff_of_true ?_ nofun
    rwa [Agrees, stored_of_none htab] at hagrees
  | some id =>
    rw [Agrees, stored_of_some htab] at hagrees
    rw [Option.elim_some]
    have hperm : (rows d.db id ++ (rowIn data id ++ rowsOf (d.started.eraseIdx i) id)).Perm
        (shown d.store) := ((rowsOf_eraseIdx hdata id).append_left _).trans hagrees.symm
    by_cases hid : data.conversationId = id
    · refine iff_of_false (fun hsame => ?_) (fun hne => hne (congrArg some hid.symm))
      have hlength := (hperm.trans hsame).length_eq
      simp only [rowIn, hid, if_true, List.length_append, List.length_singleton] at hlength
      omega
    · refine iff_of_true ?_ fun heq => hid (Option.some.inj heq).symm
      rw [rowIn, if_neg hid, List.nil_append] at hperm
      exact hperm.symm

theorem otherConversation_step {conv : Conversation} (hd : d.Sound)
    (h : d.step (.otherConversation conv) = some d') : d'.Sound ∧ (d.Agrees → d'.Agrees) := by
  simp only [step] at h
  split_ifs at h with hfresh
  obtain rfl := Option.some.inj h
  have hkept : Kept [] d.db (d.db.addConversation conv) := kept_addConversation hfresh.1 _
  refine ⟨⟨hkept.linked hd.linked, fun data hdata => mem_ids_of_kept hkept (hd.started data hdata),
    fun c hc => ?_⟩, id⟩
  obtain ⟨id, hid, rfl⟩ := hd.named c hc
  exact ⟨id, mem_ids_of_kept hkept hid, rfl⟩

theorem otherMessage_step {msg : DbMessage} (hd : d.Sound)
    (h : d.step (.otherMessage msg) = some d') :
    d'.Sound ∧ (d.Agrees → (d'.Agrees ↔ d.Harmless (.otherMessage msg))) := by
  simp only [step] at h
  split_ifs at h with hmsg
  obtain rfl := Option.some.inj h
  refine ⟨⟨linked_addMessage hd.linked hmsg, hd.started, hd.named⟩, fun hagrees => ?_⟩
  rw [Harmless, Agrees, stored_with d (d.db.addMessage msg) d.started]
  cases htab : d.tabId with
  | none =>
    rw [Agrees, stored_of_none htab] at hagrees
    exact iff_of_true hagrees nofun
  | some id =>
    rw [Agrees, stored_of_some htab] at hagrees
    rw [Option.elim_some, rows_addMessage]
    by_cases hid : msg.conversationId = id
    · -- one message more is stored
      refine iff_of_false (fun hsame => ?_) (fun hne => hne (congrArg some hid.symm))
      have hlength := (hagrees.symm.trans hsame).length_eq
      simp only [if_pos hid, List.length_append, List.length_singleton] at hlength
      omega
    · rw [if_neg hid, List.append_nil]
      exact iff_of_true hagrees fun heq => hid (Option.some.inj heq).symm

/-- **One event**: the conversations that are named stay, and the two ends go on agreeing exactly
when it is harmless. -/
theorem step_spec {e : DialogueEvent} (hd : d.Sound) (h : d.step e = some d') :
    d'.Sound ∧ (d.Agrees → (d'.Agrees ↔ d.Harmless e)) := by
  have hexchanged {e : DialogueEvent} (hspec : d'.Sound ∧ ∃ added extra,
      Exchanged d d' added extra ∧ (d.Harmless e ↔ added.Perm extra)) :
      d'.Sound ∧ (d.Agrees → (d'.Agrees ↔ d.Harmless e)) := by
    obtain ⟨hsound, added, extra, hx, hharmless⟩ := hspec
    exact ⟨hsound, fun hagrees => (hx.agrees_iff hagrees).trans hharmless.symm⟩
  have halways (hspec : d'.Sound ∧ (d.Agrees → d'.Agrees)) :
      d'.Sound ∧ (d.Agrees → (d'.Agrees ↔ True)) :=
    ⟨hspec.1, fun hagrees => iff_of_true (hspec.2 hagrees) trivial⟩
  cases e with
  | chat now controller content attempts => exact hexchanged (chat_step hd h)
  | stream now controller content arrival =>
    cases arrival with
    | unreachable err => exact halways (unreachable_step hd h)
    | served w n broken => exact hexchanged (stream_step hd h)
  | startNewConversation preserveDocument =>
    obtain ⟨hsound, hagrees⟩ := startNewConversation_step hd h
    exact halways ⟨hsound, fun _ => hagrees⟩
  | inserted i key => exact halways (inserted_step hd h)
  | refused i => exact refused_step hd h
  | otherConversation conv => exact halways (otherConversation_step hd h)
  | otherMessage msg => exact otherMessage_step hd h

end Step

/-! ### Runs -/

/-- **What the tab shows is what is stored, after every event, exactly when every event is
harmless.** -/
theorem agrees_always_iff {db : ChatDb} {es : List DialogueEvent} {d : Dialogue}
    (hdb : db.Linked) (h : AnyRun step { db } es d) :
    Run step Harmless { db } es d ↔ Run.Always step Agrees { db } es := by
  refine Run.guarded_iff_always (I := Sound) (P := Agrees) h ⟨hdb, nofun, nofun⟩ ?_ ?_ ?_
  · exact .refl _
  · exact fun d e d' hd hst => (step_spec hd hst).1
  · exact fun d e d' hd hagrees hst => (step_spec hd hst).2 hagrees

/-- A message that is answered at the second attempt, and then one that is streamed; the reply to
it is stored before it. -/
def twoMessages : List DialogueEvent :=
  let w := upstreamWorld (deliversHihi 46)
  [.chat 0 0 (js "hi") [.unreachable (.api [] 503), .answered w],
    .stream 1 1 (js "ok") (.served { w with newConversationId := "d" } 3 none),
    .inserted 1 ⟨"m", 1⟩]

theorem agrees_always_iff_twoMessages : ∃ d, AnyRun step { db := ⟨[], []⟩ } twoMessages d ∧
    (shown d.store).length = 4 ∧
    (Run step Harmless { db := ⟨[], []⟩ } twoMessages d ↔
      Run.Always step Agrees { db := ⟨[], []⟩ } twoMessages) := by
  have hlength : (twoMessages.foldlM step { db := ⟨[], []⟩ }).map
      (fun d => (shown d.store).length) = some 4 := rfl
  obtain ⟨d, hd, hfour⟩ := Option.map_eq_some_iff.1 hlength
  have hrun : AnyRun step { db := ⟨[], []⟩ } twoMessages d := Run.of_foldlM hd
  exact ⟨d, hrun, hfour, agrees_always_iff ⟨nofun, nofun⟩ hrun⟩

end Dialogue

end StudyOasis
