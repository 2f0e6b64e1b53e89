import StudyOasis.Chat.Server

/-!
# The hint level of a conversation

A request counts the user messages among the last ten stored ones, so the hint level is not a
function of the number of questions: a message that is stored pushes the oldest of ten out, and if
a question makes way for a reply, the count goes down.  Of messages with the same `createdAt` the
database may answer with either, so the stored messages give a least level (`hintLevel_le`).

* `hintLevel_addMessage_iff` : when one more message lowers the least level;
* `hintLevelOf_read_iff` : when a request that reads now uses no more than the least level;
* `hintLevel_never_back` : on the schedules that keep to both, a request that starts later uses a
  level that is at least as high.
-/

namespace StudyOasis

/-- The level as a number. -/
def HintLevel.toNat : HintLevel → ℕ
  | one => 1
  | two => 2
  | three => 3

theorem HintLevel.toNat_injective {level level' : HintLevel} (h : level.toNat = level'.toNat) :
    level = level' := by
  cases level <;> cases level' <;> first | rfl | cases h

namespace ChatService

/-- `userMessageCount`. -/
def userMessageCount (messages : List DbMessage) : ℕ :=
  (messages.filter fun msg => msg.role = .user).length

/-- The hint level for the messages that were read. -/
def hintLevelOf (messages : List DbMessage) : HintLevel :=
  ChatPromptBuilder.calculateHintLevel (userMessageCount messages)

/-- The prompt is built with this level. -/
theorem promptMessages_eq (loadContext : LoadContext) (request : ChatRequestDto)
    (documentId : Option String) (messages : List DbMessage) :
    ∃ documentContext, promptMessages loadContext request documentId messages =
      ChatMessageHelper.buildMessageHistory messages documentContext (hintLevelOf messages) ++
        [⟨.user, request.message⟩] := ⟨_, rfl⟩

end ChatService

namespace ChatDb

variable (db : ChatDb) (conversationId : String)

/-- The order in which the questions are the last messages with their `createdAt`. -/
def questionsLast : db.MessageOrder conversationId :=
  .last (·.createdAt) (fun msg => msg.role = .user) (db.messagesOf conversationId)

/-- The ten messages that are read in this order. -/
def leastWindow : List DbMessage :=
  MessageRepository.findLastN (db.questionsLast conversationId) 10

/-- The least level that a request may use now. -/
def hintLevel : HintLevel := ChatService.hintLevelOf (db.leastWindow conversationId)

end ChatDb

/-! ### The least level -/

open ChatService

theorem calculateHintLevel_le_iff (m n : ℕ) :
    (ChatPromptBuilder.calculateHintLevel m).toNat ≤
      (ChatPromptBuilder.calculateHintLevel n).toNat ↔ ¬ (n < 2 ∧ 2 ≤ m ∨ n < 4 ∧ 4 ≤ m) := by
  unfold ChatPromptBuilder.calculateHintLevel
  split_ifs <;> simp only [HintLevel.toNat] <;> omega

theorem userMessageCount_eq (messages : List DbMessage) :
    userMessageCount messages = messages.countP fun msg => msg.role = .user :=
  List.countP_eq_length_filter.symm

/-- No request counts fewer questions. -/
theorem userMessageCount_le {db : ChatDb} {id : String} (order : db.MessageOrder id) :
    userMessageCount (db.leastWindow id) ≤
      userMessageCount (MessageRepository.findLastN order 10) := by
  rw [userMessageCount_eq, userMessageCount_eq]
  exact QueryOrder.countP_last_le order 10

/-- **No request uses a lower level.** -/
theorem hintLevel_le {db : ChatDb} {id : String} (order : db.MessageOrder id) :
    (db.hintLevel id).toNat ≤ (hintLevelOf (MessageRepository.findLastN order 10)).toNat := by
  have hcount := userMessageCount_le order
  refine (calculateHintLevel_le_iff _ _).2 ?_
  omega

/-- A request that reads in this order counts two questions, or four, where another order shows
fewer. -/
def ReadsMore (db : ChatDb) (conversationId : String) (order : List DbMessage) : Prop :=
  userMessageCount (db.leastWindow conversationId) < 2 ∧ 2 ≤ userMessageCount (order.take 10) ∨
    userMessageCount (db.leastWindow conversationId) < 4 ∧ 4 ≤ userMessageCount (order.take 10)

instance (db : ChatDb) (conversationId : String) (order : List DbMessage) :
    Decidable (ReadsMore db conversationId order) :=
  inferInstanceAs (Decidable (_ ∧ _ ∨ _ ∧ _))

/-- **When a request uses the least level.** -/
theorem hintLevelOf_read_iff {db : ChatDb} {id : String} (order : db.MessageOrder id) :
    hintLevelOf (MessageRepository.findLastN order 10) = db.hintLevel id ↔
      ¬ ReadsMore db id order.list := by
  have hle : (hintLevelOf (MessageRepository.findLastN order 10)).toNat ≤
      (db.hintLevel id).toNat ↔ ¬ ReadsMore db id order.list := calculateHintLevel_le_iff _ _
  rw [← hle]
  constructor
  · intro h
    rw [h]
  · exact fun h => HintLevel.toNat_injective (le_antisymm h (hintLevel_le order))

/-! ### One more message -/

/-- A message of the role pushes a question out of the last ten, at two or four questions. -/
def PushesOut (db : ChatDb) (conversationId : String) (role : Role) : Prop :=
  role ≠ .user ∧ (db.leastWindow conversationId).length = 10 ∧
    (∃ w ∈ (db.leastWindow conversationId).getLast?, w.role = .user) ∧
    (userMessageCount (db.leastWindow conversationId) = 2 ∨
      userMessageCount (db.leastWindow conversationId) = 4)

instance (db : ChatDb) (conversationId : String) (role : Role) :
    Decidable (PushesOut db conversationId role) :=
  inferInstanceAs (Decidable (_ ∧ _ ∧ (∃ w ∈ _, _) ∧ _))

theorem messagesOf_addMessage (db : ChatDb) (msg : DbMessage) (id : String) :
    (db.addMessage msg).messagesOf id =
      db.messagesOf id ++ if msg.conversationId = id then [msg] else [] := by
  rw [ChatDb.messagesOf, ChatDb.addMessage, List.filter_append, ChatDb.messagesOf]
  by_cases h : msg.conversationId = id <;> simp [h]

theorem leastWindow_addMessage (db : ChatDb) (msg : DbMessage) :
    (db.addMessage msg).leastWindow msg.conversationId =
      (QueryOrder.last (·.createdAt) (fun m => m.role = .user)
        (db.messagesOf msg.conversationId ++ [msg])).list.take 10 := by
  have hnew : (db.addMessage msg).messagesOf msg.conversationId =
      db.messagesOf msg.conversationId ++ [msg] := by
    rw [messagesOf_addMessage, if_pos rfl]
  rw [← hnew]
  rfl

/-- One more question takes none away. -/
theorem userMessageCount_addQuestion {db : ChatDb} {msg : DbMessage} (hmsg : msg.role = .user) :
    userMessageCount (db.leastWindow msg.conversationId) ≤
      userMessageCount ((db.addMessage msg).leastWindow msg.conversationId) := by
  rw [userMessageCount_eq, userMessageCount_eq, leastWindow_addMessage]
  exact QueryOrder.countP_last_concat_of_pos (·.createdAt) (fun m : DbMessage => m.role = .user)
    (decide_eq_true hmsg) 10

/-- Another message takes one away when the ten are full and the last of them is a question. -/
theorem userMessageCount_addReply {db : ChatDb} {msg : DbMessage} (hmsg : msg.role ≠ .user)
    (h : ∀ m ∈ db.message, m.createdAt ≤ msg.createdAt) :
    userMessageCount (db.leastWindow msg.conversationId) =
      userMessageCount ((db.addMessage msg).leastWindow msg.conversationId) +
        if (db.leastWindow msg.conversationId).length = 10 ∧
          ∃ w ∈ (db.leastWindow msg.conversationId).getLast?, w.role = .user then 1 else 0 := by
  have hdated : ∀ m ∈ db.messagesOf msg.conversationId, m.createdAt ≤ msg.createdAt :=
    fun m hm => h m (List.mem_of_mem_filter hm)
  rw [userMessageCount_eq, userMessageCount_eq, leastWindow_addMessage]
  have hcount := QueryOrder.countP_last_concat (·.createdAt)
    (fun m : DbMessage => m.role = .user) (decide_eq_false hmsg) hdated (Nat.succ_pos 9)
  simp only [decide_eq_true_eq] at hcount
  exact hcount

/-- **When a message lowers the least level**, if it is the latest one. -/
theorem hintLevel_addMessage_iff {db : ChatDb} {msg : DbMessage}
    (h : ∀ m ∈ db.message, m.createdAt ≤ msg.createdAt) :
    (db.hintLevel msg.conversationId).toNat ≤
        ((db.addMessage msg).hintLevel msg.conversationId).toNat ↔
      ¬ PushesOut db msg.conversationId msg.role := by
  refine (calculateHintLevel_le_iff _ _).trans (not_congr ?_)
  unfold PushesOut
  by_cases hmsg : msg.role = .user
  · have hle : userMessageCount (db.leastWindow msg.conversationId) ≤
        userMessageCount ((db.addMessage msg).leastWindow msg.conversationId) :=
      userMessageCount_addQuestion hmsg
    refine iff_of_false ?_ fun hout => hout.1 hmsg
    omega
  · have hcount := userMessageCount_addReply hmsg h
    split_ifs at hcount with hfull
    · simp only [ne_eq, hmsg, not_false_eq_true, hfull.1, hfull.2, true_and]
      omega
    · refine iff_of_false (by omega) ?_
      rintro ⟨-, hten, hlast, -⟩
      exact hfull ⟨hten, hlast⟩

/-! ### The requests -/

/-- The conversation that a request works on, up to its prompt. -/
def Stage.conversation : Stage → Option Conversation
  | .reading conv => some conv
  | .loading conv _ => some conv
  | .asking conv _ => some conv
  | _ => none

/-- The conversation and the level that a request uses, from the reading of the history on. -/
def Stage.hint : Stage → Option (String × HintLevel)
  | .loading conv history => some (conv.id, hintLevelOf history)
  | .asking conv history => some (conv.id, hintLevelOf history)
  | _ => none

/-- The level that a request of the server uses, with its conversation. -/
def ChatServer.hintOf (s : ChatServer) (k : ℕ) : Option (String × HintLevel) :=
  (s.run k).bind fun x => x.stage.hint

/-- Where the level of a request comes from. -/
theorem ChatRun.hint_advance {db : ChatDb} {x : ChatRun} {p : Progress} {stage : Stage} {e : Effect}
    {id : String} {level : HintLevel} (h : x.advance db p = some (stage, e))
    (hhint : stage.hint = some (id, level)) :
    x.stage.hint = some (id, level) ∨
      (∃ (conv : Conversation) (order : db.MessageOrder id), p = .read order.list ∧
        x.stage.conversation = some conv ∧ conv.id = id ∧
          level = hintLevelOf (MessageRepository.findLastN order 10)) ∨
      (level = hintLevelOf [] ∧ ∃ conv, e.conversation = some conv ∧ conv.id = id) := by
  cases p with
  | opened newId =>
    obtain ⟨hstage, -⟩ := advance_opened h
    simp only [advance, hstage] at h
    cases hid : truthy x.request.conversationId with
    | none =>
      simp only [hid, Option.some.injEq, Prod.mk.injEq] at h
      obtain ⟨rfl, rfl⟩ := h
      obtain ⟨rfl, rfl⟩ := Prod.mk.inj (Option.some.inj hhint)
      exact .inr (.inr ⟨rfl, _, rfl, rfl⟩)
    | some id =>
      cases hfind : ConversationRepository.findById db id <;> simp only [hid, hfind] at h <;>
        cases h <;> cases hhint
  | read order =>
    obtain ⟨-, conv, o, hstage, rfl, rfl⟩ := advance_read h
    obtain ⟨rfl, rfl⟩ := Prod.mk.inj (Option.some.inj hhint)
    exact .inr (.inl ⟨conv, o, rfl, by rw [hstage]; rfl, rfl, rfl⟩)
  | _ =>
    obtain ⟨entry, request, before⟩ := x
    cases entry <;> cases before <;> simp only [advance, reduceCtorEq] at h
    all_goals
      cases h
      first
      | exact .inl hhint
      | cases hhint

/-- Where the conversation of a request comes from. -/
theorem ChatRun.conversation_advance {db : ChatDb} {x : ChatRun} {p : Progress} {stage : Stage}
    {e : Effect} {conv : Conversation} (h : x.advance db p = some (stage, e))
    (hconv : stage.conversation = some conv) :
    x.stage.conversation = some conv ∨ (ConversationRepository.findById db conv.id).isSome = true ∨
      e.conversation = some conv := by
  cases p with
  | opened newId =>
    obtain ⟨hstage, -⟩ := advance_opened h
    simp only [advance, hstage] at h
    cases hid : truthy x.request.conversationId with
    | none =>
      simp only [hid, Option.some.injEq, Prod.mk.injEq] at h
      obtain ⟨rfl, rfl⟩ := h
      exact .inr (.inr hconv)
    | some id =>
      cases hfind : ConversationRepository.findById db id with
      | none =>
        simp only [hid, hfind] at h
        cases h
        cases hconv
      | some found =>
        simp only [hid, hfind] at h
        cases h
        obtain rfl := Option.some.inj hconv
        have hfound : found.id = id := by simpa using List.find?_some hfind
        exact .inr (.inl (by rw [hfound, hfind]; rfl))
  | read order =>
    obtain ⟨-, conv', o, hstage, -, rfl⟩ := advance_read h
    exact .inl (by rw [hstage]; exact hconv)
  | _ =>
    obtain ⟨entry, request, before⟩ := x
    cases entry <;> cases before <;> simp only [advance, reduceCtorEq] at h
    all_goals
      cases h
      first
      | exact .inl hconv
      | cases hconv

namespace ChatServer

variable {s s' : ChatServer} {e : ServerEvent} {j k : ℕ} {x' : ChatRun} {p : Progress}

/-- A request that goes on changes its own stage. -/
theorem run_advance (h : s.advance k p = some s') (hx : s'.run j = some x') :
    s.run j = some x' ∨ j = k ∧ ∃ x eff, s.run j = some x ∧
      x.advance s.db p = some (x'.stage, eff) ∧
        s'.db = eff.conversation.elim s.db s.db.addConversation := by
  obtain ⟨x, stage, eff, hrun, hadv, rfl⟩ := advance_eq_some h
  by_cases hj : j = k
  · subst hj
    have hx' : x' = { x with stage } := by simpa [apply, setRun, eq_comm] using hx
    refine .inr ⟨rfl, x, eff, hrun, ?_, rfl⟩
    rw [hx']
    exact hadv
  · exact .inl (by simpa [apply, setRun, hj] using hx)

/-- When its insert is settled, a request saves or is closed. -/
theorem run_settle (h : s.settle k p = some s') (hp : p = .saved ∨ p = .unsaved)
    (hx : s'.run j = some x') : s.run j = some x' ∨ x'.stage.Saves := by
  rcases settle_eq_some h with rfl | hadvance
  · exact .inl hx
  · rcases run_advance hadvance hx with hsame | ⟨-, y, eff, -, hadv, -⟩
    · exact .inl hsame
    · right
      obtain ⟨entry, request, before⟩ := y
      rcases hp with rfl | rfl <;> cases before <;> simp only [ChatRun.advance, reduceCtorEq,
        Option.some.injEq, Prod.mk.injEq] at hadv <;> rw [← hadv.1] <;> trivial

/-- A step changes the stage of one request: a new one is opening, a request goes on, or its insert
is settled. -/
theorem run_step (h : serverStep s e = some s') (hx : s'.run j = some x') :
    s.run j = some x' ∨ x'.stage = .opening ∨ x'.stage.Saves ∨
      ∃ x p eff, e = .progress j p ∧ s.run j = some x ∧
        x.advance s.db p = some (x'.stage, eff) ∧
        ∀ conv, eff.conversation = some conv → s.fresh conv.id = true ∧
          s'.db = s.db.addConversation conv := by
  cases e with
  | arrive k entry request =>
    obtain ⟨-, rfl⟩ := step_arrive h
    by_cases hj : j = k
    · subst hj
      have hx' : x' = ⟨entry, request, .opening⟩ := by simpa [setRun, eq_comm] using hx
      exact .inr (.inl (by rw [hx']))
    · exact .inl (by simpa [setRun, hj] using hx)
  | progress k p =>
    obtain ⟨hadvance, hfresh⟩ := step_progress h
    rcases run_advance hadvance hx with hsame | ⟨rfl, x, eff, hrun, hadv, hdb⟩
    · exact .inl hsame
    · refine .inr (.inr (.inr ⟨x, p, eff, rfl, hrun, hadv, fun conv hconv => ?_⟩))
      rw [hconv] at hdb
      exact ⟨hfresh _ (conversation_advance hadv hconv), hdb⟩
  | commit k role id time =>
    obtain ⟨insert, -, -, -, hsettle⟩ := step_commit h
    rcases run_settle hsettle (.inl rfl) hx with hsame | hsaves
    · exact .inl hsame
    · exact .inr (.inr (.inl hsaves))
  | refuse k role =>
    obtain ⟨insert, -, hsettle⟩ := step_refuse h
    rcases run_settle hsettle (.inr rfl) hx with hsame | hsaves
    · exact .inl hsame
    · exact .inr (.inr (.inl hsaves))
  | delete id =>
    obtain ⟨-, rfl⟩ := step_delete h
    exact .inl hx

/-! ### The level of a conversation in a run -/

/-- The event keeps to the least level of the conversation: it stores no message that pushes a
question out at two or four questions, it answers no reading with more questions than another
order has, and it does not delete the conversation. -/
def KeepsHint (conversationId : String) (s : ChatServer) (e : ServerEvent) : Prop :=
  match e with
  | .commit k role _ _ => ∀ insert ∈ s.insertOf k role,
      insert.2.conversationId = conversationId → ¬ PushesOut s.db conversationId role
  | .progress k (.read order) => ∀ x ∈ s.run k, ∀ conv ∈ x.stage.conversation,
      conv.id = conversationId → ¬ ReadsMore s.db conversationId order
  | .delete id => id ≠ conversationId
  | _ => True

instance (conversationId : String) (s : ChatServer) (e : ServerEvent) :
    Decidable (KeepsHint conversationId s e) := by
  unfold KeepsHint
  split <;> infer_instance

/-- No message is dated later than the clock. -/
def Dated (s : ChatServer) : Prop := ∀ msg ∈ s.db.message, msg.createdAt ≤ s.clock

theorem dated_move {t : ChatServer} (hs : s.Dated) (h : Move s t) : t.Dated := by
  cases h with
  | arrive entry request _ => exact hs
  | @advance k x p stage eff _ _ _ =>
    intro msg hmsg
    refine hs msg ?_
    cases hconv : eff.conversation <;> simpa [apply, setRun, hconv, ChatDb.addConversation]
      using hmsg
  | @store insert key _ hclock _ =>
    intro msg hmsg
    rcases List.mem_append.1 hmsg with hmsg | hmsg
    · exact (hs msg hmsg).trans hclock
    · obtain rfl := List.mem_singleton.1 hmsg
      exact le_rfl
  | drop _ => exact hs
  | delete id => exact fun msg hmsg => hs msg (List.mem_of_mem_filter hmsg)

theorem dated_step (hs : s.Dated) (h : serverStep s e = some s') : s'.Dated := by
  obtain ⟨t, hst, rfl | hts⟩ := moves_of_step h
  · exact dated_move hs hst
  · exact dated_move (dated_move hs hst) hts

theorem hintLevel_congr {db db' : ChatDb} {id : String} (h : db.messagesOf id = db'.messagesOf id) :
    db.hintLevel id = db'.hintLevel id := by
  unfold ChatDb.hintLevel ChatDb.leastWindow ChatDb.questionsLast MessageRepository.findLastN
  rw [h]

variable {id : String} {level level' : HintLevel}

/-- **A step that keeps the hint** does not lower the least level. -/
theorem hintLevel_step (hd : s.Dated) (hg : KeepsHint id s e) (h : serverStep s e = some s') :
    (s.db.hintLevel id).toNat ≤ (s'.db.hintLevel id).toNat := by
  by_cases hcommit : ∃ k role rowId time, e = .commit k role rowId time
  · obtain ⟨k, role, rowId, time, rfl⟩ := hcommit
    obtain ⟨insert, hinsert, hclock, -, hdb⟩ := commit_db h
    rw [hdb]
    by_cases hid : insert.2.conversationId = id
    · obtain ⟨-, -, hrole⟩ := mem_of_insertOf hinsert
      have hnot := hg insert hinsert hid
      subst hid
      rw [← hrole] at hnot
      have hlatest : ∀ m ∈ s.db.message, m.createdAt ≤ (insert.2.row ⟨rowId, time⟩).createdAt :=
        fun m hm => (hd m hm).trans hclock
      exact (hintLevel_addMessage_iff hlatest).2 hnot
    · refine (congrArg HintLevel.toNat (hintLevel_congr ?_)).le
      rw [messagesOf_addMessage, if_neg (by exact hid), List.append_nil]
  · simp only [not_exists] at hcommit
    refine (congrArg HintLevel.toNat (hintLevel_congr ?_)).le
    rcases db_step h hcommit with hdb | ⟨conv, -, hdb⟩ | ⟨other, rfl, hdb⟩
    · rw [hdb]
    · rw [hdb]
      rfl
    · have hother : other ≠ id := hg
      rw [hdb, ChatDb.messagesOf, ChatDb.messagesOf, ChatDb.deleteConversation, List.filter_filter]
      refine List.filter_congr fun msg _ => ?_
      by_cases hmsg : msg.conversationId = id <;> simp [hmsg, Ne.symm hother]

/-- It does not take the conversation away either. -/
theorem isSome_step (hg : KeepsHint id s e) (h : serverStep s e = some s')
    (hsome : (ConversationRepository.findById s.db id).isSome = true) :
    (ConversationRepository.findById s'.db id).isSome = true := by
  obtain ⟨conv, hconv, hid⟩ := List.find?_isSome.1 hsome
  have hmem : conv ∈ s'.db.conversation := by
    by_cases hcommit : ∃ k role rowId time, e = .commit k role rowId time
    · obtain ⟨k, role, rowId, time, rfl⟩ := hcommit
      obtain ⟨insert, -, -, -, hdb⟩ := commit_db h
      rw [hdb]
      exact hconv
    · simp only [not_exists] at hcommit
      rcases db_step h hcommit with hdb | ⟨new, -, hdb⟩ | ⟨other, rfl, hdb⟩
      · rwa [hdb]
      · rw [hdb]
        exact List.mem_append_left _ hconv
      · have hother : other ≠ id := hg
        rw [hdb]
        refine List.mem_filter.2 ⟨hconv, ?_⟩
        have hid' : conv.id = id := by simpa using hid
        simpa [hid'] using Ne.symm hother
  exact List.find?_isSome.2 ⟨conv, hmem, hid⟩

theorem not_fresh (h : (ConversationRepository.findById s.db id).isSome = true) :
    s.fresh id = false := by
  simp [fresh, Option.isNone_eq_false_iff.2 h]

/-- The requests on the conversation know that it is there, and none uses a higher level than the
messages that are stored by now give. -/
structure Hinted (id : String) (s : ChatServer) : Prop where
  dated : s.Dated
  conversation : ∀ k x conv, s.run k = some x → x.stage.conversation = some conv →
    conv.id = id → (ConversationRepository.findById s.db id).isSome = true
  level : ∀ k level, s.hintOf k = some (id, level) →
    level.toNat ≤ (s.db.hintLevel id).toNat

theorem hintOf_eq_some (h : s.hintOf k = some (id, level)) :
    ∃ x, s.run k = some x ∧ x.stage.hint = some (id, level) :=
  Option.bind_eq_some_iff.1 h

/-- What a step may do to the level that a request uses. -/
theorem hintOf_step (hg : KeepsHint id s e) (h : serverStep s e = some s')
    (hhint : s'.hintOf k = some (id, level)) :
    s.hintOf k = some (id, level) ∨ level = s.db.hintLevel id ∨
      (level = hintLevelOf [] ∧ s.fresh id = true) := by
  obtain ⟨x', hx', hstage⟩ := hintOf_eq_some hhint
  rcases run_step h hx' with hsame | hopening | hsaves |
    ⟨x, p, eff, rfl, hx, hadv, heff⟩
  · exact .inl (Option.bind_eq_some_iff.2 ⟨x', hsame, hstage⟩)
  · rw [hopening] at hstage
    cases hstage
  · cases hs : x'.stage <;> rw [hs] at hstage hsaves <;> first | exact hsaves.elim | cases hstage
  · rcases ChatRun.hint_advance hadv hstage with hold | ⟨conv, order, rfl, hconv, hid, rfl⟩ |
      ⟨hlevel, conv, hconv, rfl⟩
    · exact .inl (Option.bind_eq_some_iff.2 ⟨x, hx, hold⟩)
    · exact .inr (.inl ((hintLevelOf_read_iff order).2 (hg x hx conv hconv hid)))
    · exact .inr (.inr ⟨hlevel, (heff conv hconv).1⟩)

theorem hintLevelOf_nil_le (level : HintLevel) : (hintLevelOf []).toNat ≤ level.toNat := by
  cases level <;> decide

theorem hinted_step (hs : Hinted id s) (hg : KeepsHint id s e) (h : serverStep s e = some s') :
    Hinted id s' := by
  refine ⟨dated_step hs.dated h, ?_, ?_⟩
  · intro k x' conv hx' hconv hid
    rcases run_step h hx' with hsame | hopening | hsaves |
      ⟨x, p, eff, -, hx, hadv, heff⟩
    · exact isSome_step hg h (hs.conversation k x' conv hsame hconv hid)
    · rw [hopening] at hconv
      cases hconv
    · cases hst : x'.stage <;> rw [hst] at hconv hsaves <;> first | exact hsaves.elim | cases hconv
    · rcases ChatRun.conversation_advance hadv hconv with hold | hfound | hnew
      · exact isSome_step hg h (hs.conversation k x conv hx hold hid)
      · exact isSome_step hg h (hid ▸ hfound)
      · rw [(heff conv hnew).2]
        refine List.find?_isSome.2 ⟨conv, List.mem_append_right _ List.mem_cons_self, ?_⟩
        simpa using hid
  · intro k level hhint
    have hstep := hintLevel_step hs.dated hg h
    rcases hintOf_step hg h hhint with hold | rfl | ⟨rfl, -⟩
    · exact (hs.level k level hold).trans hstep
    · exact hstep
    · exact hintLevelOf_nil_le _

/-- The stored messages give at least `level`, and so they do for request `k` if it has read
them. -/
structure AtLeast (id : String) (level : HintLevel) (k : ℕ) (s : ChatServer) : Prop where
  conversation : (ConversationRepository.findById s.db id).isSome = true
  stored : level.toNat ≤ (s.db.hintLevel id).toNat
  used : ∀ level', s.hintOf k = some (id, level') → level.toNat ≤ level'.toNat

theorem atLeast_step (hd : s.Dated) (hs : AtLeast id level k s) (hg : KeepsHint id s e)
    (h : serverStep s e = some s') : AtLeast id level k s' := by
  refine ⟨isSome_step hg h hs.conversation, hs.stored.trans (hintLevel_step hd hg h), ?_⟩
  intro level' hhint
  rcases hintOf_step hg h hhint with hold | rfl | ⟨-, hfresh⟩
  · exact hs.used level' hold
  · exact hs.stored
  · -- the conversation is there, so it is not made again
    rw [not_fresh hs.conversation] at hfresh
    cases hfresh

/-- **The hint level never goes back** on a schedule that stores no message which pushes a question
out at two or four questions: a request that has not started when another one has used a level (in
particular, when that one has answered) uses at least that level. -/
theorem hintLevel_never_back {s₀ s₁ s₂ s₃ : ChatServer} {es₁ es₂ es₃ : List ServerEvent}
    (h₀ : Started s₀) (hd : s₀.Dated) (h₁ : Run serverStep (KeepsHint id) s₀ es₁ s₁)
    (hj : s₁.hintOf j = some (id, level)) (h₂ : Run serverStep (KeepsHint id) s₁ es₂ s₂)
    (hk : s₂.run k = none) (h₃ : Run serverStep (KeepsHint id) s₂ es₃ s₃)
    (hk' : s₃.hintOf k = some (id, level')) : level.toNat ≤ level'.toNat := by
  have hhinted : Hinted id s₁ := by
    refine h₁.invariant ⟨hd, ?_, ?_⟩ fun _ _ _ hs hg hst => hinted_step hs hg hst
    · intro k x conv hx
      rw [h₀.run k] at hx
      cases hx
    · intro k level hhint
      rw [hintOf, h₀.run k] at hhint
      cases hhint
  obtain ⟨x, hx, hstage⟩ := hintOf_eq_some hj
  have hconv : ∃ conv, x.stage.conversation = some conv ∧ conv.id = id := by
    cases hst : x.stage <;> rw [hst] at hstage <;>
      first
      | exact ⟨_, rfl, (Prod.mk.inj (Option.some.inj hstage)).1⟩
      | cases hstage
  obtain ⟨conv, hconv, hid⟩ := hconv
  -- from here on the level and the conversation stay, and `k` reads after that
  have hkept : s₂.Dated ∧ (ConversationRepository.findById s₂.db id).isSome = true ∧
      level.toNat ≤ (s₂.db.hintLevel id).toNat := by
    refine h₂.invariant (I := fun s => s.Dated ∧
      (ConversationRepository.findById s.db id).isSome = true ∧
        level.toNat ≤ (s.db.hintLevel id).toNat)
      ⟨hhinted.dated, hhinted.conversation j x conv hx hconv hid, hhinted.level j level hj⟩ ?_
    intro s e s' hs hg hst
    exact ⟨dated_step hs.1 hst, isSome_step hg hst hs.2.1,
      hs.2.2.trans (hintLevel_step hs.1 hg hst)⟩
  have hend : s₃.Dated ∧ AtLeast id level k s₃ := by
    refine h₃.invariant (I := fun s => s.Dated ∧ AtLeast id level k s)
      ⟨hkept.1, hkept.2.1, hkept.2.2, fun level' hhint => ?_⟩ ?_
    · rw [hintOf, hk] at hhint
      cases hhint
    · intro s e s' hs hg hst
      exact ⟨dated_step hs.1 hst, atLeast_step hs.1 hs.2 hg hst⟩
  exact hend.2.used level' hk'

/-- The rows of request `k`. -/
def chatRows (k : ℕ) : List DbMessage :=
  [({ conversationId := "c", role := .user, content := js "q" } : NewMessage).row
      ⟨"u" ++ toString k, 2 * k + 1⟩,
    ({ conversationId := "c", role := .assistant, content := js "a" } : NewMessage).row
      ⟨"a" ++ toString k, 2 * k + 2⟩]

/-- A `chat` request with its two inserts. -/
def chatEvents (k : ℕ) : List ServerEvent :=
  [.arrive k .chat { message := js "q", conversationId := some "c" }, .progress k (.opened "d"),
    .progress k (.read ((List.range k).flatMap chatRows).reverse), .progress k .loaded,
    .progress k (.answered ⟨js "a", 0⟩), .commit k .user ("u" ++ toString k) (2 * k + 1),
    .commit k .assistant ("a" ++ toString k) (2 * k + 2)]

/-- Two requests one after the other, and the level of a third one. -/
theorem hintLevel_never_back_third : ∃ s₁ s₂ s₃,
    AnyRun serverStep oneConversation ((chatEvents 0).take 3) s₁ ∧
    AnyRun serverStep s₁ ((chatEvents 0).drop 3 ++ chatEvents 1) s₂ ∧
    AnyRun serverStep s₂ ((chatEvents 2).take 3) s₃ ∧
    s₁.hintOf 0 = some ("c", .one) ∧ s₃.hintOf 2 = some ("c", .two) ∧
    HintLevel.one.toNat ≤ HintLevel.two.toNat := by
  have hrun : (((chatEvents 0).take 3).foldlM (Run.guarded serverStep (KeepsHint "c"))
      oneConversation).any (fun s₁ => s₁.hintOf 0 = some ("c", .one) &&
        (((chatEvents 0).drop 3 ++ chatEvents 1).foldlM
          (Run.guarded serverStep (KeepsHint "c")) s₁).any fun s₂ => (s₂.run 2).isNone &&
            (((chatEvents 2).take 3).foldlM (Run.guarded serverStep (KeepsHint "c")) s₂).any
              fun s₃ => s₃.hintOf 2 = some ("c", .two)) = true := by decide
  simp only [Option.any_eq_true, Bool.and_eq_true, decide_eq_true_eq, Option.isNone_iff_eq_none]
    at hrun
  obtain ⟨s₁, h₁, hj, s₂, h₂, hk, s₃, h₃, hk'⟩ := hrun
  have hdated : oneConversation.Dated := fun msg hmsg => absurd hmsg List.not_mem_nil
  have h₁ := Run.of_guarded h₁
  have h₂ := Run.of_guarded h₂
  have h₃ := Run.of_guarded h₃
  exact ⟨s₁, s₂, s₃, h₁.any, h₂.any, h₃.any, hj, hk',
    hintLevel_never_back started_oneConversation hdated h₁ hj h₂ hk h₃ hk'⟩

/-- A conversation with five questions and their answers. -/
def fiveQuestions : ChatServer :=
  { db :=
      { conversation := [⟨"c", none, none, none⟩]
        message := (List.range 10).map fun i =>
          ({ conversationId := "c", role := if i % 2 = 0 then .user else .assistant
             content := js "m" } : NewMessage).row ⟨toString i, i + 1⟩ }
    clock := 10 }

/-- The reply of request `k`. -/
def lostReply (k : ℕ) : DbMessage :=
  ({ conversationId := "c", role := .assistant, content := [] } : NewMessage).row
    ⟨"a" ++ toString k, k + 11⟩

/-- A streamed reply that is stored without its question. -/
def lostQuestion (k : ℕ) : List ServerEvent :=
  [.arrive k .chatStream { message := js "q", conversationId := some "c" },
    .progress k (.opened "d"),
    .progress k (.read (fiveQuestions.db.message ++ (List.range k).map lostReply).reverse),
    .progress k .loaded, .progress k .connected, .progress k .ended, .refuse k .user,
    .commit k .assistant ("a" ++ toString k) (k + 11)]

/-- Three replies are stored without their questions: the first of these requests uses level three,
and the request after them level two. -/
theorem hintLevel_goes_back : ¬ ∀ (s₀ s₁ s₂ s₃ : ChatServer) (es₁ es₂ es₃ : List ServerEvent)
    (j k : ℕ) (id : String) (level level' : HintLevel), Started s₀ → s₀.Dated →
    AnyRun serverStep s₀ es₁ s₁ → s₁.hintOf j = some (id, level) →
    AnyRun serverStep s₁ es₂ s₂ → (j, SseData.finalFrame (some (js id))) ∈ s₂.frames →
    s₂.run k = none → AnyRun serverStep s₂ es₃ s₃ → s₃.hintOf k = some (id, level') →
    level.toNat ≤ level'.toNat := by
  intro h
  have hrun : (((lostQuestion 0).take 3).foldlM serverStep fiveQuestions).any (fun s₁ =>
      s₁.hintOf 0 = some ("c", .three) &&
        (((lostQuestion 0).drop 3 ++ lostQuestion 1 ++ lostQuestion 2).foldlM
          serverStep s₁).any fun s₂ =>
            decide ((0, SseData.finalFrame (some (js "c"))) ∈ s₂.frames) && (s₂.run 3).isNone &&
              (((lostQuestion 3).take 3).foldlM serverStep s₂).any
                fun s₃ => s₃.hintOf 3 = some ("c", .two)) = true := by decide
  simp only [Option.any_eq_true, Bool.and_eq_true, decide_eq_true_eq, Option.isNone_iff_eq_none]
    at hrun
  obtain ⟨s₁, h₁, hj, s₂, h₂, ⟨hanswered, hk⟩, s₃, h₃, hk'⟩ := hrun
  have hdated : ∀ msg ∈ fiveQuestions.db.message, msg.createdAt ≤ fiveQuestions.clock := by decide
  have hstarted : Started fiveQuestions := ⟨fun _ => rfl, rfl, rfl, rfl⟩
  have hle := h _ _ _ _ _ _ _ _ _ _ _ _ hstarted hdated (Run.of_foldlM h₁) hj (Run.of_foldlM h₂)
    hanswered hk (Run.of_foldlM h₃) hk'
  exact absurd hle (by decide)

end ChatServer

end StudyOasis
