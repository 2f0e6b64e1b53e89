import StudyOasis.Client.Tab

/-!
# What saving a conversation does to the others

`saveSession` looks for the session to replace by its `fileId`, which is missing for every
conversation without a document, while conversations are told apart by their `conversationId`,
which is missing until the first reply.  A save can therefore hit the session of another
conversation.

* `saving_keeps_conversations` : as long as no save does (`KeepsConversations`), every save keeps
  the messages of the other conversations, and the messages of a stored session are messages
  that were shown as its conversation;
* `not_othersKept_of_overwrite` : a save that does destroys them.
-/

namespace StudyOasis

namespace Client

/-- The session that a save under `fileId` overwrites, when the limit keeps it. -/
def ChatStorage.overwritten (storage : LocalStorage) (now : ℤ) (fileId : Option JsString) :
    Option ChatSession :=
  ((ChatStorage.getAllSessions storage now).take
    (ConfigStorage.getConfig storage).maxChatSessions).find? (ChatStorage.isExisting fileId)

/-- The payload of a `persistSession`. -/
def Action.asPersist : Action → Option PersistPayload
  | .persistSession payload _ => some payload
  | _ => none

namespace Tab

/-- A `persistSession` reaches the storage. -/
def persists (t : Tab) : Bool :=
  t.store.sessionLoaded && !t.store.messages.isEmpty && (t.storage.available && !t.storage.full)

/-- The sessions that `persistSession` writes, before they are cut to the limit. -/
def persisted (t : Tab) (now : ℤ) (random : JsString) (payload : PersistPayload) :
    List ChatSession :=
  (ChatStorage.merged (ConfigStorage.getConfig t.storage) now random (t.store.sessionData payload)
    none (truthy t.store.conversationId) (ChatStorage.getAllSessions t.storage now)).1

end Tab

/-- A save overwrites a session of another conversation only with the messages it has. -/
def KeepsConversations (t : Tab) (e : Event) : Prop :=
  ∀ payload ∈ e.action.asPersist, t.persists = true →
    ∀ s ∈ ChatStorage.overwritten t.storage e.now (truthy payload.documentId),
      ∀ c ∈ s.conversationId,
        truthy t.store.conversationId = some c ∨ s.messages = t.store.messages

instance (t : Tab) (e : Event) : Decidable (KeepsConversations t e) :=
  inferInstanceAs (Decidable (∀ payload ∈ e.action.asPersist, t.persists = true →
    ∀ s ∈ ChatStorage.overwritten t.storage e.now (truthy payload.documentId),
      ∀ c ∈ s.conversationId,
        truthy t.store.conversationId = some c ∨ s.messages = t.store.messages))

/-- A save keeps the messages of every session of another conversation that has not expired and
is not dropped by the limit. -/
def OthersKept (t : Tab) (e : Event) : Prop :=
  ∀ t' payload random, t.step e = some t' → e.action = .persistSession payload random →
    ∀ s ∈ t.storage.sessions, isExpired e.now s.expiresAt = false →
      ∀ c, s.conversationId = some c → truthy t.store.conversationId ≠ some c →
        (∃ s' ∈ t'.storage.sessions, s'.id = s.id ∧ s'.messages = s.messages) ∨
          ∃ s' ∈ (t.persisted e.now random payload).drop
            (ConfigStorage.getConfig t.storage).maxChatSessions, s'.id = s.id

/-! ### A save -/

theorem mem_take_append {α : Type*} {pre post : List α} {x y : α} {n : ℕ}
    (h : y ∈ (pre ++ x :: post).take n) : y ∈ pre ∨ y ∈ post ∨ (y = x ∧ pre.length < n) := by
  rw [List.take_append, List.mem_append] at h
  rcases h with h | h
  · exact .inl (List.mem_of_mem_take h)
  · cases hn : n - pre.length with
    | zero => simp [hn] at h
    | succ k =>
      rw [hn, List.take_succ_cons, List.mem_cons] at h
      rcases h with h | h
      · exact .inr (.inr ⟨h, by omega⟩)
      · exact .inr (.inl (List.mem_of_mem_take h))

namespace Tab

variable {t t' : Tab} {now : ℤ} {random : JsString} {payload : PersistPayload}

theorem storage_persist (h : t.step ⟨now, .persistSession payload random⟩ = some t') :
    t'.storage = (t.store.persistSession t.storage now random payload).1 := by
  obtain rfl := Option.some.inj h
  rfl

theorem storage_of_persists (h : t.step ⟨now, .persistSession payload random⟩ = some t')
    (hp : t.persists = true) :
    t'.storage.sessions = (t.persisted now random payload).take
      (ConfigStorage.getConfig t.storage).maxChatSessions := by
  simp only [persists, Bool.and_eq_true, Bool.not_eq_true'] at hp
  rw [storage_persist h, ChatStoreState.persistSession, if_neg (by simp [hp.1]),
    ChatStorage.saveSession_of_writable (by simp [hp.2])]
  rfl

theorem storage_of_not_persists (h : t.step ⟨now, .persistSession payload random⟩ = some t')
    (hp : ¬ t.persists = true) : t'.storage = t.storage := by
  rw [storage_persist h, ChatStoreState.persistSession]
  split_ifs with hskip
  · rfl
  · rw [ChatStorage.saveSession, if_neg]
    intro hw
    refine hp ?_
    simp only [Bool.or_eq_true, Bool.not_eq_true', not_or, Bool.not_eq_false] at hskip
    simp [persists, hskip.1, hskip.2, hw]

/-- What a save writes: the first session of the file is replaced, or one is added. -/
theorem persisted_cases (t : Tab) (now : ℤ) (random : JsString) (payload : PersistPayload) :
    (∃ pre s post s', ChatStorage.getAllSessions t.storage now = pre ++ s :: post ∧
      t.persisted now random payload = pre ++ s' :: post ∧ s'.id = s.id ∧
      s'.messages = t.store.messages ∧
      (s'.conversationId = truthy t.store.conversationId ∨
        truthy t.store.conversationId = none ∧ s'.conversationId = s.conversationId) ∧
      ChatStorage.overwritten t.storage now (truthy payload.documentId) =
        if pre.length < (ConfigStorage.getConfig t.storage).maxChatSessions then some s
        else none) ∨
    ∃ s', t.persisted now random payload = s' :: ChatStorage.getAllSessions t.storage now ∧
      s'.messages = t.store.messages ∧ s'.conversationId = truthy t.store.conversationId ∧
      ChatStorage.overwritten t.storage now (truthy payload.documentId) = none := by
  rcases ChatStorage.merged_cases (ConfigStorage.getConfig t.storage) now random
    (t.store.sessionData payload) none (truthy t.store.conversationId)
    (ChatStorage.getAllSessions t.storage now) with
    ⟨pre, s, post, hlive, hs, hpre, hm⟩ | ⟨hall, hm⟩
  · left
    have hpre' : ∀ x ∈ pre, ChatStorage.isExisting (truthy payload.documentId) x = false := hpre
    refine ⟨pre, s, post, ChatStorage.updateExisting _ now _ none _ s, hlive,
      by rw [persisted, hm], rfl, rfl, ?_, ?_⟩
    · have hid := ChatStorage.conversationId_updateExisting (ConfigStorage.getConfig t.storage) now
        (t.store.sessionData payload) none (truthy t.store.conversationId) s
      rwa [truthy_truthy] at hid
    · have hnone (xs : List ChatSession) (hxs : xs ⊆ pre) :
          xs.find? (ChatStorage.isExisting (truthy payload.documentId)) = none :=
        List.find?_eq_none.2 fun x hx => by simp [hpre' x (hxs hx)]
      rw [ChatStorage.overwritten, hlive]
      split_ifs with hlt
      -- the session stands within the limit, behind others that do not match
      · obtain ⟨k, hk⟩ := Nat.exists_eq_add_of_lt hlt
        rw [hk, Nat.add_assoc, List.take_length_add_append, List.take_succ_cons, List.find?_append,
          hnone pre fun _ hx => hx, List.find?_cons,
          show ChatStorage.isExisting (truthy payload.documentId) s = true from hs]
        rfl
      · rw [List.take_append_of_le_length (not_lt.1 hlt)]
        exact hnone _ (List.take_subset _ _)
  · right
    refine ⟨ChatStorage.newSession (ConfigStorage.getConfig t.storage) now random
      (t.store.sessionData payload) none (truthy t.store.conversationId), by rw [persisted, hm],
      rfl, rfl, List.find?_eq_none.2 ?_⟩
    intro x hx
    rw [show ChatStorage.isExisting (truthy payload.documentId) x = false from
      hall x (List.mem_of_mem_take hx)]
    exact Bool.false_ne_true

/-- Only a save adds to the stored sessions. -/
theorem sessions_sublist {e : Event} (he : e.action.asPersist = none) (h : t.step e = some t') :
    t'.storage.sessions.Sublist t.storage.sessions := by
  obtain ⟨u, hu, rfl⟩ := step_eq_some h
  obtain ⟨now, a⟩ := e
  cases a with
  | complete id answer =>
    obtain ⟨_, _, _, -, -, rfl⟩ := act_complete rfl hu
    exact List.Sublist.refl _
  | persistSession payload random => cases he
  | clearConversation documentIdToDelete =>
    obtain rfl := Option.some.inj hu
    show (t.clearConversationStorage now documentIdToDelete).sessions.Sublist _
    unfold clearConversationStorage
    split
    · split
      · exact ChatStorage.deleteSession_sublist
      · exact List.Sublist.refl _
    · exact List.Sublist.refl _
  | deleteSession sessionId =>
    obtain rfl := Option.some.inj hu
    exact ChatStorage.deleteSession_sublist
  | clearAllSessions =>
    obtain rfl := Option.some.inj hu
    exact ChatStorage.clearAllSessions_sublist
  | uploadAndProcessFile file =>
    simp only [act] at hu
    split at hu <;> obtain rfl := Option.some.inj hu <;> exact List.Sublist.refl _
  | _ =>
    obtain rfl := Option.some.inj hu
    exact List.Sublist.refl _

end Tab

/-! ### Saves and the other conversations -/

variable {t t' : Tab} {e : Event}

/-- A save that meets the condition keeps the other conversations. -/
theorem othersKept_of_keepsConversations (hG : KeepsConversations t e) : OthersKept t e := by
  obtain ⟨now, a⟩ := e
  rintro t' payload random hst rfl s hs hlive c hc hne
  by_cases hp : t.persists = true
  · have hav : t.storage.available = true := by
      simp only [Tab.persists, Bool.and_eq_true] at hp
      exact hp.2.1
    -- a session that is written is kept by the limit or dropped by it
    have split (s' : ChatSession) (hs' : s' ∈ t.persisted now random payload) :
        s' ∈ t'.storage.sessions ∨ s' ∈ (t.persisted now random payload).drop
          (ConfigStorage.getConfig t.storage).maxChatSessions := by
      rw [Tab.storage_of_persists hst hp, ← List.mem_append, List.take_append_drop]
      exact hs'
    have unchanged (hs' : s ∈ t.persisted now random payload) :
        (∃ s' ∈ t'.storage.sessions, s'.id = s.id ∧ s'.messages = s.messages) ∨
          ∃ s' ∈ (t.persisted now random payload).drop
            (ConfigStorage.getConfig t.storage).maxChatSessions, s'.id = s.id := by
      rcases split s hs' with h | h
      · exact .inl ⟨s, h, rfl, rfl⟩
      · exact .inr ⟨s, h, rfl⟩
    have hread := ChatStorage.mem_getAllSessions hav hs hlive
    rcases t.persisted_cases now random payload with
      ⟨pre, r, post, r', hr, hw, hid, hmsg, -, hover⟩ | ⟨r', hw, -, -, -⟩
    · rw [hr, List.mem_append, List.mem_cons] at hread
      rcases hread with hpre | rfl | hpost
      · exact unchanged (by rw [hw]; exact List.mem_append_left _ hpre)
      · by_cases hlt : pre.length < (ConfigStorage.getConfig t.storage).maxChatSessions
        · -- the session is overwritten, so it has these messages already
          rcases hG payload rfl hp s (by rw [hover, if_pos hlt]; rfl) c hc with h | h
          · exact absurd h hne
          · rcases split r' (by rw [hw]; simp) with h' | h'
            · exact .inl ⟨r', h', hid, hmsg.trans h.symm⟩
            · exact .inr ⟨r', h', hid⟩
        · refine .inr ⟨r', ?_, hid⟩
          rw [hw, List.drop_append_of_le_length (not_lt.1 hlt)]
          simp
      · exact unchanged (by rw [hw]; exact List.mem_append_right _ (List.mem_cons_of_mem _ hpost))
    · exact unchanged (by rw [hw]; exact List.mem_cons_of_mem _ hread)
  · refine .inl ⟨s, ?_, rfl, rfl⟩
    rw [Tab.storage_of_not_persists hst hp]
    exact hs

/-- A stored session after a save that meets the condition: its messages were stored under its
conversation before, or are those that are shown as its conversation. -/
theorem stored_of_keepsConversations (hG : KeepsConversations t e) (h : t.step e = some t')
    {c : JsString} {s : ChatSession} (hs : s ∈ t'.storage.sessions)
    (hc : s.conversationId = some c) :
    (∃ s' ∈ t.storage.sessions, s'.conversationId = some c ∧ s'.messages = s.messages) ∨
      (t.store.conversationId = some c ∧ t.store.messages = s.messages) := by
  cases he : e.action.asPersist with
  | none => exact .inl ⟨s, (Tab.sessions_sublist he h).subset hs, hc, rfl⟩
  | some payload =>
    obtain ⟨now, a⟩ := e
    obtain ⟨random, rfl⟩ : ∃ random, a = .persistSession payload random := by
      cases a with
      | persistSession payload' random =>
        obtain rfl := Option.some.inj he
        exact ⟨random, rfl⟩
      | _ => cases he
    by_cases hp : t.persists = true
    · rw [Tab.storage_of_persists h hp] at hs
      have old {x : ChatSession} (hx : x ∈ ChatStorage.getAllSessions t.storage now) :
          x ∈ t.storage.sessions := ChatStorage.getAllSessions_sublist.subset hx
      rcases t.persisted_cases now random payload with
        ⟨pre, r, post, r', hr, hw, -, hmsg, hconv, hover⟩ | ⟨r', hw, hmsg, hconv, -⟩
      · rw [hw] at hs
        rcases mem_take_append hs with hpre | hpost | ⟨rfl, hlt⟩
        · exact .inl ⟨s, old (by rw [hr]; exact List.mem_append_left _ hpre), hc, rfl⟩
        · exact .inl ⟨s, old (by rw [hr]; simp [hpost]), hc, rfl⟩
        · rcases hconv with hconv | ⟨hnone, hconv⟩
          · exact .inr ⟨(ne_nil_of_truthy (hconv.symm.trans hc)).1, hmsg.symm⟩
          · -- the save has no conversation id, so it wrote what the session had
            rcases hG payload rfl hp r (by rw [hover, if_pos hlt]; rfl) c
              (hconv.symm.trans hc) with h' | h'
            · rw [hnone] at h'
              cases h'
            · exact .inl ⟨r, old (by rw [hr]; simp), hconv.symm.trans hc, h'.trans hmsg.symm⟩
      · rw [hw] at hs
        rcases List.mem_cons.1 (List.mem_of_mem_take hs) with rfl | hs
        · exact .inr ⟨(ne_nil_of_truthy (hconv.symm.trans hc)).1, hmsg.symm⟩
        · exact .inl ⟨s, old hs, hc, rfl⟩
    · rw [Tab.storage_of_not_persists h hp] at hs
      exact .inl ⟨s, hs, hc, rfl⟩

/-- **Saving keeps the other conversations**: in a run whose saves overwrite a session of another
conversation only with the messages it has, every save keeps the messages of the sessions of
other conversations, and every stored session of a conversation holds messages that the page
showed as that conversation. -/
theorem saving_keeps_conversations {config : Option StorageConfig} {es : List Event}
    (h : Run Tab.step KeepsConversations (Tab.opened config) es t) :
    (∀ e, KeepsConversations t e → OthersKept t e) ∧
      ∀ s ∈ t.storage.sessions, ∀ c, s.conversationId = some c →
        ∃ es₁ es₂ u, es = es₁ ++ es₂ ∧
          Run Tab.step KeepsConversations (Tab.opened config) es₁ u ∧
            u.store.conversationId = some c ∧ u.store.messages = s.messages := by
  refine ⟨fun e => othersKept_of_keepsConversations, ?_⟩
  intro s hs c hc
  have hstored := h.origin
    (O := fun t (x : JsString × List Message) =>
      ∃ s ∈ t.storage.sessions, s.conversationId = some x.1 ∧ s.messages = x.2)
    (Q := fun t x => t.store.conversationId = some x.1 ∧ t.store.messages = x.2)
    (x := (c, s.messages))
    (fun t e t' hG hst x ⟨s, hs, hc, hm⟩ => by
      rcases stored_of_keepsConversations hG hst hs hc with ⟨s', hs', hc', hm'⟩ | ⟨hc', hm'⟩
      · exact .inl ⟨s', hs', hc', hm'.trans hm⟩
      · exact .inr ⟨hc', hm'.trans hm⟩)
    ⟨s, hs, hc, rfl⟩
  rcases hstored with ⟨s', hs', -, -⟩ | hstored
  · exact absurd hs' List.not_mem_nil
  · exact hstored

/-- A general conversation, and a second one about a document. -/
theorem saving_keeps_conversations_two : ∃ es t,
    Run Tab.step KeepsConversations (Tab.opened none) es t ∧ t.storage.sessions.length = 2 ∧
      (∀ e, KeepsConversations t e → OthersKept t e) ∧
        ∀ s ∈ t.storage.sessions, ∀ c, s.conversationId = some c →
          ∃ es₁ es₂ u, es = es₁ ++ es₂ ∧
            Run Tab.step KeepsConversations (Tab.opened none) es₁ u ∧
              u.store.conversationId = some c ∧ u.store.messages = s.messages := by
  let chunk : StreamChunk := { token := js "a", complete := true, conversationId := some (js "c") }
  have h : Run Tab.step KeepsConversations (Tab.opened none)
      [⟨0, .loadSessionFromStorage none⟩, ⟨1, .sendMessage (js "q") true⟩,
        ⟨2, .complete 0 (.chunk chunk)⟩, ⟨3, .complete 0 .frame⟩, ⟨4, .complete 0 .closed⟩,
        ⟨5, .persistSession {} (js "r")⟩, ⟨6, .startNewConversation true⟩,
        ⟨7, .sendMessage (js "p") true⟩,
        ⟨8, .persistSession { documentId := some (js "d") } (js "s")⟩] _ :=
    .cons (by decide) rfl (.cons (by decide) rfl (.cons (by decide) rfl (.cons (by decide) rfl
      (.cons (by decide) rfl (.cons (by decide) rfl (.cons (by decide) rfl (.cons (by decide) rfl
        (.single (by decide) rfl))))))))
  exact ⟨_, _, h, rfl, saving_keeps_conversations h⟩

/-- A second general conversation is saved before its first reply: the session of the first one
holds its messages then. -/
theorem general_conversation_overwritten :
    ¬ ∀ (config : Option StorageConfig) (es : List Event) (t : Tab),
      AnyRun Tab.step (Tab.opened config) es t →
        (∀ e, OthersKept t e) ∧
          ∀ s ∈ t.storage.sessions, ∀ c, s.conversationId = some c →
            ∃ es₁ es₂ u, es = es₁ ++ es₂ ∧ AnyRun Tab.step (Tab.opened config) es₁ u ∧
              u.store.conversationId = some c ∧ u.store.messages = s.messages := by
  intro h
  let chunk : StreamChunk := { token := js "a", complete := true, conversationId := some (js "c") }
  have hrun : AnyRun Tab.step (Tab.opened none)
      [⟨0, .loadSessionFromStorage none⟩, ⟨1, .sendMessage (js "q") true⟩,
        ⟨2, .complete 0 (.chunk chunk)⟩, ⟨3, .complete 0 .frame⟩, ⟨4, .complete 0 .closed⟩,
        ⟨5, .persistSession {} (js "r")⟩, ⟨6, .startNewConversation true⟩,
        ⟨7, .sendMessage (js "p") true⟩] _ :=
    .cons trivial rfl (.cons trivial rfl (.cons trivial rfl (.cons trivial rfl
      (.cons trivial rfl (.cons trivial rfl (.cons trivial rfl (.single trivial rfl)))))))
  have hkept := (h none _ _ hrun).1 ⟨8, .persistSession {} (js "s")⟩ _ {} (js "s") rfl rfl _
    List.mem_cons_self (by decide) (js "c") rfl (by decide)
  revert hkept
  decide

/-- The condition cannot be dropped: a save that overwrites the session of another conversation
destroys its messages. -/
theorem not_othersKept_of_overwrite {now : ℤ} {payload : PersistPayload} {random c : JsString}
    {s : ChatSession}
    (hids : (ChatStorage.getAllSessions t.storage now).Pairwise fun r r' => r.id ≠ r'.id)
    (hp : t.persists = true)
    (hover : ChatStorage.overwritten t.storage now (truthy payload.documentId) = some s)
    (hlive : isExpired now s.expiresAt = false) (hc : s.conversationId = some c)
    (hne : truthy t.store.conversationId ≠ some c) (hm : s.messages ≠ t.store.messages) :
    ¬ OthersKept t ⟨now, .persistSession payload random⟩ := by
  intro hk
  have hs : s ∈ t.storage.sessions :=
    ChatStorage.getAllSessions_sublist.subset
      (List.mem_of_mem_take (List.mem_of_find?_eq_some hover))
  have hkept := hk _ payload random rfl rfl s hs hlive c hc hne
  rw [Tab.storage_of_persists rfl hp] at hkept
  rcases t.persisted_cases now random payload with
    ⟨pre, r, post, r', hr, hw, hid, hmsg, -, hover'⟩ | ⟨-, -, -, -, hover'⟩
  · rw [hover] at hover'
    split_ifs at hover' with hlt
    obtain rfl := Option.some.inj hover'
    -- the ids are distinct, so no other session can stand in for the one that was overwritten
    rw [hr, List.pairwise_append, List.pairwise_cons] at hids
    obtain ⟨-, ⟨hpost, -⟩, hpre⟩ := hids
    rw [hw] at hkept
    rcases hkept with ⟨s', hs', hid', hm'⟩ | ⟨s', hs', hid'⟩
    · rcases mem_take_append hs' with h | h | ⟨rfl, -⟩
      · exact hpre s' h s List.mem_cons_self hid'
      · exact hpost s' h hid'.symm
      · exact hm (hm'.symm.trans hmsg)
    · obtain ⟨k, hk⟩ := Nat.exists_eq_add_of_lt hlt
      rw [hk, Nat.add_assoc, List.drop_length_add_append, List.drop_succ_cons] at hs'
      exact hpost s' (List.mem_of_mem_drop hs') hid'.symm
  · rw [hover] at hover'
    cases hover'

end Client

end StudyOasis
