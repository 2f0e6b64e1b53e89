import StudyOasis.Client.Persist
import StudyOasis.Common.Upsert

/-!
# The stored sessions as a bounded list

Every session is written by `saveSession`, which looks for the session of the file first, so the
stored sessions belong to different files (`wellKept_of_run`).  On such a storage a save is an
`upsert` under the file (`ChatStorage.entries_saveSession`): what is read afterwards is what was
read before, with other messages for the file, or with a session in front and perhaps without
the last one.
-/

namespace StudyOasis

namespace Client

/-- The sessions have messages and belong to different files, and there are not too many. -/
structure LocalStorage.WellKept (storage : LocalStorage) : Prop where
  messages : ∀ s ∈ storage.sessions, s.messages ≠ []
  truthy_fileId : ∀ s ∈ storage.sessions, truthy s.fileId = s.fileId
  nodup : (storage.sessions.map (·.fileId)).Nodup
  limit : storage.sessions.length ≤ (storage.config.getD {}).maxChatSessions

theorem LocalStorage.WellKept.of_sublist {storage storage' : LocalStorage}
    (h : storage.WellKept) (hs : storage'.sessions.Sublist storage.sessions)
    (hc : storage'.config = storage.config) : storage'.WellKept where
  messages s hm := h.messages s (hs.subset hm)
  truthy_fileId s hm := h.truthy_fileId s (hs.subset hm)
  nodup := h.nodup.sublist (hs.map _)
  limit := by
    rw [hc]
    exact hs.length_le.trans h.limit

namespace ChatStorage

variable {storage : LocalStorage} {now : ℤ} {random : JsString} {session : SessionData}
  {expiryMs : Option ℤ} {conversationId : Option JsString}

/-! ### A save of a well kept storage -/

/-- The sessions that a save writes. -/
theorem take_merged {config : StorageConfig} {sessions : List ChatSession}
    (hm : ∀ s ∈ sessions, s.messages ≠ []) (hn : (sessions.map (·.fileId)).Nodup)
    (hl : sessions.length ≤ config.maxChatSessions) :
    (merged config now random session expiryMs conversationId sessions).1.take
        config.maxChatSessions =
      upsert (·.fileId) session.fileId
        (updateExisting config now session expiryMs conversationId)
        (newSession config now random session expiryMs conversationId) config.maxChatSessions
        sessions := by
  rcases merged_cases config now random session expiryMs conversationId sessions with
    ⟨pre, s, post, rfl, hs, -, hmerged⟩ | ⟨hall, hmerged⟩
  · have hs' : s.fileId = session.fileId := by
      simp only [isExisting, Bool.and_eq_true, decide_eq_true_eq] at hs
      exact hs.1
    rw [hmerged, upsert_append hn hs', List.take_of_length_le]
    simpa using hl
  · rw [hmerged, upsert_of_forall_ne]
    intro s hs hfile
    -- a session without messages would not be found, but there is none
    have := hall s hs
    simp [isExisting, hfile, hm s hs] at this

theorem getConfig_of_available (h : storage.available = true) :
    ConfigStorage.getConfig storage = storage.config.getD {} := if_pos h

/-- A save that reaches a well kept storage. -/
theorem sessions_saveSession (h : (storage.available && !storage.full) = true)
    (hk : storage.WellKept) :
    (saveSession storage now random session expiryMs conversationId).1.sessions =
      upsert (·.fileId) session.fileId
        (updateExisting (ConfigStorage.getConfig storage) now session expiryMs conversationId)
        (newSession (ConfigStorage.getConfig storage) now random session expiryMs conversationId)
        (ConfigStorage.getConfig storage).maxChatSessions (getAllSessions storage now) := by
  have hsub : (getAllSessions storage now).Sublist storage.sessions := getAllSessions_sublist
  rw [saveSession_of_writable h]
  refine take_merged (fun s hs => hk.messages s (hsub.subset hs)) (hk.nodup.sublist (hsub.map _)) ?_
  rw [getConfig_of_available (by simp_all)]
  exact hsub.length_le.trans hk.limit

/-- A save changes only the sessions. -/
theorem saveSession_fst : (saveSession storage now random session expiryMs conversationId).1 =
    { storage with
      sessions :=
        (saveSession storage now random session expiryMs conversationId).1.sessions } := by
  by_cases h : (storage.available && !storage.full) = true
  · rw [saveSession_of_writable h]
  · rw [saveSession, if_neg h]

theorem wellKept_saveSession (hk : storage.WellKept) (hm : session.messages ≠ [])
    (hf : truthy session.fileId = session.fileId) :
    (saveSession storage now random session expiryMs conversationId).1.WellKept := by
  by_cases h : (storage.available && !storage.full) = true
  · have hsub : (getAllSessions storage now).Sublist storage.sessions := getAllSessions_sublist
    have hread : LocalStorage.WellKept { storage with sessions := getAllSessions storage now } :=
      hk.of_sublist hsub rfl
    have hconfig : ConfigStorage.getConfig storage = storage.config.getD {} :=
      getConfig_of_available (by simp_all)
    rw [saveSession_fst]
    constructor <;> dsimp only <;> rw [sessions_saveSession h hk]
    · intro s hs
      rcases mem_upsert hs with rfl | hs | ⟨r, -, -, rfl⟩
      · exact hm
      · exact hread.messages s hs
      · exact hm
    · intro s hs
      rcases mem_upsert hs with rfl | hs | ⟨r, hr, -, rfl⟩
      · exact hf
      · exact hread.truthy_fileId s hs
      · exact hread.truthy_fileId r hr
    · exact nodup_upsert hread.nodup (fun _ => rfl) rfl
    · rw [hconfig]
      exact length_upsert_le hread.limit
  · rwa [saveSession, if_neg h]

end ChatStorage

/-! ### Every storage of a tab is well kept -/

variable {t t' : Tab} {e : Event}

theorem Tab.config_step (h : t.step e = some t') : t'.storage.config = t.storage.config := by
  obtain ⟨u, hu, rfl⟩ := Tab.step_eq_some h
  obtain ⟨now, a⟩ := e
  have hset (sessions : List ChatSession) :
      (ChatStorage.setSessions t.storage sessions).config = t.storage.config := by
    unfold ChatStorage.setSessions
    split_ifs <;> rfl
  cases a with
  | complete id answer =>
    obtain ⟨_, _, _, -, -, rfl⟩ := Tab.act_complete rfl hu
    rfl
  | persistSession payload random =>
    obtain rfl := Option.some.inj hu
    show (t.store.persistSession t.storage now random payload).1.config = _
    unfold ChatStoreState.persistSession
    split_ifs
    · rfl
    · rw [ChatStorage.saveSession_fst]
  | clearConversation documentIdToDelete =>
    obtain rfl := Option.some.inj hu
    show (t.clearConversationStorage now documentIdToDelete).config = _
    unfold Tab.clearConversationStorage
    split
    · split
      · exact hset _
      · rfl
    · rfl
  | deleteSession sessionId =>
    obtain rfl := Option.some.inj hu
    exact hset _
  | clearAllSessions =>
    obtain rfl := Option.some.inj hu
    show (ChatStorage.clearAllSessions t.storage).config = _
    unfold ChatStorage.clearAllSessions
    split_ifs <;> rfl
  | uploadAndProcessFile file =>
    simp only [Tab.act] at hu
    split at hu <;> obtain rfl := Option.some.inj hu <;> rfl
  | _ =>
    obtain rfl := Option.some.inj hu
    rfl

theorem wellKept_step (hk : t.storage.WellKept) (h : t.step e = some t') :
    t'.storage.WellKept := by
  cases he : e.action.asPersist with
  | none => exact hk.of_sublist (Tab.sessions_sublist he h) (Tab.config_step h)
  | some payload =>
    obtain ⟨now, a⟩ := e
    cases a with
    | persistSession payload random =>
      rw [Tab.storage_persist h, ChatStoreState.persistSession]
      split_ifs with hskip
      · exact hk
      · simp only [Bool.or_eq_true, not_or, List.isEmpty_iff] at hskip
        exact ChatStorage.wellKept_saveSession hk hskip.2 (truthy_truthy _)
    | _ => cases he

theorem wellKept_opened (config : Option StorageConfig) : (Tab.opened config).storage.WellKept where
  messages := nofun
  truthy_fileId := nofun
  nodup := List.nodup_nil
  limit := Nat.zero_le _

/-- **The stored sessions belong to different files**, have messages and respect the limit. -/
theorem wellKept_of_run {config : Option StorageConfig} {es : List Event}
    (h : AnyRun Tab.step (Tab.opened config) es t) : t.storage.WellKept :=
  h.invariant (wellKept_opened config) fun _ _ _ hk _ => wellKept_step hk

theorem config_of_run {config : Option StorageConfig} {es : List Event}
    (h : AnyRun Tab.step (Tab.opened config) es t) : t.storage.config = config :=
  h.invariant (I := fun t => t.storage.config = config) rfl fun _ _ _ hc _ hst =>
    (Tab.config_step hst).trans hc

/-! ### What is read -/

/-- What a stored session is to its readers. -/
structure Entry where
  id : JsString
  fileId : Option JsString
  messages : List Message
  deriving DecidableEq, Repr

/-- The session as an entry. -/
def ChatSession.entry (s : ChatSession) : Entry := ⟨s.id, s.fileId, s.messages⟩

namespace Entry

variable {fileId : Option JsString} {messages : List Message} {id id' : JsString} {limit : ℕ}
  {l : List Entry}

/-- Save messages under a file. -/
def save (fileId : Option JsString) (messages : List Message) (id : JsString) (limit : ℕ)
    (l : List Entry) : List Entry :=
  upsert (·.fileId) fileId (fun r => { r with messages }) ⟨id, fileId, messages⟩ limit l

/-- The file has these messages already, or no session and room for one. -/
def Saved (fileId : Option JsString) (messages : List Message) (limit : ℕ) (l : List Entry) :
    Prop :=
  Upserted (·.fileId) fileId (fun r => { r with messages }) limit l

theorem save_eq_self (hn : (l.map (·.fileId)).Nodup) (h : ⟨id', fileId, messages⟩ ∈ l) :
    save fileId messages id limit l = l :=
  upsert_eq_self hn h rfl rfl

/-- Saving the same again changes nothing. -/
theorem save_save (hn : (l.map (·.fileId)).Nodup) (hl : 0 < limit) :
    save fileId messages id' limit (save fileId messages id limit l) =
      save fileId messages id limit l := by
  have hn' : ((save fileId messages id limit l).map (·.fileId)).Nodup :=
    nodup_upsert hn (fun _ => rfl) rfl
  by_cases h : ∃ r ∈ l, r.fileId = fileId
  · obtain ⟨r, hr, hfile⟩ := h
    have hmem : ⟨r.id, fileId, messages⟩ ∈ save fileId messages id limit l := by
      rw [save, upsert_of_mem hr hfile]
      refine List.mem_map.2 ⟨r, hr, ?_⟩
      rw [if_pos hfile, ← hfile]
    exact save_eq_self hn' hmem
  · simp only [not_exists, not_and] at h
    have hmem : ⟨id, fileId, messages⟩ ∈ save fileId messages id limit l := by
      rw [save, upsert_of_forall_ne h]
      obtain ⟨n, rfl⟩ := Nat.exists_eq_succ_of_ne_zero hl.ne'
      exact List.mem_cons_self
    exact save_eq_self hn' hmem

/-- **When a save keeps the entries.** -/
theorem subset_save_iff (hn : (l.map (·.fileId)).Nodup) (hl : l ≠ []) :
    l ⊆ save fileId messages id limit l ↔ Saved fileId messages limit l :=
  subset_upsert_iff hn hl rfl

end Entry

namespace ChatStorage

variable {storage : LocalStorage} {now : ℤ} {random : JsString} {session : SessionData}
  {conversationId : Option JsString}

/-- The sessions that can be read. -/
def entries (storage : LocalStorage) (now : ℤ) : List Entry :=
  (getAllSessions storage now).map ChatSession.entry

theorem nodup_entries (hk : storage.WellKept) : ((entries storage now).map (·.fileId)).Nodup := by
  rw [entries, List.map_map]
  exact hk.nodup.sublist (getAllSessions_sublist.map _)

theorem length_entries_le (h : storage.available = true) (hk : storage.WellKept) :
    (entries storage now).length ≤ (ConfigStorage.getConfig storage).maxChatSessions := by
  rw [entries, List.length_map, getConfig_of_available h]
  exact getAllSessions_sublist.length_le.trans hk.limit

/-- A save gives a session time. -/
theorem isExpired_updateExisting {config : StorageConfig} (hc : 0 ≤ config.defaultExpiry)
    {s : ChatSession} (hs : isExpired now s.expiresAt = false) :
    isExpired now (updateExisting config now session none conversationId s).expiresAt = false := by
  simp only [updateExisting, givenExpiry, Option.filter_none]
  split_ifs
  · exact hs
  · simp only [isExpired, Bool.and_eq_false_iff, decide_eq_false_iff_not]
    omega

theorem isExpired_newSession {config : StorageConfig} (hc : 0 ≤ config.defaultExpiry) :
    isExpired now (newSession config now random session none conversationId).expiresAt = false := by
  simp only [newSession, givenExpiry, Option.filter_none, Option.getD_none, isExpired,
    Bool.and_eq_false_iff, decide_eq_false_iff_not]
  omega

/-- What a save writes can be read. -/
theorem getAllSessions_saveSession (h : (storage.available && !storage.full) = true)
    (hk : storage.WellKept) (hc : 0 ≤ (ConfigStorage.getConfig storage).defaultExpiry) :
    getAllSessions (saveSession storage now random session none conversationId).1 now =
      (saveSession storage now random session none conversationId).1.sessions := by
  have hav : storage.available = true := by simp_all
  rw [saveSession_fst]
  unfold getAllSessions
  rw [if_pos hav]
  split_ifs with hclean
  · refine List.filter_eq_self.2 ?_
    rw [sessions_saveSession h hk]
    -- what is read has not expired, and what is saved is given time
    have hlive : ∀ s ∈ getAllSessions storage now, isExpired now s.expiresAt = false := by
      have hclean' : (ConfigStorage.getConfig storage).enableAutoCleanup = true := hclean
      rw [getAllSessions, if_pos hav, if_pos hclean']
      intro s hs
      simpa using (List.mem_filter.1 hs).2
    intro s hs
    rw [Bool.not_eq_true']
    rcases mem_upsert hs with rfl | hs | ⟨r, hr, -, rfl⟩
    · exact isExpired_newSession hc
    · exact hlive s hs
    · exact isExpired_updateExisting hc (hlive r hr)
  · rfl

/-- **A save is an `upsert`** of what can be read. -/
theorem entries_saveSession (h : (storage.available && !storage.full) = true)
    (hk : storage.WellKept) (hc : 0 ≤ (ConfigStorage.getConfig storage).defaultExpiry) :
    entries (saveSession storage now random session none conversationId).1 now =
      Entry.save session.fileId session.messages (generateSessionId now random session.fileId)
        (ConfigStorage.getConfig storage).maxChatSessions (entries storage now) := by
  rw [entries, getAllSessions_saveSession h hk hc, sessions_saveSession h hk]
  exact map_upsert (fun _ => rfl) fun _ => rfl

/-- Two saves at one moment. -/
theorem entries_saveSession_saveSession {session' : SessionData} {random' : JsString}
    {conversationId' : Option JsString} (h : (storage.available && !storage.full) = true)
    (hk : storage.WellKept) (hc : 0 ≤ (ConfigStorage.getConfig storage).defaultExpiry)
    (hm : session.messages ≠ []) (hf : truthy session.fileId = session.fileId) :
    entries (saveSession (saveSession storage now random session none conversationId).1 now random'
        session' none conversationId').1 now =
      Entry.save session'.fileId session'.messages
        (generateSessionId now random' session'.fileId)
        (ConfigStorage.getConfig storage).maxChatSessions
        (Entry.save session.fileId session.messages (generateSessionId now random session.fileId)
          (ConfigStorage.getConfig storage).maxChatSessions (entries storage now)) := by
  have hk' : (saveSession storage now random session none conversationId).1.WellKept :=
    wellKept_saveSession hk hm hf
  have hfirst : entries (saveSession storage now random session none conversationId).1 now = _ :=
    entries_saveSession h hk hc
  rw [← hfirst]
  generalize hs : (saveSession storage now random session none conversationId).1 = saved at hk' ⊢
  rw [saveSession_fst] at hs
  subst hs
  exact entries_saveSession h hk' hc

end ChatStorage

end Client

end StudyOasis
