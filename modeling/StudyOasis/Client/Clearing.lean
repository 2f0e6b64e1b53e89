import StudyOasis.Client.Entries

/-!
# A conversation that has been cleared

`clearConversation` deletes the stored session of the document that it is given, and nothing when
it is given none.  `loadSessionFromStorage` without a document shows the first stored session that
has none.

* `cleared_gone_iff` : **when a cleared conversation does not come back** with the next page: when
  there was a document and its session could be deleted, or nothing was stored.
-/

namespace StudyOasis

namespace Client

/-- A session is read for the document, or for no document. -/
def ChatStorage.HasSession (storage : LocalStorage) (now : ℤ) (documentId : Option JsString) :
    Prop :=
  ∃ s ∈ ChatStorage.getAllSessions storage now, s.fileId = truthy documentId

instance (storage : LocalStorage) (now : ℤ) (documentId : Option JsString) :
    Decidable (ChatStorage.HasSession storage now documentId) :=
  inferInstanceAs (Decidable (∃ s ∈ ChatStorage.getAllSessions storage now,
    s.fileId = truthy documentId))

/-- There is a document, a session is read for it, and the storage can be written. -/
def ChatStorage.Deletes (storage : LocalStorage) (now : ℤ) (documentId : Option JsString) : Prop :=
  truthy documentId ≠ none ∧ (storage.available && !storage.full) = true ∧
    ChatStorage.HasSession storage now documentId

/-! ### What is found -/

namespace ChatStorage

variable {storage : LocalStorage} {now now' : ℤ} {fileId : JsString} {documentId : Option JsString}
  {s : ChatSession}

theorem mem_of_getSessionByFileId (h : getSessionByFileId storage now fileId = some s) :
    s ∈ getAllSessions storage now ∧ s.fileId = some fileId := by
  have hs := orderByDesc_perm.subset (List.mem_of_head? h)
  simpa using hs

theorem getSessionByFileId_eq_none_iff :
    getSessionByFileId storage now fileId = none ↔
      ∀ s ∈ getAllSessions storage now, s.fileId ≠ some fileId := by
  have hnil (l : List ChatSession) : orderByDesc (·.updatedAt) l = [] ↔ l = [] := by
    rw [← List.length_eq_zero_iff, orderByDesc_perm.length_eq, List.length_eq_zero_iff]
  rw [getSessionByFileId, List.head?_eq_none_iff, hnil, List.filter_eq_nil_iff]
  simp

/-- What a page that has just been opened loads. -/
theorem sessionToLoad_eq_none_iff (hk : storage.WellKept) :
    ({} : ChatStoreState).sessionToLoad storage now documentId = none ↔
      ¬ HasSession storage now documentId := by
  have hread : ∀ s ∈ getAllSessions storage now, s ∈ storage.sessions :=
    getAllSessions_sublist.subset
  -- a session that is found has messages, so the filter keeps it
  have hfilter {found : Option ChatSession} (hf : ∀ s ∈ found, s ∈ storage.sessions) :
      (found.filter fun s => !s.messages.isEmpty) = none ↔ found = none := by
    cases found with
    | none => exact Iff.rfl
    | some s => simp [Option.filter, hk.messages s (hf s rfl)]
  unfold ChatStoreState.sessionToLoad HasSession
  rw [if_neg Bool.false_ne_true]
  cases truthy documentId with
  | some fileId =>
    dsimp only
    rw [hfilter fun s hs => hread s (mem_of_getSessionByFileId hs).1,
      getSessionByFileId_eq_none_iff]
    simp only [not_exists, not_and, ne_eq]
  | none =>
    dsimp only
    rw [hfilter fun s hs => hread s (List.mem_of_find?_eq_some hs), List.find?_eq_none]
    simp only [not_exists, not_and]
    refine forall₂_congr fun s hs => ?_
    rw [hk.truthy_fileId s (hread s hs)]
    cases s.fileId <;> simp

theorem messages_ne_nil_of_sessionToLoad {store : ChatStoreState}
    (h : store.sessionToLoad storage now documentId = some s) : s.messages ≠ [] := by
  unfold ChatStoreState.sessionToLoad at h
  split_ifs at h
  simpa using (Option.filter_eq_some_iff.1 h).2

theorem messages_loadSessionFromStorage_iff (hk : storage.WellKept) :
    (({} : ChatStoreState).loadSessionFromStorage storage now documentId).messages = [] ↔
      ¬ HasSession storage now documentId := by
  rw [← sessionToLoad_eq_none_iff hk]
  unfold ChatStoreState.loadSessionFromStorage
  cases hs : ({} : ChatStoreState).sessionToLoad storage now documentId with
  | none => exact iff_of_true rfl rfl
  | some s => exact iff_of_false (messages_ne_nil_of_sessionToLoad hs) (Option.some_ne_none s)

/-! ### What is left -/

/-- Deleting the session of a file leaves none of the file. -/
theorem not_hasSession_deleteSession (hk : storage.WellKept)
    (hw : (storage.available && !storage.full) = true) (hd : truthy documentId = some fileId)
    (hs : getSessionByFileId storage now fileId = some s) :
    ¬ HasSession (deleteSession storage now s.id) now' documentId := by
  rintro ⟨r, hr, hfile⟩
  have hr' : r ∈ (getAllSessions storage now).filter (·.id ≠ s.id) := by
    have hsub := getAllSessions_sublist.subset hr
    rwa [deleteSession, setSessions, if_pos hw] at hsub
  obtain ⟨hread, hid⟩ := List.mem_filter.1 hr'
  obtain ⟨hmem, hfile'⟩ := mem_of_getSessionByFileId hs
  -- the files are distinct, so it is the session that was deleted
  have hsame : r = s :=
    List.inj_on_of_nodup_map hk.nodup (getAllSessions_sublist.subset hread)
      (getAllSessions_sublist.subset hmem) ((hfile.trans hd).trans hfile'.symm)
  simp [hsame] at hid

end ChatStorage

/-! ### Clearing, and the next page -/

open ChatStorage

variable {t t' : Tab} {now reloaded now' : ℤ} {documentId : Option JsString}

namespace Tab

theorem clearConversationStorage_of_not_deletes (h : ¬ Deletes t.storage now documentId) :
    t.clearConversationStorage now documentId = t.storage := by
  unfold clearConversationStorage
  cases hd : truthy documentId with
  | none => rfl
  | some fileId =>
    dsimp only
    cases hs : getSessionByFileId t.storage now fileId with
    | none => rfl
    | some s =>
      obtain ⟨hmem, hfile⟩ := mem_of_getSessionByFileId hs
      have hw : ¬ (t.storage.available && !t.storage.full) = true := fun hw =>
        h ⟨by simp [hd], hw, s, hmem, hfile.trans hd.symm⟩
      dsimp only
      rw [deleteSession, setSessions, if_neg hw]

theorem not_hasSession_clear (hk : t.storage.WellKept) (h : Deletes t.storage now documentId) :
    ¬ HasSession (t.clearConversationStorage now documentId) now' documentId := by
  obtain ⟨hd, hw, s, hs, hfile⟩ := h
  obtain ⟨fileId, hd⟩ := Option.ne_none_iff_exists'.1 hd
  rw [hd] at hfile
  unfold clearConversationStorage
  rw [hd]
  dsimp only
  cases hfound : getSessionByFileId t.storage now fileId with
  | none => exact absurd hfile (getSessionByFileId_eq_none_iff.1 hfound s hs)
  | some found => exact not_hasSession_deleteSession hk hw hd hfound

end Tab

/-- The user clears the conversation, the page is loaded again, and it looks for the
conversation. -/
def clearAndReload (now reloaded now' : ℤ) (documentId : Option JsString) : List Event :=
  [⟨now, .clearConversation documentId⟩, ⟨reloaded, .reload⟩,
    ⟨now', .loadSessionFromStorage documentId⟩]

theorem exists_clearAndReload (t : Tab) (now reloaded now' : ℤ) (documentId : Option JsString) :
    ∃ t', AnyRun Tab.step t (clearAndReload now reloaded now' documentId) t' ∧
      t'.store = ({} : ChatStoreState).loadSessionFromStorage
        (t.clearConversationStorage now documentId) now' documentId :=
  ⟨_, .cons trivial rfl (.cons trivial rfl (.single trivial rfl)), rfl⟩

/-- **When a cleared conversation does not come back**: when it was about a document and its
session could be deleted, or when no session is there. -/
theorem cleared_gone_iff {config : Option StorageConfig} {es : List Event}
    (h : AnyRun Tab.step (Tab.opened config) es t)
    (hclear : AnyRun Tab.step t (clearAndReload now reloaded now' documentId) t') :
    t'.store.messages = [] ↔
      Deletes t.storage now documentId ∨ ¬ HasSession t.storage now' documentId := by
  have hk : t.storage.WellKept := wellKept_of_run h
  have hstep : t.step ⟨now, .clearConversation documentId⟩ = some _ := rfl
  have hcleared : (t.clearConversationStorage now documentId).WellKept := wellKept_step hk hstep
  obtain ⟨t'', hrun, hstore⟩ := exists_clearAndReload t now reloaded now' documentId
  rw [hclear.unique hrun, hstore, messages_loadSessionFromStorage_iff hcleared]
  by_cases hd : Deletes t.storage now documentId
  · exact iff_of_true (Tab.not_hasSession_clear hk hd) (.inl hd)
  · rw [Tab.clearConversationStorage_of_not_deletes hd, or_iff_right hd]

/-- The conversation about a document is deleted. -/
theorem cleared_gone_iff_document : ∃ es t t',
    AnyRun Tab.step (Tab.opened none) es t ∧ t.storage.sessions.length = 1 ∧
      AnyRun Tab.step t (clearAndReload 4 5 6 (some (js "d"))) t' ∧
        (t'.store.messages = [] ↔ Deletes t.storage 4 (some (js "d")) ∨
          ¬ HasSession t.storage 6 (some (js "d"))) := by
  have h : AnyRun Tab.step (Tab.opened none)
      [⟨0, .loadSessionFromStorage none⟩, ⟨1, .sendMessage (js "q") true⟩,
        ⟨2, .persistSession { documentId := some (js "d") } (js "r")⟩] _ :=
    .cons trivial rfl (.cons trivial rfl (.single trivial rfl))
  obtain ⟨t', hclear, -⟩ := exists_clearAndReload _ 4 5 6 (some (js "d"))
  exact ⟨_, _, t', h, rfl, hclear, cleared_gone_iff h hclear⟩

/-- **A conversation without a document comes back**: its session is not deleted. -/
theorem cleared_conversation_back :
    ¬ ∀ (config : Option StorageConfig) (es : List Event) (t : Tab),
      AnyRun Tab.step (Tab.opened config) es t → t.ops = [] →
        ∀ now reloaded now' documentId t',
          AnyRun Tab.step t (clearAndReload now reloaded now' documentId) t' →
            t'.store.messages = [] := by
  intro h
  let chunk : StreamChunk := { token := js "a", complete := true, conversationId := some (js "c") }
  have hrun : AnyRun Tab.step (Tab.opened none)
      [⟨0, .loadSessionFromStorage none⟩, ⟨1, .sendMessage (js "q") true⟩,
        ⟨2, .complete 0 (.chunk chunk)⟩, ⟨3, .complete 0 .frame⟩, ⟨4, .complete 0 .closed⟩,
        ⟨5, .persistSession {} (js "r")⟩] _ :=
    .cons trivial rfl (.cons trivial rfl (.cons trivial rfl (.cons trivial rfl
      (.cons trivial rfl (.single trivial rfl)))))
  have hempty := h none _ _ hrun rfl 6 7 8 none _
    (.cons trivial rfl (.cons trivial rfl (.single trivial rfl)))
  revert hempty
  decide

end Client

end StudyOasis
