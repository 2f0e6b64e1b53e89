import StudyOasis.Common.OrderBy
import StudyOasis.Chat.Prompt
import StudyOasis.Text.Utf16

/-!
# The sessions in the local storage

`ChatStorage` keeps the conversations of the user under one key of the local storage: reading
drops what has expired, saving looks for a session by its `fileId`, replaces its messages or adds
a session in front, and cuts the list at the configured length.

* `ChatStorage.saveSession_cases` : what saving does to the stored sessions.

The clock, the random part of an id and the state of the device are parameters.
-/

namespace StudyOasis

namespace Client

/-- `value || undefined` for a string: the empty string is dropped too. -/
def truthy (value : Option JsString) : Option JsString := value.filter (· ≠ [])

@[simp] theorem truthy_truthy (value : Option JsString) : truthy (truthy value) = truthy value := by
  simp [truthy, Option.filter_filter]

theorem ne_nil_of_truthy {value : Option JsString} {c : JsString} (h : truthy value = some c) :
    value = some c ∧ c ≠ [] := by
  simpa [truthy, Option.filter_eq_some_iff] using h

/-- A replacement character makes no string empty, nor the other way round. -/
theorem truthy_map_toWellFormed (value : Option JsString) :
    truthy (value.map Utf16.toWellFormed) = (truthy value).map Utf16.toWellFormed := by
  cases value with
  | none => rfl
  | some s =>
    by_cases hs : s = []
    · subst hs
      rfl
    · simp [truthy, Option.filter, Utf16.toWellFormed_eq_nil_iff, hs]

/-! ### The data -/

/-- The role of a message. -/
inductive MessageRole where
  | user
  | assistant
  deriving DecidableEq, Repr

/-- `FileAttachmentData`. -/
structure FileAttachmentData where
  filename : JsString
  fileUrl : Option JsString := none
  documentId : Option JsString := none
  fileSize : Option ℕ := none
  uploadTime : Option ℤ := none
  deriving DecidableEq, Repr

/-- `Message`. -/
structure Message where
  role : MessageRole
  content : JsString
  hintLevel : Option HintLevel := none
  conversationId : Option JsString := none
  timestamp : Option ℤ := none
  attachment : Option FileAttachmentData := none
  deriving DecidableEq, Repr

/-- `ChatSession`. -/
structure ChatSession where
  id : JsString
  fileId : Option JsString := none
  filename : Option JsString := none
  fileUrl : Option JsString := none
  conversationId : Option JsString := none
  messages : List Message
  createdAt : ℤ
  updatedAt : ℤ
  expiresAt : Option ℤ := none
  deriving DecidableEq, Repr

/-- `UploadRecord`. -/
structure UploadRecord where
  id : JsString
  documentId : Option JsString := none
  filename : JsString
  url : JsString
  uploadedAt : ℤ
  fileSize : Option ℕ := none
  fileType : Option JsString := none
  expiresAt : Option ℤ := none
  deriving DecidableEq, Repr

/-- `StorageConfig`. -/
structure StorageConfig where
  maxUploadRecords : ℕ := 50
  maxChatSessions : ℕ := 20
  defaultExpiry : ℤ := 7 * 24 * 60 * 60 * 1000
  maxStorageSize : ℕ := 5 * 1024 * 1024
  enableAutoCleanup : Bool := true
  deriving DecidableEq, Repr

/-- The local storage, with what the device does on a write. -/
structure LocalStorage where
  /-- `CHAT_SESSIONS`; a missing key reads as no session. -/
  sessions : List ChatSession := []
  /-- `UPLOAD_HISTORY`; a missing key reads as no record. -/
  uploads : List UploadRecord := []
  /-- `CONFIG`. -/
  config : Option StorageConfig := none
  /-- `isLocalStorageAvailable()`. -/
  available : Bool := true
  /-- Writing the data throws. -/
  full : Bool := false
  deriving DecidableEq, Repr

/-- `ConfigStorage.getConfig`. -/
def ConfigStorage.getConfig (storage : LocalStorage) : StorageConfig :=
  if storage.available then storage.config.getD {} else {}

/-- `isExpired`: no time, and the time 0, never pass. -/
def isExpired (now : ℤ) (expiresAt : Option ℤ) : Bool :=
  match expiresAt with
  | none => false
  | some time => time ≠ 0 && time < now

/-- `cleanExpired`. -/
def cleanExpired (now : ℤ) (items : List ChatSession) : List ChatSession :=
  items.filter fun item => !isExpired now item.expiresAt

/-! ### Reading -/

namespace ChatStorage

/-- `ChatStorage.getAllSessions`. -/
def getAllSessions (storage : LocalStorage) (now : ℤ) : List ChatSession :=
  if storage.available then
    if (ConfigStorage.getConfig storage).enableAutoCleanup then cleanExpired now storage.sessions
    else storage.sessions
  else []

/-- `ChatStorage.getSessionById`. -/
def getSessionById (storage : LocalStorage) (now : ℤ) (id : JsString) : Option ChatSession :=
  (getAllSessions storage now).find? (·.id = id)

/-- `ChatStorage.getSessionByFileId`: the session of the file that was updated last. -/
def getSessionByFileId (storage : LocalStorage) (now : ℤ) (fileId : JsString) :
    Option ChatSession :=
  (orderByDesc (·.updatedAt)
    ((getAllSessions storage now).filter fun s => s.fileId = some fileId)).head?

/-! ### Writing -/

/-- `localStorage.setItem(CHAT_SESSIONS, …)`, in a `try`. -/
def setSessions (storage : LocalStorage) (sessions : List ChatSession) : LocalStorage :=
  if storage.available && !storage.full then { storage with sessions } else storage

/-- `ChatStorage.generateSessionId`. -/
def generateSessionId (now : ℤ) (random : JsString) (fileId : Option JsString) : JsString :=
  let stem := (truthy fileId).getD (js "general")
  stem ++ js "_" ++ js (toString now) ++ js "_" ++ random

/-- What `saveSession` is given: `fileId`, `filename`, `fileUrl` and `messages`. -/
structure SessionData where
  fileId : Option JsString := none
  filename : Option JsString := none
  fileUrl : Option JsString := none
  messages : List Message
  deriving DecidableEq, Repr

/-- The test by which `saveSession` looks for the session to replace. -/
def isExisting (fileId : Option JsString) (s : ChatSession) : Bool :=
  decide (s.fileId = fileId) && !s.messages.isEmpty

/-- `expiryMs` is given, and not 0. -/
def givenExpiry (expiryMs : Option ℤ) : Option ℤ := expiryMs.filter (· ≠ 0)

/-- The changes to an existing session. -/
def updateExisting (config : StorageConfig) (now : ℤ) (session : SessionData)
    (expiryMs : Option ℤ) (conversationId : Option JsString) (s : ChatSession) : ChatSession :=
  { s with
    messages := session.messages
    updatedAt := now
    conversationId :=
      match truthy conversationId with
      | some c => some c
      | none => s.conversationId
    expiresAt :=
      match givenExpiry expiryMs with
      | some ms => some (now + ms)
      | none => if (s.expiresAt.filter (· ≠ 0)).isSome then s.expiresAt
        else some (now + config.defaultExpiry) }

/-- The conversation id of an existing session changes only to one that is given. -/
theorem conversationId_updateExisting (config : StorageConfig) (now : ℤ) (session : SessionData)
    (expiryMs : Option ℤ) (conversationId : Option JsString) (s : ChatSession) :
    (updateExisting config now session expiryMs conversationId s).conversationId =
        truthy conversationId ∨
      truthy conversationId = none ∧
        (updateExisting config now session expiryMs conversationId s).conversationId =
          s.conversationId := by
  unfold updateExisting
  cases truthy conversationId with
  | some c => exact .inl rfl
  | none => exact .inr ⟨rfl, rfl⟩

/-- The session that is added in front. -/
def newSession (config : StorageConfig) (now : ℤ) (random : JsString) (session : SessionData)
    (expiryMs : Option ℤ) (conversationId : Option JsString) : ChatSession :=
  { id := generateSessionId now random session.fileId
    fileId := session.fileId
    filename := session.filename
    fileUrl := session.fileUrl
    conversationId
    messages := session.messages
    createdAt := now
    updatedAt := now
    expiresAt := some (now + ((givenExpiry expiryMs).getD config.defaultExpiry)) }

/-- Replace the first element that passes the test; the flag tells whether there is one. -/
def replaceFirst {α : Type*} (p : α → Bool) (f : α → α) : List α → List α
  | [] => []
  | x :: xs => if p x then f x :: xs else x :: replaceFirst p f xs

/-- The sessions that `saveSession` works on: what `getAllSessions` reads, cleaned once more. -/
def liveSessions (storage : LocalStorage) (now : ℤ) : List ChatSession :=
  let sessions := getAllSessions storage now
  if (ConfigStorage.getConfig storage).enableAutoCleanup then cleanExpired now sessions
  else sessions

/-- The sessions before they are cut to the limit, and the id that is returned. -/
def merged (config : StorageConfig) (now : ℤ) (random : JsString) (session : SessionData)
    (expiryMs : Option ℤ) (conversationId : Option JsString) (sessions : List ChatSession) :
    List ChatSession × JsString :=
  match sessions.find? (isExisting session.fileId) with
  | some existing =>
    (replaceFirst (isExisting session.fileId)
      (updateExisting config now session expiryMs conversationId) sessions, existing.id)
  | none =>
    let s := newSession config now random session expiryMs conversationId
    (s :: sessions, s.id)

/-- `ChatStorage.saveSession`: the storage after it and the id it returns. -/
def saveSession (storage : LocalStorage) (now : ℤ) (random : JsString) (session : SessionData)
    (expiryMs : Option ℤ) (conversationId : Option JsString) : LocalStorage × JsString :=
  if storage.available && !storage.full then
    let config := ConfigStorage.getConfig storage
    -- the first session of the file is replaced, or a new one is put in front
    let (sessions, sessionId) := merged config now random session expiryMs conversationId
      (liveSessions storage now)
    (setSessions storage (sessions.take config.maxChatSessions), sessionId)
  -- the error is caught: nothing is written, and the id is empty
  else (storage, [])

/-- `ChatStorage.deleteSession`. -/
def deleteSession (storage : LocalStorage) (now : ℤ) (id : JsString) : LocalStorage :=
  setSessions storage ((getAllSessions storage now).filter (·.id ≠ id))

/-- `ChatStorage.cleanExpiredSessions`: the storage after it and the number it returns. -/
def cleanExpiredSessions (storage : LocalStorage) (now : ℤ) : LocalStorage × ℕ :=
  let sessions := getAllSessions storage now
  let cleaned := cleanExpired now sessions
  if sessions.length ≠ cleaned.length then
    (setSessions storage cleaned,
      if storage.available && !storage.full then sessions.length - cleaned.length else 0)
  else (storage, 0)

/-- `ChatStorage.clearAllSessions`. -/
def clearAllSessions (storage : LocalStorage) : LocalStorage :=
  if storage.available then { storage with sessions := [] } else storage

end ChatStorage

/-! ### What the operations do -/

theorem cleanExpired_cleanExpired (now : ℤ) (items : List ChatSession) :
    cleanExpired now (cleanExpired now items) = cleanExpired now items := by
  simp [cleanExpired, List.filter_filter]

namespace ChatStorage

variable {storage : LocalStorage} {now : ℤ}

theorem getAllSessions_sublist : (getAllSessions storage now).Sublist storage.sessions := by
  unfold getAllSessions cleanExpired
  split_ifs
  · exact List.filter_sublist
  · exact List.Sublist.refl _
  · exact List.nil_sublist _

/-- A session that has not expired is read. -/
theorem mem_getAllSessions (h : storage.available = true) {s : ChatSession}
    (hs : s ∈ storage.sessions) (hlive : isExpired now s.expiresAt = false) :
    s ∈ getAllSessions storage now := by
  rw [getAllSessions, if_pos h]
  split_ifs
  · exact List.mem_filter.2 ⟨hs, by simp [hlive]⟩
  · exact hs

theorem liveSessions_eq : liveSessions storage now = getAllSessions storage now := by
  unfold liveSessions getAllSessions
  by_cases h : (ConfigStorage.getConfig storage).enableAutoCleanup = true
  · simp only [h, if_true]
    split_ifs
    · exact cleanExpired_cleanExpired now _
    · rfl
  · simp only [h, Bool.false_eq_true, if_false]

theorem setSessions_sublist {sessions : List ChatSession}
    (h : sessions.Sublist storage.sessions) :
    (setSessions storage sessions).sessions.Sublist storage.sessions := by
  unfold setSessions
  split_ifs
  · exact h
  · exact List.Sublist.refl _

theorem deleteSession_sublist {id : JsString} :
    (deleteSession storage now id).sessions.Sublist storage.sessions :=
  setSessions_sublist (List.filter_sublist.trans getAllSessions_sublist)

theorem clearAllSessions_sublist :
    (clearAllSessions storage).sessions.Sublist storage.sessions := by
  unfold clearAllSessions
  split_ifs
  · exact List.nil_sublist _
  · exact List.Sublist.refl _

theorem replaceFirst_append {α : Type*} {p : α → Bool} {f : α → α} {pre post : List α} {x : α}
    (hpre : ∀ y ∈ pre, p y = false) (hx : p x = true) :
    replaceFirst p f (pre ++ x :: post) = pre ++ f x :: post := by
  induction pre with
  | nil => simp [replaceFirst, hx]
  | cons y pre ih =>
    rw [List.cons_append, replaceFirst, hpre y List.mem_cons_self, if_neg Bool.false_ne_true,
      ih fun z hz => hpre z (List.mem_cons_of_mem y hz)]
    rfl

/-- **What saving does**: the first session of the same file that has messages is replaced where
it stands, or there is none and a session is added in front. -/
theorem merged_cases (config : StorageConfig) (now : ℤ) (random : JsString)
    (session : SessionData) (expiryMs : Option ℤ) (conversationId : Option JsString)
    (sessions : List ChatSession) :
    (∃ pre s post, sessions = pre ++ s :: post ∧ isExisting session.fileId s = true ∧
      (∀ x ∈ pre, isExisting session.fileId x = false) ∧
      merged config now random session expiryMs conversationId sessions =
        (pre ++ updateExisting config now session expiryMs conversationId s :: post, s.id)) ∨
    ((∀ x ∈ sessions, isExisting session.fileId x = false) ∧
      merged config now random session expiryMs conversationId sessions =
        (newSession config now random session expiryMs conversationId :: sessions,
          generateSessionId now random session.fileId)) := by
  cases hfind : sessions.find? (isExisting session.fileId) with
  | none =>
    right
    refine ⟨?_, by rw [merged, hfind]; rfl⟩
    intro x hx
    simpa using List.find?_eq_none.1 hfind x hx
  | some s =>
    left
    obtain ⟨hs, pre, post, rfl, hpre⟩ := List.find?_eq_some_iff_append.1 hfind
    have hpre' : ∀ x ∈ pre, isExisting session.fileId x = false := by
      intro x hx
      simpa using hpre x hx
    refine ⟨pre, s, post, rfl, hs, hpre', ?_⟩
    rw [merged, hfind]
    simp only [replaceFirst_append hpre' hs]

/-- A save that reaches the storage. -/
theorem saveSession_of_writable (h : (storage.available && !storage.full) = true)
    (random : JsString) (session : SessionData) (expiryMs : Option ℤ)
    (conversationId : Option JsString) :
    saveSession storage now random session expiryMs conversationId =
      ({ storage with
          sessions := (merged (ConfigStorage.getConfig storage) now random session expiryMs
            conversationId (getAllSessions storage now)).1.take
              (ConfigStorage.getConfig storage).maxChatSessions },
        (merged (ConfigStorage.getConfig storage) now random session expiryMs conversationId
          (getAllSessions storage now)).2) := by
  rw [saveSession, if_pos h, liveSessions_eq]
  simp only [setSessions, h, if_true]

end ChatStorage

end Client

end StudyOasis
