import StudyOasis.Client.Uploads

/-!
# Reading back what was just saved

`saveSession` and `saveUpload` update an item where it stands and cut the list afterwards, so after
the limit was lowered a save can drop the very item that it saves.

* `ChatStorage.reads_session_iff` : when the session that was saved is found under its id;
* `UploadStorage.reads_upload_iff` : when the record that was saved is in the history.
-/

namespace StudyOasis

namespace Client

variable {storage : LocalStorage} {now t : ℤ}

namespace ChatStorage

variable {random : JsString} {session : SessionData} {expiryMs : Option ℤ}
  {conversationId : Option JsString}

/-- The session as `saveSession` saves it. -/
def savedSession (storage : LocalStorage) (now : ℤ) (random : JsString) (session : SessionData)
    (expiryMs : Option ℤ) (conversationId : Option JsString) : ChatSession :=
  match (getAllSessions storage now).find? (isExisting session.fileId) with
  | some s => updateExisting (ConfigStorage.getConfig storage) now session expiryMs conversationId s
  | none => newSession (ConfigStorage.getConfig storage) now random session expiryMs conversationId

/-- The session under the id has the messages that were saved. -/
def ReadsSession (storage : LocalStorage) (now : ℤ) (random : JsString) (session : SessionData)
    (expiryMs : Option ℤ) (conversationId : Option JsString) (t : ℤ) : Prop :=
  ((getSessionById (saveSession storage now random session expiryMs conversationId).1 t
    (saveSession storage now random session expiryMs conversationId).2).map ChatSession.messages) =
      some session.messages

instance (storage : LocalStorage) (now : ℤ) (random : JsString) (session : SessionData)
    (expiryMs : Option ℤ) (conversationId : Option JsString) (t : ℤ) :
    Decidable (ReadsSession storage now random session expiryMs conversationId t) :=
  inferInstanceAs (Decidable (_ = _))

/-- The session has the id and has not expired. -/
def readable (t : ℤ) (id : JsString) (s : ChatSession) : Bool :=
  s.id = id && !isExpired t s.expiresAt

/-- A session behind `pre` is found again under its id: it stands before the limit, and nothing in
front of it has the id (or what has it has the same messages). -/
def FoundAgain (limit : ℕ) (t : ℤ) (id : JsString) (messages : List Message)
    (pre : List ChatSession) : Prop :=
  match (pre.take limit).find? (readable t id) with
  | some x => x.messages = messages
  | none => pre.length < limit

instance (limit : ℕ) (t : ℤ) (id : JsString) (messages : List Message) (pre : List ChatSession) :
    Decidable (FoundAgain limit t id messages pre) := by
  unfold FoundAgain
  split <;> infer_instance

/-- The session of the file is found again, if there is one. -/
def SessionKept (storage : LocalStorage) (now : ℤ) (session : SessionData) (t : ℤ) : Prop :=
  ∀ s ∈ (getAllSessions storage now).find? (isExisting session.fileId),
    FoundAgain (ConfigStorage.getConfig storage).maxChatSessions t s.id session.messages
      ((getAllSessions storage now).takeWhile fun x => !isExisting session.fileId x)

instance (storage : LocalStorage) (now : ℤ) (session : SessionData) (t : ℤ) :
    Decidable (SessionKept storage now session t) :=
  inferInstanceAs (Decidable (∀ s ∈ (getAllSessions storage now).find? _, _))

/-- A list that is cut behind an item with the property. -/
theorem find?_take_append {α : Type*} {p : α → Bool} {pre post : List α} {x : α} (limit : ℕ)
    (hx : p x = true) :
    ((pre ++ x :: post).take limit).find? p =
      ((pre.take limit).find? p).or (if pre.length < limit then some x else none) := by
  rw [List.take_append, List.find?_append]
  congr 1
  split_ifs with h
  · obtain ⟨n, hn⟩ := Nat.exists_eq_succ_of_ne_zero (Nat.sub_ne_zero_of_lt h)
    rw [hn, List.take_succ_cons, List.find?_cons_of_pos hx]
  · rw [Nat.sub_eq_zero_of_le (not_lt.1 h), List.take_zero, List.find?_nil]

/-- A save that returns an id has reached the storage. -/
theorem writable_of_saveSession
    (h : (saveSession storage now random session expiryMs conversationId).2 ≠ []) :
    (storage.available && !storage.full) = true := by
  by_contra hnot
  rw [saveSession, if_neg hnot] at h
  exact h rfl

/-- **When the session that was saved is found under its id**, until it expires. -/
theorem reads_session_iff (hclean : (ConfigStorage.getConfig storage).enableAutoCleanup = true)
    (hlimit : 1 ≤ (ConfigStorage.getConfig storage).maxChatSessions)
    (hsaved : (saveSession storage now random session expiryMs conversationId).2 ≠ [])
    (hlive : isExpired t (savedSession storage now random session expiryMs
      conversationId).expiresAt = false) :
    ReadsSession storage now random session expiryMs conversationId t ↔
      SessionKept storage now session t := by
  have hw := writable_of_saveSession hsaved
  have hav : storage.available = true := by simp_all
  -- what is read is what was written and has not expired
  have hread (sessions : List ChatSession) (id : JsString) :
      getSessionById { storage with sessions } t id = sessions.find? (readable t id) := by
    have hclean' : (ConfigStorage.getConfig { storage with sessions }).enableAutoCleanup = true :=
      hclean
    rw [getSessionById, getAllSessions, if_pos hav, if_pos hclean', cleanExpired, List.find?_filter]
    congr 1
    funext x
    rw [readable, Bool.and_comm]
    simp
  unfold savedSession at hlive
  unfold ReadsSession SessionKept
  rw [saveSession_of_writable hw, hread]
  generalize getAllSessions storage now = sessions at *
  generalize ConfigStorage.getConfig storage = config at *
  rcases merged_cases config now random session expiryMs conversationId sessions with
    ⟨pre, s, post, rfl, hs, hpre, hmerged⟩ | ⟨hall, hmerged⟩
  · have hfind : (pre ++ s :: post).find? (isExisting session.fileId) = some s := by
      rw [List.find?_append, List.find?_eq_none.2 (by simpa using hpre), Option.none_or,
        List.find?_cons_of_pos hs]
    have htake : (pre ++ s :: post).takeWhile (fun x => !isExisting session.fileId x) = pre := by
      rw [List.takeWhile_append_of_pos (by simpa using hpre),
        List.takeWhile_cons_of_neg (by simp [hs]), List.append_nil]
    rw [hfind] at hlive
    have hs' : readable t s.id
        (updateExisting config now session expiryMs conversationId s) = true := by
      simpa [readable, updateExisting] using hlive
    rw [hmerged, hfind, htake, find?_take_append _ hs']
    simp only [Option.mem_some_iff, forall_eq', FoundAgain]
    cases (pre.take config.maxChatSessions).find? (readable t s.id) with
    | some x => simp
    | none =>
      by_cases hlt : pre.length < config.maxChatSessions <;> simp [hlt, updateExisting]
  · have hfind : sessions.find? (isExisting session.fileId) = none :=
      List.find?_eq_none.2 (by simpa using hall)
    rw [hfind] at hlive
    rw [hmerged, hfind]
    obtain ⟨n, hn⟩ := Nat.exists_eq_add_of_le' hlimit
    rw [hn, List.take_succ_cons, List.find?_cons_of_pos]
    · exact iff_of_true rfl (fun _ h => by cases h)
    · simpa [readable, newSession] using hlive

end ChatStorage

namespace UploadStorage

variable {record : UploadRecord} {expiryMs : Option ℤ}

/-- The record as `saveUpload` saves it is in the history. -/
def ReadsUpload (storage : LocalStorage) (now : ℤ) (record : UploadRecord) (expiryMs : Option ℤ)
    (t : ℤ) : Prop :=
  stamped (ConfigStorage.getConfig storage) now expiryMs record ∈
    getUploadHistory (saveUpload storage now record expiryMs) t

/-- The write reaches the storage and the record of this key, if there is one, stands before the
limit; or the write fails, and the very same record was stored before. -/
def UploadKept (storage : LocalStorage) (now : ℤ) (record : UploadRecord) (expiryMs : Option ℤ) :
    Prop :=
  if storage.available && !storage.full then
    Fits recordKey (stamped (ConfigStorage.getConfig storage) now expiryMs record)
      (ConfigStorage.getConfig storage).maxUploadRecords (getUploadHistory storage now)
  else storage.available = true ∧
    stamped (ConfigStorage.getConfig storage) now expiryMs record ∈ storage.uploads

instance (storage : LocalStorage) (now : ℤ) (record : UploadRecord) (expiryMs : Option ℤ) (t : ℤ) :
    Decidable (ReadsUpload storage now record expiryMs t) :=
  inferInstanceAs (Decidable (_ ∈ _))

instance (storage : LocalStorage) (now : ℤ) (record : UploadRecord) (expiryMs : Option ℤ) :
    Decidable (UploadKept storage now record expiryMs) := by
  unfold UploadKept
  split <;> infer_instance

/-- A save changes only the records. -/
theorem saveUpload_eq (storage : LocalStorage) (now : ℤ) (record : UploadRecord)
    (expiryMs : Option ℤ) :
    saveUpload storage now record expiryMs =
      { storage with uploads := (saveUpload storage now record expiryMs).uploads } := by
  unfold saveUpload setUploads
  split_ifs <;> rfl

/-- **When the record that was saved is in the history**, until it expires. -/
theorem reads_upload_iff (hlimit : 1 ≤ (ConfigStorage.getConfig storage).maxUploadRecords)
    (hlive : isExpired t (stamped (ConfigStorage.getConfig storage) now expiryMs
      record).expiresAt = false) :
    ReadsUpload storage now record expiryMs t ↔ UploadKept storage now record expiryMs := by
  unfold ReadsUpload UploadKept
  by_cases hav : storage.available = true
  · -- the record has not expired, so it is read if it is stored
    have hread : stamped (ConfigStorage.getConfig storage) now expiryMs record ∈
        getUploadHistory (saveUpload storage now record expiryMs) t ↔
          stamped (ConfigStorage.getConfig storage) now expiryMs record ∈
            (saveUpload storage now record expiryMs).uploads := by
      have hav' : (saveUpload storage now record expiryMs).available = true := by
        rw [saveUpload_eq]
        exact hav
      rw [getUploadHistory_eq hav', List.mem_filter]
      simp [hlive]
    rw [hread, uploads_saveUpload]
    split_ifs
    · exact mem_take_put_iff hlimit
    · simp [hav]
  · rw [saveUpload_eq, getUploadHistory, if_neg hav]
    simp [hav]

end UploadStorage

open ChatStorage UploadStorage

/-- **When a save can be read back**: for every storage, whatever was done to it before. -/
theorem read_own_save_iff (storage : LocalStorage)
    (hclean : (ConfigStorage.getConfig storage).enableAutoCleanup = true)
    (hsessions : 1 ≤ (ConfigStorage.getConfig storage).maxChatSessions)
    (huploads : 1 ≤ (ConfigStorage.getConfig storage).maxUploadRecords) :
    (∀ (now t : ℤ) (random : JsString) (session : SessionData) (expiryMs : Option ℤ)
        (conversationId : Option JsString),
      (saveSession storage now random session expiryMs conversationId).2 ≠ [] →
      isExpired t
        (savedSession storage now random session expiryMs conversationId).expiresAt = false →
      (ReadsSession storage now random session expiryMs conversationId t ↔
        SessionKept storage now session t)) ∧
    ∀ (now t : ℤ) (record : UploadRecord) (expiryMs : Option ℤ),
      isExpired t
        (stamped (ConfigStorage.getConfig storage) now expiryMs record).expiresAt = false →
      (ReadsUpload storage now record expiryMs t ↔ UploadKept storage now record expiryMs) :=
  ⟨fun _ _ _ _ _ _ hsaved hlive => reads_session_iff hclean hsessions hsaved hlive,
    fun _ _ _ _ hlive => reads_upload_iff huploads hlive⟩

/-- The messages of a session. -/
def said (text : String) : List Message := [{ role := .user, content := js text }]

/-- The data of a session of a file. -/
def sessionOf (fileId text : String) : SessionData :=
  { fileId := some (js fileId), messages := said text }

/-- Two sessions and two uploads, and then limits of one. -/
def loweredLimits : List StorageEvent :=
  [{ now := 1, call := .saveSession (js "x") (sessionOf "a" "q") none none },
    { now := 2, call := .saveSession (js "y") (sessionOf "b" "q") none none },
    { now := 3, call := .saveUpload (upload (js "a")) none },
    { now := 4, call := .saveUpload (upload (js "b")) none },
    { now := 5, call := .updateConfig { maxUploadRecords := some 1, maxChatSessions := some 1 } }]

/-- Saves before the limits are lowered. -/
theorem read_own_save_iff_early :
    ∃ storage, AnyRun LocalStorage.step {} (loweredLimits.take 4) storage ∧
      ReadsSession storage 5 (js "z") (sessionOf "a" "r") none none 6 ∧
      ReadsUpload storage 5 (upload (js "a")) none 6 := by
  have hrun : ((loweredLimits.take 4).foldlM LocalStorage.step {}).any (fun storage =>
      (((ConfigStorage.getConfig storage).enableAutoCleanup = true ∧
        1 ≤ (ConfigStorage.getConfig storage).maxChatSessions ∧
        1 ≤ (ConfigStorage.getConfig storage).maxUploadRecords) ∧
      (saveSession storage 5 (js "z") (sessionOf "a" "r") none none).2 ≠ [] ∧
      isExpired 6
        (savedSession storage 5 (js "z") (sessionOf "a" "r") none none).expiresAt = false ∧
      SessionKept storage 5 (sessionOf "a" "r") 6) ∧
      isExpired 6 (stamped (ConfigStorage.getConfig storage) 5 none
        (upload (js "a"))).expiresAt = false ∧
      UploadKept storage 5 (upload (js "a")) none) = true := by decide
  simp only [Option.any_eq_true, decide_eq_true_eq] at hrun
  obtain ⟨storage, hrun, ⟨⟨hclean, hsessions, huploads⟩, hsaved, hlive, hkept⟩, hlive', hkept'⟩ :=
    hrun
  obtain ⟨hsession, hupload⟩ := read_own_save_iff storage hclean hsessions huploads
  exact ⟨storage, Run.of_foldlM hrun, (hsession _ _ _ _ _ _ hsaved hlive).2 hkept,
    (hupload _ _ _ _ hlive').2 hkept'⟩

/-- After the limits are lowered, a save drops what it saves. -/
theorem own_save_dropped :
    (¬ ∀ (es : List StorageEvent) (storage : LocalStorage) (now t : ℤ) (random : JsString)
        (session : SessionData) (expiryMs : Option ℤ) (conversationId : Option JsString),
      AnyRun LocalStorage.step {} es storage →
      (ConfigStorage.getConfig storage).enableAutoCleanup = true →
      1 ≤ (ConfigStorage.getConfig storage).maxChatSessions →
      (saveSession storage now random session expiryMs conversationId).2 ≠ [] →
      isExpired t
        (savedSession storage now random session expiryMs conversationId).expiresAt = false →
      ReadsSession storage now random session expiryMs conversationId t) ∧
    ¬ ∀ (es : List StorageEvent) (storage : LocalStorage) (now t : ℤ) (record : UploadRecord)
        (expiryMs : Option ℤ),
      AnyRun LocalStorage.step {} es storage →
      (ConfigStorage.getConfig storage).enableAutoCleanup = true →
      1 ≤ (ConfigStorage.getConfig storage).maxUploadRecords →
      (storage.available && !storage.full) = true →
      isExpired t
        (stamped (ConfigStorage.getConfig storage) now expiryMs record).expiresAt = false →
      ReadsUpload storage now record expiryMs t := by
  have hrun : (loweredLimits.foldlM LocalStorage.step {}).any (fun storage =>
      (((ConfigStorage.getConfig storage).enableAutoCleanup = true ∧
        1 ≤ (ConfigStorage.getConfig storage).maxChatSessions ∧
        1 ≤ (ConfigStorage.getConfig storage).maxUploadRecords) ∧
      (saveSession storage 6 (js "z") (sessionOf "a" "r") none none).2 ≠ [] ∧
      isExpired 7
        (savedSession storage 6 (js "z") (sessionOf "a" "r") none none).expiresAt = false ∧
      ¬ ReadsSession storage 6 (js "z") (sessionOf "a" "r") none none 7) ∧
      (storage.available && !storage.full) = true ∧
      isExpired 7 (stamped (ConfigStorage.getConfig storage) 6 none
        (upload (js "a"))).expiresAt = false ∧
      ¬ ReadsUpload storage 6 (upload (js "a")) none 7) = true := by decide
  simp only [Option.any_eq_true, decide_eq_true_eq] at hrun
  obtain ⟨storage, hrun, ⟨⟨hclean, hsessions, huploads⟩, hsaved, hlive, hlost⟩, hw, hlive',
    hlost'⟩ := hrun
  have hrun := Run.of_foldlM hrun
  exact ⟨fun h => hlost (h _ _ _ _ _ _ _ _ hrun hclean hsessions hsaved hlive),
    fun h => hlost' (h _ _ _ _ _ _ hrun hclean huploads hw hlive')⟩

end Client

end StudyOasis
