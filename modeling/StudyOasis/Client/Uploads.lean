import StudyOasis.Client.Storage
import StudyOasis.Common.Upsert
import StudyOasis.Runs.Basic

/-!
# The upload history in the local storage

`UploadStorage.saveUpload` puts a record in the place of the one with the same key, or in front, and
cuts the history at the configured length; the other operations only take records out.

* `UploadStorage.Saved` : what a save that reaches the storage does;
* `uploads_kept_of_run` : the keys of the records are different in every run of the storage, with
  any device, clock and configuration.
-/

namespace StudyOasis

namespace Client

/-- `Partial<StorageConfig>`; a missing field is `none`. -/
structure PartialConfig where
  maxUploadRecords : Option ℕ := none
  maxChatSessions : Option ℕ := none
  defaultExpiry : Option ℤ := none
  maxStorageSize : Option ℕ := none
  enableAutoCleanup : Option Bool := none
  deriving DecidableEq, Repr

namespace ConfigStorage

/-- `ConfigStorage.updateConfig`. -/
def updateConfig (storage : LocalStorage) (config : PartialConfig) : LocalStorage :=
  if storage.available && !storage.full then
    let currentConfig := getConfig storage
    { storage with
      config := some
        { maxUploadRecords := config.maxUploadRecords.getD currentConfig.maxUploadRecords
          maxChatSessions := config.maxChatSessions.getD currentConfig.maxChatSessions
          defaultExpiry := config.defaultExpiry.getD currentConfig.defaultExpiry
          maxStorageSize := config.maxStorageSize.getD currentConfig.maxStorageSize
          enableAutoCleanup := config.enableAutoCleanup.getD currentConfig.enableAutoCleanup } }
  else storage

/-- `ConfigStorage.resetConfig`. -/
def resetConfig (storage : LocalStorage) : LocalStorage :=
  if storage.available then { storage with config := none } else storage

end ConfigStorage

namespace UploadStorage

/-- `cleanExpired`. -/
def cleanExpired (now : ℤ) (items : List UploadRecord) : List UploadRecord :=
  items.filter fun item => !isExpired now item.expiresAt

/-- `UploadStorage.getUploadHistory`. -/
def getUploadHistory (storage : LocalStorage) (now : ℤ) : List UploadRecord :=
  if storage.available then
    if (ConfigStorage.getConfig storage).enableAutoCleanup then cleanExpired now storage.uploads
    else storage.uploads
  else []

/-- `UploadStorage.getUploadById`. -/
def getUploadById (storage : LocalStorage) (now : ℤ) (id : JsString) : Option UploadRecord :=
  (getUploadHistory storage now).find? fun r => r.id = id || r.documentId = some id

/-- `localStorage.setItem(UPLOAD_HISTORY, …)`, in a `try`. -/
def setUploads (storage : LocalStorage) (uploads : List UploadRecord) : LocalStorage :=
  if storage.available && !storage.full then { storage with uploads } else storage

/-- `record.documentId || record.id`. -/
def recordKey (record : UploadRecord) : JsString := (truthy record.documentId).getD record.id

/-- The record with the expiry time and the document id that `saveUpload` gives it. -/
def stamped (config : StorageConfig) (now : ℤ) (expiryMs : Option ℤ) (record : UploadRecord) :
    UploadRecord :=
  { record with
    expiresAt :=
      match ChatStorage.givenExpiry expiryMs with
      | some ms => some (now + ms)
      | none => if (record.expiresAt.filter (· ≠ 0)).isSome then record.expiresAt
        else some (now + config.defaultExpiry)
    documentId := some ((truthy record.documentId).getD record.id) }

/-- `UploadStorage.saveUpload`. -/
def saveUpload (storage : LocalStorage) (now : ℤ) (record : UploadRecord) (expiryMs : Option ℤ) :
    LocalStorage :=
  if storage.available then
    let config := ConfigStorage.getConfig storage
    let history := getUploadHistory storage now
    let history := if config.enableAutoCleanup then cleanExpired now history else history
    let record := stamped config now expiryMs record
    setUploads storage ((put recordKey record history).take config.maxUploadRecords)
  else storage

/-- `UploadStorage.deleteUpload`. -/
def deleteUpload (storage : LocalStorage) (now : ℤ) (id : JsString) : LocalStorage :=
  setUploads storage
    ((getUploadHistory storage now).filter fun r => r.id ≠ id && r.documentId ≠ some id)

/-- `UploadStorage.clearUploadHistory`. -/
def clearUploadHistory (storage : LocalStorage) : LocalStorage :=
  if storage.available then { storage with uploads := [] } else storage

/-- `UploadStorage.cleanExpiredUploads`: the storage after it and the number it returns. -/
def cleanExpiredUploads (storage : LocalStorage) (now : ℤ) : LocalStorage × ℕ :=
  let history := getUploadHistory storage now
  let cleaned := cleanExpired now history
  if history.length ≠ cleaned.length then
    (setUploads storage cleaned,
      if storage.available && !storage.full then history.length - cleaned.length else 0)
  else (storage, 0)

end UploadStorage

/-! ### Runs of the storage -/

/-- A call of `UploadStorage`, `ChatStorage` or `ConfigStorage`; those that only read are left
out. -/
inductive StorageCall where
  | saveUpload (record : UploadRecord) (expiryMs : Option ℤ)
  | deleteUpload (id : JsString)
  | clearUploadHistory
  | cleanExpiredUploads
  | saveSession (random : JsString) (session : ChatStorage.SessionData) (expiryMs : Option ℤ)
      (conversationId : Option JsString)
  | deleteSession (id : JsString)
  | clearAllSessions
  | cleanExpiredSessions
  | updateConfig (config : PartialConfig)
  | resetConfig
  deriving DecidableEq, Repr

/-- A call with its time, and what the device does during the call. -/
structure StorageEvent where
  now : ℤ
  call : StorageCall
  available : Bool := true
  full : Bool := false
  deriving DecidableEq, Repr

namespace LocalStorage

/-- What a call does to the storage. -/
def afterCall (storage : LocalStorage) (now : ℤ) : StorageCall → LocalStorage
  | .saveUpload record expiryMs => UploadStorage.saveUpload storage now record expiryMs
  | .deleteUpload id => UploadStorage.deleteUpload storage now id
  | .clearUploadHistory => UploadStorage.clearUploadHistory storage
  | .cleanExpiredUploads => (UploadStorage.cleanExpiredUploads storage now).1
  | .saveSession random session expiryMs conversationId =>
    (ChatStorage.saveSession storage now random session expiryMs conversationId).1
  | .deleteSession id => ChatStorage.deleteSession storage now id
  | .clearAllSessions => ChatStorage.clearAllSessions storage
  | .cleanExpiredSessions => (ChatStorage.cleanExpiredSessions storage now).1
  | .updateConfig config => ConfigStorage.updateConfig storage config
  | .resetConfig => ConfigStorage.resetConfig storage

/-- The storage while the device behaves as given. -/
def onDevice (storage : LocalStorage) (available full : Bool) : LocalStorage :=
  { storage with available, full }

/-- One call. -/
def step (storage : LocalStorage) (e : StorageEvent) : Option LocalStorage :=
  some ((storage.onDevice e.available e.full).afterCall e.now e.call)

end LocalStorage

/-! ### The records -/

namespace UploadStorage

variable {storage : LocalStorage} {now : ℤ}

theorem cleanExpired_cleanExpired (now : ℤ) (items : List UploadRecord) :
    cleanExpired now (cleanExpired now items) = cleanExpired now items := by
  simp [cleanExpired, List.filter_filter]

/-- A read drops records only if they have expired. -/
theorem getUploadHistory_eq (h : storage.available = true) (now : ℤ) :
    getUploadHistory storage now = storage.uploads.filter fun r =>
      !((ConfigStorage.getConfig storage).enableAutoCleanup && isExpired now r.expiresAt) := by
  rw [getUploadHistory, if_pos h]
  cases (ConfigStorage.getConfig storage).enableAutoCleanup with
  | true => simp [cleanExpired]
  | false => simp

theorem getUploadHistory_sublist : (getUploadHistory storage now).Sublist storage.uploads := by
  by_cases h : storage.available = true
  · rw [getUploadHistory_eq h]
    exact List.filter_sublist
  · rw [getUploadHistory, if_neg h]
    exact List.nil_sublist _

theorem setUploads_uploads (storage : LocalStorage) (uploads : List UploadRecord) :
    (setUploads storage uploads).uploads =
      if storage.available && !storage.full then uploads else storage.uploads := by
  unfold setUploads
  split_ifs <;> rfl

/-- What a save makes of the records. -/
theorem uploads_saveUpload (storage : LocalStorage) (now : ℤ) (record : UploadRecord)
    (expiryMs : Option ℤ) :
    (saveUpload storage now record expiryMs).uploads =
      if storage.available && !storage.full then
        (put recordKey (stamped (ConfigStorage.getConfig storage) now expiryMs record)
          (getUploadHistory storage now)).take (ConfigStorage.getConfig storage).maxUploadRecords
      else storage.uploads := by
  unfold saveUpload
  by_cases h : storage.available = true
  · -- the history that was read is cleaned once more
    have hclean : (if (ConfigStorage.getConfig storage).enableAutoCleanup then
        cleanExpired now (getUploadHistory storage now) else getUploadHistory storage now) =
          getUploadHistory storage now := by
      split_ifs with hauto
      · rw [getUploadHistory, if_pos h, if_pos hauto, cleanExpired_cleanExpired]
      · rfl
    simp only [if_pos h, hclean, setUploads_uploads]
  · simp [h]

/-- **What a save that reaches the storage does**: the number of records respects the limit, and the
other records stay as they are and in their order, but for those that have expired and for what
stands beyond the limit. -/
structure Saved (storage : LocalStorage) (now : ℤ) (record : UploadRecord)
    (uploads : List UploadRecord) : Prop where
  length_le : uploads.length ≤ (ConfigStorage.getConfig storage).maxUploadRecords
  others : ∃ whole : List UploadRecord,
    uploads = whole.take (ConfigStorage.getConfig storage).maxUploadRecords ∧
    (whole.filter fun r => recordKey r ≠ recordKey record) =
      (storage.uploads.filter fun r =>
        !((ConfigStorage.getConfig storage).enableAutoCleanup && isExpired now r.expiresAt)).filter
          fun r => recordKey r ≠ recordKey record

/-- The key does not depend on what `saveUpload` adds. -/
theorem recordKey_stamped (config : StorageConfig) (now : ℤ) (expiryMs : Option ℤ)
    (record : UploadRecord) :
    recordKey (stamped config now expiryMs record) = recordKey record := by
  unfold recordKey stamped
  cases h : truthy record.documentId with
  | some d => simp [truthy, Option.filter_some, (ne_nil_of_truthy h).2]
  | none =>
    by_cases hid : record.id = [] <;> simp [truthy, Option.filter_some, hid]

theorem saved_saveUpload (h : (storage.available && !storage.full) = true) (now : ℤ)
    (record : UploadRecord) (expiryMs : Option ℤ) :
    Saved storage now record (saveUpload storage now record expiryMs).uploads := by
  have hav : storage.available = true := by simp_all
  rw [uploads_saveUpload, if_pos h]
  refine ⟨List.length_take_le _ _, _, rfl, ?_⟩
  rw [← getUploadHistory_eq hav, ← recordKey_stamped (ConfigStorage.getConfig storage) now expiryMs]
  exact filter_put _ _ _

end UploadStorage

/-! ### The keys -/

open UploadStorage

/-- The records have different keys. -/
def LocalStorage.UploadsKeyed (storage : LocalStorage) : Prop :=
  (storage.uploads.map recordKey).Nodup

variable {storage storage' : LocalStorage}

theorem LocalStorage.UploadsKeyed.of_sublist (h : storage.UploadsKeyed)
    (hs : storage'.uploads.Sublist storage.uploads) : storage'.UploadsKeyed :=
  h.sublist (hs.map _)

theorem setUploads_sublist {uploads : List UploadRecord} (h : uploads.Sublist storage.uploads) :
    (setUploads storage uploads).uploads.Sublist storage.uploads := by
  rw [setUploads_uploads]
  split_ifs
  · exact h
  · exact List.Sublist.refl _

theorem uploadsKeyed_saveUpload (h : storage.UploadsKeyed) (now : ℤ) (record : UploadRecord)
    (expiryMs : Option ℤ) : (saveUpload storage now record expiryMs).UploadsKeyed := by
  rw [LocalStorage.UploadsKeyed, uploads_saveUpload]
  split_ifs
  · exact (nodup_put (h.sublist (getUploadHistory_sublist.map _))).sublist
      ((List.take_sublist _ _).map _)
  · exact h

theorem uploads_setSessions (storage : LocalStorage) (sessions : List ChatSession) :
    (ChatStorage.setSessions storage sessions).uploads = storage.uploads := by
  unfold ChatStorage.setSessions
  split_ifs <;> rfl

/-- Every other call leaves the records, or takes some out. -/
theorem uploads_afterCall_sublist {now : ℤ} {call : StorageCall}
    (h : ∀ record expiryMs, call ≠ .saveUpload record expiryMs) :
    (storage.afterCall now call).uploads.Sublist storage.uploads := by
  cases call with
  | saveUpload record expiryMs => exact absurd rfl (h record expiryMs)
  | deleteUpload id =>
    exact setUploads_sublist (List.filter_sublist.trans getUploadHistory_sublist)
  | clearUploadHistory =>
    show (clearUploadHistory storage).uploads.Sublist _
    unfold clearUploadHistory
    split_ifs
    · exact List.nil_sublist _
    · exact List.Sublist.refl _
  | cleanExpiredUploads =>
    show (cleanExpiredUploads storage now).1.uploads.Sublist _
    unfold cleanExpiredUploads
    simp only
    split_ifs <;>
      first
      | exact setUploads_sublist (List.filter_sublist.trans getUploadHistory_sublist)
      | exact List.Sublist.refl _
  | saveSession random session expiryMs conversationId =>
    show (ChatStorage.saveSession storage now random session expiryMs
      conversationId).1.uploads.Sublist _
    unfold ChatStorage.saveSession
    split_ifs
    · rw [uploads_setSessions]
    · exact List.Sublist.refl _
  | deleteSession id =>
    show (ChatStorage.setSessions storage _).uploads.Sublist _
    rw [uploads_setSessions]
  | clearAllSessions =>
    show (ChatStorage.clearAllSessions storage).uploads.Sublist _
    unfold ChatStorage.clearAllSessions
    split_ifs <;> exact List.Sublist.refl _
  | cleanExpiredSessions =>
    show (ChatStorage.cleanExpiredSessions storage now).1.uploads.Sublist _
    unfold ChatStorage.cleanExpiredSessions
    simp only
    split_ifs <;> first | rw [uploads_setSessions] | exact List.Sublist.refl _
  | updateConfig config =>
    show (ConfigStorage.updateConfig storage config).uploads.Sublist _
    unfold ConfigStorage.updateConfig
    split_ifs <;> exact List.Sublist.refl _
  | resetConfig =>
    show (ConfigStorage.resetConfig storage).uploads.Sublist _
    unfold ConfigStorage.resetConfig
    split_ifs <;> exact List.Sublist.refl _

theorem uploadsKeyed_step {e : StorageEvent} (hs : storage.UploadsKeyed)
    (h : storage.step e = some storage') : storage'.UploadsKeyed := by
  obtain rfl := Option.some.inj h
  have hdevice : (storage.onDevice e.available e.full).UploadsKeyed := hs
  by_cases hsave : ∃ record expiryMs, e.call = .saveUpload record expiryMs
  · obtain ⟨record, expiryMs, hcall⟩ := hsave
    rw [hcall]
    exact uploadsKeyed_saveUpload hdevice e.now record expiryMs
  · simp only [not_exists] at hsave
    exact hdevice.of_sublist (uploads_afterCall_sublist hsave)

/-- **The upload history in every run**, from the empty storage: the keys of the records are
different, a save that reaches the storage does what it should, and one that does not changes
nothing. -/
theorem uploads_kept_of_run {es : List StorageEvent}
    (h : AnyRun LocalStorage.step {} es storage) :
    storage.UploadsKeyed ∧ ∀ (now : ℤ) (record : UploadRecord) (expiryMs : Option ℤ),
      Saved (storage.onDevice true false) now record
        (saveUpload (storage.onDevice true false) now record expiryMs).uploads ∧
      ∀ available full, (available && !full) = false →
        (saveUpload (storage.onDevice available full) now record expiryMs).uploads =
          storage.uploads := by
  refine ⟨h.invariant (I := LocalStorage.UploadsKeyed) List.nodup_nil
    fun _ _ _ hs _ hst => uploadsKeyed_step hs hst, ?_⟩
  intro now record expiryMs
  refine ⟨saved_saveUpload rfl now record expiryMs, fun available full hfail => ?_⟩
  rw [uploads_saveUpload, if_neg]
  · rfl
  · show ¬ (available && !full) = true
    simp [hfail]

/-- An upload. -/
def upload (id : JsString) : UploadRecord :=
  { id, filename := js "f", url := js "u", uploadedAt := 0 }

/-- Two uploads, the first one once more, and a lower limit. -/
def twoUploads : List StorageEvent :=
  [{ now := 1, call := .saveUpload (upload (js "a")) none },
    { now := 2, call := .saveUpload (upload (js "b")) none },
    { now := 3, call := .saveUpload (upload (js "a")) (some 5) },
    { now := 4, call := .updateConfig { maxUploadRecords := some 1 } }]

/-- A third upload is then the only one. -/
theorem uploads_kept_of_run_two : ∃ storage, AnyRun LocalStorage.step {} twoUploads storage ∧
    storage.UploadsKeyed ∧ storage.uploads.length = 2 ∧
    (saveUpload (storage.onDevice true false) 5 (upload (js "c")) none).uploads.length ≤ 1 := by
  have hrun : (twoUploads.foldlM LocalStorage.step {}).any (fun storage =>
      storage.uploads.length = 2 && (ConfigStorage.getConfig
        (storage.onDevice true false)).maxUploadRecords = 1) = true := by decide
  simp only [Option.any_eq_true, Bool.and_eq_true, decide_eq_true_eq] at hrun
  obtain ⟨storage, hrun, htwo, hlimit⟩ := hrun
  have hrun := Run.of_foldlM hrun
  obtain ⟨hkeyed, hsave⟩ := uploads_kept_of_run hrun
  refine ⟨storage, hrun, hkeyed, htwo, ?_⟩
  have hle := (hsave 5 (upload (js "c")) none).1.length_le
  rwa [hlimit] at hle

end Client

end StudyOasis
