import StudyOasis.Client.Uploads

/-!
# Backups of the storage

`exportData` reads through the filters of the configuration, `importData` writes what it finds in
the text.  A backup that is imported into another storage is read there as it was read before
(`StorageUtils.import_export`).  `JSON.stringify` and `JSON.parse` are parameters.
-/

namespace StudyOasis

namespace Client

/-- The data that `exportData` writes. -/
structure Backup where
  uploadHistory : List UploadRecord
  chatSessions : List ChatSession
  config : StorageConfig
  exportedAt : ℤ
  version : JsString
  deriving DecidableEq, Repr

/-- The fields that `importData` reads; one that is missing or falsy is `none`. -/
structure BackupFields where
  uploadHistory : Option (List UploadRecord) := none
  chatSessions : Option (List ChatSession) := none
  config : Option StorageConfig := none
  deriving DecidableEq, Repr

/-- The fields of a backup; lists and objects are truthy, also when they are empty. -/
def Backup.fields (data : Backup) : BackupFields :=
  { uploadHistory := some data.uploadHistory
    chatSessions := some data.chatSessions
    config := some data.config }

/-- `JSON` on backups. -/
structure Json where
  /-- `JSON.stringify(data, null, 2)`. -/
  stringify : Backup → JsString
  /-- `JSON.parse`; a text that is not JSON, or no object, is `none`. -/
  parse : JsString → Option BackupFields

namespace StorageUtils

open UploadStorage ChatStorage

/-- The data of a storage. -/
def backup (storage : LocalStorage) (now : ℤ) : Backup :=
  { uploadHistory := getUploadHistory storage now
    chatSessions := getAllSessions storage now
    config := ConfigStorage.getConfig storage
    exportedAt := now
    version := js "1.1.0" }

/-- `StorageUtils.exportData`. -/
def exportData (json : Json) (storage : LocalStorage) (now : ℤ) : JsString :=
  if storage.available then json.stringify (backup storage now) else js "\x7b\x7d"

/-- `if (value) localStorage.setItem(…)`; a write that throws is `none`. -/
def writeItem {α : Type} (value : Option α) (set : LocalStorage → α → LocalStorage)
    (storage : LocalStorage) : Option LocalStorage :=
  match value with
  | none => some storage
  | some a => if storage.full then none else some (set storage a)

/-- `StorageUtils.importData`: the storage after it and what it returns. -/
def importData (json : Json) (storage : LocalStorage) (jsonData : JsString) :
    LocalStorage × Bool :=
  if storage.available then
    match json.parse jsonData with
    | none => (storage, false)
    | some data =>
      let written :=
        (writeItem data.uploadHistory (fun s uploads => { s with uploads }) storage).bind fun s =>
          (writeItem data.chatSessions (fun s sessions => { s with sessions }) s).bind
            (writeItem data.config fun s config => { s with config := some config })
      -- the first write that there is throws, if any does
      match written with
      | some storage => (storage, true)
      | none => (storage, false)
  else (storage, false)

theorem isExpired_mono {now t : ℤ} (h : now ≤ t) {expiresAt : Option ℤ}
    (he : isExpired now expiresAt = true) : isExpired t expiresAt = true := by
  cases expiresAt with
  | none => exact he
  | some time =>
    simp only [isExpired, Bool.and_eq_true, decide_eq_true_eq] at he ⊢
    exact ⟨he.1, he.2.trans_le h⟩

/-- What is read now and read again later is what is read later. -/
theorem filter_live {α : Type} {expiresAt : α → Option ℤ} {now t : ℤ} (h : now ≤ t)
    (items : List α) :
    (items.filter fun a => !isExpired now (expiresAt a)).filter
        (fun a => !isExpired t (expiresAt a)) =
      items.filter fun a => !isExpired t (expiresAt a) := by
  rw [List.filter_filter]
  refine List.filter_congr fun a _ => ?_
  cases hnow : isExpired now (expiresAt a) with
  | true => simp [isExpired_mono h hnow]
  | false => simp

/-- The storage after a backup is imported. -/
theorem importData_exportData {json : Json} {source target : LocalStorage} {now : ℤ}
    (hs : source.available = true) (ht : (target.available && !target.full) = true)
    (hjson : json.parse (json.stringify (backup source now)) = some (backup source now).fields) :
    importData json target (exportData json source now) =
      ({ target with
          uploads := getUploadHistory source now
          sessions := getAllSessions source now
          config := some (ConfigStorage.getConfig source) }, true) := by
  have hav : target.available = true := by simp_all
  have hfull : target.full = false := by simp_all
  rw [importData, if_pos hav, exportData, if_pos hs, hjson]
  simp [writeItem, backup, Backup.fields, hfull]

/-- A storage with what was read from another one is read in the same way, under the same
configuration. -/
theorem reads_eq {source after : LocalStorage} {now t : ℤ} (ht : now ≤ t)
    (hs : source.available = true) (ha : after.available = true)
    (hconfig : ConfigStorage.getConfig after = ConfigStorage.getConfig source)
    (huploads : after.uploads = getUploadHistory source now)
    (hsessions : after.sessions = getAllSessions source now) :
    getUploadHistory after t = getUploadHistory source t ∧
      getAllSessions after t = getAllSessions source t := by
  unfold getUploadHistory at *
  unfold getAllSessions at *
  rw [huploads, hsessions, hconfig]
  simp only [if_pos hs, if_pos ha]
  split_ifs
  · exact ⟨filter_live ht _, filter_live ht _⟩
  · exact ⟨rfl, rfl⟩

/-- **A backup that is imported is read as it was**, at that moment and later. -/
theorem import_export (json : Json) (source target : LocalStorage) (now : ℤ)
    (hjson : json.parse (json.stringify (backup (source.onDevice true false) now)) =
      some (backup (source.onDevice true false) now).fields) :
    ∃ after, importData json (target.onDevice true false)
        (exportData json (source.onDevice true false) now) = (after, true) ∧
      ConfigStorage.getConfig after = ConfigStorage.getConfig (source.onDevice true false) ∧
      ∀ t, now ≤ t →
        getUploadHistory after t = getUploadHistory (source.onDevice true false) t ∧
        getAllSessions after t = getAllSessions (source.onDevice true false) t := by
  exact ⟨_, importData_exportData rfl rfl hjson, rfl, fun t ht => reads_eq ht rfl rfl rfl rfl rfl⟩

/-- A storage with one record and a lower limit. -/
def oneUpload : LocalStorage :=
  { uploads :=
      [{ id := js "a", documentId := some (js "a"), filename := js "f", url := js "u"
         uploadedAt := 1, expiresAt := some 9 }]
    config := some { maxUploadRecords := 1 } }

/-- Its backup at the time 2, as a text. -/
def oneUploadText : JsString :=
  js (String.intercalate "\n"
    ["\x7b", "  \"uploadHistory\": [", "    \x7b", "      \"id\": \"a\",",
      "      \"filename\": \"f\",", "      \"url\": \"u\",", "      \"uploadedAt\": 1,",
      "      \"expiresAt\": 9,", "      \"documentId\": \"a\"", "    \x7d", "  ],",
      "  \"chatSessions\": [],", "  \"config\": \x7b", "    \"maxUploadRecords\": 1,",
      "    \"maxChatSessions\": 20,", "    \"defaultExpiry\": 604800000,",
      "    \"maxStorageSize\": 5242880,", "    \"enableAutoCleanup\": true", "  \x7d,",
      "  \"exportedAt\": 2,", "  \"version\": \"1.1.0\"", "\x7d"])

/-- `JSON` on one backup and its text. -/
def jsonOf (data : Backup) (text : JsString) : Json :=
  { stringify := fun _ => text
    parse := fun jsonData => if jsonData = text then some data.fields else none }

theorem parse_jsonOf (data other : Backup) (text : JsString) :
    (jsonOf data text).parse ((jsonOf data text).stringify other) = some data.fields := if_pos rfl

/-- `JSON` on the backup. -/
def oneUploadJson : Json := jsonOf (backup (oneUpload.onDevice true false) 2) oneUploadText

/-- The backup is imported into the empty storage. -/
theorem import_export_one : ∃ after,
    importData oneUploadJson (LocalStorage.onDevice {} true false)
      (exportData oneUploadJson (oneUpload.onDevice true false) 2) = (after, true) ∧
    getUploadHistory after 3 = oneUpload.uploads ∧ getUploadHistory after 10 = [] := by
  obtain ⟨after, himport, -, hread⟩ := import_export oneUploadJson oneUpload {} 2
    (parse_jsonOf _ _ oneUploadText)
  exact ⟨after, himport, (hread 3 (by decide)).1.trans (by decide),
    (hread 10 (by decide)).1.trans (by decide)⟩

end StorageUtils

end Client

end StudyOasis
