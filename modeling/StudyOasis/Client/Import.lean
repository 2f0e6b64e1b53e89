import StudyOasis.Common.Batch
import StudyOasis.Text.Json

/-!
# Importing a file

`importData` takes whatever file the user chose: it writes the properties of the parsed value under
the keys of the storage, one after the other, and a write that throws ends it.  Here the storage
holds texts, and a value of the file has any shape.

* `RawStorage.importData_eq` : an import is a batch of writes;
* `RawStorage.importData_item` : what is stored after an import that succeeds;
* `RawStorage.unchanged_iff` : **exactly when a failed import changes nothing**.
-/

namespace StudyOasis

namespace Client

/-- `STORAGE_KEYS`, without the one that is only removed. -/
inductive StorageKey where
  | uploadHistory
  | chatSessions
  | config
  deriving DecidableEq, Repr

/-- The property of a backup that is stored under the key. -/
def StorageKey.field : StorageKey → JsString
  | uploadHistory => js "uploadHistory"
  | chatSessions => js "chatSessions"
  | config => js "config"

/-- The local storage, as it holds texts. -/
structure RawStorage where
  /-- `localStorage.getItem(key)`. -/
  item : StorageKey → Option JsString
  /-- The length of all other items. -/
  others : ℕ
  /-- `isLocalStorageAvailable()`. -/
  available : Bool

namespace RawStorage

variable (engine : JsEngine) (fails : StorageKey → Bool)

/-! ### The import -/

/-- `localStorage.setItem(key, text)`: the storage after it, and whether it did not throw. -/
def setItem (storage : RawStorage) (key : StorageKey) (text : JsString) : RawStorage × Bool :=
  if fails key then (storage, false)
  else ({ storage with item := Function.update storage.item key (some text) }, true)

/-- `if (data[field]) localStorage.setItem(key, JSON.stringify(data[field]))`. -/
def restoreItem (storage : RawStorage) (data : JsonValue) (key : StorageKey) : RawStorage × Bool :=
  match truthyValue (data.property key.field) with
  | some value => storage.setItem fails key (engine.stringify value)
  | none => (storage, true)

/-- `data && typeof data === 'object'`. -/
def validFormat (data : JsonValue) : Bool := data.isTruthy && data.typeofObject

/-- `StorageUtils.importData`: the storage after it, and what it returns. -/
def importData (storage : RawStorage) (jsonData : JsString) : RawStorage × Bool :=
  if storage.available then
    match engine.parse jsonData with
    | none => (storage, false)
    | some data =>
      if validFormat data then
        let uploads := storage.restoreItem engine fails data .uploadHistory
        if uploads.2 then
          let sessions := uploads.1.restoreItem engine fails data .chatSessions
          if sessions.2 then sessions.1.restoreItem engine fails data .config
          else sessions
        else uploads
      else (storage, false)
  else (storage, false)

/-! ### Its writes -/

/-- What the file has for a key. -/
def importedValue (jsonData : JsString) (key : StorageKey) : Option JsonValue :=
  ((engine.parse jsonData).filter validFormat).bind fun data =>
    truthyValue (data.property key.field)

/-- The text that the import writes under a key. -/
def importedText (jsonData : JsString) (key : StorageKey) : Option JsString :=
  (importedValue engine jsonData key).map engine.stringify

/-- The write of a key. -/
def importedWrite (jsonData : JsString) (key : StorageKey) : List (StorageKey × JsString) :=
  ((importedText engine jsonData key).map fun text => (key, text)).toList

/-- The writes of the import, in their order. -/
def importedWrites (jsonData : JsString) : List (StorageKey × JsString) :=
  importedWrite engine jsonData .uploadHistory ++ (importedWrite engine jsonData .chatSessions ++
    importedWrite engine jsonData .config)

/-- A storage after a batch of writes. -/
def write (storage : RawStorage) (ws : List (StorageKey × JsString)) : RawStorage × Bool :=
  ({ storage with item := (writeAll fails ws storage.item).1 },
    (writeAll fails ws storage.item).2)

variable {engine fails} {storage : RawStorage} {jsonData : JsString} {data : JsonValue}

theorem write_append (ws ws' : List (StorageKey × JsString)) :
    storage.write fails (ws ++ ws') =
      if (storage.write fails ws).2 then (storage.write fails ws).1.write fails ws'
      else storage.write fails ws := by
  unfold write
  rw [writeAll_append]
  dsimp only
  split_ifs <;> rfl

theorem importedValue_eq (hparse : engine.parse jsonData = some data)
    (hformat : validFormat data = true) (key : StorageKey) :
    importedValue engine jsonData key = truthyValue (data.property key.field) := by
  rw [importedValue, hparse, Option.filter_some, if_pos hformat, Option.bind_some]

theorem restoreItem_eq (hparse : engine.parse jsonData = some data)
    (hformat : validFormat data = true) (storage : RawStorage) (key : StorageKey) :
    storage.restoreItem engine fails data key =
      storage.write fails (importedWrite engine jsonData key) := by
  rw [restoreItem, importedWrite, importedText, importedValue_eq hparse hformat]
  cases truthyValue (data.property key.field) with
  | none => rfl
  | some value =>
    cases h : fails key with
    | true => simp [setItem, h, write, writeAll_cons_of_fails h]
    | false => simp [setItem, h, write, writeAll_cons h]

/-- **An import** is a batch of writes, unless the file is refused. -/
theorem importData_eq :
    storage.importData engine fails jsonData =
      if storage.available = true ∧ ((engine.parse jsonData).filter validFormat).isSome = true then
        storage.write fails (importedWrites engine jsonData)
      else (storage, false) := by
  unfold importData
  cases hav : storage.available with
  | false => simp
  | true =>
    cases hparse : engine.parse jsonData with
    | none => simp
    | some data =>
      cases hformat : validFormat data with
      | false => simp [hformat]
      | true =>
        simp only [restoreItem_eq hparse hformat, importedWrites, write_append]
        simp [hformat]

theorem mem_importedWrites {key : StorageKey} {text : JsString} :
    (key, text) ∈ importedWrites engine jsonData ↔
      importedText engine jsonData key = some text := by
  cases key <;> simp [importedWrites, importedWrite]

/-- Each key is written once. -/
theorem nodup_importedWrites : ((importedWrites engine jsonData).map Prod.fst).Nodup := by
  unfold importedWrites importedWrite
  cases importedText engine jsonData .uploadHistory <;>
    cases importedText engine jsonData .chatSessions <;>
      cases importedText engine jsonData .config <;> simp

/-- A file that is refused has no writes. -/
theorem importedWrites_eq_nil (h : (engine.parse jsonData).filter validFormat = none) :
    importedWrites engine jsonData = [] := by
  simp [importedWrites, importedWrite, importedText, importedValue, h]

theorem write_snd (ws : List (StorageKey × JsString)) :
    (storage.write fails ws).2 = ws.all fun w => !fails w.1 := writeAll_snd

theorem write_fst_eq_self_iff {ws : List (StorageKey × JsString)}
    (hnodup : (ws.map Prod.fst).Nodup) :
    (storage.write fails ws).1 = storage ↔
      ∀ w ∈ written fails ws, storage.item w.1 = some w.2 := by
  rw [← writeAll_fst_eq_self_iff hnodup]
  constructor
  · exact fun h => congrArg RawStorage.item h
  · intro h
    rw [write, h]

/-- **What is stored after an import** that succeeds: the texts of the file, and under a key it does
not have what was stored before. -/
theorem importData_item (h : (storage.importData engine fails jsonData).2 = true)
    (key : StorageKey) :
    (storage.importData engine fails jsonData).1.item key =
      (importedText engine jsonData key).or (storage.item key) := by
  rw [importData_eq] at h ⊢
  split_ifs at h ⊢ with himports
  have hall : written fails (importedWrites engine jsonData) = importedWrites engine jsonData :=
    written_of_all (writeAll_snd.symm.trans h)
  cases htext : importedText engine jsonData key with
  | some text =>
    refine writeAll_fst_of_mem nodup_importedWrites ?_
    rw [hall]
    exact mem_importedWrites.2 htext
  | none =>
    refine writeAll_fst_of_notMem fun text hmem => ?_
    rw [hall, mem_importedWrites, htext] at hmem
    cases hmem

/-- **A failed import leaves the storage as it was** exactly when the storage is not available, no
write throws, or what is written before one throws is stored already. -/
theorem unchanged_iff (engine : JsEngine) (fails : StorageKey → Bool) (storage : RawStorage)
    (jsonData : JsString) :
    ((storage.importData engine fails jsonData).2 = false →
        (storage.importData engine fails jsonData).1 = storage) ↔
      storage.available = false ∨ (∀ w ∈ importedWrites engine jsonData, fails w.1 = false) ∨
        ∀ w ∈ written fails (importedWrites engine jsonData), storage.item w.1 = some w.2 := by
  rw [importData_eq]
  by_cases himports :
      storage.available = true ∧ ((engine.parse jsonData).filter validFormat).isSome = true
  · obtain ⟨hav, hformat⟩ := himports
    rw [if_pos ⟨hav, hformat⟩, write_snd, write_fst_eq_self_iff nodup_importedWrites, hav]
    simp only [Bool.true_eq_false, false_or]
    constructor
    · intro h
      cases hall : (importedWrites engine jsonData).all fun w => !fails w.1 with
      | true => exact .inl fun w hw => by simpa using List.all_eq_true.1 hall w hw
      | false => exact .inr (h hall)
    · rintro (hnone | hsame) hfailed
      · have hall : (importedWrites engine jsonData).all (fun w => !fails w.1) = true :=
          List.all_eq_true.2 fun w hw => by simp [hnone w hw]
        rw [hall] at hfailed
        cases hfailed
      · exact hsame
  · rw [if_neg himports]
    refine iff_of_true (fun _ => rfl) ?_
    cases hav : storage.available with
    | false => exact .inl rfl
    | true =>
      have hrefused : (engine.parse jsonData).filter validFormat = none :=
        Option.not_isSome_iff_eq_none.1 fun h => himports ⟨hav, h⟩
      rw [importedWrites_eq_nil hrefused]
      exact .inr (.inl fun w hw => absurd hw List.not_mem_nil)

/-! ### A full storage -/

/-- A file with two empty lists. -/
def emptyBackup : JsString := js "\x7b\"uploadHistory\":[],\"chatSessions\":[]\x7d"

/-- An engine that reads this file. -/
def emptyBackupEngine : JsEngine :=
  .exact (fun text =>
    if text = emptyBackup then
      some (.obj [(js "uploadHistory", .arr []), (js "chatSessions", .arr [])])
    else none) fun _ => js "[]"

/-- A storage without the three items. -/
def empty (others : ℕ) : RawStorage := ⟨fun _ => none, others, true⟩

/-- There is an upload history after an import that has failed: the sessions had no room. -/
theorem uploads_written :
    ((empty 5242848).importData emptyBackupEngine (· = .chatSessions) emptyBackup).2 = false ∧
      ((empty 5242848).importData emptyBackupEngine (· = .chatSessions) emptyBackup).1.item
          .uploadHistory ≠
        (empty 5242848).item .uploadHistory := by
  constructor
  · decide +kernel
  · decide +kernel

end RawStorage

end Client

end StudyOasis
