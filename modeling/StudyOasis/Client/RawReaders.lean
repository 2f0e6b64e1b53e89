import Mathlib.Algebra.Order.Ring.Cast
import StudyOasis.Client.Import
import StudyOasis.Client.Storage

/-!
# Reading what was imported

The readers of `UploadStorage`, `ChatStorage` and `StorageUtils` over a storage that holds texts:
they take what is parsed for arrays of records, and throw a `TypeError` where it is something else.

* `RawStorage.noneThrows_iff` : the values that all readers can read;
* `RawStorage.readable_iff` : **exactly when no reader throws after an import**.
-/

namespace StudyOasis

namespace Client

/-- `StorageConfig`, with values of any shape. -/
structure RawConfig where
  maxUploadRecords : JsonValue
  maxChatSessions : JsonValue
  defaultExpiry : JsonValue
  maxStorageSize : JsonValue
  enableAutoCleanup : JsonValue

/-- `DEFAULT_CONFIG`. -/
def RawConfig.default : RawConfig :=
  let config : StorageConfig := {}
  { maxUploadRecords := .num (.finite config.maxUploadRecords)
    maxChatSessions := .num (.finite config.maxChatSessions)
    defaultExpiry := .num (.finite config.defaultExpiry)
    maxStorageSize := .num (.finite config.maxStorageSize)
    enableAutoCleanup := .bool config.enableAutoCleanup }

/-- `{ ...DEFAULT_CONFIG, ...savedConfig }`; a property that nothing reads is left out. -/
def RawConfig.withSaved (savedConfig : JsonValue) : RawConfig :=
  { maxUploadRecords :=
      (savedConfig.property (js "maxUploadRecords")).getD default.maxUploadRecords
    maxChatSessions := (savedConfig.property (js "maxChatSessions")).getD default.maxChatSessions
    defaultExpiry := (savedConfig.property (js "defaultExpiry")).getD default.defaultExpiry
    maxStorageSize := (savedConfig.property (js "maxStorageSize")).getD default.maxStorageSize
    enableAutoCleanup :=
      (savedConfig.property (js "enableAutoCleanup")).getD default.enableAutoCleanup }

/-- What `checkCapacity` returns. -/
structure Capacity where
  used : JsNumber
  available : JsNumber
  percentage : JsNumber
  isNearLimit : Bool
  deriving DecidableEq

/-- What `getSessionStats` returns. -/
structure SessionStats where
  totalSessions : ℕ
  totalMessages : JsSum
  oldestSession : Option JsNumber
  newestSession : Option JsNumber
  deriving DecidableEq

/-- What `getStorageStats` returns. -/
structure StorageStats where
  capacity : Capacity
  sessions : SessionStats
  total : Option JsonValue
  limit : JsonValue
  config : RawConfig

namespace RawStorage

variable (engine : JsEngine)

/-! ### Reading a key -/

/-- `safeParse(text, [])`. -/
def safeParse (text : Option JsString) : JsonValue :=
  match truthy text with
  | none => .arr []
  | some text => (engine.parse text).getD (.arr [])

/-- The configuration of a text; one that is not JSON is logged. -/
def savedConfig (text : Option JsString) : RawConfig :=
  match (truthy text).bind engine.parse with
  | none => .default
  | some saved => .withSaved saved

/-- `ConfigStorage.getConfig`. -/
def getConfig (storage : RawStorage) : RawConfig :=
  if storage.available then savedConfig engine (storage.item .config) else .default

/-- `isExpired(expiresAt)`. -/
def isExpired (now : ℤ) (expiresAt : Option JsonValue) : Js Bool :=
  match truthyValue expiresAt with
  | none => pure false
  | some expiresAt => (fun time => time.lt (.finite now)) <$> expiresAt.toNumber engine

/-- `!isExpired(item.expiresAt)`. -/
def isKept (now : ℤ) (item : JsonValue) : Js Bool := do
  let expiresAt ← item.get (js "expiresAt")
  (!·) <$> isExpired engine now expiresAt

/-- `cleanExpired(items)`. -/
def cleanExpired (now : ℤ) (items : JsonValue) : Js (List JsonValue) := do
  filterJs (isKept engine now) (← items.items)

/-- What `getUploadHistory` and `getAllSessions` do with their keys. -/
def readList (storage : RawStorage) (now : ℤ) (key : StorageKey) : Js JsonValue :=
  if storage.available then
    let items := safeParse engine (storage.item key)
    if (getConfig engine storage).enableAutoCleanup.isTruthy then
      .arr <$> cleanExpired engine now items
    else pure items
  else pure (.arr [])

/-! ### The readers -/

/-- `UploadStorage.getUploadHistory`. -/
def getUploadHistory (storage : RawStorage) (now : ℤ) : Js JsonValue :=
  storage.readList engine now .uploadHistory

/-- `r.id === id || r.documentId === id`. -/
def isUpload (id : JsString) (r : JsonValue) : Js Bool := do
  let key ← r.get (js "id")
  if equalsText id key then pure true else equalsText id <$> r.get (js "documentId")

/-- `UploadStorage.getUploadById`. -/
def getUploadById (storage : RawStorage) (now : ℤ) (id : JsString) : Js (Option JsonValue) := do
  let history ← storage.getUploadHistory engine now
  findJs (isUpload id) (← history.items)

/-- `ChatStorage.getAllSessions`. -/
def getAllSessions (storage : RawStorage) (now : ℤ) : Js JsonValue :=
  storage.readList engine now .chatSessions

/-- `ChatStorage.getSessionById`. -/
def getSessionById (storage : RawStorage) (now : ℤ) (id : JsString) : Js (Option JsonValue) := do
  let sessions ← storage.getAllSessions engine now
  findJs (fun s => equalsText id <$> s.get (js "id")) (← sessions.items)

/-- `sessions.sort((a, b) => b.updatedAt - a.updatedAt)`: one session is not compared.  Where the
comparison gives `NaN`, the order is the engine's. -/
def sortByUpdatedAt (sessions : List JsonValue) : Js (List JsonValue) :=
  if sessions.length < 2 then pure sessions
  else do
    let keyed ← sessions.mapM fun s => do
      let updatedAt ← s.get (js "updatedAt")
      (·, s) <$> numberOf engine updatedAt
    pure ((keyed.insertionSort fun a b =>
      !(JsNumber.finite 0).lt (engine.sub b.1 a.1)).map (·.2))

/-- `ChatStorage.getSessionByFileId`. -/
def getSessionByFileId (storage : RawStorage) (now : ℤ) (fileId : JsString) :
    Js (Option JsonValue) := do
  let sessions ← storage.getAllSessions engine now
  let fileSessions ← filterJs (fun s => equalsText fileId <$> s.get (js "fileId"))
    (← sessions.items)
  List.head? <$> sortByUpdatedAt engine fileSessions

/-- `sum + s.messages.length`. -/
def addMessages (sum : JsSum) (s : JsonValue) : Js JsSum := do
  let messages ← s.get (js "messages")
  sum.plus engine (← lengthOf messages)

/-- `Number(s.createdAt)`, as `Math.min` and `Math.max` convert it. -/
def createdAt (s : JsonValue) : Js JsNumber := do
  numberOf engine (← s.get (js "createdAt"))

/-- `ChatStorage.getSessionStats`. -/
def getSessionStats (storage : RawStorage) (now : ℤ) : Js SessionStats := do
  let sessions ← (← storage.getAllSessions engine now).items
  let totalMessages ← sessions.foldlM (addMessages engine) (.num (.finite 0))
  let times ← sessions.mapM (createdAt engine)
  pure
    { totalSessions := sessions.length
      totalMessages
      oldestSession := if times = [] then none else some (times.foldl .min .posInf)
      newestSession := if times = [] then none else some (times.foldl .max .negInf) }

/-- `StorageUtils.getStorageSize`. -/
def getStorageSize (storage : RawStorage) : ℕ :=
  if storage.available then
    let length (key : StorageKey) := ((storage.item key).map List.length).getD 0
    (length .uploadHistory + length .chatSessions + length .config + storage.others) * 2
  else 0

/-- `StorageUtils.checkCapacity`. -/
def checkCapacity (storage : RawStorage) : Js Capacity := do
  let used : JsNumber := .finite storage.getStorageSize
  let max ← (getConfig engine storage).maxStorageSize.toNumber engine
  let hundred : JsNumber := .finite 100
  let percentage := engine.mul (engine.div used max) hundred
  pure
    { used
      available := .max (.finite 0) (engine.sub max used)
      percentage := engine.div (engine.round (engine.mul percentage hundred)) hundred
      isNearLimit := (JsNumber.finite 80).lt percentage }

/-- `StorageUtils.getStorageStats`. -/
def getStorageStats (storage : RawStorage) (now : ℤ) : Js StorageStats := do
  let capacity ← storage.checkCapacity engine
  let sessions ← storage.getSessionStats engine now
  let uploadHistory ← storage.getUploadHistory engine now
  let total ← uploadHistory.length
  let config := getConfig engine storage
  pure { capacity, sessions, total, limit := config.maxUploadRecords, config }

/-! ### What can be read -/

/-- The items of an array. -/
def itemsOf : JsonValue → List JsonValue
  | .arr items => items
  | _ => []

/-- The time of expiry of an entry can be compared, if it has one. -/
def Datable (entry : JsonValue) : Prop :=
  (truthyValue (entry.property (js "expiresAt"))).all JsonValue.convertible = true

/-- The entry has expired. -/
def expired (now : ℤ) (entry : JsonValue) : Bool :=
  match isExpired engine now (entry.property (js "expiresAt")) with
  | .ok passed => passed
  | .error _ => false

/-- The entries that are returned. -/
def live (config : RawConfig) (now : ℤ) (value : JsonValue) : List JsonValue :=
  (itemsOf value).filter fun entry =>
    !(config.enableAutoCleanup.isTruthy && expired engine now entry)

/-- An array whose times can all be compared, where they are. -/
def Filterable (config : RawConfig) (value : JsonValue) : Prop :=
  (∃ items, value = .arr items) ∧ (config.enableAutoCleanup.isTruthy = true →
    ∀ entry ∈ itemsOf value, entry ≠ .null ∧ Datable entry)

/-- The session has messages that can be counted. -/
def HasMessages (s : JsonValue) : Prop :=
  ∃ length, lengthOf (s.property (js "messages")) = .ok length ∧
    length.all JsonValue.convertible = true

/-- The sessions of a file. -/
def ofFile (fileId : JsString) (sessions : List JsonValue) : List JsonValue :=
  sessions.filter fun s => equalsText fileId (s.property (js "fileId"))

/-- The values under the keys can be read. -/
structure Readable (now : ℤ) (config : RawConfig) (uploads sessions : JsonValue) : Prop where
  /-- The uploads are an array. -/
  uploads_filterable : Filterable config uploads
  /-- No upload is `null`. -/
  uploads_ne_null : ∀ r ∈ itemsOf uploads, r ≠ .null
  /-- The sessions are an array. -/
  sessions_filterable : Filterable config sessions
  /-- No session is `null`. -/
  sessions_ne_null : ∀ s ∈ itemsOf sessions, s ≠ .null
  /-- The messages of a session can be counted. -/
  messages : ∀ s ∈ live engine config now sessions, HasMessages s
  /-- The times at which the sessions were created are numbers. -/
  created : ∀ s ∈ live engine config now sessions,
    (s.property (js "createdAt")).all JsonValue.convertible = true
  /-- The sessions of one file can be compared. -/
  updated : ∀ fileId, 2 ≤ (ofFile fileId (live engine config now sessions)).length →
    ∀ s ∈ ofFile fileId (live engine config now sessions),
      (s.property (js "updatedAt")).all JsonValue.convertible = true
  /-- The size of the storage is a number. -/
  capacity : config.maxStorageSize.convertible = true

/-- No reader throws. -/
structure NoneThrows (storage : RawStorage) (now : ℤ) : Prop where
  getUploadHistory : (storage.getUploadHistory engine now).isOk = true
  getUploadById : ∀ id, (storage.getUploadById engine now id).isOk = true
  getAllSessions : (storage.getAllSessions engine now).isOk = true
  getSessionById : ∀ id, (storage.getSessionById engine now id).isOk = true
  getSessionByFileId : ∀ fileId, (storage.getSessionByFileId engine now fileId).isOk = true
  getSessionStats : (storage.getSessionStats engine now).isOk = true
  getStorageStats : (storage.getStorageStats engine now).isOk = true

/-- What is read of a key. -/
def entries (storage : RawStorage) (now : ℤ) (key : StorageKey) : List JsonValue :=
  live engine (getConfig engine storage) now (safeParse engine (storage.item key))

/-- The value of a key can be filtered. -/
def CanFilter (storage : RawStorage) (key : StorageKey) : Prop :=
  Filterable (getConfig engine storage) (safeParse engine (storage.item key))

/-! ### Reading a list -/

section

variable {engine} {storage : RawStorage} {now : ℤ} {key : StorageKey}

theorem isOk_isExpired (expiresAt : Option JsonValue) :
    (isExpired engine now expiresAt).isOk = (truthyValue expiresAt).all JsonValue.convertible := by
  rw [isExpired]
  cases truthyValue expiresAt with
  | none => rfl
  | some time => exact (isOk_map _).trans (time.isOk_toNumber engine)

/-- The callback of `cleanExpired`. -/
theorem isOk_isKept {entry : JsonValue} :
    (isKept engine now entry).isOk = true ↔ entry ≠ .null ∧ Datable entry := by
  by_cases hnull : entry = .null
  · rw [hnull]
    exact iff_of_false Bool.false_ne_true fun h => h.1 rfl
  · rw [isKept, isOk_bind_of_eq (JsonValue.get_of_ne_null hnull _), isOk_map, isOk_isExpired]
    exact (and_iff_right hnull).symm

theorem isKept_eq {entry : JsonValue} (hnull : entry ≠ .null) (hdate : Datable entry) :
    isKept engine now entry = .ok (!expired engine now entry) := by
  have hok : (isExpired engine now (entry.property (js "expiresAt"))).isOk = true :=
    (isOk_isExpired _).trans hdate
  obtain ⟨passed, hexp⟩ := isOk_iff.1 hok
  rw [isKept, JsonValue.get_of_ne_null hnull, expired, hexp]
  show (!·) <$> isExpired engine now (entry.property (js "expiresAt")) = _
  rw [hexp]
  rfl

theorem isOk_cleanExpired {value : JsonValue} :
    (cleanExpired engine now value).isOk = true ↔
      (∃ items, value = .arr items) ∧ ∀ entry ∈ itemsOf value, entry ≠ .null ∧ Datable entry := by
  cases value with
  | arr items =>
    rw [cleanExpired, isOk_bind_of_eq (JsonValue.items_eq_ok.2 rfl), isOk_filterJs]
    simp only [isOk_isKept, itemsOf]
    exact (and_iff_right ⟨items, rfl⟩).symm
  | _ => exact iff_of_false Bool.false_ne_true fun ⟨⟨_, h⟩, _⟩ => (by cases h)

theorem cleanExpired_eq {items : List JsonValue}
    (h : ∀ entry ∈ items, entry ≠ .null ∧ Datable entry) :
    cleanExpired engine now (.arr items) =
      .ok (items.filter fun entry => !expired engine now entry) := by
  show filterJs _ items = _
  exact filterJs_eq fun entry hentry => isKept_eq (h entry hentry).1 (h entry hentry).2

/-- The list of a key is an array of entries that can be filtered. -/
theorem isOk_readItems (hav : storage.available = true) :
    (storage.readList engine now key >>= JsonValue.items).isOk = true ↔
      storage.CanFilter engine key := by
  rw [readList, if_pos hav]
  cases hclean : (getConfig engine storage).enableAutoCleanup.isTruthy with
  | true =>
    have hitems : ((JsonValue.arr <$> cleanExpired engine now
        (safeParse engine (storage.item key))) >>= JsonValue.items).isOk =
        (cleanExpired engine now (safeParse engine (storage.item key))).isOk := by
      cases cleanExpired engine now (safeParse engine (storage.item key)) <;> rfl
    rw [if_pos rfl, hitems, isOk_cleanExpired, CanFilter, Filterable, hclean]
    simp
  | false =>
    rw [if_neg Bool.false_ne_true, CanFilter, Filterable, hclean]
    cases safeParse engine (storage.item key) with
    | arr items => exact iff_of_true rfl ⟨⟨items, rfl⟩, fun h => (by cases h)⟩
    | _ => exact iff_of_false Bool.false_ne_true fun ⟨⟨_, h⟩, _⟩ => (by cases h)

/-- The entries of a key. -/
theorem readList_eq (hav : storage.available = true) (h : storage.CanFilter engine key) :
    storage.readList engine now key = .ok (.arr (storage.entries engine now key)) := by
  obtain ⟨⟨items, hitems⟩, hentries⟩ := h
  rw [readList, if_pos hav, entries]
  rw [hitems] at hentries ⊢
  cases hclean : (getConfig engine storage).enableAutoCleanup.isTruthy with
  | true =>
    have hall : ∀ entry ∈ items, entry ≠ .null ∧ Datable entry := hentries hclean
    rw [if_pos rfl, cleanExpired_eq hall, live, hclean]
    simp only [Bool.true_and]
    rfl
  | false =>
    rw [if_neg Bool.false_ne_true, live, hclean]
    simp only [Bool.false_and, Bool.not_false, List.filter_true]
    rfl

/-- A reader of the entries of a key. -/
theorem isOk_read {α : Type} (hav : storage.available = true) (f : List JsonValue → Js α) :
    (do let value ← storage.readList engine now key; f (← value.items)).isOk = true ↔
      storage.CanFilter engine key ∧
        (f (storage.entries engine now key)).isOk = true := by
  have hbind : (do let value ← storage.readList engine now key; f (← value.items)) =
      (storage.readList engine now key >>= JsonValue.items) >>= f := (bind_assoc _ _ _).symm
  rw [hbind]
  by_cases h : storage.CanFilter engine key
  · have hitems : storage.readList engine now key >>= JsonValue.items =
        .ok (storage.entries engine now key) := by
      rw [readList_eq hav h]
      rfl
    rw [isOk_bind_of_eq hitems]
    exact (and_iff_right h).symm
  · refine iff_of_false (fun hok => ?_) fun h' => h h'.1
    obtain ⟨items, hread, -⟩ := isOk_bind.1 hok
    exact h ((isOk_readItems hav).1 (isOk_iff.2 ⟨_, hread⟩))

theorem live_subset {config : RawConfig} {value : JsonValue} :
    live engine config now value ⊆ itemsOf value := List.filter_sublist.subset

/-! ### Searching -/

theorem isUpload_eq {id : JsString} {r : JsonValue} (hnull : r ≠ .null) :
    isUpload id r = .ok (equalsText id (r.property (js "id")) ||
      equalsText id (r.property (js "documentId"))) := by
  rw [isUpload, JsonValue.get_of_ne_null hnull, JsonValue.get_of_ne_null hnull]
  show (if equalsText id (r.property (js "id")) then _ else _) = _
  cases equalsText id (r.property (js "id")) <;> rfl

theorem isOk_isUpload {id : JsString} {r : JsonValue} :
    (isUpload id r).isOk = true ↔ r ≠ .null := by
  by_cases hnull : r = .null
  · rw [hnull]
    exact iff_of_false Bool.false_ne_true fun h => h rfl
  · rw [isUpload_eq hnull]
    exact iff_of_true rfl hnull

/-- **A search by any identifier** throws nothing when no entry is `null`. -/
theorem isOk_getUploadById (hav : storage.available = true) :
    (∀ id, (storage.getUploadById engine now id).isOk = true) ↔
      storage.CanFilter engine .uploadHistory ∧
        ∀ r ∈ storage.entries engine now .uploadHistory, r ≠ .null := by
  constructor
  · intro h
    obtain ⟨id, hid⟩ := exists_ne_text ((storage.entries engine now .uploadHistory).flatMap fun r =>
        [r.property (js "id"), r.property (js "documentId")])
    obtain ⟨hfilterable, hfind⟩ := (isOk_read hav (findJs (isUpload id))).1 (h id)
    refine ⟨hfilterable, fun r hr => isOk_isUpload.1 (isOk_of_findJs ?_ hfind r hr)⟩
    intro r hr hfound
    have hnull : r ≠ .null := isOk_isUpload.1 (isOk_iff.2 ⟨_, hfound⟩)
    rw [isUpload_eq hnull, hid _ (List.mem_flatMap.2 ⟨r, hr, by simp⟩),
      hid _ (List.mem_flatMap.2 ⟨r, hr, by simp⟩)] at hfound
    cases hfound
  · rintro ⟨hfilterable, hnull⟩ id
    refine (isOk_read hav (findJs (isUpload id))).2 ⟨hfilterable, ?_⟩
    exact isOk_findJs_of_forall fun r hr => isOk_isUpload.2 (hnull r hr)

/-- A comparison of a property. -/
theorem isOk_equalsText {text name : JsString} {s : JsonValue} :
    (equalsText text <$> s.get name).isOk = true ↔ s ≠ .null := by
  rw [isOk_map]
  exact JsonValue.isOk_get

theorem isOk_getSessionById (hav : storage.available = true)
    (hfilterable : storage.CanFilter engine .chatSessions)
    (hnull : ∀ s ∈ storage.entries engine now .chatSessions, s ≠ .null) (id : JsString) :
    (storage.getSessionById engine now id).isOk = true := by
  refine (isOk_read hav (findJs fun s => equalsText id <$> s.get (js "id"))).2 ⟨hfilterable, ?_⟩
  exact isOk_findJs_of_forall fun s hs => isOk_equalsText.2 (hnull s hs)

/-! ### The sessions of a file -/

theorem isOk_sortByUpdatedAt {sessions : List JsonValue} (hnull : ∀ s ∈ sessions, s ≠ .null) :
    (sortByUpdatedAt engine sessions).isOk = true ↔ (2 ≤ sessions.length →
      ∀ s ∈ sessions, (s.property (js "updatedAt")).all JsonValue.convertible = true) := by
  rw [sortByUpdatedAt]
  split_ifs with hlen
  · exact iff_of_true rfl fun h => absurd h (not_le.2 hlen)
  · have hkey : ∀ s ∈ sessions, (do
        let updatedAt ← s.get (js "updatedAt")
        (·, s) <$> numberOf engine updatedAt : Js (JsNumber × JsonValue)).isOk =
        (s.property (js "updatedAt")).all JsonValue.convertible := by
      intro s hs
      rw [isOk_bind_of_eq (JsonValue.get_of_ne_null (hnull s hs) _), isOk_map, isOk_numberOf]
    rw [bind_pure_comp, isOk_map, isOk_mapM]
    constructor
    · exact fun h _ s hs => (hkey s hs).symm.trans (h s hs)
    · exact fun h s hs => (hkey s hs).trans (h (not_lt.1 hlen) s hs)

theorem filterJs_ofFile {fileId : JsString} {sessions : List JsonValue}
    (hnull : ∀ s ∈ sessions, s ≠ .null) :
    filterJs (fun s => equalsText fileId <$> s.get (js "fileId")) sessions =
      .ok (ofFile fileId sessions) := by
  refine filterJs_eq fun s hs => ?_
  rw [JsonValue.get_of_ne_null (hnull s hs)]
  rfl

/-- **The latest session of a file** is found when no session is `null` and the sessions of the file
can be compared. -/
theorem isOk_getSessionByFileId (hav : storage.available = true) (fileId : JsString) :
    (storage.getSessionByFileId engine now fileId).isOk = true ↔
      storage.CanFilter engine .chatSessions ∧
        (∀ s ∈ storage.entries engine now .chatSessions, s ≠ .null) ∧
        (2 ≤ (ofFile fileId (storage.entries engine now .chatSessions)).length →
          ∀ s ∈ ofFile fileId (storage.entries engine now .chatSessions),
            (s.property (js "updatedAt")).all JsonValue.convertible = true) := by
  refine (isOk_read hav fun sessions => do
    let fileSessions ← filterJs (fun s => equalsText fileId <$> s.get (js "fileId")) sessions
    List.head? <$> sortByUpdatedAt engine fileSessions).trans (and_congr_right fun _ => ?_)
  by_cases hnull : ∀ s ∈ storage.entries engine now .chatSessions, s ≠ .null
  · have hfile : ∀ s ∈ ofFile fileId (storage.entries engine now .chatSessions), s ≠ .null :=
      fun s hs => hnull s (List.mem_of_mem_filter hs)
    rw [isOk_bind_of_eq (filterJs_ofFile hnull), isOk_map, isOk_sortByUpdatedAt hfile]
    exact (and_iff_right hnull).symm
  · refine iff_of_false (fun hok => hnull fun s hs => ?_) fun h => hnull h.1
    obtain ⟨fileSessions, hfilter, -⟩ := isOk_bind.1 hok
    exact isOk_equalsText.1 (isOk_filterJs.1 (isOk_iff.2 ⟨_, hfilter⟩) s hs)

/-! ### Statistics -/

theorem isOk_addMessages (sum : JsSum) (s : JsonValue) :
    (addMessages engine sum s).isOk = true ↔ s ≠ .null ∧ HasMessages s := by
  by_cases hnull : s = .null
  · rw [hnull]
    exact iff_of_false Bool.false_ne_true fun h => h.1 rfl
  · rw [addMessages, isOk_bind_of_eq (JsonValue.get_of_ne_null hnull _), isOk_bind, HasMessages]
    simp only [isOk_plus]
    exact (and_iff_right hnull).symm

theorem isOk_createdAt {s : JsonValue} (hnull : s ≠ .null) :
    (createdAt engine s).isOk = (s.property (js "createdAt")).all JsonValue.convertible := by
  rw [createdAt, isOk_bind_of_eq (JsonValue.get_of_ne_null hnull _), isOk_numberOf]

/-- **The statistics** need messages and a time of creation in every session. -/
theorem isOk_getSessionStats (hav : storage.available = true) :
    (storage.getSessionStats engine now).isOk = true ↔
      storage.CanFilter engine .chatSessions ∧
        ∀ s ∈ storage.entries engine now .chatSessions, s ≠ .null ∧ HasMessages s ∧
            (s.property (js "createdAt")).all JsonValue.convertible = true := by
  refine (isOk_read hav fun sessions => do
    let totalMessages ← sessions.foldlM (addMessages engine) (.num (.finite 0))
    let times ← sessions.mapM (createdAt engine)
    pure
      ({ totalSessions := sessions.length
         totalMessages
         oldestSession := if times = [] then none else some (times.foldl .min .posInf)
         newestSession := if times = [] then none else some (times.foldl .max .negInf) } :
        SessionStats)).trans (and_congr_right fun _ => ?_)
  rw [isOk_seq, Bool.and_eq_true, isOk_foldlM isOk_addMessages, isOk_mapM, ← forall₂_and]
  refine forall₂_congr fun s _ => ?_
  rw [and_assoc]
  exact and_congr_right fun hnull => and_congr_right fun _ => by rw [isOk_createdAt hnull]

theorem isOk_checkCapacity :
    (storage.checkCapacity engine).isOk = (getConfig engine storage).maxStorageSize.convertible :=
  (isOk_map _).trans (JsonValue.isOk_toNumber engine _)

theorem isOk_getStorageStats (hav : storage.available = true)
    (huploads : storage.CanFilter engine .uploadHistory) :
    (storage.getStorageStats engine now).isOk = true ↔
      (getConfig engine storage).maxStorageSize.convertible = true ∧
        (storage.getSessionStats engine now).isOk = true := by
  have hhistory : storage.getUploadHistory engine now = _ := readList_eq hav huploads
  rw [getStorageStats, isOk_bind, ← isOk_checkCapacity]
  constructor
  · rintro ⟨capacity, hcapacity, hrest⟩
    obtain ⟨stats, hstats, -⟩ := isOk_bind.1 hrest
    exact ⟨isOk_iff.2 ⟨_, hcapacity⟩, isOk_iff.2 ⟨_, hstats⟩⟩
  · rintro ⟨hcapacity, hstats⟩
    obtain ⟨capacity, hcapacity⟩ := isOk_iff.1 hcapacity
    obtain ⟨stats, hstats⟩ := isOk_iff.1 hstats
    refine ⟨capacity, hcapacity, ?_⟩
    rw [hstats, hhistory]
    rfl

/-! ### All readers -/

theorem ne_null_of_live {config : RawConfig} {value : JsonValue} (hvalue : Filterable config value)
    (h : ∀ entry ∈ live engine config now value, entry ≠ .null) :
    ∀ entry ∈ itemsOf value, entry ≠ .null := by
  cases hclean : config.enableAutoCleanup.isTruthy with
  | true => exact fun entry hentry => (hvalue.2 hclean entry hentry).1
  | false =>
    intro entry hentry
    refine h entry (List.mem_filter.2 ⟨hentry, ?_⟩)
    rw [hclean]
    rfl

/-- **The values that all readers can read.** -/
theorem noneThrows_iff (hav : storage.available = true) :
    NoneThrows engine storage now ↔
      Readable engine now (getConfig engine storage)
        (safeParse engine (storage.item .uploadHistory))
        (safeParse engine (storage.item .chatSessions)) := by
  constructor
  · intro h
    obtain ⟨huploads, huploadsNull⟩ := (isOk_getUploadById hav).1 h.getUploadById
    obtain ⟨hsessions, hstats⟩ := (isOk_getSessionStats hav).1 h.getSessionStats
    exact
      { uploads_filterable := huploads
        uploads_ne_null := ne_null_of_live huploads huploadsNull
        sessions_filterable := hsessions
        sessions_ne_null := ne_null_of_live hsessions fun s hs => (hstats s hs).1
        messages := fun s hs => (hstats s hs).2.1
        created := fun s hs => (hstats s hs).2.2
        updated := fun fileId =>
          ((isOk_getSessionByFileId hav fileId).1 (h.getSessionByFileId fileId)).2.2
        capacity := ((isOk_getStorageStats hav huploads).1 h.getStorageStats).1 }
  · intro h
    have hsessionsNull : ∀ s ∈ storage.entries engine now .chatSessions, s ≠ .null :=
      fun s hs => h.sessions_ne_null s (live_subset hs)
    have hstats : (storage.getSessionStats engine now).isOk = true :=
      (isOk_getSessionStats hav).2 ⟨h.sessions_filterable, fun s hs =>
        ⟨hsessionsNull s hs, h.messages s hs, h.created s hs⟩⟩
    exact
      { getUploadHistory := congrArg Except.isOk (readList_eq hav h.uploads_filterable)
        getUploadById := (isOk_getUploadById hav).2 ⟨h.uploads_filterable, fun r hr =>
          h.uploads_ne_null r (live_subset hr)⟩
        getAllSessions := congrArg Except.isOk (readList_eq hav h.sessions_filterable)
        getSessionById := isOk_getSessionById hav h.sessions_filterable hsessionsNull
        getSessionByFileId := fun fileId => (isOk_getSessionByFileId hav fileId).2
          ⟨h.sessions_filterable, hsessionsNull, h.updated fileId⟩
        getSessionStats := hstats
        getStorageStats := (isOk_getStorageStats hav h.uploads_filterable).2 ⟨h.capacity, hstats⟩ }

/-- A storage that is not available is read as an empty one. -/
theorem noneThrows_of_unavailable (h : storage.available = false) :
    NoneThrows engine storage now := by
  have hread (key : StorageKey) : storage.readList engine now key = .ok (.arr []) :=
    if_neg (Bool.eq_false_iff.1 h)
  have hconfig : getConfig engine storage = .default := if_neg (Bool.eq_false_iff.1 h)
  have hstats : storage.getSessionStats engine now = .ok ⟨0, .num (.finite 0), none, none⟩ := by
    rw [getSessionStats, getAllSessions, hread]
    rfl
  refine ⟨?_, fun id => ?_, ?_, fun id => ?_, fun fileId => ?_, ?_, ?_⟩
  · rw [getUploadHistory, hread]
    rfl
  · rw [getUploadById, getUploadHistory, hread]
    rfl
  · rw [getAllSessions, hread]
    rfl
  · rw [getSessionById, getAllSessions, hread]
    rfl
  · rw [getSessionByFileId, getAllSessions, hread]
    rfl
  · rw [hstats]
    rfl
  · rw [getStorageStats, checkCapacity, hconfig, hstats, getUploadHistory, hread]
    rfl

/-! ### Later -/

/-- What has expired stays so. -/
theorem expired_mono {t : ℤ} (h : now ≤ t) {entry : JsonValue}
    (hexp : expired engine now entry = true) : expired engine t entry = true := by
  unfold expired isExpired at hexp ⊢
  cases hdate : truthyValue (entry.property (js "expiresAt")) with
  | none =>
    rw [hdate] at hexp
    cases hexp
  | some time =>
    rw [hdate] at hexp
    cases hnum : time.toNumber engine with
    | error e =>
      simp only [hnum] at hexp
      cases hexp
    | ok n =>
      simp only [hnum] at hexp ⊢
      exact JsNumber.lt_finite_mono (Int.cast_le.2 h) hexp

theorem live_sublist {t : ℤ} (h : now ≤ t) (config : RawConfig) (value : JsonValue) :
    (live engine config t value).Sublist (live engine config now value) := by
  refine List.monotone_filter_right _ fun entry => ?_
  cases hexp : expired engine now entry with
  | false => simp
  | true => simp [expired_mono h hexp]

/-- What can be read can be read later. -/
theorem Readable.mono {t : ℤ} (h : now ≤ t) {config : RawConfig} {uploads sessions : JsonValue}
    (hread : Readable engine now config uploads sessions) :
    Readable engine t config uploads sessions := by
  have hlive : (live engine config t sessions).Sublist _ := live_sublist h config sessions
  have hfile (fileId : JsString) := hlive.filter fun s =>
    equalsText fileId (s.property (js "fileId"))
  exact
    { hread with
      messages := fun s hs => hread.messages s (hlive.subset hs)
      created := fun s hs => hread.created s (hlive.subset hs)
      updated := fun fileId hlen s hs =>
        hread.updated fileId (hlen.trans (hfile fileId).length_le) s ((hfile fileId).subset hs) }

/-- **No reader throws after an import** that has succeeded, then or later, exactly when they can
read what is under the keys: the values of the file and, under a key it does not have, the one that
was there. -/
theorem readable_iff (engine : JsEngine) (fails : StorageKey → Bool) (storage : RawStorage)
    (jsonData : JsString) (importedAt : ℤ)
    (h : (storage.importData engine fails jsonData).2 = true) :
    (∀ now, importedAt ≤ now → ∀ available,
        NoneThrows engine { (storage.importData engine fails jsonData).1 with available } now) ↔
      Readable engine importedAt
        (savedConfig engine ((importedText engine jsonData .config).or (storage.item .config)))
        (safeParse engine
          ((importedText engine jsonData .uploadHistory).or (storage.item .uploadHistory)))
        (safeParse engine
          ((importedText engine jsonData .chatSessions).or (storage.item .chatSessions))) := by
  have hitem := importData_item h
  rw [← hitem, ← hitem, ← hitem]
  constructor
  · intro hnone
    exact (noneThrows_iff rfl).1 (hnone importedAt le_rfl true)
  · intro hread now hnow available
    cases available with
    | false => exact noneThrows_of_unavailable rfl
    | true => exact (noneThrows_iff rfl).2 (hread.mono hnow)

end

/-! ### Two files -/

/-- A file with one session. -/
def sessionFile (session : JsString) : JsString :=
  js "\x7b\"chatSessions\":[" ++ session ++ js "]\x7d"

/-- An engine that reads this file, and the session as it is stored. -/
def sessionEngine (text : JsString) (session : JsonValue) : JsEngine :=
  .exact (fun t =>
    if t = sessionFile text then some (.obj [(js "chatSessions", .arr [session])])
    else if t = js "[" ++ text ++ js "]" then some (.arr [session])
    else none) fun _ => js "[" ++ text ++ js "]"

/-- The text of a session without messages. -/
def emptySession : JsString := js "\x7b\"messages\":[]\x7d"

/-- An engine that reads a file with it. -/
def emptySessionEngine : JsEngine :=
  sessionEngine emptySession (.obj [(js "messages", .arr [])])

/-- A session without messages can be read. -/
theorem readable_iff_empty_session :
    ((empty 0).importData emptySessionEngine (fun _ => false) (sessionFile emptySession)).2 =
        true ∧
      ∀ now : ℤ, 0 ≤ now → ∀ available, NoneThrows emptySessionEngine
        { ((empty 0).importData emptySessionEngine (fun _ => false)
            (sessionFile emptySession)).1 with available } now := by
  have himported : ((empty 0).importData emptySessionEngine (fun _ => false)
      (sessionFile emptySession)).2 = true := by
    decide +kernel
  refine ⟨himported, (readable_iff _ _ _ _ 0 himported).2 ?_⟩
  have hconfig : savedConfig emptySessionEngine ((importedText emptySessionEngine
      (sessionFile emptySession) .config).or ((empty 0).item .config)) = .default := rfl
  have huploads : safeParse emptySessionEngine ((importedText emptySessionEngine
      (sessionFile emptySession) .uploadHistory).or ((empty 0).item .uploadHistory)) = .arr [] :=
    rfl
  have hsessions : safeParse emptySessionEngine ((importedText emptySessionEngine
      (sessionFile emptySession) .chatSessions).or ((empty 0).item .chatSessions)) =
        .arr [.obj [(js "messages", .arr [])]] := rfl
  have hmem {s : JsonValue} (hs : s ∈ live emptySessionEngine .default 0
      (.arr [.obj [(js "messages", .arr [])]])) : s = .obj [(js "messages", .arr [])] :=
    List.mem_singleton.1 (live_subset hs)
  have hnull : JsonValue.obj [(js "messages", .arr [])] ≠ .null := fun h => (by cases h)
  rw [hconfig, huploads, hsessions]
  exact
    { uploads_filterable := ⟨⟨[], rfl⟩, fun _ r hr => absurd hr List.not_mem_nil⟩
      uploads_ne_null := fun r hr => absurd hr List.not_mem_nil
      sessions_filterable := ⟨⟨_, rfl⟩, fun _ s hs => List.mem_singleton.1 hs ▸ ⟨hnull, rfl⟩⟩
      sessions_ne_null := fun s hs => List.mem_singleton.1 hs ▸ hnull
      messages := fun s hs => hmem hs ▸ ⟨some (.num (.finite 0)), rfl, rfl⟩
      created := fun s hs => hmem hs ▸ rfl
      updated := fun fileId _ s hs => hmem (List.mem_of_mem_filter hs) ▸ rfl
      capacity := rfl }

/-- An engine that reads a file with an empty object for a session. -/
def emptyObjectEngine : JsEngine := sessionEngine (js "\x7b\x7d") (.obj [])

/-- An object that is no session is imported, and then the statistics throw. -/
theorem stats_throw :
    ((empty 0).importData emptyObjectEngine (fun _ => false)
        (sessionFile (js "\x7b\x7d"))).2 = true ∧
      (((empty 0).importData emptyObjectEngine (fun _ => false)
        (sessionFile (js "\x7b\x7d"))).1.getSessionStats emptyObjectEngine 0).isOk = false := by
  constructor
  · decide +kernel
  · decide +kernel

end RawStorage

end Client

end StudyOasis
