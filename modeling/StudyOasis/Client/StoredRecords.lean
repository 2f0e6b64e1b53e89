import Mathlib.Data.List.Forall2
import StudyOasis.Client.RawReaders
import StudyOasis.Client.Uploads

/-!
# The records that the client stores

A storage of texts holds a storage of records when what is parsed under its keys has the fields of
the records that are read.  The readers of the texts then return what the readers of the records do,
and none of them throws.

* `RawStorage.getUploadHistory_of_holds`, `RawStorage.getUploadById_of_holds`,
  `RawStorage.getAllSessions_of_holds`, `RawStorage.getSessionById_of_holds` : **the texts are
  read as the records**;
* `RawStorage.noneThrows_of_holds` : what the client stores itself can be read.
-/

namespace StudyOasis

namespace Client

namespace RawStorage

/-- A time as it is stored. -/
def timeJson (time : ℤ) : JsonValue := .num (.finite time)

/-- The value has the fields of the record that are read. -/
structure ShowsUpload (v : JsonValue) (r : UploadRecord) : Prop where
  id : v.property (js "id") = some (.str r.id)
  documentId : v.property (js "documentId") = r.documentId.map .str
  expiresAt : v.property (js "expiresAt") = r.expiresAt.map timeJson

/-- The value has the fields of the session that are read. -/
structure ShowsSession (v : JsonValue) (s : ChatSession) : Prop where
  id : v.property (js "id") = some (.str s.id)
  fileId : v.property (js "fileId") = s.fileId.map .str
  messages : ∃ messages, v.property (js "messages") = some (.arr messages) ∧
    messages.length = s.messages.length
  createdAt : v.property (js "createdAt") = some (timeJson s.createdAt)
  updatedAt : v.property (js "updatedAt") = some (timeJson s.updatedAt)
  expiresAt : v.property (js "expiresAt") = s.expiresAt.map timeJson

/-- The texts hold the records. -/
structure Holds (engine : JsEngine) (raw : RawStorage) (storage : LocalStorage) : Prop where
  available : raw.available = storage.available
  uploads : ∃ items, safeParse engine (raw.item .uploadHistory) = .arr items ∧
    List.Forall₂ ShowsUpload items storage.uploads
  sessions : ∃ items, safeParse engine (raw.item .chatSessions) = .arr items ∧
    List.Forall₂ ShowsSession items storage.sessions
  enableAutoCleanup : (savedConfig engine (raw.item .config)).enableAutoCleanup =
    .bool (storage.config.getD {}).enableAutoCleanup
  maxStorageSize : (savedConfig engine (raw.item .config)).maxStorageSize =
    .num (.finite (storage.config.getD {}).maxStorageSize)

variable {engine : JsEngine} {raw : RawStorage} {storage : LocalStorage} {now : ℤ} {v : JsonValue}

/-- A storage without texts holds no records. -/
theorem holds_empty (engine : JsEngine) (others : ℕ) : Holds engine (empty others) {} :=
  ⟨rfl, ⟨[], rfl, .nil⟩, ⟨[], rfl, .nil⟩, rfl, rfl⟩

/-! ### One record -/

theorem ne_null_of_property {name : JsString} {value : JsonValue}
    (h : v.property name = some value) : v ≠ .null := by
  rintro rfl
  cases h

theorem isTruthy_timeJson (time : ℤ) : (timeJson time).isTruthy = decide (time ≠ 0) := by
  by_cases h : time = 0 <;> simp [timeJson, JsonValue.isTruthy, h]

theorem truthyValue_timeJson (expiresAt : Option ℤ) :
    truthyValue (expiresAt.map timeJson) = (expiresAt.filter (· ≠ 0)).map timeJson := by
  have hcomp : JsonValue.isTruthy ∘ timeJson = fun time => decide (time ≠ 0) := by
    funext time
    exact isTruthy_timeJson time
  rw [truthyValue, Option.filter_map, hcomp]

/-- A time of expiry is a number. -/
theorem datable_of_timeJson {expiresAt : Option ℤ}
    (h : v.property (js "expiresAt") = expiresAt.map timeJson) : Datable v := by
  rw [Datable, h, truthyValue_timeJson]
  cases expiresAt.filter (· ≠ 0) <;> rfl

/-- A record has expired when its value has. -/
theorem expired_eq {expiresAt : Option ℤ}
    (h : v.property (js "expiresAt") = expiresAt.map timeJson) :
    expired engine now v = Client.isExpired now expiresAt := by
  rw [expired, isExpired, h, truthyValue_timeJson]
  cases expiresAt with
  | none => rfl
  | some time =>
    by_cases htime : time = 0
    · rw [htime]
      rfl
    · have hlt : (JsNumber.finite time).lt (.finite now) = decide (time < now) :=
        decide_eq_decide.2 Int.cast_lt
      rw [Option.filter_some, if_pos (decide_eq_true htime), Client.isExpired,
        decide_eq_true htime, Bool.true_and]
      exact hlt

/-! ### The list of a key -/

section

variable {ρ : Type} {shows : JsonValue → ρ → Prop} {expiresAt : ρ → Option ℤ}
  {items : List JsonValue} {records : List ρ}

theorem exists_shown (hitems : List.Forall₂ shows items records) :
    ∀ v ∈ items, ∃ r, shows v r := by
  induction hitems with
  | nil => exact fun v hv => absurd hv List.not_mem_nil
  | cons hvr _ ih => exact List.forall_mem_cons.2 ⟨⟨_, hvr⟩, ih⟩

theorem filterable_of_shows (hitems : List.Forall₂ shows items records)
    (hnull : ∀ v r, shows v r → v ≠ .null)
    (hshows : ∀ v r, shows v r → v.property (js "expiresAt") = (expiresAt r).map timeJson)
    (config : RawConfig) :
    Filterable config (.arr items) := by
  refine ⟨⟨items, rfl⟩, fun _ v hv => ?_⟩
  obtain ⟨r, hvr⟩ := exists_shown hitems v hv
  exact ⟨hnull v r hvr, datable_of_timeJson (hshows v r hvr)⟩

/-- A search for an entry finds one that shows what a search for a record finds. -/
theorem find_shows (hitems : List.Forall₂ shows items records) {p : JsonValue → Bool}
    {q : ρ → Bool} (hpq : ∀ v r, shows v r → p v = q r) :
    Option.Rel shows (items.find? p) (records.find? q) := by
  induction hitems with
  | nil => exact .none
  | @cons v r _ _ hvr _ ih =>
    rw [List.find?_cons, List.find?_cons, hpq v r hvr]
    cases q r with
    | true => exact .some hvr
    | false => exact ih

/-- The entries that are kept show the records that are kept. -/
theorem live_shows (hitems : List.Forall₂ shows items records)
    (hshows : ∀ v r, shows v r → v.property (js "expiresAt") = (expiresAt r).map timeJson)
    {config : RawConfig} {cleanup : Bool}
    (hconfig : config.enableAutoCleanup = .bool cleanup) :
    List.Forall₂ shows (live engine config now (.arr items))
      (if cleanup then records.filter fun r => !Client.isExpired now (expiresAt r)
        else records) := by
  rw [live, hconfig]
  cases cleanup with
  | false => simpa [JsonValue.isTruthy, itemsOf] using hitems
  | true =>
    refine List.rel_filter ?_ hitems
    intro v r hvr
    have hsame : (true && expired engine now v) = Client.isExpired now (expiresAt r) :=
      (Bool.true_and _).trans (expired_eq (hshows v r hvr))
    exact Bool.eq_iff_iff.1 (congrArg not hsame)

end

/-! ### The readers -/

theorem ShowsUpload.ne_null {r : UploadRecord} (h : ShowsUpload v r) : v ≠ .null :=
  ne_null_of_property h.id

theorem ShowsSession.ne_null {s : ChatSession} (h : ShowsSession v s) : v ≠ .null :=
  ne_null_of_property h.id

theorem Holds.config (h : Holds engine raw storage) (hav : raw.available = true) :
    (getConfig engine raw).enableAutoCleanup =
      .bool (ConfigStorage.getConfig storage).enableAutoCleanup := by
  rw [getConfig, if_pos hav, h.enableAutoCleanup, ConfigStorage.getConfig,
    if_pos (h.available.symm.trans hav)]

/-- **The upload history** of the texts shows the one of the records. -/
theorem getUploadHistory_of_holds (h : Holds engine raw storage) (now : ℤ) :
    ∃ items, raw.getUploadHistory engine now = .ok (.arr items) ∧
      List.Forall₂ ShowsUpload items (UploadStorage.getUploadHistory storage now) := by
  cases hav : raw.available with
  | false =>
    refine ⟨[], if_neg (Bool.eq_false_iff.1 hav), ?_⟩
    rw [UploadStorage.getUploadHistory, if_neg (Bool.eq_false_iff.1 (h.available.symm.trans hav))]
    exact .nil
  | true =>
    obtain ⟨items, hparse, hitems⟩ := h.uploads
    have hcan : raw.CanFilter engine .uploadHistory := by
      rw [CanFilter, hparse]
      exact filterable_of_shows hitems (fun _ _ h => h.ne_null) (fun _ _ h => h.expiresAt) _
    refine ⟨_, readList_eq hav hcan, ?_⟩
    rw [UploadStorage.getUploadHistory, if_pos (h.available.symm.trans hav), entries, hparse]
    exact live_shows hitems (fun _ _ h => h.expiresAt) (h.config hav)

/-- **The sessions** of the texts show those of the records. -/
theorem getAllSessions_of_holds (h : Holds engine raw storage) (now : ℤ) :
    ∃ items, raw.getAllSessions engine now = .ok (.arr items) ∧
      List.Forall₂ ShowsSession items (ChatStorage.getAllSessions storage now) := by
  cases hav : raw.available with
  | false =>
    refine ⟨[], if_neg (Bool.eq_false_iff.1 hav), ?_⟩
    rw [ChatStorage.getAllSessions, if_neg (Bool.eq_false_iff.1 (h.available.symm.trans hav))]
    exact .nil
  | true =>
    obtain ⟨items, hparse, hitems⟩ := h.sessions
    have hcan : raw.CanFilter engine .chatSessions := by
      rw [CanFilter, hparse]
      exact filterable_of_shows hitems (fun _ _ h => h.ne_null) (fun _ _ h => h.expiresAt) _
    refine ⟨_, readList_eq hav hcan, ?_⟩
    rw [ChatStorage.getAllSessions, if_pos (h.available.symm.trans hav), entries, hparse]
    exact live_shows hitems (fun _ _ h => h.expiresAt) (h.config hav)

theorem equalsText_str (text : JsString) (value : Option JsString) :
    equalsText text (value.map .str) = decide (value = some text) := by
  cases value with
  | none => rfl
  | some s => exact decide_eq_decide.2 Option.some_inj.symm

/-- **A search for an upload** finds the value of the record. -/
theorem getUploadById_of_holds (h : Holds engine raw storage) (id : JsString) :
    ∃ found, raw.getUploadById engine now id = .ok found ∧
      Option.Rel ShowsUpload found (UploadStorage.getUploadById storage now id) := by
  obtain ⟨items, hread, hitems⟩ := getUploadHistory_of_holds h now
  have hfind : findJs (isUpload id) items = .ok (items.find? fun r =>
      equalsText id (r.property (js "id")) || equalsText id (r.property (js "documentId"))) := by
    refine findJs_eq fun r hr => ?_
    obtain ⟨r', hr'⟩ := exists_shown hitems r hr
    exact isUpload_eq hr'.ne_null
  refine ⟨_, by rw [getUploadById, hread]; exact hfind, ?_⟩
  refine find_shows hitems fun r r' hr => ?_
  rw [hr.id, hr.documentId, equalsText_str]
  rfl

/-- **A search for a session** finds the value of the session. -/
theorem getSessionById_of_holds (h : Holds engine raw storage) (id : JsString) :
    ∃ found, raw.getSessionById engine now id = .ok found ∧
      Option.Rel ShowsSession found (ChatStorage.getSessionById storage now id) := by
  obtain ⟨items, hread, hitems⟩ := getAllSessions_of_holds h now
  have hfind : findJs (fun s => equalsText id <$> s.get (js "id")) items =
      .ok (items.find? fun s => equalsText id (s.property (js "id"))) := by
    refine findJs_eq fun s hs => ?_
    obtain ⟨s', hs'⟩ := exists_shown hitems s hs
    rw [JsonValue.get_of_ne_null hs'.ne_null]
    rfl
  refine ⟨_, by rw [getSessionById, hread]; exact hfind, ?_⟩
  refine find_shows hitems fun s s' hs => ?_
  rw [hs.id]
  rfl

/-- What is stored can be read. -/
theorem readable_of_holds (h : Holds engine raw storage) (hav : raw.available = true) :
    Readable engine now (getConfig engine raw) (safeParse engine (raw.item .uploadHistory))
      (safeParse engine (raw.item .chatSessions)) := by
  obtain ⟨uploads, huploads, hshowsUploads⟩ := h.uploads
  obtain ⟨sessions, hsessions, hshowsSessions⟩ := h.sessions
  have hlive : ∀ s ∈ live engine (getConfig engine raw) now (.arr sessions),
      ∃ session, ShowsSession s session :=
    fun s hs => exists_shown hshowsSessions s (live_subset hs)
  rw [huploads, hsessions]
  refine
    { uploads_filterable := filterable_of_shows hshowsUploads (fun _ _ h => h.ne_null)
        (fun _ _ h => h.expiresAt) _
      uploads_ne_null := fun r hr => ?_
      sessions_filterable := filterable_of_shows hshowsSessions (fun _ _ h => h.ne_null)
        (fun _ _ h => h.expiresAt) _
      sessions_ne_null := fun s hs => ?_
      messages := fun s hs => ?_
      created := fun s hs => ?_
      updated := fun fileId _ s hs => ?_
      capacity := ?_ }
  · obtain ⟨r', hr'⟩ := exists_shown hshowsUploads r hr
    exact hr'.ne_null
  · obtain ⟨s', hs'⟩ := exists_shown hshowsSessions s hs
    exact hs'.ne_null
  · obtain ⟨s', hs'⟩ := hlive s hs
    obtain ⟨messages, hmessages, -⟩ := hs'.messages
    rw [HasMessages, hmessages]
    exact ⟨some (.num (.finite messages.length)), rfl, rfl⟩
  · obtain ⟨s', hs'⟩ := hlive s hs
    rw [hs'.createdAt]
    rfl
  · obtain ⟨s', hs'⟩ := hlive s (List.mem_of_mem_filter hs)
    rw [hs'.updatedAt]
    rfl
  · rw [getConfig, if_pos hav, h.maxStorageSize]
    rfl

/-- **What the client stores itself** can be read by every reader. -/
theorem noneThrows_of_holds (h : Holds engine raw storage) : NoneThrows engine raw now := by
  cases hav : raw.available with
  | false => exact noneThrows_of_unavailable hav
  | true => exact (noneThrows_iff hav).2 (readable_of_holds h hav)

end RawStorage

end Client

end StudyOasis
