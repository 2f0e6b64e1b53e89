import StudyOasis.Common.Recents
import StudyOasis.Runs.Basic
import StudyOasis.Client.ChatStore

/-!
# The history of recognised texts

`useOcrLogic` keeps its history in the state of the page and in the local storage.  A handler works
on the history of the render it was made in, so a text that is recognised after some polling is
saved into the list that was shown when its upload started.

The changes that took effect are history: no handler reads them.

* `keysDistinct_of_run` : the stored items have different keys, always;
* `ocrHistory_iff` : **exactly when the stored list is the one that the changes leave**.
-/

namespace StudyOasis

namespace Client

/-! ### The data -/

/-- `UploadedImage`. -/
structure UploadedImage where
  id : JsString
  documentId : Option JsString
  filename : JsString
  url : JsString
  previewUrl : Option JsString
  deriving DecidableEq

/-- `OcrHistoryItem`. -/
structure OcrHistoryItem where
  id : JsString
  documentId : Option JsString
  filename : JsString
  uploadedAt : ℤ
  text : JsString
  confidence : Option ℚ
  language : JsString
  deriving DecidableEq

/-- `image.documentId || image.id`. -/
def UploadedImage.key (image : UploadedImage) : JsString :=
  (truthy image.documentId).getD image.id

/-- `item.documentId || item.id`. -/
def OcrHistoryItem.key (item : OcrHistoryItem) : JsString :=
  (truthy item.documentId).getD item.id

/-- `MAX_HISTORY`. -/
def MAX_HISTORY : ℕ := 20

/-- The item that `saveToHistory` puts in front. -/
def historyItem (image : UploadedImage) (result : OcrResult) (now : ℤ) : OcrHistoryItem :=
  { id := image.key
    documentId := some image.key
    filename := image.filename
    uploadedAt := now
    text := result.fullText
    confidence := result.confidence
    language := result.language }

/-- The `newHistory` of `saveToHistory`. -/
def saveToHistory (ocrHistory : List OcrHistoryItem) (item : OcrHistoryItem) :
    List OcrHistoryItem :=
  saveFront OcrHistoryItem.key MAX_HISTORY item ocrHistory

/-- The `newHistory` of `handleDeleteHistory`. -/
def deleteFromHistory (ocrHistory : List OcrHistoryItem) (id : JsString) : List OcrHistoryItem :=
  deleteKey OcrHistoryItem.key id ocrHistory

/-- The list that the effect sets. -/
def loadHistory (stored : List OcrHistoryItem) : List OcrHistoryItem :=
  stored.map fun item => { item with documentId := some item.key }

/-! ### The hook -/

/-- The state of `useOcrLogic`. -/
structure OcrLogic where
  uploading : Bool := false
  processing : Bool := false
  uploadedImage : Option UploadedImage := none
  ocrResult : Option OcrResult := none
  ocrHistory : List OcrHistoryItem := []
  deriving DecidableEq

/-- Where a `handleUpload` or `handleRetryOcr` stands. -/
inductive FetchPhase where
  /-- Waiting for `ApiClient.uploadFile`. -/
  | uploading (previewUrl : Option JsString)
  /-- Waiting for `ApiClient.getOcrResult`. -/
  | polling (image : UploadedImage) (i : ℕ)
  /-- Waiting for the next attempt. -/
  | sleeping (image : UploadedImage) (i : ℕ)
  deriving DecidableEq

/-- A `handleUpload` or `handleRetryOcr` that has not finished. -/
structure Fetch where
  id : ℕ
  /-- The mount of the page it belongs to. -/
  mount : ℕ
  /-- The history of the render it was called in. -/
  ocrHistory : List OcrHistoryItem
  /-- It was called by `handleUpload`. -/
  fromUpload : Bool
  phase : FetchPhase
  deriving DecidableEq

/-- `maxRetries` of `fetchOcrResult`. -/
def ocrRetries : ℕ := 20

/-- A page that shows the hook, the key `study_oasis_ocr_history` of the local storage and the
operations that have not finished. -/
structure OcrPage where
  logic : OcrLogic := {}
  /-- The state in the last render. -/
  rendered : OcrLogic := {}
  /-- The effect that loads the history has not run. -/
  fresh : Bool := true
  mount : ℕ := 0
  stored : Option (List OcrHistoryItem) := none
  fetches : List Fetch := []
  nextFetch : ℕ := 0
  /-- History: the changes that took effect. -/
  changes : List (Change OcrHistoryItem JsString) := []

/-- What can happen. -/
inductive OcrAction where
  /-- The page is left and opened again. -/
  | remount
  /-- The page is loaded again: the operations are gone. -/
  | reload
  /-- The effect that loads the history. -/
  | load
  | render
  | handleUpload (file : File) (objectUrl : JsString)
  | handleRetryOcr
  | handleClearResult
  | handleDeleteHistory (id : JsString)
  | handleClearAllHistory (confirmed : Bool)
  /-- An operation gets what it waits for. -/
  | complete (id : ℕ) (answer : Completion)
  deriving DecidableEq

/-- An action, the time of it, and whether the local storage refuses to be written. -/
structure OcrEvent where
  now : ℤ
  full : Bool := false
  action : OcrAction
  deriving DecidableEq

namespace OcrPage

/-- The stored list. -/
def history (p : OcrPage) : List OcrHistoryItem := p.stored.getD []

/-- `localStorage.setItem`, and the change it stands for. -/
def write (p : OcrPage) (full : Bool) (list : List OcrHistoryItem)
    (change : Change OcrHistoryItem JsString) : OcrPage :=
  if full then p else { p with stored := some list, changes := p.changes ++ [change] }

/-- A call of `set` out of an operation: a page that has been left does not take it. -/
def set (p : OcrPage) (mount : ℕ) (f : OcrLogic → OcrLogic) : OcrPage :=
  if p.mount = mount then { p with logic := f p.logic } else p

/-- Add an operation. -/
def start (p : OcrPage) (fromUpload : Bool) (phase : FetchPhase) : OcrPage :=
  { p with
    fetches := ⟨p.nextFetch, p.mount, p.rendered.ocrHistory, fromUpload, phase⟩ :: p.fetches
    nextFetch := p.nextFetch + 1 }

/-- The operation goes on. -/
def await (p : OcrPage) (id : ℕ) (phase : FetchPhase) : OcrPage :=
  { p with fetches := p.fetches.map fun f => if f.id = id then { f with phase } else f }

/-- The operation ends: `setProcessing(false)` if it got as far, and the `finally` of
`handleUpload`. -/
def finish (p : OcrPage) (f : Fetch) : OcrPage :=
  { p with fetches := p.fetches.filter fun g => g.id ≠ f.id }.set f.mount fun s =>
    { s with
      processing := match f.phase with
        | .uploading _ => s.processing
        | _ => false
      uploading := if f.fromUpload then false else s.uploading }

/-- What `getOcrResult` has found is saved. -/
def recognised (p : OcrPage) (e : OcrEvent) (f : Fetch) (image : UploadedImage)
    (result : OcrResult) : OcrPage :=
  let item := historyItem image result e.now
  let newHistory := saveToHistory f.ocrHistory item
  ((p.set f.mount fun s => { s with ocrResult := some result, ocrHistory := newHistory }).write
    e.full newHistory (.save item)).finish f

/-- The image that `handleUpload` makes of the response. -/
def imageOf (response : UploadResponse) (previewUrl : Option JsString) : UploadedImage :=
  { id := response.id
    documentId := some ((truthy response.documentId).getD response.id)
    filename := response.filename
    url := response.url
    previewUrl }

/-- One completion of an operation. -/
def complete (p : OcrPage) (e : OcrEvent) (f : Fetch) (answer : Completion) : Option OcrPage :=
  match f.phase, answer with
  | .uploading previewUrl, .uploaded response =>
    let image := imageOf response previewUrl
    some ((p.set f.mount fun s => { s with uploadedImage := some image, processing := true }).await
      f.id (.polling image 0))
  | .uploading _, .failed _ => some (p.finish f)
  | .polling image i, .ocr result =>
    match result.filter (·.fullText ≠ []) with
    | some result => some (p.recognised e f image result)
    | none => some (p.await f.id (.sleeping image i))
  | .polling image i, .failed err =>
    -- the text is not there yet
    if isNotFound err then some (p.await f.id (.sleeping image i)) else some (p.finish f)
  | .sleeping image i, .timer =>
    if i + 1 < ocrRetries then some (p.await f.id (.polling image (i + 1))) else some (p.finish f)
  | _, _ => none

/-- One event. -/
def step (p : OcrPage) (e : OcrEvent) : Option OcrPage :=
  match e.action with
  | .remount => some { p with logic := {}, rendered := {}, fresh := true, mount := p.mount + 1 }
  | .reload => some
      { p with logic := {}, rendered := {}, fresh := true, mount := p.mount + 1, fetches := [] }
  | .load =>
    if p.fresh then
      match p.stored with
      | some stored => some { p with
          fresh := false
          logic := { p.logic with ocrHistory := loadHistory stored } }
      | none => some { p with fresh := false }
    else none
  | .render => some { p with rendered := p.logic }
  | .handleUpload file objectUrl =>
    let previewUrl := if (js "image/").isPrefixOf file.type then some objectUrl else none
    some ({ p with logic := { p.logic with uploading := true, ocrResult := none } }.start true
      (.uploading previewUrl))
  | .handleRetryOcr =>
    match p.rendered.uploadedImage with
    | none => some p
    | some image =>
      some ({ p with logic := { p.logic with processing := true } }.start false (.polling image 0))
  | .handleClearResult => some { p with
      logic := { p.logic with uploadedImage := none, ocrResult := none, processing := false } }
  | .handleDeleteHistory id =>
    let newHistory := deleteFromHistory p.rendered.ocrHistory id
    some ({ p with logic := { p.logic with ocrHistory := newHistory } }.write e.full newHistory
      (.delete id))
  | .handleClearAllHistory confirmed =>
    if confirmed then some { p with
        logic := { p.logic with ocrHistory := [] }
        stored := none
        changes := p.changes ++ [.clear] }
    else some p
  | .complete id answer =>
    match p.fetches.find? (·.id = id) with
    | some f => p.complete e f answer
    | none => none

/-! ### What is stored -/

section

variable {p q : OcrPage} {e : OcrEvent} {f : Fetch} {id mount : ℕ} {full : Bool}

@[simp] theorem stored_set (p : OcrPage) (mount : ℕ) (g : OcrLogic → OcrLogic) :
    (p.set mount g).stored = p.stored := by
  unfold set
  split_ifs <;> rfl

@[simp] theorem changes_set (p : OcrPage) (mount : ℕ) (g : OcrLogic → OcrLogic) :
    (p.set mount g).changes = p.changes := by
  unfold set
  split_ifs <;> rfl

@[simp] theorem stored_finish (p : OcrPage) (f : Fetch) : (p.finish f).stored = p.stored :=
  stored_set ..

@[simp] theorem changes_finish (p : OcrPage) (f : Fetch) : (p.finish f).changes = p.changes :=
  changes_set ..

/-- **The stored list is the one that the changes leave.** -/
def Replays (p : OcrPage) : Prop :=
  p.history = replay OcrHistoryItem.key MAX_HISTORY p.changes

theorem replays_congr (hstored : q.stored = p.stored) (hchanges : q.changes = p.changes) :
    q.Replays ↔ p.Replays := by
  rw [Replays, Replays, history, history, hstored, hchanges]

/-- What is written is what the change makes of the stored list, unless the write is refused. -/
theorem replays_write (hp : p.Replays) (full : Bool) (list : List OcrHistoryItem)
    (change : Change OcrHistoryItem JsString) :
    (p.write full list change).Replays ↔
      full = true ∨ list = change.apply OcrHistoryItem.key MAX_HISTORY p.history := by
  unfold write
  cases full with
  | true => exact iff_of_true hp (.inl rfl)
  | false =>
    have happly : replay OcrHistoryItem.key MAX_HISTORY (p.changes ++ [change]) =
        change.apply OcrHistoryItem.key MAX_HISTORY p.history := by
      rw [replay_append, ← show p.history = _ from hp]
      rfl
    simp only [Bool.false_eq_true, if_false, false_or]
    show list = replay OcrHistoryItem.key MAX_HISTORY (p.changes ++ [change]) ↔ _
    rw [happly]

/-! ### The keys -/

/-- The items have different keys. -/
def Distinct (l : List OcrHistoryItem) : Prop := (l.map OcrHistoryItem.key).Nodup

/-- The items have different keys wherever a handler takes them from. -/
structure KeysDistinct (p : OcrPage) : Prop where
  history : Distinct p.history
  logic : Distinct p.logic.ocrHistory
  rendered : Distinct p.rendered.ocrHistory
  fetches : ∀ f ∈ p.fetches, Distinct f.ocrHistory

theorem key_load (item : OcrHistoryItem) :
    OcrHistoryItem.key { item with documentId := some item.key } = item.key := by
  show (truthy (some item.key)).getD item.id = item.key
  by_cases hnil : item.key = []
  · have hid : item.id = [] := by
      rw [OcrHistoryItem.key] at hnil
      cases hdoc : truthy item.documentId with
      | none => rwa [hdoc] at hnil
      | some d =>
        rw [hdoc] at hnil
        exact absurd hnil (ne_nil_of_truthy hdoc).2
    simp [truthy, hnil, hid, Option.filter_some]
  · simp [truthy, hnil, Option.filter_some]

theorem distinct_load {l : List OcrHistoryItem} (h : Distinct l) : Distinct (loadHistory l) := by
  rw [Distinct, loadHistory, List.map_map]
  exact (List.map_congr_left fun item _ => key_load item) ▸ h

theorem distinct_save (item : OcrHistoryItem) {l : List OcrHistoryItem} (h : Distinct l) :
    Distinct (saveToHistory l item) :=
  nodup_saveFront MAX_HISTORY item h

theorem distinct_delete (id : JsString) {l : List OcrHistoryItem} (h : Distinct l) :
    Distinct (deleteFromHistory l id) :=
  nodup_deleteKey id h

theorem keysDistinct_logic (hp : p.KeysDistinct) {logic : OcrLogic}
    (hl : Distinct logic.ocrHistory) : KeysDistinct { p with logic } :=
  { hp with logic := hl }

theorem keysDistinct_set (hp : p.KeysDistinct) {g : OcrLogic → OcrLogic}
    (hg : Distinct (g p.logic).ocrHistory) (mount : ℕ) : (p.set mount g).KeysDistinct := by
  unfold set
  split_ifs
  · exact keysDistinct_logic hp hg
  · exact hp

theorem keysDistinct_write (hp : p.KeysDistinct) {list : List OcrHistoryItem} (hl : Distinct list)
    (full : Bool) (change : Change OcrHistoryItem JsString) :
    (p.write full list change).KeysDistinct := by
  unfold write
  split_ifs
  · exact hp
  · exact { hp with history := hl }

theorem keysDistinct_finish (hp : p.KeysDistinct) (f : Fetch) : (p.finish f).KeysDistinct := by
  have hkeep : KeysDistinct { p with fetches := p.fetches.filter fun g => g.id ≠ f.id } :=
    { hp with fetches := fun g hg => hp.fetches g (List.mem_of_mem_filter hg) }
  exact keysDistinct_set hkeep hp.logic f.mount

theorem keysDistinct_await (hp : p.KeysDistinct) (id : ℕ) (phase : FetchPhase) :
    (p.await id phase).KeysDistinct := by
  refine { hp with fetches := ?_ }
  intro g hg
  obtain ⟨f, hf, rfl⟩ := List.mem_map.1 hg
  split_ifs <;> exact hp.fetches f hf

theorem keysDistinct_start (hp : p.KeysDistinct) (fromUpload : Bool) (phase : FetchPhase) :
    (p.start fromUpload phase).KeysDistinct := by
  refine { hp with fetches := ?_ }
  intro g hg
  rcases List.mem_cons.1 hg with rfl | hg
  · exact hp.rendered
  · exact hp.fetches g hg

theorem keysDistinct_complete (hp : p.KeysDistinct) (hf : Distinct f.ocrHistory)
    {answer : Completion} (h : p.complete e f answer = some q) : q.KeysDistinct := by
  obtain ⟨id, mount, ocrHistory, fromUpload, phase⟩ := f
  cases phase <;> cases answer <;> try cases h
  case uploading.uploaded previewUrl response =>
    exact keysDistinct_await (keysDistinct_set hp hp.logic mount) id _
  case uploading.failed previewUrl err => exact keysDistinct_finish hp _
  case polling.ocr image i result =>
    cases htext : result.filter (·.fullText ≠ []) with
    | none =>
      simp only [complete, htext] at h
      obtain rfl := Option.some.inj h
      exact keysDistinct_await hp id _
    | some text =>
      simp only [complete, htext] at h
      obtain rfl := Option.some.inj h
      have hnew := distinct_save (historyItem image text e.now) hf
      exact keysDistinct_finish
        (keysDistinct_write (keysDistinct_set hp hnew mount) hnew e.full _) _
  case polling.failed image i err =>
    simp only [complete] at h
    split_ifs at h
    · obtain rfl := Option.some.inj h
      exact keysDistinct_await hp id _
    · obtain rfl := Option.some.inj h
      exact keysDistinct_finish hp _
  case sleeping.timer image i =>
    simp only [complete] at h
    split_ifs at h
    · obtain rfl := Option.some.inj h
      exact keysDistinct_await hp id _
    · obtain rfl := Option.some.inj h
      exact keysDistinct_finish hp _

theorem keysDistinct_step (hp : p.KeysDistinct) (h : p.step e = some q) : q.KeysDistinct := by
  obtain ⟨now, full, action⟩ := e
  cases action with
  | remount =>
    obtain rfl := Option.some.inj h
    exact { hp with logic := List.nodup_nil, rendered := List.nodup_nil }
  | reload =>
    obtain rfl := Option.some.inj h
    exact ⟨hp.history, List.nodup_nil, List.nodup_nil, fun f hf => absurd hf List.not_mem_nil⟩
  | load =>
    simp only [step] at h
    split_ifs at h
    cases hstored : p.stored with
    | none =>
      rw [hstored] at h
      obtain rfl := Option.some.inj h
      exact { hp with history := List.nodup_nil }
    | some stored =>
      rw [hstored] at h
      obtain rfl := Option.some.inj h
      have hhistory : Distinct stored := by
        have := hp.history
        rwa [history, hstored, Option.getD_some] at this
      exact { hp with history := hhistory, logic := distinct_load hhistory }
  | render =>
    obtain rfl := Option.some.inj h
    exact { hp with rendered := hp.logic }
  | handleUpload file objectUrl =>
    obtain rfl := Option.some.inj h
    exact keysDistinct_start (keysDistinct_logic hp (by exact hp.logic)) true _
  | handleRetryOcr =>
    simp only [step] at h
    split at h
    · obtain rfl := Option.some.inj h
      exact hp
    · obtain rfl := Option.some.inj h
      exact keysDistinct_start (keysDistinct_logic hp (by exact hp.logic)) false _
  | handleClearResult =>
    obtain rfl := Option.some.inj h
    exact { hp with }
  | handleDeleteHistory id =>
    obtain rfl := Option.some.inj h
    have hnew := distinct_delete id hp.rendered
    exact keysDistinct_write (keysDistinct_logic hp (by exact hnew)) hnew full _
  | handleClearAllHistory confirmed =>
    simp only [step] at h
    split_ifs at h
    · obtain rfl := Option.some.inj h
      exact { hp with history := List.nodup_nil, logic := List.nodup_nil }
    · obtain rfl := Option.some.inj h
      exact hp
  | complete id answer =>
    simp only [step] at h
    split at h
    · rename_i f hfind
      exact keysDistinct_complete hp (hp.fetches f (List.mem_of_find?_eq_some hfind)) h
    · cases h

/-! ### Stale handlers -/

/-- The items under other keys. -/
def others (l : List OcrHistoryItem) (key : JsString) : List OcrHistoryItem :=
  l.filter fun item => item.key ≠ key

/-- The image whose text the completion brings. -/
def recognises (f : Fetch) (answer : Completion) : Option UploadedImage :=
  match f.phase, answer with
  | .polling image _, .ocr result =>
    if (result.filter (·.fullText ≠ [])).isSome then some image else none
  | _, _ => none

/-- The handler works on a list that agrees with the stored one: on the items under other keys, and
for a save on as many as stay behind the new one. -/
def UpToDate (p : OcrPage) (e : OcrEvent) : Prop :=
  match e.action with
  | .handleDeleteHistory id => others p.rendered.ocrHistory id = others p.history id
  | .complete id answer =>
    ∀ f ∈ p.fetches.find? (·.id = id), ∀ image ∈ recognises f answer,
      (others f.ocrHistory image.key).take (MAX_HISTORY - 1) =
        (others p.history image.key).take (MAX_HISTORY - 1)
  | _ => True

/-- A write is refused, or it is made of the stored list. -/
def WritesWell (p : OcrPage) (e : OcrEvent) : Prop := e.full = true ∨ p.UpToDate e

theorem key_historyItem (image : UploadedImage) (result : OcrResult) (now : ℤ) :
    (historyItem image result now).key = image.key := by
  show (truthy (some image.key)).getD image.key = image.key
  by_cases h : image.key = [] <;> simp [truthy, h, Option.filter_some]

theorem replays_complete (hp : p.Replays) (hk : p.KeysDistinct) (hf : Distinct f.ocrHistory)
    {answer : Completion} (h : p.complete e f answer = some q) :
    q.Replays ↔ e.full = true ∨ ∀ image ∈ recognises f answer,
      (others f.ocrHistory image.key).take (MAX_HISTORY - 1) =
        (others p.history image.key).take (MAX_HISTORY - 1) := by
  have hidle (hstored : q.stored = p.stored) (hchanges : q.changes = p.changes)
      (hnone : recognises f answer = none) :
      q.Replays ↔ e.full = true ∨ ∀ image ∈ recognises f answer,
        (others f.ocrHistory image.key).take (MAX_HISTORY - 1) =
          (others p.history image.key).take (MAX_HISTORY - 1) := by
    refine iff_of_true ((replays_congr hstored hchanges).2 hp) (.inr ?_)
    rw [hnone]
    exact fun _ h => (by cases h)
  obtain ⟨id, mount, ocrHistory, fromUpload, phase⟩ := f
  cases phase <;> cases answer <;> try cases h
  case uploading.uploaded previewUrl response =>
    exact hidle (stored_set ..) (changes_set ..) rfl
  case uploading.failed previewUrl err =>
    exact hidle (stored_finish ..) (changes_finish ..) rfl
  case polling.ocr image i result =>
    cases htext : result.filter (·.fullText ≠ []) with
    | none =>
      simp only [complete, htext] at h
      obtain rfl := Option.some.inj h
      exact hidle rfl rfl (by simp only [recognises, htext]; rfl)
    | some text =>
      simp only [complete, htext] at h
      obtain rfl := Option.some.inj h
      have hrecognises : recognises ⟨id, mount, ocrHistory, fromUpload, .polling image i⟩
          (.ocr result) = some image := by
        simp only [recognises, htext, Option.isSome_some, if_true]
      refine (replays_congr (stored_finish ..) (changes_finish ..)).trans ?_
      refine (replays_write ((replays_congr (stored_set ..) (changes_set ..)).2 hp) ..).trans ?_
      rw [hrecognises, history, stored_set]
      refine or_congr_right ((saveFront_eq_iff hf hk.history).trans ?_)
      rw [key_historyItem]
      simp only [Option.mem_def, Option.some.injEq, forall_eq']
      rfl
  case polling.failed image i err =>
    simp only [complete] at h
    split_ifs at h
    · obtain rfl := Option.some.inj h
      exact hidle rfl rfl rfl
    · obtain rfl := Option.some.inj h
      exact hidle (stored_finish ..) (changes_finish ..) rfl
  case sleeping.timer image i =>
    simp only [complete] at h
    split_ifs at h
    · obtain rfl := Option.some.inj h
      exact hidle rfl rfl rfl
    · obtain rfl := Option.some.inj h
      exact hidle (stored_finish ..) (changes_finish ..) rfl

/-- **One event** leaves the stored list as the changes make it exactly when what it writes is made
of the stored list. -/
theorem replays_step (hp : p.Replays) (hk : p.KeysDistinct) (h : p.step e = some q) :
    q.Replays ↔ p.WritesWell e := by
  have hidle (hstored : q.stored = p.stored) (hchanges : q.changes = p.changes)
      (hup : p.UpToDate e) : q.Replays ↔ p.WritesWell e :=
    iff_of_true ((replays_congr hstored hchanges).2 hp) (.inr hup)
  obtain ⟨now, full, action⟩ := e
  cases action with
  | remount =>
    obtain rfl := Option.some.inj h
    exact hidle rfl rfl trivial
  | reload =>
    obtain rfl := Option.some.inj h
    exact hidle rfl rfl trivial
  | load =>
    simp only [step] at h
    split_ifs at h
    split at h
    · obtain rfl := Option.some.inj h
      exact hidle rfl rfl trivial
    · obtain rfl := Option.some.inj h
      exact hidle rfl rfl trivial
  | render =>
    obtain rfl := Option.some.inj h
    exact hidle rfl rfl trivial
  | handleUpload file objectUrl =>
    obtain rfl := Option.some.inj h
    exact hidle rfl rfl trivial
  | handleRetryOcr =>
    simp only [step] at h
    split at h
    · obtain rfl := Option.some.inj h
      exact hidle rfl rfl trivial
    · obtain rfl := Option.some.inj h
      exact hidle rfl rfl trivial
  | handleClearResult =>
    obtain rfl := Option.some.inj h
    exact hidle rfl rfl trivial
  | handleDeleteHistory id =>
    obtain rfl := Option.some.inj h
    let newHistory := deleteFromHistory p.rendered.ocrHistory id
    exact replays_write (p := { p with logic := { p.logic with ocrHistory := newHistory } }) hp full
      newHistory (.delete id)
  | handleClearAllHistory confirmed =>
    simp only [step] at h
    split_ifs at h
    · obtain rfl := Option.some.inj h
      refine iff_of_true ?_ (.inr trivial)
      show [] = replay OcrHistoryItem.key MAX_HISTORY (p.changes ++ [.clear])
      rw [replay_append]
      rfl
    · obtain rfl := Option.some.inj h
      exact hidle rfl rfl trivial
  | complete id answer =>
    simp only [step] at h
    split at h
    · rename_i f hfind
      refine (replays_complete hp hk (hk.fetches f (List.mem_of_find?_eq_some hfind)) h).trans ?_
      simp only [WritesWell, UpToDate, hfind, Option.mem_def, Option.some.injEq, forall_eq']
    · cases h

/-- The items have different keys in every state that is reached. -/
theorem keysDistinct_of_run {es : List OcrEvent} (h : AnyRun step {} es p) : p.KeysDistinct :=
  h.invariant ⟨.nil, .nil, .nil, fun _ hf => absurd hf List.not_mem_nil⟩
    fun _ _ _ hp _ hst => keysDistinct_step hp hst

/-- **The history loses and resurrects nothing**: the stored list is the one that the saves and
deletions leave, in every state that is passed, exactly when each of them is refused or works on a
list that agrees with the stored one. -/
theorem ocrHistory_iff {es : List OcrEvent} (h : AnyRun step {} es p) :
    Run step WritesWell {} es p ↔ Run.Always step Replays {} es := by
  refine h.guarded_iff_always (I := KeysDistinct) ?_ rfl ?_ ?_
  · exact ⟨.nil, .nil, .nil, fun _ hf => absurd hf List.not_mem_nil⟩
  · exact fun _ _ _ hk hst => keysDistinct_step hk hst
  · exact fun _ _ _ hk hp hst => replays_step hp hk hst

/-- What has been deleted or cleared, and not saved again, is absent. -/
theorem absent_of_replays (hp : p.Replays) {before after : List (Change OcrHistoryItem JsString)}
    {c : Change OcrHistoryItem JsString} {key : JsString}
    (hchanges : p.changes = before ++ c :: after)
    (hdelete : c.Deletes key) (hsave : ∀ c' ∈ after, ¬ c'.Saves OcrHistoryItem.key key) :
    ∀ item ∈ p.history, item.key ≠ key := by
  rw [show p.history = _ from hp, hchanges]
  exact key_ne_of_mem_replay hdelete hsave

/-- What has been saved, and neither deleted nor saved again, is present as long as fewer than
`MAX_HISTORY` items have been saved since. -/
theorem present_of_replays (hp : p.Replays) {before after : List (Change OcrHistoryItem JsString)}
    {item : OcrHistoryItem} (hchanges : p.changes = before ++ .save item :: after)
    (hsave : ∀ c ∈ after, ¬ c.Saves OcrHistoryItem.key item.key)
    (hdelete : ∀ c ∈ after, ¬ c.Deletes item.key)
    (hcount : after.countP Change.isSave < MAX_HISTORY) : item ∈ p.history := by
  rw [show p.history = _ from hp, hchanges]
  exact mem_replay hsave hdelete hcount

end

/-! ### Two images -/

/-- An image that is chosen. -/
def sampleImage : File := ⟨js "a.png", 10, js "image/png"⟩

/-- What the server answers to its upload. -/
def sampleResponse (id : JsString) : UploadResponse := ⟨id, js "a.png", js "/a.png", none⟩

/-- A text that is recognised. -/
def sampleText : OcrResult := ⟨js "text", none, js "zh", none⟩

/-- An image is uploaded and its text recognised. -/
def firstImage : List OcrEvent :=
  [⟨0, false, .handleUpload sampleImage (js "blob:1")⟩,
    ⟨1, false, .complete 0 (.uploaded (sampleResponse (js "a")))⟩,
    ⟨2, false, .complete 0 (.ocr (some sampleText))⟩]

/-- Another image is uploaded, and the first entry is deleted before the text is there. -/
def secondImage : List OcrEvent :=
  [⟨3, false, .render⟩, ⟨4, false, .handleUpload sampleImage (js "blob:2")⟩,
    ⟨5, false, .handleDeleteHistory (js "a")⟩,
    ⟨6, false, .complete 1 (.uploaded (sampleResponse (js "b")))⟩,
    ⟨7, false, .complete 1 (.ocr (some sampleText))⟩]

theorem ocrHistory_iff_first_image : Run.Always step Replays {} firstImage := by
  have hrun : AnyRun step {} firstImage _ := Run.of_foldlM rfl
  refine (ocrHistory_iff hrun).1 (.cons (.inr trivial) rfl (.cons (.inr ?_) rfl
    (.single (.inr ?_) rfl)))
  · rintro _ ⟨⟩ _ ⟨⟩
  · rintro _ ⟨⟩ _ ⟨⟩
    rfl

/-- **A deleted entry comes back** with the text of an image that was uploaded before. -/
theorem entry_resurrected : ∃ p, AnyRun step {} (firstImage ++ secondImage) p ∧
    p.history.map OcrHistoryItem.key = [js "b", js "a"] ∧
    (replay OcrHistoryItem.key MAX_HISTORY p.changes).map OcrHistoryItem.key = [js "b"] ∧
    ¬ Replays p := by
  have hkeys : ∀ p, p.history.map OcrHistoryItem.key = [js "b", js "a"] →
      (replay OcrHistoryItem.key MAX_HISTORY p.changes).map OcrHistoryItem.key = [js "b"] →
      ¬ Replays p := by
    intro p hstored hchanges hp
    rw [show p.history = _ from hp, hchanges] at hstored
    exact absurd hstored (by decide)
  refine ⟨_, Run.of_foldlM rfl, rfl, rfl, hkeys _ rfl rfl⟩

end OcrPage

end Client

end StudyOasis
