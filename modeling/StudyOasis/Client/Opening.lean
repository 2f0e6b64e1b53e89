import StudyOasis.Client.ChatPage
import StudyOasis.Client.Entries

/-!
# Opening a stored conversation

`selectConversation` shows a stored session, and the effects of the page react to it: the session
is saved at once, under its own document or, when it has none, under the document of the URL;
then the document of the URL is set again, and the session is saved once more under that.

* `opening_keeps_iff` : when the sessions that can be read are kept.
-/

namespace StudyOasis

namespace Client

/-! ### A pass that shows messages -/

namespace Render

variable (last : Option Render) (r : Render)

/-- The file name of the URL is set. -/
def setsFilename : Bool :=
  r.changed last filenameDeps && decide (r.params.filenameParam ≠ r.documentFilename)

/-- The file URL of the URL is set. -/
def setsFileUrl : Bool :=
  r.changed last fileUrlDeps && decide (r.params.fileUrlParam ≠ r.documentUrl)

/-- The document of the URL is set. -/
def setsDocument : Bool :=
  r.changed last documentDeps &&
    if r.params.urlDocumentId.isSome then decide (r.currentDocumentId ≠ r.params.urlDocumentId)
    else (truthy r.currentDocumentId).isSome

/-- The session is saved. -/
def saves : Bool := r.changed last persistDeps

/-- The store after the effects that react to the URL. -/
def synced (s : ChatStoreState) : ChatStoreState :=
  { s with
    documentFilename := if r.setsFilename last then r.params.filenameParam else s.documentFilename
    documentUrl := if r.setsFileUrl last then r.params.fileUrlParam else s.documentUrl
    currentDocumentId :=
      if r.setsDocument last then r.params.urlDocumentId else s.currentDocumentId }

theorem filenameEffect_eq : r.filenameEffect last =
    if r.setsFilename last then [.setDocumentFilename r.params.filenameParam] else [] := by
  unfold filenameEffect useEffect setsFilename
  cases r.changed last filenameDeps <;> simp

theorem fileUrlEffect_eq : r.fileUrlEffect last =
    if r.setsFileUrl last then [.setDocumentUrl r.params.fileUrlParam] else [] := by
  unfold fileUrlEffect useEffect setsFileUrl
  cases r.changed last fileUrlDeps <;> simp

theorem documentEffect_eq : r.documentEffect last =
    if r.setsDocument last then [.setCurrentDocumentId r.params.urlDocumentId] else [] := by
  unfold documentEffect useEffect setsDocument
  cases r.changed last documentDeps <;> cases r.params.urlDocumentId <;> simp

/-- A page that shows messages has nothing to load. -/
theorem loadEffect_of_loaded (h : r.sessionLoaded = true) : r.loadEffect last = [] := by
  simp [loadEffect, useEffect, h]

/-- A page that shows messages does not send the initial prompt. -/
theorem promptEffect_of_messages (h : r.messagesLength ≠ 0) (prompt : InitialPrompt) :
    r.promptEffect last prompt = [] := by
  unfold promptEffect useEffect
  cases truthy prompt.value <;> simp [h]

/-! The URL is put back once: the next pass finds it there, or has nothing new to look at. -/

variable {r} {r' : Render}

theorem setsFilename_again (hp : r'.params = r.params)
    (h : r'.documentFilename =
      if r.setsFilename last then r.params.filenameParam else r.documentFilename) :
    r'.setsFilename (some r) = false := by
  unfold setsFilename
  cases hr : r.setsFilename last with
  | true =>
    rw [hr, if_pos rfl] at h
    simp [hp, h]
  | false =>
    rw [hr, if_neg Bool.false_ne_true] at h
    simp [changed, filenameDeps, hp, h]

theorem setsFileUrl_again (hp : r'.params = r.params)
    (h : r'.documentUrl = if r.setsFileUrl last then r.params.fileUrlParam else r.documentUrl) :
    r'.setsFileUrl (some r) = false := by
  unfold setsFileUrl
  cases hr : r.setsFileUrl last with
  | true =>
    rw [hr, if_pos rfl] at h
    simp [hp, h]
  | false =>
    rw [hr, if_neg Bool.false_ne_true] at h
    simp [changed, fileUrlDeps, hp, h]

theorem setsDocument_again (hp : r'.params = r.params)
    (h : r'.currentDocumentId =
      if r.setsDocument last then r.params.urlDocumentId else r.currentDocumentId) :
    r'.setsDocument (some r) = false := by
  unfold setsDocument
  cases hr : r.setsDocument last with
  | true =>
    rw [hr, if_pos rfl] at h
    rw [hp, h]
    cases r.params.urlDocumentId <;> simp [truthy]
  | false =>
    rw [hr, if_neg Bool.false_ne_true] at h
    simp [changed, documentDeps, hp, h]

end Render

/-! ### Two passes -/

namespace Page

variable {p q : Page} {now : ℤ} {random : JsString}

/-- `q` is `p` with the store, the storage and the mark `stale` that are given. -/
structure Becomes (p q : Page) (store : ChatStoreState) (storage : LocalStorage) (stale : Bool) :
    Prop where
  params : q.params = p.params
  messages : q.messages = p.messages
  last : q.last = p.last
  store : q.tab.store = store
  storage : q.tab.storage = storage
  stale : q.stale = stale

/-- An effect that sets the store, or does not run. -/
theorem dispatchAll_set (now : ℤ) {a : Action} {f : ChatStoreState → ChatStoreState}
    (ha : ∀ p : Page, ∃ q, p.dispatch ⟨now, a⟩ = some q ∧
      p.Becomes q (f p.tab.store) p.tab.storage true) (b : Bool) (p : Page) :
    ∃ q, dispatchAll now (if b then [a] else []) p = some q ∧
      p.Becomes q (if b then f p.tab.store else p.tab.store) p.tab.storage (p.stale || b) := by
  cases b with
  | false => exact ⟨p, rfl, rfl, rfl, rfl, rfl, rfl, by simp⟩
  | true =>
    obtain ⟨q, hq, hb⟩ := ha p
    refine ⟨q, ?_, hb.params, hb.messages, hb.last, hb.store, hb.storage, by simp [hb.stale]⟩
    rw [if_pos rfl, dispatchAll, hq]
    rfl

/-- The effect that saves the session. -/
theorem dispatchAll_persist (now : ℤ) (random : JsString) (payload : PersistPayload) (b : Bool)
    (p : Page) :
    ∃ q, dispatchAll now (if b then [.persistSession payload random] else []) p = some q ∧
      p.Becomes q p.tab.store
        (if b then (p.tab.store.persistSession p.tab.storage now random payload).1
          else p.tab.storage) p.stale := by
  cases b with
  | false => exact ⟨p, rfl, rfl, rfl, rfl, rfl, rfl, rfl⟩
  | true =>
    refine ⟨_, rfl, rfl, rfl, rfl, rfl, rfl, ?_⟩
    exact Bool.or_false _

/-- **A pass that shows messages**: the URL is put back into the store, and the session that the
render has read is saved with the messages that are shown. -/
theorem pass_of_messages (now : ℤ) (random : JsString) (hl : p.tab.store.sessionLoaded = true)
    (hm : p.tab.store.messages ≠ []) :
    ∃ q, p.pass now random = some q ∧
      q.params = p.params ∧ q.messages = p.messages ∧ q.last = some p.render ∧
      q.tab.store = p.render.synced p.last p.tab.store ∧
      q.tab.storage =
        (if p.render.saves p.last then
          ((p.render.synced p.last p.tab.store).persistSession p.tab.storage now random
            p.render.payload).1
        else p.tab.storage) ∧
      q.stale = (p.render.setsFilename p.last || p.render.setsFileUrl p.last ||
        p.render.setsDocument p.last) := by
  have hload : p.render.loadEffect p.last = [] := p.render.loadEffect_of_loaded p.last hl
  have hprompt := p.render.promptEffect_of_messages p.last
    (show p.render.messagesLength ≠ 0 by simpa [render] using hm)
    (p.render.initialPrompt p.last p.prompt)
  obtain ⟨q₁, h₁, b₁⟩ := dispatchAll_set now (a := .setDocumentFilename p.params.filenameParam)
    (f := fun s => { s with documentFilename := p.params.filenameParam })
    (fun _ => ⟨_, rfl, rfl, rfl, rfl, rfl, rfl, Bool.or_true _⟩) (p.render.setsFilename p.last)
    { p with
      prompt := { p.render.initialPrompt p.last p.prompt with
        sent := (p.render.initialPrompt p.last p.prompt).sent || false }
      last := some p.render
      stale := false }
  obtain ⟨q₂, h₂, b₂⟩ := dispatchAll_set now (a := .setDocumentUrl p.params.fileUrlParam)
    (f := fun s => { s with documentUrl := p.params.fileUrlParam })
    (fun _ => ⟨_, rfl, rfl, rfl, rfl, rfl, rfl, Bool.or_true _⟩) (p.render.setsFileUrl p.last) q₁
  obtain ⟨q₃, h₃, b₃⟩ := dispatchAll_set now (a := .setCurrentDocumentId p.params.urlDocumentId)
    (f := fun s => { s with currentDocumentId := p.params.urlDocumentId })
    (fun _ => ⟨_, rfl, rfl, rfl, rfl, rfl, rfl, Bool.or_true _⟩) (p.render.setsDocument p.last) q₂
  obtain ⟨q₄, h₄, b₄⟩ := dispatchAll_persist now random p.render.payload
    (p.render.saves p.last) q₃
  have hstore : q₃.tab.store = p.render.synced p.last p.tab.store := by
    rw [b₃.store, b₂.store, b₁.store, Render.synced]
    cases p.render.setsFilename p.last <;> cases p.render.setsFileUrl p.last <;>
      cases p.render.setsDocument p.last <;> rfl
  have hstorage : q₃.tab.storage = p.tab.storage := by
    rw [b₃.storage, b₂.storage, b₁.storage]
  refine ⟨q₄, ?_, ?_, ?_, ?_, ?_, ?_, ?_⟩
  · simp only [pass, Render.effects, hload, hprompt, Render.filenameEffect_eq,
      Render.fileUrlEffect_eq, Render.documentEffect_eq, Render.persistEffect, Render.useEffect,
      List.nil_append, List.append_nil, dispatchAll_append, List.isEmpty_nil, Bool.not_true]
    refine Option.bind_eq_some_iff.2 ⟨q₁, h₁, Option.bind_eq_some_iff.2 ⟨q₂, h₂,
      Option.bind_eq_some_iff.2 ⟨q₃, h₃, h₄⟩⟩⟩
  · rw [b₄.params, b₃.params, b₂.params, b₁.params]
  · rw [b₄.messages, b₃.messages, b₂.messages, b₁.messages]
  · rw [b₄.last, b₃.last, b₂.last, b₁.last]
  · rw [b₄.store, hstore]
  · rw [b₄.storage, hstore, hstorage]
  · rw [b₄.stale, b₃.stale, b₂.stale, b₁.stale, Bool.false_or]

theorem settle_of_not_stale (hp : p.stale = false) (randoms : List JsString) :
    settle now randoms p = some p := by
  cases randoms <;> simp [settle, hp]

/-- A stored session is selected. -/
theorem dispatch_select {sessionId : JsString} {s : ChatSession}
    (hs : ChatStorage.getSessionById p.tab.storage now sessionId = some s) :
    ∃ q, p.dispatch ⟨now, .selectConversation sessionId⟩ = some q ∧ q.params = p.params ∧
      q.messages = p.messages + 1 ∧ q.last = p.last ∧
      q.tab.store = { p.tab.store.showSession s with error := none } ∧
      q.tab.storage = p.tab.storage ∧ q.stale = true := by
  have hstore : p.tab.store.selectConversation p.tab.storage now sessionId =
      { p.tab.store.showSession s with error := none } := by
    rw [ChatStoreState.selectConversation, hs]
  refine ⟨_, rfl, rfl, ?_, rfl, hstore, rfl, ?_⟩
  · exact if_pos (by simp [Tab.setsMessages, hs])
  · simp [Tab.setsStore, hs]

/-- `selectConversation`, and the renders until the page settles. -/
def openConversation (p : Page) (now : ℤ) (sessionId : JsString) (randoms : List JsString) :
    Option Page :=
  (p.dispatch ⟨now, .selectConversation sessionId⟩).bind (settle now randoms)

/-- The document under which a session that is opened is saved at first. -/
def firstKey (p : Page) (s : ChatSession) : Option JsString :=
  (truthy s.fileId).or p.params.urlDocumentId

/-- The document under which it is saved in the end: the effect that puts the document of the URL
back does not run if the session has the document that was shown before. -/
def lastKey (p : Page) (s : ChatSession) : Option JsString :=
  if truthy s.fileId = p.tab.store.currentDocumentId then p.firstKey s
  else p.params.urlDocumentId

theorem truthy_urlDocumentId (params : SearchParams) :
    truthy params.urlDocumentId = params.urlDocumentId := by
  unfold SearchParams.urlDocumentId
  cases h : truthy params.documentId with
  | some d => rw [Option.some_or, ← h, truthy_truthy]
  | none => rw [Option.none_or, truthy_truthy]

theorem truthy_firstKey (s : ChatSession) : truthy (p.firstKey s) = p.firstKey s := by
  unfold firstKey
  cases h : truthy s.fileId with
  | some d => rw [Option.some_or, ← h, truthy_truthy]
  | none => rw [Option.none_or, truthy_urlDocumentId]

theorem truthy_lastKey (s : ChatSession) : truthy (p.lastKey s) = p.lastKey s := by
  unfold lastKey
  split_ifs
  · exact truthy_firstKey s
  · exact truthy_urlDocumentId _

/-- The document of the second pass. -/
theorem lastKey_eq {r : Render} {s : ChatSession} (hparams : r.params = p.params)
    (hdoc : r.currentDocumentId = truthy s.fileId) :
    (truthy (if r.setsDocument (some p.render) then r.params.urlDocumentId
      else r.currentDocumentId)).or p.params.urlDocumentId = p.lastKey s := by
  have htruthy := truthy_urlDocumentId p.params
  rw [lastKey, firstKey, Render.setsDocument, hparams, hdoc, truthy_truthy]
  by_cases hsame : truthy s.fileId = p.tab.store.currentDocumentId
  · have hch : r.changed (some p.render) Render.documentDeps = false := by
      simp [Render.changed, Render.documentDeps, render, hparams, hdoc, hsame]
    rw [hch, Bool.false_and, if_neg Bool.false_ne_true, truthy_truthy, if_pos hsame]
  · have hch : r.changed (some p.render) Render.documentDeps = true := by
      simp [Render.changed, Render.documentDeps, render, hparams, hdoc, Ne.symm hsame]
    rw [if_neg hsame, hch, Bool.true_and]
    cases hu : p.params.urlDocumentId with
    | none => cases hf : truthy s.fileId <;> simp [truthy]
    | some u =>
      rw [hu] at htruthy
      by_cases hf : truthy s.fileId = some u <;> simp [hf, htruthy]

theorem persistSession_of_loaded {s : ChatStoreState} (hl : s.sessionLoaded = true)
    (hm : s.messages ≠ []) (storage : LocalStorage) (payload : PersistPayload) :
    s.persistSession storage now random payload =
      ChatStorage.saveSession storage now random (s.sessionData payload) none
        (truthy s.conversationId) :=
  if_neg (by simp [hl, hm])

/-- The page `q` after the first render that follows the selection of `s` on `p`: the session has
been saved under `firstKey`, and the URL has been put back. -/
structure Reopened (p q : Page) (s : ChatSession) (now : ℤ) (random : JsString) : Prop where
  loaded : q.tab.store.sessionLoaded = true
  messages : q.tab.store.messages = s.messages
  conversationId : truthy q.tab.store.conversationId = truthy s.conversationId
  key : q.render.effectiveDocumentId = p.lastKey s
  settled : q.stale = false → p.lastKey s = p.firstKey s
  last : ∃ r, q.last = some r ∧ r.effectiveDocumentId = p.firstKey s ∧
    q.render.setsFilename (some r) = false ∧ q.render.setsFileUrl (some r) = false ∧
    q.render.setsDocument (some r) = false
  storage : ∃ data : ChatStorage.SessionData, data.fileId = p.firstKey s ∧
    data.messages = s.messages ∧
    q.tab.storage = (ChatStorage.saveSession p.tab.storage now random data none
      (truthy s.conversationId)).1

theorem reopened_of_found (random : JsString) (hp : p.AtRest) {sessionId : JsString}
    {s : ChatSession} (hs : ChatStorage.getSessionById p.tab.storage now sessionId = some s)
    (hm : s.messages ≠ []) :
    ∃ p₁ q, p.dispatch ⟨now, .selectConversation sessionId⟩ = some p₁ ∧ p₁.stale = true ∧
      p₁.pass now random = some q ∧ Reopened p q s now random := by
  obtain ⟨p₁, hsel, hparams₁, hmsg₁, hlast₁, hstore₁, hstorage₁, hstale₁⟩ := dispatch_select hs
  have hmessages₁ : p₁.tab.store.messages = s.messages := by rw [hstore₁]; rfl
  obtain ⟨q, hpass, hparams, -, hlast, hstore, hstorage, hstale⟩ :=
    pass_of_messages (p := p₁) now random (by rw [hstore₁]; exact hp.loaded)
      (by rw [hmessages₁]; exact hm)
  have hmessages : q.tab.store.messages = s.messages := by rw [hstore]; exact hmessages₁
  have hloaded : q.tab.store.sessionLoaded = true := by
    rw [hstore, Render.synced, hstore₁]
    exact hp.loaded
  have hconv : truthy q.tab.store.conversationId = truthy s.conversationId := by
    rw [hstore, Render.synced, hstore₁]
    exact truthy_truthy _
  have hdoc₁ : p₁.render.currentDocumentId = truthy s.fileId := by
    show p₁.tab.store.currentDocumentId = _
    rw [hstore₁]
    rfl
  have hkey₁ : p₁.render.effectiveDocumentId = p.firstKey s := by
    rw [Render.effectiveDocumentId, hdoc₁, truthy_truthy]
    show (truthy s.fileId).or p₁.params.urlDocumentId = _
    rw [hparams₁, firstKey]
  have hkey : q.render.effectiveDocumentId = p.lastKey s := by
    rw [← lastKey_eq (r := p₁.render) hparams₁ hdoc₁, Render.effectiveDocumentId]
    show (truthy q.tab.store.currentDocumentId).or q.params.urlDocumentId = _
    rw [hstore, hparams, hparams₁, hlast₁, hp.last]
    rfl
  refine ⟨p₁, q, hsel, hstale₁, hpass, hloaded, hmessages, hconv, hkey, ?_, ?_, ?_⟩
  · -- the document of the URL was not put back
    intro hst
    rw [hstale, Bool.or_eq_false_iff] at hst
    rw [← hkey₁, ← hkey, Render.effectiveDocumentId, Render.effectiveDocumentId]
    show (truthy q.tab.store.currentDocumentId).or q.params.urlDocumentId =
      (truthy p₁.tab.store.currentDocumentId).or p₁.params.urlDocumentId
    rw [hstore, hparams, Render.synced, hst.2]
    rfl
  · refine ⟨p₁.render, hlast, hkey₁, Render.setsFilename_again p₁.last hparams ?_,
      Render.setsFileUrl_again p₁.last hparams ?_, Render.setsDocument_again p₁.last hparams ?_⟩
    · exact congrArg ChatStoreState.documentFilename hstore
    · exact congrArg ChatStoreState.documentUrl hstore
    · exact congrArg ChatStoreState.currentDocumentId hstore
  · -- the array of messages is another one, so the pass saves
    have hsaves : p₁.render.saves p₁.last = true := by
      rw [hlast₁, hp.last]
      simp [Render.saves, Render.changed, Render.persistDeps, render, hmsg₁]
    rw [if_pos hsaves, hstorage₁, ← hstore, persistSession_of_loaded hloaded
      (by rw [hmessages]; exact hm), hconv] at hstorage
    exact ⟨_, (congrArg truthy hkey₁).trans (truthy_firstKey s), hmessages, hstorage⟩

/-- **Opening a stored session** ends after at most two renders.  The first one saves its
messages under `firstKey`; the second one, if it saves, under `lastKey`. -/
theorem openConversation_of_found (hp : p.AtRest) {sessionId : JsString} {s : ChatSession}
    (hs : ChatStorage.getSessionById p.tab.storage now sessionId = some s) (hm : s.messages ≠ [])
    (r₁ r₂ : JsString) (randoms : List JsString) :
    ∃ q data₁ data₂, p.openConversation now sessionId (r₁ :: r₂ :: randoms) = some q ∧
      data₁.fileId = p.firstKey s ∧ data₁.messages = s.messages ∧
      data₂.fileId = p.lastKey s ∧ data₂.messages = s.messages ∧
      (p.lastKey s = p.firstKey s ∧
          q.tab.storage = (ChatStorage.saveSession p.tab.storage now r₁ data₁ none
            (truthy s.conversationId)).1 ∨
        q.tab.storage = (ChatStorage.saveSession
          (ChatStorage.saveSession p.tab.storage now r₁ data₁ none (truthy s.conversationId)).1 now
          r₂ data₂ none (truthy s.conversationId)).1) := by
  obtain ⟨p₁, p₂, hsel, hstale₁, hpass₁, h⟩ := reopened_of_found r₁ hp hs hm
  obtain ⟨data, hfile, hmsg, hstorage⟩ := h.storage
  obtain ⟨r, hlast, hkey, hfilename, hurl, hdoc⟩ := h.last
  have hfile₂ : (p₂.tab.store.sessionData p₂.render.payload).fileId = p.lastKey s :=
    (congrArg truthy h.key).trans (truthy_lastKey s)
  rw [openConversation, hsel, Option.bind_some, settle, if_pos hstale₁, hpass₁, Option.bind_some]
  cases hst : p₂.stale with
  | false =>
    exact ⟨p₂, data, _, settle_of_not_stale hst _, hfile, hmsg, hfile₂, h.messages,
      .inl ⟨h.settled hst, hstorage⟩⟩
  | true =>
    have hm₂ : p₂.tab.store.messages ≠ [] := by rw [h.messages]; exact hm
    obtain ⟨q, hpass₂, -, -, -, -, hstorage₂, hstale₂⟩ :=
      pass_of_messages now r₂ h.loaded hm₂
    rw [hlast, hfilename, hurl, hdoc] at hstale₂
    rw [settle, if_pos hst, hpass₂, Option.bind_some]
    refine ⟨q, data, _, settle_of_not_stale hstale₂ _, hfile, hmsg, hfile₂, h.messages, ?_⟩
    cases hsaves : p₂.render.saves p₂.last with
    | false =>
      left
      rw [hsaves, if_neg Bool.false_ne_true] at hstorage₂
      refine ⟨?_, hstorage₂.trans hstorage⟩
      -- no dependency has changed, the document included
      simp only [Render.saves, Render.changed, hlast, Option.map_some, ne_eq, decide_not,
        Bool.not_eq_false', decide_eq_true_eq, Option.some.injEq, Render.persistDeps,
        Prod.mk.injEq] at hsaves
      rw [← hkey, ← h.key, hsaves.2.1]
    | true =>
      right
      rw [hsaves, if_pos rfl] at hstorage₂
      have hsaved := hstorage₂.trans (congrArg Prod.fst (persistSession_of_loaded
        (s := p₂.render.synced p₂.last p₂.tab.store) h.loaded hm₂ p₂.tab.storage _))
      rw [hstorage] at hsaved
      rw [← h.conversationId]
      exact h.conversationId ▸ hsaved

end Page

/-! ### What opening a session does to the stored ones -/

/-- Every session that could be read can be read afterwards, with the same messages. -/
def SessionsKept (p q : Page) (now : ℤ) : Prop :=
  ∀ r ∈ ChatStorage.entries p.tab.storage now, r ∈ ChatStorage.entries q.tab.storage now

instance (p q : Page) (now : ℤ) : Decidable (SessionsKept p q now) :=
  inferInstanceAs (Decidable (∀ r ∈ ChatStorage.entries p.tab.storage now,
    r ∈ ChatStorage.entries q.tab.storage now))

namespace Page

variable {p q : Page} {now : ℤ} {s : ChatSession}

/-- The session has the document of the URL, or the document that is shown. -/
def SameDocument (p : Page) (s : ChatSession) : Prop :=
  s.fileId = p.params.urlDocumentId ∨
    s.fileId ≠ none ∧ s.fileId = p.tab.store.currentDocumentId

/-- The session that is opened has the document of the URL, or the document that is shown; or the
document of the URL has its messages already, or no session and room for one.  Nothing happens
when the session is not found or the storage cannot be written. -/
def OpeningKeeps (p : Page) (now : ℤ) (sessionId : JsString) : Prop :=
  ∀ s ∈ ChatStorage.getSessionById p.tab.storage now sessionId,
    (p.tab.storage.available && !p.tab.storage.full) = true →
      p.SameDocument s ∨
        Entry.Saved p.params.urlDocumentId s.messages
          (ConfigStorage.getConfig p.tab.storage).maxChatSessions
          (ChatStorage.entries p.tab.storage now)

/-- A session is saved under its own document, unless the document of the URL is put back or
stands in for a missing one. -/
theorem keys_cases (hf : truthy s.fileId = s.fileId) :
    p.SameDocument s ∧ p.firstKey s = s.fileId ∧ p.lastKey s = s.fileId ∨
      ¬ p.SameDocument s ∧ p.lastKey s = p.params.urlDocumentId ∧
        (p.firstKey s = s.fileId ∨ p.firstKey s = p.params.urlDocumentId) := by
  unfold SameDocument lastKey firstKey
  rw [hf]
  cases hfile : s.fileId with
  | none => cases hu : p.params.urlDocumentId <;> simp
  | some d =>
    rw [Option.some_or]
    by_cases hu : p.params.urlDocumentId = some d
    · simp [hu]
    · by_cases hc : p.tab.store.currentDocumentId = some d
      · simp [hc]
      · simp [Ne.symm hu, Ne.symm hc]

/-- What can be read after a stored session has been opened. -/
theorem entries_openConversation (hp : p.AtRest) (hk : p.tab.storage.WellKept)
    (hc : 0 ≤ (ConfigStorage.getConfig p.tab.storage).defaultExpiry)
    (hw : (p.tab.storage.available && !p.tab.storage.full) = true) {sessionId : JsString}
    (hs : ChatStorage.getSessionById p.tab.storage now sessionId = some s)
    (r₁ r₂ : JsString) (randoms : List JsString) :
    ∃ q, p.openConversation now sessionId (r₁ :: r₂ :: randoms) = some q ∧
      (p.SameDocument s ∧
          ChatStorage.entries q.tab.storage now = ChatStorage.entries p.tab.storage now ∨
        ¬ p.SameDocument s ∧ ∃ id, ChatStorage.entries q.tab.storage now =
          Entry.save p.params.urlDocumentId s.messages id
            (ConfigStorage.getConfig p.tab.storage).maxChatSessions
            (ChatStorage.entries p.tab.storage now)) := by
  have hread : s ∈ ChatStorage.getAllSessions p.tab.storage now := List.mem_of_find?_eq_some hs
  have hstored := ChatStorage.getAllSessions_sublist.subset hread
  have hmem : ⟨s.id, s.fileId, s.messages⟩ ∈ ChatStorage.entries p.tab.storage now :=
    List.mem_map_of_mem hread
  have hn : ((ChatStorage.entries p.tab.storage now).map (·.fileId)).Nodup :=
    ChatStorage.nodup_entries hk
  have hm : s.messages ≠ [] := hk.messages s hstored
  obtain ⟨q, data₁, data₂, hq, hfile₁, hmsg₁, hfile₂, hmsg₂, hstorage⟩ :=
    openConversation_of_found hp hs hm r₁ r₂ randoms
  refine ⟨q, hq, ?_⟩
  have hsaved : ChatStorage.entries (ChatStorage.saveSession p.tab.storage now r₁ data₁ none
      (truthy s.conversationId)).1 now = _ := ChatStorage.entries_saveSession hw hk hc
  have hsaved₂ : ChatStorage.entries (ChatStorage.saveSession
      (ChatStorage.saveSession p.tab.storage now r₁ data₁ none (truthy s.conversationId)).1 now r₂
      data₂ none (truthy s.conversationId)).1 now = _ :=
    ChatStorage.entries_saveSession_saveSession hw hk hc (by rw [hmsg₁]; exact hm)
      (by rw [hfile₁]; exact truthy_firstKey s)
  rw [hfile₁, hmsg₁] at hsaved hsaved₂
  rw [hfile₂, hmsg₂] at hsaved₂
  rcases keys_cases (p := p) (hk.truthy_fileId s hstored) with
    ⟨hsame, hfirst, hlast⟩ | ⟨hsame, hlast, hfirst⟩
  · left
    refine ⟨hsame, ?_⟩
    rcases hstorage with ⟨-, hst⟩ | hst
    · rw [hst, hsaved, hfirst, Entry.save_eq_self hn hmem]
    · rw [hst, hsaved₂, hlast, hfirst, Entry.save_eq_self hn hmem, Entry.save_eq_self hn hmem]
  · right
    refine ⟨hsame, ?_⟩
    rcases hfirst with hfirst | hfirst
    · rcases hstorage with ⟨heq, -⟩ | hst
      · exact absurd (.inl (hfirst.symm.trans (heq.symm.trans hlast))) hsame
      · exact ⟨_, by rw [hst, hsaved₂, hlast, hfirst, Entry.save_eq_self hn hmem]⟩
    · rcases hstorage with ⟨-, hst⟩ | hst
      · exact ⟨_, by rw [hst, hsaved, hfirst]⟩
      · have hpos : 0 < (ConfigStorage.getConfig p.tab.storage).maxChatSessions :=
          (List.length_pos_of_mem hmem).trans_le
            (ChatStorage.length_entries_le (by simp_all) hk)
        exact ⟨_, by rw [hst, hsaved₂, hlast, hfirst, Entry.save_save hn hpos]⟩

/-- A session that cannot be found. -/
theorem openConversation_of_not_found (hp : p.stale = false) {sessionId : JsString}
    (hs : ChatStorage.getSessionById p.tab.storage now sessionId = none)
    (randoms : List JsString) :
    ∃ q, p.openConversation now sessionId randoms = some q ∧ q.tab.storage = p.tab.storage := by
  refine ⟨_, Option.bind_eq_some_iff.2 ⟨_, rfl, settle_of_not_stale ?_ randoms⟩, rfl⟩
  simp [hp, Tab.setsStore, hs]

/-- A storage that cannot be written stays as it is. -/
theorem openConversation_of_not_writable (hp : p.AtRest) (hk : p.tab.storage.WellKept)
    (hw : ¬ (p.tab.storage.available && !p.tab.storage.full) = true) {sessionId : JsString}
    (hs : ChatStorage.getSessionById p.tab.storage now sessionId = some s)
    (r₁ r₂ : JsString) (randoms : List JsString) :
    ∃ q, p.openConversation now sessionId (r₁ :: r₂ :: randoms) = some q ∧
      q.tab.storage = p.tab.storage := by
  have hm : s.messages ≠ [] := hk.messages s
    (ChatStorage.getAllSessions_sublist.subset (List.mem_of_find?_eq_some hs))
  obtain ⟨q, data₁, data₂, hq, -, -, -, -, hstorage⟩ :=
    openConversation_of_found hp hs hm r₁ r₂ randoms
  have hsame (random : JsString) (data : ChatStorage.SessionData) (c : Option JsString) :
      (ChatStorage.saveSession p.tab.storage now random data none c).1 = p.tab.storage := by
    rw [ChatStorage.saveSession, if_neg hw]
  refine ⟨q, hq, ?_⟩
  rcases hstorage with ⟨-, hst⟩ | hst
  · rw [hst, hsame]
  · rw [hst, hsame, hsame]

end Page

/-- **When opening a conversation keeps the stored ones.**  A page at rest, whatever has happened
to it and whatever its URL is: opening a session settles after two renders, and every session
that could be read can be read afterwards with the same messages if and only if the session that
is opened has the document of the URL, or the document that is shown, or the document of the URL
has its messages already, or no session and room for one. -/
theorem opening_keeps_iff {config : Option StorageConfig}
    (hconfig : ∀ c ∈ config, 0 ≤ c.defaultExpiry) {params : SearchParams} {es : List PageEvent}
    {p : Page} (h : AnyRun Page.step (Page.opened config params) es p) (hs : p.stale = false)
    (now : ℤ) (sessionId : JsString) (randoms : List JsString)
    (hr : 2 ≤ randoms.length) :
    ∃ q, p.openConversation now sessionId randoms = some q ∧
      (SessionsKept p q now ↔ p.OpeningKeeps now sessionId) := by
  have hp : p.AtRest := Page.atRest_of_run h hs
  obtain ⟨es', htab⟩ := Page.tab_run h
  have hk : p.tab.storage.WellKept := wellKept_of_run htab
  have hc : 0 ≤ (ConfigStorage.getConfig p.tab.storage).defaultExpiry := by
    rw [ConfigStorage.getConfig, config_of_run htab]
    split_ifs
    · cases config with
      | none => decide
      | some c => exact hconfig c rfl
    · decide
  obtain ⟨r₁, r₂, rest, rfl⟩ : ∃ r₁ r₂ rest, randoms = r₁ :: r₂ :: rest := by
    rcases randoms with _ | ⟨r₁, _ | ⟨r₂, rest⟩⟩
    · simp at hr
    · simp at hr
    · exact ⟨r₁, r₂, rest, rfl⟩
  have unchanged {q : Page} (hq : q.tab.storage = p.tab.storage) : SessionsKept p q now := by
    intro r hr
    rwa [hq]
  cases hfind : ChatStorage.getSessionById p.tab.storage now sessionId with
  | none =>
    obtain ⟨q, hq, hst⟩ := Page.openConversation_of_not_found hs hfind (r₁ :: r₂ :: rest)
    refine ⟨q, hq, iff_of_true (unchanged hst) ?_⟩
    intro s hsome
    rw [hfind] at hsome
    cases hsome
  | some s =>
    by_cases hw : (p.tab.storage.available && !p.tab.storage.full) = true
    · obtain ⟨q, hq, hentries⟩ := Page.entries_openConversation hp hk hc hw hfind r₁ r₂ rest
      refine ⟨q, hq, ?_⟩
      have hcond : p.OpeningKeeps now sessionId ↔ p.SameDocument s ∨
          Entry.Saved p.params.urlDocumentId s.messages
            (ConfigStorage.getConfig p.tab.storage).maxChatSessions
            (ChatStorage.entries p.tab.storage now) := by
        simp [Page.OpeningKeeps, hfind, hw]
      rw [hcond]
      rcases hentries with ⟨hsame, heq⟩ | ⟨hsame, id, heq⟩
      · exact iff_of_true (by rw [SessionsKept, heq]; exact fun _ hr => hr) (.inl hsame)
      · rw [SessionsKept, heq, or_iff_right hsame]
        refine Entry.subset_save_iff (ChatStorage.nodup_entries hk) ?_
        exact List.ne_nil_of_mem (List.mem_map_of_mem (List.mem_of_find?_eq_some hfind))
    · obtain ⟨q, hq, hst⟩ :=
        Page.openConversation_of_not_writable hp hk hw hfind r₁ r₂ rest
      exact ⟨q, hq, iff_of_true (unchanged hst) fun s _ hw' => absurd hw' hw⟩

/-- A general conversation of one question; then the page is opened with a document in the URL,
where another question is asked and answered. -/
def twoConversations : List PageEvent :=
  [.render 0 (js "r"), .render 0 (js "r"), .act ⟨1, .sendMessage (js "q") true⟩,
    .render 1 (js "r"), .act ⟨2, .reload⟩, .navigate { documentId := some (js "d") },
    .render 3 (js "r"), .render 3 (js "r"), .act ⟨4, .sendMessage (js "p") true⟩,
    .render 4 (js "r"),
    .act ⟨5, .complete 1 (.chunk
      { token := js "a", complete := true, conversationId := some (js "c") })⟩,
    .act ⟨6, .complete 1 .frame⟩, .act ⟨7, .complete 1 .closed⟩, .render 7 (js "r")]

/-- The conversation about the document is opened again: both are kept. -/
theorem opening_keeps_iff_document : ∃ p q,
    AnyRun Page.step (Page.opened none {}) twoConversations p ∧
      p.openConversation 8 (js "d_4_r") [js "s", js "t"] = some q ∧
      (ChatStorage.entries p.tab.storage 8).length = 2 ∧ SessionsKept p q 8 := by
  have hes : (twoConversations.foldlM Page.step (Page.opened none {})).any (fun p => !p.stale &&
      decide ((ChatStorage.entries p.tab.storage 8).length = 2) &&
      (ChatStorage.getSessionById p.tab.storage 8 (js "d_4_r")).all fun s =>
        decide (s.fileId = p.params.urlDocumentId)) = true := by decide
  obtain ⟨p, hp, hrest⟩ := (Option.any_eq_true _ _).1 hes
  simp only [Bool.and_eq_true, Bool.not_eq_true', decide_eq_true_eq, Option.all_eq_true] at hrest
  obtain ⟨⟨hs, hlen⟩, hdoc⟩ := hrest
  have hnone : ∀ c ∈ (none : Option StorageConfig), 0 ≤ c.defaultExpiry := nofun
  obtain ⟨q, hq, hiff⟩ :=
    opening_keeps_iff hnone (Run.of_foldlM hp) hs 8 (js "d_4_r") [js "s", js "t"] (by decide)
  exact ⟨p, q, Run.of_foldlM hp, hq, hlen, hiff.2 fun s hfound _ => .inl (.inl (hdoc s hfound))⟩

/-- The general conversation is opened while the URL has the document: its messages are saved as
those of the document. -/
theorem opening_overwrites :
    ¬ ∀ (config : Option StorageConfig) (params : SearchParams) (es : List PageEvent) (p : Page)
      (now : ℤ) (sessionId : JsString) (randoms : List JsString),
      (∀ c ∈ config, 0 ≤ c.defaultExpiry) →
        AnyRun Page.step (Page.opened config params) es p → p.stale = false →
          2 ≤ randoms.length →
            ∃ q, p.openConversation now sessionId randoms = some q ∧ SessionsKept p q now := by
  intro h
  have hes : (twoConversations.foldlM Page.step (Page.opened none {})).any (fun p => !p.stale &&
      !(p.openConversation 8 (js "general_1_r") [js "s", js "t"]).any fun q =>
        decide (SessionsKept p q 8)) = true := by decide
  obtain ⟨p, hp, hbad⟩ := (Option.any_eq_true _ _).1 hes
  simp only [Bool.and_eq_true, Bool.not_eq_true'] at hbad
  obtain ⟨q, hq, hkept⟩ := h none {} _ p 8 (js "general_1_r") [js "s", js "t"] nofun
    (Run.of_foldlM hp) hbad.1 (by decide)
  simp [hq, hkept] at hbad

end Client

end StudyOasis
