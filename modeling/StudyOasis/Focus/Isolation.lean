import StudyOasis.Focus.Reports

/-!
# One user's calls and the rows of the others

Any number of calls of the focus service, all with the id of one user, on two databases that agree
on the rows of that user (`AgreeOn`).  What the user receives is the same, up to two things the
answers do tell.  A session of someone else is refused with another error than a session that does
not exist (`SameAnswers`).  And a completion proof is looked up by its id alone, whoever owns the
document, so the databases must also agree on the documents that the completion proofs of the user
name and that are not the user's (`SameProofs`).  The rows of the others stay as they are in any
case (`OthersKept`).

* `answer_agree` : one call;
* `serveAll_agree` : any number of calls;
* `calls_isolated` : **the calls of one user and the rows of the others**.
-/

namespace StudyOasis

/-- A call of the focus service with the id of the user; `id` is the generated key. -/
inductive FocusRequest where
  | createSession (id : String) (documentId conversationId : Option String)
  | updateSession (sessionId : String) (updateDto : UpdateFocusSessionDto)
  | logDistraction (id sessionId : String) (type : DistractionType) (duration : Option ℤ)
  | getSession (sessionId : String)
  | getUserSessions (options : FocusService.ListOptions)
  | getSessionAnalytics (sessionId : String)
  deriving DecidableEq, Repr

/-- What a call returns. -/
inductive FocusResult where
  | created (session : FocusSession)
  | session (session : SessionWithDistractions)
  | distraction (distraction : FocusDistraction)
  | sessions (page : SessionPage)
  | analytics (analytics : FocusSessionAnalytics)
  deriving DecidableEq, Repr

/-- What the caller receives. -/
abbrev FocusAnswer := Except HandlerError FocusResult

/-- What the caller receives from a call that writes. -/
def writeAnswer {α : Type} (result : α → FocusDb → FocusResult) :
    Except BusinessException (α × FocusDb) → FocusAnswer
  | .ok (a, db) => .ok (result a db)
  | .error e => .error (.business e)

/-- What a call on a session that is not the caller's throws: 403 where a session has the id, 404
where none has it. -/
def FocusService.refusal (db : FocusDb) (sessionId message : String) : BusinessException :=
  if (db.findUnique sessionId).isSome then ⟨.unauthorizedAccess, message, 403⟩
  else ⟨.sessionNotFound, "Focus session not found", 404⟩

namespace FocusRequest

/-- What `u` receives. -/
def answer (u : String) (now : ℤ) (db : FocusDb) : FocusRequest → FocusAnswer
  | createSession id documentId conversationId =>
    .ok (.created (FocusService.createSession db id now u documentId conversationId).1)
  | updateSession sessionId updateDto =>
    -- `include: { distractions: true }`
    writeAnswer (fun row db => .session ⟨row, db.focusDistraction.filter (·.sessionId = row.id)⟩)
      (FocusService.updateSession db sessionId updateDto u now)
  | logDistraction id sessionId type duration =>
    writeAnswer (fun row _ => .distraction row)
      (FocusService.logDistraction db id sessionId type duration u now)
  | getSession sessionId => (FocusService.getSession db sessionId u).map .session
  | getUserSessions options => (FocusService.getUserSessions db u options).map .sessions
  | getSessionAnalytics sessionId =>
    (FocusService.getSessionAnalytics db sessionId u).map .analytics

/-- The call of a writing endpoint. -/
def toCall (u : String) : FocusRequest → Option FocusCall
  | createSession id documentId conversationId =>
    some (.createSession id u documentId conversationId)
  | updateSession sessionId updateDto => some (.updateSession sessionId updateDto u)
  | logDistraction id sessionId type duration =>
    some (.logDistraction id sessionId type duration u)
  | getSession _ | getUserSessions _ | getSessionAnalytics _ => none

/-- The tables after the call. -/
def step (u : String) (now : ℤ) (db : FocusDb) (r : FocusRequest) : Option FocusDb :=
  match r.toCall u with
  | some call => focusStep db ⟨now, call⟩
  | none => some db

/-- The calls of `u` one after the other, each with its time: what `u` receives, and the tables
after the last one. -/
def serveAll (u : String) : List (ℤ × FocusRequest) → FocusDb → Option (List FocusAnswer × FocusDb)
  | [], db => some ([], db)
  | (now, r) :: rs, db =>
    (r.step u now db).bind fun db' =>
      (serveAll u rs db').map fun out => (r.answer u now db :: out.1, out.2)

/-- The session that the call names. -/
def sessionId : FocusRequest → Option String
  | updateSession sessionId _ | logDistraction _ sessionId _ _ | getSession sessionId
  | getSessionAnalytics sessionId => some sessionId
  | createSession .. | getUserSessions _ => none

/-- The completion proof that the call sets. -/
def completionProofId : FocusRequest → Option String
  | updateSession _ updateDto => updateDto.completionProofId
  | _ => none

/-- The session that the call creates. -/
def createdIds : FocusRequest → List String
  | createSession id _ _ => [id]
  | _ => []

/-- The text of the refusal of someone else's session. -/
def refusalMessage : FocusRequest → String
  | updateSession .. => "You do not have permission to update this session"
  | logDistraction .. => "You do not have permission to record distractions for this session"
  | _ => "You do not have permission to view this session"

/-- The refusal of a call on a session that is not the caller's. -/
def refused (r : FocusRequest) (db : FocusDb) (sessionId : String) : FocusAnswer :=
  .error (.business (FocusService.refusal db sessionId r.refusalMessage))

end FocusRequest

/-! ### The rows of one user -/

/-- The session is there and belongs to `u`. -/
def FocusDb.owns (db : FocusDb) (u sessionId : String) : Bool :=
  db.focusSession.any fun s => s.id = sessionId ∧ s.userId = some u

/-- What the schema promises: ids are unique, and a distraction belongs to a session. -/
structure FocusDb.WellFormed (db : FocusDb) : Prop where
  uniqueIds : db.UniqueIds
  documentIds : (db.document.map (·.id)).Nodup
  references : ∀ d ∈ db.focusDistraction, ∃ s ∈ db.focusSession, s.id = d.sessionId

/-- The databases agree on the sessions, distractions and documents of `u`. -/
structure AgreeOn (u : String) (db db' : FocusDb) : Prop where
  sessions : db.focusSession.filter (fun s => s.userId = some u) =
    db'.focusSession.filter fun s => s.userId = some u
  distractions : db.focusDistraction.filter (fun d => db.owns u d.sessionId) =
    db'.focusDistraction.filter fun d => db'.owns u d.sessionId
  documents : db.document.filter (fun d => d.userId = some u) =
    db'.document.filter fun d => d.userId = some u

/-- The rows that are not of `u` are the same before and after. -/
structure OthersKept (u : String) (before after : FocusDb) : Prop where
  sessions : after.focusSession.filter (fun s => s.userId ≠ some u) =
    before.focusSession.filter fun s => s.userId ≠ some u
  distractions : after.focusDistraction.filter (fun d => ¬ after.owns u d.sessionId) =
    before.focusDistraction.filter fun d => ¬ before.owns u d.sessionId
  documents : after.document = before.document

/-- The sessions of `u`. -/
def FocusDb.sessionIdsOf (db : FocusDb) (u : String) : List String :=
  (db.focusSession.filter fun s => s.userId = some u).map (·.id)

/-- The answers to the same calls in two databases, for a user whose sessions are `mine`: a call on
one of them, or on none, is answered alike; a call on any other one is refused, in each database as
a session that is someone else's or as one that is missing. -/
inductive SameAnswers (db db' : FocusDb) :
    List String → List (ℤ × FocusRequest) → List FocusAnswer → List FocusAnswer → Prop
  | nil (mine : List String) : SameAnswers db db' mine [] [] []
  | same {mine : List String} {now : ℤ} {r : FocusRequest} {rs : List (ℤ × FocusRequest)}
      {a : FocusAnswer} {as as' : List FocusAnswer} :
      (∀ sid, r.sessionId = some sid → sid ∈ mine) →
      SameAnswers db db' (r.createdIds ++ mine) rs as as' →
      SameAnswers db db' mine ((now, r) :: rs) (a :: as) (a :: as')
  | refused {mine : List String} {now : ℤ} {r : FocusRequest} {rs : List (ℤ × FocusRequest)}
      {sid : String} {as as' : List FocusAnswer} :
      r.sessionId = some sid → sid ∉ mine → SameAnswers db db' mine rs as as' →
      SameAnswers db db' mine ((now, r) :: rs) (r.refused db sid :: as) (r.refused db' sid :: as')

/-- The completion proofs of `u`, those in the table and those the calls set. -/
def proofIds (u : String) (db : FocusDb) (rs : List (ℤ × FocusRequest)) : List String :=
  (db.focusSession.filter fun s => s.userId = some u).filterMap (·.completionProofId) ++
    rs.filterMap (·.2.completionProofId)

/-- The documents that the completion proofs of `u` name are the same in both databases, those
apart that `u` owns. -/
def SameProofs (u : String) (db db' : FocusDb) (rs : List (ℤ × FocusRequest)) : Prop :=
  ∀ d : Document, d.id ∈ proofIds u db rs → d.userId ≠ some u →
    (d ∈ db.document ↔ d ∈ db'.document)

/-- The sessions that the calls name are there in both databases or in neither. -/
def SameIds (db db' : FocusDb) (rs : List (ℤ × FocusRequest)) : Prop :=
  ∀ id ∈ rs.filterMap (·.2.sessionId), (db.findUnique id).isSome = (db'.findUnique id).isSome

/-! ### One call -/

section

variable {u id : String} {db db' : FocusDb} {now : ℤ} {r : FocusRequest}

/-- No session of `u` has the id. -/
def NotOwned (u : String) (db : FocusDb) (id : String) : Prop :=
  ∀ s, db.findUnique id = some s → s.userId ≠ some u

theorem AgreeOn.mem_iff (h : AgreeOn u db db') {s : FocusSession} (hs : s.userId = some u) :
    s ∈ db.focusSession ↔ s ∈ db'.focusSession := by
  have := congrArg (s ∈ ·) h.sessions
  simpa [hs] using this

theorem FocusDb.owns_iff : db.owns u id = true ↔
    ∃ s ∈ db.focusSession, s.id = id ∧ s.userId = some u := by
  simp [FocusDb.owns]

theorem not_owns (hu : db.UniqueIds) : db.owns u id = false ↔ NotOwned u db id := by
  rw [← Bool.not_eq_true, FocusDb.owns_iff]
  constructor
  · intro h s hs hsu
    obtain ⟨hmem, hid⟩ := FocusDb.mem_of_findUnique hs
    exact h ⟨s, hmem, hid, hsu⟩
  · rintro h ⟨s, hs, rfl, hsu⟩
    exact h s (hu.findUnique_eq hs) hsu

theorem AgreeOn.owns_eq (h : AgreeOn u db db') : db.owns u = db'.owns u := by
  funext id
  rw [Bool.eq_iff_iff, FocusDb.owns_iff, FocusDb.owns_iff]
  constructor
  · rintro ⟨s, hs, hid, hsu⟩
    exact ⟨s, (h.mem_iff hsu).1 hs, hid, hsu⟩
  · rintro ⟨s, hs, hid, hsu⟩
    exact ⟨s, (h.mem_iff hsu).2 hs, hid, hsu⟩

/-- The distractions of a session of `u` are the same. -/
theorem AgreeOn.distractions_eq (h : AgreeOn u db db') {s : FocusSession}
    (hs : s ∈ db.focusSession) (hsu : s.userId = some u) :
    (db.focusDistraction.filter fun d => d.sessionId = s.id) =
      db'.focusDistraction.filter fun d => d.sessionId = s.id := by
  have hd := h.distractions
  rw [← h.owns_eq] at hd
  refine filter_eq_of_imp hd ?_
  intro d hds
  rw [decide_eq_true_eq] at hds
  exact FocusDb.owns_iff.2 ⟨s, hs, hds.symm, hsu⟩

namespace FocusService

theorem getSession_of_notOwned (h : NotOwned u db id) :
    getSession db id u =
      .error (.business (refusal db id "You do not have permission to view this session")) := by
  unfold getSession refusal
  cases hs : db.findUnique id with
  | none => rfl
  | some s => simp only [if_pos (h s hs), Option.isSome_some, if_true]

theorem updateSession_of_notOwned (h : NotOwned u db id) (dto : UpdateFocusSessionDto) :
    updateSession db id dto u now =
      .error (refusal db id "You do not have permission to update this session") := by
  unfold updateSession refusal
  cases hs : db.findUnique id with
  | none => rfl
  | some s => simp only [if_pos (h s hs), Option.isSome_some, if_true]

theorem logDistraction_of_notOwned (h : NotOwned u db id) (key : String) (type : DistractionType)
    (duration : Option ℤ) :
    logDistraction db key id type duration u now =
      .error (refusal db id
        "You do not have permission to record distractions for this session") := by
  unfold logDistraction refusal
  cases hs : db.findUnique id with
  | none => rfl
  | some s => simp only [if_pos (h s hs), Option.isSome_some, if_true]

theorem getSession_of_owned {s : FocusSession} (hs : db.findUnique id = some s)
    (hsu : s.userId = some u) :
    getSession db id u = .ok ⟨s, orderByAsc (·.timestamp)
      (db.focusDistraction.filter fun d => d.sessionId = s.id)⟩ := by
  simp only [getSession, hs, hsu, ne_eq, not_true_eq_false, if_false]

theorem updateSession_of_owned {s : FocusSession} (hs : db.findUnique id = some s)
    (hsu : s.userId = some u) (dto : UpdateFocusSessionDto) :
    updateSession db id dto u now =
      .ok ((updates s dto now).apply s, db.update id (updates s dto now).apply) := by
  simp only [updateSession, hs, hsu, ne_eq, not_true_eq_false, if_false]

theorem logDistraction_of_owned {s : FocusSession} (hs : db.findUnique id = some s)
    (hsu : s.userId = some u) (key : String) (type : DistractionType) (duration : Option ℤ) :
    logDistraction db key id type duration u now =
      .ok (⟨key, id, type, now, duration⟩,
        FocusDb.update
          { db with focusDistraction := db.focusDistraction ++ [⟨key, id, type, now, duration⟩] }
          id (countDistraction type now)) := by
  simp only [logDistraction, hs, hsu, ne_eq, not_true_eq_false, if_false]

end FocusService

/-- A call on a session that is not the user's is refused, whatever it asks for. -/
theorem answer_of_notOwned (hr : r.sessionId = some id) (h : NotOwned u db id) :
    r.answer u now db = r.refused db id := by
  cases r with
  | createSession key documentId conversationId => cases hr
  | getUserSessions options => cases hr
  | updateSession sid dto =>
    obtain rfl := Option.some.inj hr
    rw [FocusRequest.answer, FocusService.updateSession_of_notOwned h]
    rfl
  | logDistraction key sid type duration =>
    obtain rfl := Option.some.inj hr
    rw [FocusRequest.answer, FocusService.logDistraction_of_notOwned h]
    rfl
  | getSession sid =>
    obtain rfl := Option.some.inj hr
    rw [FocusRequest.answer, FocusService.getSession_of_notOwned h]
    rfl
  | getSessionAnalytics sid =>
    obtain rfl := Option.some.inj hr
    rw [FocusRequest.answer, FocusService.getSessionAnalytics,
      FocusService.getSession_of_notOwned h]
    rfl

/-- A lookup among documents with unique ids. -/
theorem find?_document_eq_some_iff {docs : List Document} (hn : (docs.map (·.id)).Nodup)
    {d : Document} {id : String} :
    docs.find? (fun d => d.id = id) = some d ↔ d ∈ docs ∧ d.id = id := by
  constructor
  · intro h
    exact ⟨List.mem_of_find?_eq_some h, by simpa using List.find?_some h⟩
  · rintro ⟨hd, rfl⟩
    cases hfind : docs.find? fun x => x.id = d.id with
    | none => exact absurd (List.find?_eq_none.1 hfind d hd) (by simp)
    | some x =>
      have hx := List.mem_of_find?_eq_some hfind
      have hid : x.id = d.id := by simpa using List.find?_some hfind
      rw [List.inj_on_of_nodup_map hn hx hd hid]

/-- A document that a completion proof of `u` names is in both databases or in neither. -/
theorem AgreeOn.mem_document_iff (h : AgreeOn u db db') {rs : List (ℤ × FocusRequest)}
    (hproofs : SameProofs u db db' rs) {d : Document} (hd : d.id ∈ proofIds u db rs) :
    d ∈ db.document ↔ d ∈ db'.document := by
  by_cases hdu : d.userId = some u
  · have := congrArg (d ∈ ·) h.documents
    simpa [hdu] using this
  · exact hproofs d hd hdu

/-- The completion proof of a session of `u` is the same. -/
theorem AgreeOn.analyticsOf_eq (h : AgreeOn u db db') (hw : db.WellFormed) (hw' : db'.WellFormed)
    {rs : List (ℤ × FocusRequest)} (hproofs : SameProofs u db db' rs) {s : FocusSession}
    (hs : s ∈ db.focusSession) (hsu : s.userId = some u) (ds : List FocusDistraction) :
    FocusService.analyticsOf db ⟨s, ds⟩ = FocusService.analyticsOf db' ⟨s, ds⟩ := by
  have hproof : FocusService.completionProof db s = FocusService.completionProof db' s := by
    unfold FocusService.completionProof
    cases hid : s.completionProofId.filter (· ≠ "") with
    | none => rfl
    | some id =>
      have hmem : id ∈ proofIds u db rs := by
        refine List.mem_append_left _ (List.mem_filterMap.2 ⟨s, ?_, ?_⟩)
        · exact List.mem_filter.2 ⟨hs, decide_eq_true hsu⟩
        · exact (Option.filter_eq_some_iff.1 hid).1
      have hfind : db.document.find? (fun d => d.id = id) =
          db'.document.find? fun d => d.id = id := by
        ext d
        rw [find?_document_eq_some_iff hw.documentIds, find?_document_eq_some_iff hw'.documentIds]
        refine and_congr_left fun hdid => h.mem_document_iff hproofs ?_
        rwa [hdid]
      simp only [hfind]
  simp only [FocusService.analyticsOf, hproof]

/-- A call on a session of `u`, or on no session, is answered alike. -/
theorem answer_of_owned (now : ℤ) (h : AgreeOn u db db') (hw : db.WellFormed)
    (hw' : db'.WellFormed) {rs : List (ℤ × FocusRequest)} (hproofs : SameProofs u db db' rs)
    (hown : ∀ sid, r.sessionId = some sid →
      ∃ s, db.findUnique sid = some s ∧ db'.findUnique sid = some s ∧ s.userId = some u) :
    r.answer u now db = r.answer u now db' := by
  cases r with
  | createSession key documentId conversationId => rfl
  | getUserSessions options =>
    rw [FocusRequest.answer, FocusRequest.answer]
    refine congrArg (Except.map _) (FocusService.getUserSessions_congr ?_ ?_)
    · refine filter_eq_of_imp h.sessions ?_
      intro s hs
      exact decide_eq_true (FocusService.matchesQuery_own hs)
    · intro s hs hsu
      exact h.distractions_eq hs hsu
  | updateSession sid dto =>
    obtain ⟨s, hs, hs', hsu⟩ := hown sid rfl
    have hrow : ((FocusService.updates s dto now).apply s).id = s.id := rfl
    simp only [FocusRequest.answer, FocusService.updateSession_of_owned hs hsu,
      FocusService.updateSession_of_owned hs' hsu, writeAnswer, FocusDb.update, hrow,
      h.distractions_eq (FocusDb.mem_of_findUnique hs).1 hsu]
  | logDistraction key sid type duration =>
    obtain ⟨s, hs, hs', hsu⟩ := hown sid rfl
    simp only [FocusRequest.answer, FocusService.logDistraction_of_owned hs hsu,
      FocusService.logDistraction_of_owned hs' hsu, writeAnswer]
  | getSession sid =>
    obtain ⟨s, hs, hs', hsu⟩ := hown sid rfl
    rw [FocusRequest.answer, FocusRequest.answer, FocusService.getSession_of_owned hs hsu,
      FocusService.getSession_of_owned hs' hsu,
      h.distractions_eq (FocusDb.mem_of_findUnique hs).1 hsu]
  | getSessionAnalytics sid =>
    obtain ⟨s, hs, hs', hsu⟩ := hown sid rfl
    have hmem := (FocusDb.mem_of_findUnique hs).1
    rw [FocusRequest.answer, FocusRequest.answer, FocusService.getSessionAnalytics,
      FocusService.getSessionAnalytics, FocusService.getSession_of_owned hs hsu,
      FocusService.getSession_of_owned hs' hsu, ← h.distractions_eq hmem hsu]
    simp only [Except.map, h.analyticsOf_eq hw hw' hproofs hmem hsu]

/-- **One call**: on a session of `u`, or on none, `u` receives the same; on any other session `u`
is refused. -/
theorem answer_agree (now : ℤ) (r : FocusRequest) (hw : db.WellFormed) (hw' : db'.WellFormed)
    (h : AgreeOn u db db') {rs : List (ℤ × FocusRequest)} (hproofs : SameProofs u db db' rs) :
    (∀ sid, r.sessionId = some sid → db.owns u sid = true) ∧
        r.answer u now db = r.answer u now db' ∨
      ∃ sid, r.sessionId = some sid ∧ db.owns u sid = false ∧
        r.answer u now db = r.refused db sid ∧ r.answer u now db' = r.refused db' sid := by
  by_cases hown : ∀ sid, r.sessionId = some sid → db.owns u sid = true
  · refine .inl ⟨hown, answer_of_owned now h hw hw' hproofs fun sid hsid => ?_⟩
    obtain ⟨s, hs, rfl, hsu⟩ := FocusDb.owns_iff.1 (hown sid hsid)
    exact ⟨s, hw.uniqueIds.findUnique_eq hs, hw'.uniqueIds.findUnique_eq ((h.mem_iff hsu).1 hs),
      hsu⟩
  · simp only [not_forall, Bool.not_eq_true] at hown
    obtain ⟨sid, hsid, hnone⟩ := hown
    have hnone' : db'.owns u sid = false := by rw [← h.owns_eq, hnone]
    exact .inr ⟨sid, hsid, hnone, answer_of_notOwned hsid ((not_owns hw.uniqueIds).1 hnone),
      answer_of_notOwned hsid ((not_owns hw'.uniqueIds).1 hnone')⟩

/-! ### What a call leaves of the tables -/

/-- The distractions a call adds. -/
def newDistractions (u : String) (now : ℤ) (db : FocusDb) : FocusRequest → List FocusDistraction
  | .logDistraction key sid type duration =>
    if db.owns u sid then [⟨key, sid, type, now, duration⟩] else []
  | _ => []

/-- The sessions a call adds. -/
def newSessions (u : String) (now : ℤ) : FocusRequest → List FocusSession
  | .createSession key documentId conversationId =>
    [FocusService.newSession key now u documentId conversationId]
  | _ => []

/-- What a call makes of a session that is in the table. -/
def FocusRequest.stepRow (u : String) (now : ℤ) (r : FocusRequest) (s : FocusSession) :
    FocusSession :=
  match r.toCall u with
  | some call => StudyOasis.stepRow ⟨now, call⟩ s
  | none => s

theorem step_sessions {d : FocusDb} (hu : db.UniqueIds) (h : r.step u now db = some d) :
    d.focusSession = db.focusSession.map (r.stepRow u now) ++ newSessions u now r := by
  have hread (hread : some db = some d) :
      d.focusSession = db.focusSession.map (fun s => s) ++ [] := by
    obtain rfl := Option.some.inj hread
    simp
  have hwrite (call : FocusCall) (hcall : focusStep db ⟨now, call⟩ = some d) :
      d.focusSession = db.focusSession.map (StudyOasis.stepRow ⟨now, call⟩) ++
        newRows ⟨now, call⟩ := focusStep_rows hu hcall
  cases r with
  | createSession key documentId conversationId => exact hwrite (.createSession key u _ _) h
  | updateSession sid dto => exact hwrite (.updateSession sid dto u) h
  | logDistraction key sid type duration => exact hwrite (.logDistraction key sid type _ u) h
  | getSession sid => exact hread h
  | getUserSessions options => exact hread h
  | getSessionAnalytics sid => exact hread h

/-- A call touches no document, and adds distractions to the caller's sessions only. -/
theorem step_distractions {d : FocusDb} (hu : db.UniqueIds) (h : r.step u now db = some d) :
    d.focusDistraction = db.focusDistraction ++ newDistractions u now db r ∧
      d.document = db.document := by
  have hread (hread : some db = some d) :
      d.focusDistraction = db.focusDistraction ++ [] ∧ d.document = db.document := by
    obtain rfl := Option.some.inj hread
    simp
  cases r with
  | createSession key documentId conversationId =>
    simp only [FocusRequest.step, FocusRequest.toCall, focusStep] at h
    split_ifs at h
    obtain rfl := Option.some.inj h
    simp [newDistractions, FocusService.createSession]
  | updateSession sid dto =>
    obtain rfl := Option.some.inj h
    simp only [newDistractions, List.append_nil]
    by_cases hown : db.owns u sid = true
    · obtain ⟨s, hs, rfl, hsu⟩ := FocusDb.owns_iff.1 hown
      rw [FocusService.updateSession_of_owned (hu.findUnique_eq hs) hsu]
      exact ⟨rfl, rfl⟩
    · rw [Bool.not_eq_true, not_owns hu] at hown
      rw [FocusService.updateSession_of_notOwned hown]
      exact ⟨rfl, rfl⟩
  | logDistraction key sid type duration =>
    obtain rfl := Option.some.inj h
    by_cases hown : db.owns u sid = true
    · obtain ⟨s, hs, rfl, hsu⟩ := FocusDb.owns_iff.1 hown
      rw [FocusService.logDistraction_of_owned (hu.findUnique_eq hs) hsu]
      simp only [newDistractions, hown, if_true]
      exact ⟨rfl, rfl⟩
    · have hnot := hown
      rw [Bool.not_eq_true, not_owns hu] at hnot
      rw [FocusService.logDistraction_of_notOwned hnot]
      simp only [newDistractions, hown, Bool.false_eq_true, if_false, List.append_nil]
      exact ⟨rfl, rfl⟩
  | getSession sid => exact hread h
  | getUserSessions options => exact hread h
  | getSessionAnalytics sid => exact hread h

/-- What a call makes of a session: its id and its owner stay, and so does all of it when it is
not the caller's. -/
theorem FocusRequest.stepRow_spec (u : String) (now : ℤ) (r : FocusRequest) (s : FocusSession) :
    (r.stepRow u now s).id = s.id ∧ (r.stepRow u now s).userId = s.userId ∧
      (s.userId ≠ some u → r.stepRow u now s = s) := by
  cases r with
  | updateSession sid dto =>
    simp only [stepRow, toCall, StudyOasis.stepRow, FocusCall.asUpdate]
    split_ifs with h
    · exact ⟨rfl, rfl, fun hne => absurd h.2 hne⟩
    · exact ⟨rfl, rfl, fun _ => rfl⟩
  | logDistraction key sid type duration =>
    simp only [stepRow, toCall, StudyOasis.stepRow, FocusCall.asUpdate]
    split_ifs with h
    · exact ⟨rfl, rfl, fun hne => absurd h.2 hne⟩
    · exact ⟨rfl, rfl, fun _ => rfl⟩
  | _ => exact ⟨rfl, rfl, fun _ => rfl⟩

section

variable {d d' : FocusDb}

/-- The id of a new session is not in use. -/
theorem newSessions_fresh (h : r.step u now db = some d) {s t : FocusSession}
    (hs : s ∈ newSessions u now r) (ht : t ∈ db.focusSession) : t.id ≠ s.id := by
  cases r with
  | createSession key documentId conversationId =>
    obtain rfl := List.mem_singleton.1 hs
    simp only [FocusRequest.step, FocusRequest.toCall, focusStep] at h
    split_ifs at h with hfresh
    rw [Option.not_isSome_iff_eq_none] at hfresh
    intro hid
    exact List.find?_eq_none.1 hfresh t ht (decide_eq_true hid)
  | _ => simp [newSessions] at hs

theorem mem_step (hu : db.UniqueIds) (h : r.step u now db = some d) {s : FocusSession}
    (hs : s ∈ db.focusSession) :
    ∃ t ∈ d.focusSession, t.id = s.id ∧ t.userId = s.userId := by
  have hspec := FocusRequest.stepRow_spec u now r s
  refine ⟨r.stepRow u now s, ?_, hspec.1, hspec.2.1⟩
  rw [step_sessions hu h]
  exact List.mem_append_left _ (List.mem_map_of_mem hs)

theorem newSessions_userId {s : FocusSession} (hs : s ∈ newSessions u now r) :
    s.userId = some u := by
  cases r with
  | createSession key documentId conversationId =>
    obtain rfl := List.mem_singleton.1 hs
    rfl
  | _ => simp [newSessions] at hs

theorem any_newSessions_iff {sid : String} :
    ((newSessions u now r).any fun s => s.id = sid) = true ↔ sid ∈ r.createdIds := by
  cases r <;> simp [newSessions, FocusRequest.createdIds, FocusService.newSession, eq_comm]

/-- Which sessions are those of `u` after a call. -/
theorem owns_step_eq (hu : db.UniqueIds) (h : r.step u now db = some d) (id : String) :
    d.owns u id = (db.owns u id || (newSessions u now r).any fun s => s.id = id) := by
  have hrow : ((fun s : FocusSession => decide (s.id = id ∧ s.userId = some u)) ∘
      r.stepRow u now) = fun s => decide (s.id = id ∧ s.userId = some u) := by
    funext s
    have hspec := FocusRequest.stepRow_spec u now r s
    simp only [Function.comp_apply, hspec.1, hspec.2.1]
  have hnew : ((newSessions u now r).any fun s => s.id = id ∧ s.userId = some u) =
      (newSessions u now r).any fun s => s.id = id := by
    rw [Bool.eq_iff_iff, List.any_eq_true, List.any_eq_true]
    refine exists_congr fun s => and_congr_right fun hs => ?_
    simp [newSessions_userId hs]
  rw [FocusDb.owns, step_sessions hu h, List.any_append, List.any_map, hrow, hnew]
  rfl

/-- A distraction in the table keeps its owner. -/
theorem owns_step (hw : db.WellFormed) (h : r.step u now db = some d) {x : FocusDistraction}
    (hx : x ∈ db.focusDistraction) : d.owns u x.sessionId = db.owns u x.sessionId := by
  -- the id of a new session is not in use, but the distraction refers to a session
  have hnew : ((newSessions u now r).any fun s => s.id = x.sessionId) = false := by
    obtain ⟨t, ht, htid⟩ := hw.references x hx
    refine List.any_eq_false.2 fun s hs => ?_
    rw [decide_eq_true_eq, ← htid]
    exact (newSessions_fresh h hs ht).symm
  rw [owns_step_eq hw.uniqueIds h, hnew, Bool.or_false]

theorem newDistractions_owned (hu : db.UniqueIds) (h : r.step u now db = some d)
    {x : FocusDistraction} (hx : x ∈ newDistractions u now db r) :
    d.owns u x.sessionId = true := by
  cases r with
  | logDistraction key sid type duration =>
    simp only [newDistractions] at hx
    split_ifs at hx with hown
    · obtain rfl := List.mem_singleton.1 hx
      rw [owns_step_eq hu h, hown, Bool.true_or]
    · cases hx
  | _ => simp [newDistractions] at hx

theorem FocusDb.WellFormed.step (hw : db.WellFormed) (h : r.step u now db = some d) :
    d.WellFormed := by
  refine ⟨?_, ?_, ?_⟩
  · unfold FocusRequest.step at h
    cases hc : r.toCall u with
    | none =>
      rw [hc] at h
      obtain rfl := Option.some.inj h
      exact hw.uniqueIds
    | some call =>
      rw [hc] at h
      exact focusStep_uniqueIds hw.uniqueIds h
  · rw [(step_distractions hw.uniqueIds h).2]
    exact hw.documentIds
  · intro x hx
    rw [(step_distractions hw.uniqueIds h).1] at hx
    rcases List.mem_append.1 hx with hx | hx
    · obtain ⟨s, hs, hid⟩ := hw.references x hx
      obtain ⟨t, ht, htid, -⟩ := mem_step hw.uniqueIds h hs
      exact ⟨t, ht, htid.trans hid⟩
    · obtain ⟨s, hs, hid, -⟩ :=
        FocusDb.owns_iff.1 (newDistractions_owned hw.uniqueIds h hx)
      exact ⟨s, hs, hid⟩

/-- The sessions of `u`, and those of the others, after a call. -/
theorem filter_step_sessions (hu : db.UniqueIds) (h : r.step u now db = some d)
    (p : Option String → Bool) :
    d.focusSession.filter (fun s => p s.userId) =
      (db.focusSession.filter fun s => p s.userId).map (r.stepRow u now) ++
        (newSessions u now r).filter fun s => p s.userId := by
  rw [step_sessions hu h, List.filter_append, List.filter_map]
  have hcomp : ((fun s : FocusSession => p s.userId) ∘ r.stepRow u now) =
      fun s => p s.userId := by
    funext s
    simp only [Function.comp_apply, (FocusRequest.stepRow_spec u now r s).2.1]
  rw [hcomp]

/-- **A call keeps the agreement.** -/
theorem AgreeOn.step (hw : db.WellFormed) (hw' : db'.WellFormed) (ha : AgreeOn u db db')
    (h : r.step u now db = some d) (h' : r.step u now db' = some d') : AgreeOn u d d' := by
  have hfilter {db d : FocusDb} (hw : db.WellFormed) (h : r.step u now db = some d) :
      d.focusDistraction.filter (fun x => d.owns u x.sessionId) =
        db.focusDistraction.filter (fun x => db.owns u x.sessionId) ++
          newDistractions u now db r := by
    rw [(step_distractions hw.uniqueIds h).1, List.filter_append]
    congr 1
    · exact List.filter_congr fun x hx => owns_step hw h hx
    · exact List.filter_eq_self.2 fun x hx => newDistractions_owned hw.uniqueIds h hx
  have hnew : newDistractions u now db r = newDistractions u now db' r := by
    unfold newDistractions
    rw [ha.owns_eq]
  refine ⟨?_, ?_, ?_⟩
  · rw [filter_step_sessions hw.uniqueIds h (· = some u),
      filter_step_sessions hw'.uniqueIds h' (· = some u), ha.sessions]
  · rw [hfilter hw h, hfilter hw' h', ha.distractions, hnew]
  · rw [(step_distractions hw.uniqueIds h).2, (step_distractions hw'.uniqueIds h').2]
    exact ha.documents

/-- **A call changes no row of anyone else.** -/
theorem othersKept_step (hw : db.WellFormed) (h : r.step u now db = some d) :
    OthersKept u db d := by
  refine ⟨?_, ?_, (step_distractions hw.uniqueIds h).2⟩
  · have hnew : (newSessions u now r).filter (fun s => decide (s.userId ≠ some u)) = [] :=
      List.filter_eq_nil_iff.2 fun s hs => by simp [newSessions_userId hs]
    rw [filter_step_sessions hw.uniqueIds h (· ≠ some u), hnew, List.append_nil]
    refine (List.map_congr_left ?_).trans (List.map_id _)
    intro s hs
    exact (FocusRequest.stepRow_spec u now r s).2.2 (of_decide_eq_true (List.mem_filter.1 hs).2)
  · rw [(step_distractions hw.uniqueIds h).1, List.filter_append]
    have hnew : (newDistractions u now db r).filter (fun x => ¬ d.owns u x.sessionId) = [] :=
      List.filter_eq_nil_iff.2 fun x hx => by simp [newDistractions_owned hw.uniqueIds h hx]
    rw [hnew, List.append_nil]
    exact List.filter_congr fun x hx => by rw [owns_step hw h hx]

theorem OthersKept.trans {e : FocusDb} (h : OthersKept u db d) (h' : OthersKept u d e) :
    OthersKept u db e :=
  ⟨h'.sessions.trans h.sessions, h'.distractions.trans h.distractions,
    h'.documents.trans h.documents⟩

theorem newSessions_completionProofId {s : FocusSession} (hs : s ∈ newSessions u now r) :
    s.completionProofId = none := by
  cases r with
  | createSession key documentId conversationId =>
    obtain rfl := List.mem_singleton.1 hs
    rfl
  | _ => simp [newSessions] at hs

/-- A call leaves the completion proof of a session as it is, or sets its own. -/
theorem FocusRequest.stepRow_completionProofId (u : String) (now : ℤ) (r : FocusRequest)
    (s : FocusSession) :
    (r.stepRow u now s).completionProofId = s.completionProofId ∨
      (r.stepRow u now s).completionProofId = r.completionProofId := by
  cases r with
  | updateSession sid dto =>
    simp only [stepRow, toCall, StudyOasis.stepRow, FocusCall.asUpdate, completionProofId]
    split_ifs
    · simp only [FocusService.updates_eq, FocusSessionUpdateInput.apply]
      cases hp : dto.completionProofId with
      | none => exact .inl rfl
      | some proof => by_cases hempty : proof = "" <;> simp [Option.filter, hempty]
    · exact .inl rfl
  | logDistraction key sid type duration =>
    simp only [stepRow, toCall, StudyOasis.stepRow, FocusCall.asUpdate]
    split_ifs <;> exact .inl rfl
  | _ => exact .inl rfl

/-- The completion proofs after a call are those before it and the one that it sets. -/
theorem proofIds_step (hu : db.UniqueIds) (h : r.step u now db = some d)
    (rs : List (ℤ × FocusRequest)) : proofIds u d rs ⊆ proofIds u db ((now, r) :: rs) := by
  intro id hid
  rcases List.mem_append.1 hid with hid | hid
  · obtain ⟨s, hs, hproof⟩ := List.mem_filterMap.1 hid
    rw [filter_step_sessions hu h (· = some u)] at hs
    rcases List.mem_append.1 hs with hs | hs
    · obtain ⟨t, ht, rfl⟩ := List.mem_map.1 hs
      rcases FocusRequest.stepRow_completionProofId u now r t with heq | heq
      · rw [heq] at hproof
        exact List.mem_append_left _ (List.mem_filterMap.2 ⟨t, ht, hproof⟩)
      · rw [heq] at hproof
        exact List.mem_append_right _ (List.mem_filterMap.2 ⟨_, List.mem_cons_self, hproof⟩)
    · rw [newSessions_completionProofId (List.mem_of_mem_filter hs)] at hproof
      cases hproof
  · obtain ⟨x, hx, hproof⟩ := List.mem_filterMap.1 hid
    exact List.mem_append_right _
      (List.mem_filterMap.2 ⟨x, List.mem_cons_of_mem _ hx, hproof⟩)

/-- Which ids are in use after a call. -/
theorem findUnique_step (hu : db.UniqueIds) (h : r.step u now db = some d) (id : String) :
    (d.findUnique id).isSome = ((db.findUnique id).isSome ||
      (newSessions u now r).any fun s => s.id = id) := by
  have hid : ((fun s : FocusSession => decide (s.id = id)) ∘ r.stepRow u now) =
      fun s => decide (s.id = id) := by
    funext s
    simp only [Function.comp_apply, (FocusRequest.stepRow_spec u now r s).1]
  simp only [FocusDb.findUnique, List.isSome_find?, step_sessions hu h, List.any_append,
    List.any_map, hid]

end

/-! ### Any number of calls -/

theorem serveAll_cons {rs : List (ℤ × FocusRequest)} {d : FocusDb} {as : List FocusAnswer}
    (h : FocusRequest.serveAll u ((now, r) :: rs) db = some (as, d)) :
    ∃ d₁ out, r.step u now db = some d₁ ∧ FocusRequest.serveAll u rs d₁ = some out ∧
      as = r.answer u now db :: out.1 ∧ d = out.2 := by
  rw [FocusRequest.serveAll] at h
  obtain ⟨d₁, hstep, h⟩ := Option.bind_eq_some_iff.1 h
  obtain ⟨out, hrest, h⟩ := Option.map_eq_some_iff.1 h
  obtain ⟨rfl, rfl⟩ := Prod.mk.inj h
  exact ⟨d₁, out, hstep, hrest, rfl, rfl⟩

/-- What the calls so far have left of the start: the sessions of `u` are `mine`, and the other ids
are in use as they were. -/
structure Since (u : String) (start db : FocusDb) (mine : List String) : Prop where
  mine_iff : ∀ sid, sid ∈ mine ↔ db.owns u sid = true
  inUse : ∀ sid, db.owns u sid = false →
    (db.findUnique sid).isSome = (start.findUnique sid).isSome

theorem Since.start (db : FocusDb) : Since u db db (db.sessionIdsOf u) where
  mine_iff sid := by
    rw [FocusDb.owns_iff, FocusDb.sessionIdsOf, List.mem_map]
    constructor
    · rintro ⟨s, hs, hid⟩
      obtain ⟨hmem, hsu⟩ := List.mem_filter.1 hs
      exact ⟨s, hmem, hid, of_decide_eq_true hsu⟩
    · rintro ⟨s, hs, hid, hsu⟩
      exact ⟨s, List.mem_filter.2 ⟨hs, decide_eq_true hsu⟩, hid⟩
  inUse _ _ := rfl

theorem Since.step {start d : FocusDb} {mine : List String} (h : Since u start db mine)
    (hu : db.UniqueIds) (hstep : r.step u now db = some d) :
    Since u start d (r.createdIds ++ mine) where
  mine_iff sid := by
    rw [List.mem_append, h.mine_iff, owns_step_eq hu hstep, Bool.or_eq_true, or_comm,
      any_newSessions_iff]
  inUse sid hnot := by
    rw [owns_step_eq hu hstep, Bool.or_eq_false_iff] at hnot
    rw [findUnique_step hu hstep, hnot.2, Bool.or_false, h.inUse sid hnot.1]

/-- The refusal of a session that is not of `u` is the one of the start. -/
theorem Since.refused_eq {start : FocusDb} {mine : List String} (h : Since u start db mine)
    (r : FocusRequest) {sid : String} (hnot : db.owns u sid = false) :
    r.refused db sid = r.refused start sid := by
  rw [FocusRequest.refused, FocusRequest.refused, FocusService.refusal, FocusService.refusal,
    h.inUse sid hnot]

theorem createdIds_of_sessionId {sid : String} (h : r.sessionId = some sid) :
    r.createdIds = [] := by
  cases r <;> first | rfl | cases h

open FocusRequest in
/-- **Any number of calls**, after some that have left the databases and the sessions of `u` as
they are. -/
theorem serveAll_agree {start start' : FocusDb} {rs : List (ℤ × FocusRequest)} :
    ∀ {mine : List String} {db db' d d' : FocusDb} {as as' : List FocusAnswer},
      Since u start db mine → Since u start' db' mine → db.WellFormed → db'.WellFormed →
      AgreeOn u db db' → SameProofs u db db' rs → serveAll u rs db = some (as, d) →
      serveAll u rs db' = some (as', d') → SameAnswers start start' mine rs as as' := by
  induction rs with
  | nil =>
    intro mine db db' d d' as as' _ _ _ _ _ _ h h'
    simp only [serveAll, Option.some.injEq, Prod.mk.injEq] at h h'
    obtain ⟨⟨rfl, rfl⟩, rfl, rfl⟩ := And.intro h h'
    exact .nil mine
  | cons head rs ih =>
    obtain ⟨now, r⟩ := head
    intro mine db db' d d' as as' hsince hsince' hw hw' ha hproofs h h'
    obtain ⟨d₁, out, hstep, hrest, rfl, rfl⟩ := serveAll_cons h
    obtain ⟨d₁', out', hstep', hrest', rfl, rfl⟩ := serveAll_cons h'
    have hproofs₁ : SameProofs u d₁ d₁' rs := by
      intro x hx hxu
      rw [(step_distractions hw.uniqueIds hstep).2, (step_distractions hw'.uniqueIds hstep').2]
      exact hproofs x (proofIds_step hw.uniqueIds hstep rs hx) hxu
    have hrests := ih (hsince.step hw.uniqueIds hstep) (hsince'.step hw'.uniqueIds hstep')
      (hw.step hstep) (hw'.step hstep') (ha.step hw hw' hstep hstep') hproofs₁ hrest hrest'
    rcases answer_agree now r hw hw' ha hproofs with ⟨hown, heq⟩ | ⟨sid, hsid, hnot, heq, heq'⟩
    · rw [heq]
      exact .same (fun sid hsid => (hsince.mine_iff sid).2 (hown sid hsid)) hrests
    · have hnot' : db'.owns u sid = false := by rw [← ha.owns_eq, hnot]
      rw [heq, heq', hsince.refused_eq r hnot, hsince'.refused_eq r hnot']
      rw [createdIds_of_sessionId hsid, List.nil_append] at hrests
      refine .refused hsid (fun hmem => ?_) hrests
      rw [(hsince.mine_iff sid).1 hmem] at hnot
      cases hnot

/-- The answers are equal when the sessions that the calls name are there in both databases or in
neither. -/
theorem SameAnswers.eq {mine : List String} {rs : List (ℤ × FocusRequest)}
    {as as' : List FocusAnswer} (h : SameAnswers db db' mine rs as as') (hids : SameIds db db' rs) :
    as = as' := by
  have htail {head : ℤ × FocusRequest} {rs : List (ℤ × FocusRequest)}
      (hids : SameIds db db' (head :: rs)) : SameIds db db' rs := by
    intro id hid
    obtain ⟨x, hx, hxid⟩ := List.mem_filterMap.1 hid
    exact hids id (List.mem_filterMap.2 ⟨x, List.mem_cons_of_mem _ hx, hxid⟩)
  induction h with
  | nil => rfl
  | same _ _ ih => rw [ih (htail hids)]
  | @refused _ now r _ sid _ _ hsid _ _ ih =>
    have hsame := hids sid (List.mem_filterMap.2 ⟨(now, r), List.mem_cons_self, hsid⟩)
    rw [ih (htail hids), FocusRequest.refused, FocusRequest.refused, FocusService.refusal,
      FocusService.refusal, hsame]

theorem serveAll_othersKept {rs : List (ℤ × FocusRequest)} :
    ∀ {db d : FocusDb} {as : List FocusAnswer}, db.WellFormed →
      FocusRequest.serveAll u rs db = some (as, d) → OthersKept u db d := by
  induction rs with
  | nil =>
    intro db d as _ h
    simp only [FocusRequest.serveAll, Option.some.injEq, Prod.mk.injEq] at h
    obtain ⟨rfl, rfl⟩ := h
    exact ⟨rfl, rfl, rfl⟩
  | cons head rs ih =>
    obtain ⟨now, r⟩ := head
    intro db d as hw h
    obtain ⟨d₁, out, hstep, hrest, rfl, rfl⟩ := serveAll_cons h
    exact (othersKept_step hw hstep).trans (ih (hw.step hstep) hrest)

/-- **Isolation**: the calls of `u` change no row of anyone else.  In two databases that agree on
the rows of `u`, and on the other documents that the completion proofs of `u` name, `u` receives the
same, up to why a session that is not of `u` is refused. -/
theorem calls_isolated {rs : List (ℤ × FocusRequest)} {d d' : FocusDb} {as as' : List FocusAnswer}
    (hw : db.WellFormed) (hw' : db'.WellFormed) (ha : AgreeOn u db db')
    (h : FocusRequest.serveAll u rs db = some (as, d))
    (h' : FocusRequest.serveAll u rs db' = some (as', d')) :
    OthersKept u db d ∧ OthersKept u db' d' ∧ (SameProofs u db db' rs →
      SameAnswers db db' (db.sessionIdsOf u) rs as as' ∧ (SameIds db db' rs → as = as')) := by
  refine ⟨serveAll_othersKept hw h, serveAll_othersKept hw' h', fun hproofs => ?_⟩
  have hmine : db'.sessionIdsOf u = db.sessionIdsOf u := by
    rw [FocusDb.sessionIdsOf, FocusDb.sessionIdsOf, ha.sessions]
  have hanswers := serveAll_agree (Since.start db) (hmine ▸ Since.start db') hw hw' ha hproofs h h'
  exact ⟨hanswers, hanswers.eq⟩

end

/-! ### Two users -/

/-- A session of `alice`. -/
def alicesSession : FocusSession := FocusService.newSession "s1" 0 "alice" none none

/-- A session of `bob`. -/
def bobsSession : FocusSession := FocusService.newSession "s2" 0 "bob" none none

/-- A document, of `bob` or of nobody. -/
def sampleDocument (owner : Option String) : Document :=
  ⟨"d1", owner, "salary.pdf", none, some "/u/d1.pdf", none, 0⟩

/-- Both sessions. -/
def bothSessions : FocusDb := ⟨[alicesSession, bobsSession], [], []⟩

/-- Only the session of `alice`, and documents. -/
def alicesOnly (document : List Document) : FocusDb := ⟨[alicesSession], [], document⟩

/-- `alice` reads the session of `bob`. -/
def readForeign : List (ℤ × FocusRequest) := [(5, .getSession "s2")]

/-- `alice` names a document as a completion proof and reads the report. -/
def proveWith : List (ℤ × FocusRequest) :=
  [(5, .updateSession "s1" { completionProofId := some "d1" }), (6, .getSessionAnalytics "s1")]

theorem bothSessions_wellFormed : bothSessions.WellFormed :=
  ⟨by unfold FocusDb.UniqueIds; decide, by decide, by simp [bothSessions]⟩

theorem alicesOnly_wellFormed : (alicesOnly []).WellFormed :=
  ⟨List.nodup_singleton _, List.nodup_nil, by simp [alicesOnly]⟩

theorem bothSessions_agree : AgreeOn "alice" bothSessions (alicesOnly []) :=
  ⟨by decide, by decide, by decide⟩

/-- `alice` reads a session of `bob`, where there is one and where there is none. -/
theorem calls_isolated_two :
    OthersKept "alice" bothSessions bothSessions ∧
      SameAnswers bothSessions (alicesOnly []) ["s1"] readForeign
        [.error (.business ⟨.unauthorizedAccess,
          "You do not have permission to view this session", 403⟩)]
        [.error (.business ⟨.sessionNotFound, "Focus session not found", 404⟩)] := by
  have hread : FocusRequest.serveAll "alice" readForeign bothSessions = some
      ([.error (.business ⟨.unauthorizedAccess,
        "You do not have permission to view this session", 403⟩)], bothSessions) := rfl
  have h := calls_isolated bothSessions_wellFormed alicesOnly_wellFormed bothSessions_agree
    hread rfl
  refine ⟨h.1, (h.2.2 ?_).1⟩
  exact fun d _ _ => Iff.rfl

/-- The answers of `proveWith` depend on a document that is not of `alice`. -/
def ProofShows (owner : Option String) : Prop :=
  AgreeOn "alice" (alicesOnly [sampleDocument owner]) (alicesOnly []) ∧
    SameIds (alicesOnly [sampleDocument owner]) (alicesOnly []) proveWith ∧
    (FocusRequest.serveAll "alice" proveWith (alicesOnly [sampleDocument owner])).map (·.1) ≠
      (FocusRequest.serveAll "alice" proveWith (alicesOnly [])).map (·.1)

/-- **What a user receives does depend on the rows of the others**: `alice` learns that a session
of `bob` exists, and, with the sessions the same, reads a document without an owner, and one of
`bob`. -/
theorem foreign_rows_show :
    (AgreeOn "alice" bothSessions (alicesOnly []) ∧
      (FocusRequest.serveAll "alice" readForeign bothSessions).map (·.1) =
        some [.error (.business ⟨.unauthorizedAccess,
          "You do not have permission to view this session", 403⟩)] ∧
      (FocusRequest.serveAll "alice" readForeign (alicesOnly [])).map (·.1) =
        some [.error (.business ⟨.sessionNotFound, "Focus session not found", 404⟩)]) ∧
      ProofShows none ∧ ProofShows (some "bob") :=
  ⟨⟨bothSessions_agree, by decide, by decide⟩,
    ⟨⟨by decide, by decide, by decide⟩, fun _ _ => rfl, by decide +kernel⟩,
    ⟨by decide, by decide, by decide⟩, fun _ _ => rfl, by decide +kernel⟩

end StudyOasis
