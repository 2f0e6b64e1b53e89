import StudyOasis.Client.Uploads

/-!
# Which session is evicted

`saveSession` puts a new session in front, updates an old one where it stands, and cuts the list at
the limit.  The position of a session tells when it was added; what the user last worked on may
stand at the end.

* `evictions_iff` : **when every eviction of a run drops the sessions that are out of use for
  longest**: when none behind the limit was updated later than one before it;
* `stalest_of_front` : it is so as long as only the first session is updated.
-/

namespace StudyOasis

namespace Client

namespace ChatStorage

/-! ### One save -/

section

variable (storage : LocalStorage) (now : ℤ) (random : JsString) (session : SessionData)
  (expiryMs : Option ℤ) (conversationId : Option JsString)

/-- The sessions that a save puts together, before they are cut to the limit. -/
def uncut : List ChatSession :=
  (merged (ConfigStorage.getConfig storage) now random session expiryMs conversationId
    (getAllSessions storage now)).1

/-- `config.maxChatSessions`. -/
def limit : ℕ := (ConfigStorage.getConfig storage).maxChatSessions

/-- The save drops a session that has not expired. -/
def Evicts : Prop :=
  (storage.available && !storage.full) = true ∧ 1 ≤ limit storage ∧
    ∃ s ∈ (uncut storage now random session expiryMs conversationId).drop (limit storage),
      isExpired now s.expiresAt = false

/-- What the save drops was updated no later than anything it keeps. -/
def DropsStalest : Prop :=
  ∀ dropped ∈ (uncut storage now random session expiryMs conversationId).drop (limit storage),
    ∀ kept ∈ (saveSession storage now random session expiryMs conversationId).1.sessions,
      dropped.updatedAt ≤ kept.updatedAt

/-- The times of the sessions that are read, in their order, when the session of the file has got
the time of the save. -/
def timesAfter (sessions : List ChatSession) (fileId : Option JsString) : List ℤ :=
  if sessions.any (isExisting fileId) then
    (replaceFirst (isExisting fileId) (fun s => { s with updatedAt := now }) sessions).map
      (·.updatedAt)
  else now :: sessions.map (·.updatedAt)

/-- The times behind the limit are not later than those before it. -/
def StalestLast : Prop :=
  ∀ a ∈ (timesAfter now (getAllSessions storage now) session.fileId).drop (limit storage),
    ∀ b ∈ (timesAfter now (getAllSessions storage now) session.fileId).take (limit storage), a ≤ b

theorem map_updatedAt_uncut :
    (uncut storage now random session expiryMs conversationId).map (·.updatedAt) =
      timesAfter now (getAllSessions storage now) session.fileId := by
  unfold uncut timesAfter
  rcases merged_cases (ConfigStorage.getConfig storage) now random session expiryMs conversationId
    (getAllSessions storage now) with ⟨pre, s, post, heq, hs, hpre, hmerged⟩ | ⟨hnone, hmerged⟩
  · rw [hmerged, heq, if_pos (List.any_eq_true.2 ⟨s, by simp, hs⟩), replaceFirst_append hpre hs]
    simp [updateExisting]
  · have hany : (getAllSessions storage now).any (isExisting session.fileId) = false :=
      List.any_eq_false.2 fun x hx => Bool.eq_false_iff.1 (hnone x hx)
    rw [hmerged, hany, if_neg Bool.false_ne_true]
    rfl

/-- **When a save drops the sessions that are out of use for longest.** -/
theorem dropsStalest_iff (h : (storage.available && !storage.full) = true) :
    DropsStalest storage now random session expiryMs conversationId ↔
      StalestLast storage now session := by
  have hkept : (saveSession storage now random session expiryMs conversationId).1.sessions =
      (uncut storage now random session expiryMs conversationId).take (limit storage) := by
    rw [saveSession_of_writable h]
    rfl
  unfold DropsStalest StalestLast
  rw [hkept, ← map_updatedAt_uncut storage now random session expiryMs conversationId,
    ← List.map_drop, ← List.map_take]
  simp only [List.forall_mem_map]

end

end ChatStorage

/-! ### Whole runs -/

namespace LocalStorage

/-- The call is no save that drops a session in use while it keeps one out of use for longer. -/
def EvictsStalest (storage : LocalStorage) (e : StorageEvent) : Prop :=
  ∀ random session expiryMs conversationId,
    e.call = .saveSession random session expiryMs conversationId →
    ChatStorage.Evicts (storage.onDevice e.available e.full) e.now random session expiryMs
      conversationId →
    ChatStorage.DropsStalest (storage.onDevice e.available e.full) e.now random session expiryMs
      conversationId

/-- A save that drops a session finds the sessions behind the limit updated no later than those
before it. -/
def StalestBehind (storage : LocalStorage) (e : StorageEvent) : Prop :=
  ∀ random session expiryMs conversationId,
    e.call = .saveSession random session expiryMs conversationId →
    ChatStorage.Evicts (storage.onDevice e.available e.full) e.now random session expiryMs
      conversationId →
    ChatStorage.StalestLast (storage.onDevice e.available e.full) e.now session

end LocalStorage

/-- **When every eviction of a run drops the sessions that are out of use for longest.** -/
theorem evictions_iff {storage storage' : LocalStorage} {es : List StorageEvent} :
    Run LocalStorage.step LocalStorage.EvictsStalest storage es storage' ↔
      Run LocalStorage.step LocalStorage.StalestBehind storage es storage' := by
  refine Run.guard_congr fun s e => ?_
  refine forall_congr' fun random => forall_congr' fun session => forall_congr' fun expiryMs =>
    forall_congr' fun conversationId => forall_congr' fun _ => forall_congr' fun hevicts => ?_
  exact ChatStorage.dropsStalest_iff _ _ _ _ _ _ hevicts.1

/-! ### When only the first session is updated -/

namespace LocalStorage

/-- The sessions stand in the order of their last update, latest first. -/
def LatestFirst (storage : LocalStorage) : Prop :=
  storage.sessions.Pairwise fun a b => b.updatedAt ≤ a.updatedAt

/-- A save that updates a session updates the first one, and no session is dated later. -/
def UpdatesFront (storage : LocalStorage) (e : StorageEvent) : Prop :=
  ∀ random session expiryMs conversationId,
    e.call = .saveSession random session expiryMs conversationId →
    (∀ s ∈ storage.sessions, s.updatedAt ≤ e.now) ∧
      ((ChatStorage.getAllSessions (storage.onDevice e.available e.full) e.now).any
          (ChatStorage.isExisting session.fileId) = true →
        (ChatStorage.getAllSessions (storage.onDevice e.available e.full) e.now).head?.any
          (ChatStorage.isExisting session.fileId) = true)

end LocalStorage

open ChatStorage

/-- The time of a save comes first. -/
theorem pairwise_timesAfter {now : ℤ} {sessions : List ChatSession} {fileId : Option JsString}
    (hs : sessions.Pairwise fun a b => b.updatedAt ≤ a.updatedAt)
    (hnow : ∀ s ∈ sessions, s.updatedAt ≤ now)
    (hfront : sessions.any (isExisting fileId) = true →
      sessions.head?.any (isExisting fileId) = true) :
    (timesAfter now sessions fileId).Pairwise fun a b => b ≤ a := by
  unfold timesAfter
  split_ifs with hany
  · cases sessions with
    | nil => cases hany
    | cons s sessions =>
      have hs' : isExisting fileId s = true := hfront hany
      rw [replaceFirst, if_pos hs', List.map_cons, List.pairwise_cons]
      refine ⟨?_, List.pairwise_map.2 (List.pairwise_cons.1 hs).2⟩
      exact List.forall_mem_map.2 fun t ht => hnow t (List.mem_cons_of_mem s ht)
  · exact List.pairwise_cons.2 ⟨List.forall_mem_map.2 hnow, List.pairwise_map.2 hs⟩

section

variable {storage storage' : LocalStorage} {e : StorageEvent}

theorem sessions_setUploads (storage : LocalStorage) (uploads : List UploadRecord) :
    (UploadStorage.setUploads storage uploads).sessions = storage.sessions := by
  unfold UploadStorage.setUploads
  split_ifs <;> rfl

/-- Every call but a save leaves the sessions, or takes some out. -/
theorem sessions_afterCall_sublist {now : ℤ} {call : StorageCall}
    (h : ∀ random session expiryMs conversationId,
      call ≠ .saveSession random session expiryMs conversationId) :
    (storage.afterCall now call).sessions.Sublist storage.sessions := by
  cases call with
  | saveUpload record expiryMs =>
    show (UploadStorage.saveUpload storage now record expiryMs).sessions.Sublist _
    unfold UploadStorage.saveUpload
    simp only
    split_ifs <;> first | rw [sessions_setUploads] | exact List.Sublist.refl _
  | deleteUpload id =>
    show (UploadStorage.setUploads storage _).sessions.Sublist _
    rw [sessions_setUploads]
  | clearUploadHistory =>
    show (UploadStorage.clearUploadHistory storage).sessions.Sublist _
    unfold UploadStorage.clearUploadHistory
    split_ifs <;> exact List.Sublist.refl _
  | cleanExpiredUploads =>
    show (UploadStorage.cleanExpiredUploads storage now).1.sessions.Sublist _
    unfold UploadStorage.cleanExpiredUploads
    simp only
    split_ifs <;> first | rw [sessions_setUploads] | exact List.Sublist.refl _
  | saveSession random session expiryMs conversationId =>
    exact absurd rfl (h random session expiryMs conversationId)
  | deleteSession id => exact deleteSession_sublist
  | clearAllSessions => exact clearAllSessions_sublist
  | cleanExpiredSessions =>
    show (cleanExpiredSessions storage now).1.sessions.Sublist _
    unfold cleanExpiredSessions
    simp only
    split_ifs <;>
      first
      | exact setSessions_sublist (List.filter_sublist.trans getAllSessions_sublist)
      | exact List.Sublist.refl _
  | updateConfig config =>
    show (ConfigStorage.updateConfig storage config).sessions.Sublist _
    unfold ConfigStorage.updateConfig
    split_ifs <;> exact List.Sublist.refl _
  | resetConfig =>
    show (ConfigStorage.resetConfig storage).sessions.Sublist _
    unfold ConfigStorage.resetConfig
    split_ifs <;> exact List.Sublist.refl _

/-- What a save makes of the times when it updates the first session. -/
theorem LocalStorage.UpdatesFront.pairwise (h : storage.UpdatesFront e) (hs : storage.LatestFirst)
    {random : JsString} {session : SessionData} {expiryMs : Option ℤ}
    {conversationId : Option JsString}
    (hcall : e.call = .saveSession random session expiryMs conversationId) :
    (timesAfter e.now (getAllSessions (storage.onDevice e.available e.full) e.now)
      session.fileId).Pairwise fun a b => b ≤ a := by
  obtain ⟨hnow, hfront⟩ := h random session expiryMs conversationId hcall
  have hsub : (getAllSessions (storage.onDevice e.available e.full) e.now).Sublist
      storage.sessions := getAllSessions_sublist
  exact pairwise_timesAfter (hs.sublist hsub) (fun s hs => hnow s (hsub.subset hs)) hfront

theorem latestFirst_step (hs : storage.LatestFirst) (hG : storage.UpdatesFront e)
    (h : storage.step e = some storage') : storage'.LatestFirst := by
  obtain rfl := Option.some.inj h
  by_cases hsave : ∃ random session expiryMs conversationId,
      e.call = .saveSession random session expiryMs conversationId
  · obtain ⟨random, session, expiryMs, conversationId, hcall⟩ := hsave
    rw [hcall]
    show LocalStorage.LatestFirst
      (saveSession (storage.onDevice e.available e.full) e.now random session expiryMs
        conversationId).1
    by_cases hw : ((storage.onDevice e.available e.full).available &&
        !(storage.onDevice e.available e.full).full) = true
    · rw [saveSession_of_writable hw]
      refine List.Pairwise.sublist (List.take_sublist _ _) ?_
      have hpair := hG.pairwise hs hcall
      rw [← map_updatedAt_uncut _ _ random session expiryMs conversationId, List.pairwise_map]
        at hpair
      exact hpair
    · rw [saveSession, if_neg hw]
      exact hs
  · simp only [not_exists] at hsave
    exact List.Pairwise.sublist (sessions_afterCall_sublist hsave) hs

/-- **As long as only the first session is updated**, every eviction drops the sessions that are
out of use for longest. -/
theorem stalest_of_front {es : List StorageEvent}
    (h : Run LocalStorage.step LocalStorage.UpdatesFront {} es storage) :
    Run LocalStorage.step LocalStorage.EvictsStalest {} es storage := by
  refine evictions_iff.2 (h.guard_mono (I := LocalStorage.LatestFirst) List.Pairwise.nil
    (fun _ _ _ hs hG hst => latestFirst_step hs hG hst) ?_)
  intro storage e hs hG random session expiryMs conversationId hcall _ a ha b hb
  have hpair := hG.pairwise hs hcall
  rw [← List.take_append_drop (limit (storage.onDevice e.available e.full)) (timesAfter _ _ _)]
    at hpair
  exact (List.pairwise_append.1 hpair).2.2 b hb a ha

end

/-- A session with one message is saved for a file. -/
def saveFor (now : ℤ) (fileId : JsString) : StorageEvent :=
  { now
    call := .saveSession (js "r")
      { fileId := some fileId, messages := [{ role := .user, content := js "hi" }] } none none }

/-- **The session in use is evicted**: `a` is updated at 3, and the third file drops it for `b`,
which was updated at 2. -/
theorem used_session_evicted : ∃ storage,
    AnyRun LocalStorage.step {} [{ now := 0, call := .updateConfig { maxChatSessions := some 2 } },
      saveFor 1 (js "a"), saveFor 2 (js "b"), saveFor 3 (js "a")] storage ∧
    storage.sessions.map (fun s => (s.fileId, s.updatedAt)) =
      [(some (js "b"), 2), (some (js "a"), 3)] ∧
    ((storage.step (saveFor 4 (js "c"))).map fun storage =>
        storage.sessions.map fun s => (s.fileId, s.updatedAt)) =
      some [(some (js "c"), 4), (some (js "b"), 2)] ∧
    ¬ storage.EvictsStalest (saveFor 4 (js "c")) := by
  refine ⟨_, Run.of_foldlM rfl, by decide, by decide, fun h => ?_⟩
  have hdrops := h _ _ _ _ rfl ⟨rfl, by decide, by decide⟩
  revert hdrops
  unfold DropsStalest
  decide

end Client

end StudyOasis
