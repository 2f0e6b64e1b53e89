import StudyOasis.Client.Tab

/-!
# The loading flag and the controller

`sendMessage` and `uploadAndProcessFile` set `isLoading` when they start and take it back when they
end, and a `sendMessage` that ends takes back the controller as well, whosever they are by then.

* `SendOp.ends`, `UploadOp.ends` : which completion is the last one of an operation;
* `complete_cases` : what a completion does to the flag and the controller;
* `followsNewest_iff` : **exactly when the flag and the controller follow the newest operation**.
-/

namespace StudyOasis

namespace Client

/-! ### The end of an operation -/

/-- The completion is the last one of a `sendMessage`. -/
def SendOp.ends (op : SendOp) (answer : Completion) : Bool :=
  match op.phase, answer with
  | .reading _, .done => true
  | .reading _, .failed _ => true
  | .closing _, .closed => true
  | .asking _, .reply _ => true
  | .asking attempt, .failed err => ! retries attempt err
  | _, _ => false

/-- The completion is the last one of an `uploadAndProcessFile`. -/
def UploadOp.ends (op : UploadOp) (answer : Completion) : Bool :=
  match op.phase, answer with
  | .uploading, .failed _ => true
  | .polling _ attempts, .ocr result =>
    (result.filter (·.fullText ≠ [])).isSome || maxAttempts ≤ attempts + 1
  | .polling _ attempts, .failed err => ! isNotFound err || maxAttempts ≤ attempts + 1
  | _, _ => false

/-- The completion is the last one of the operation. -/
def Op.ends : Op → Completion → Bool
  | .send op, answer => op.ends answer
  | .upload op, answer => op.ends answer

/-- `uploadAndProcessFile` turns the file down before it awaits anything. -/
def rejects (file : File) : Bool := file.size > maxSize || !allowedTypes.contains file.type

/-- The event ends an operation: one in flight, or an upload that is turned down. -/
def Tab.finishes (t : Tab) (e : Event) : Bool :=
  match e.action with
  | .complete id answer => (t.ops.find? (·.id = id)).any fun p => p.op.ends answer
  | .uploadAndProcessFile file => rejects file
  | _ => false

/-! ### The history -/

/-- A tab, with the `sendMessage` that started last. -/
structure WatchedTab where
  tab : Tab
  /-- History: the last `sendMessage`. -/
  lastSend : Option ℕ := none
  /-- History: `abortActiveRequest` has been called since it started. -/
  aborted : Bool := false
  deriving DecidableEq

namespace WatchedTab

/-- A tab whose page has just been loaded. -/
def loaded (storage : LocalStorage) : WatchedTab := { tab := { storage } }

/-- The last `sendMessage` after the event. -/
def lastSendAfter (t : WatchedTab) (e : Event) : Option ℕ :=
  match e.action with
  | .sendMessage _ _ => some t.tab.nextOp
  | .reload => none
  | _ => t.lastSend

/-- `abortActiveRequest` has been called after the last `sendMessage` started, by an action of the
page or by a conversation that starts. -/
def abortedAfter (t : WatchedTab) (e : Event) : Bool :=
  match e.action with
  | .sendMessage _ _ => false
  | .abortActiveRequest => true
  | .startNewConversation _ => true
  | .complete id answer => (t.tab.ops.find? (·.id = id)).any (·.op.opens answer) || t.aborted
  | _ => t.aborted

/-- One event. -/
def step (t : WatchedTab) (e : Event) : Option WatchedTab :=
  (t.tab.step e).map fun tab => ⟨tab, t.lastSendAfter e, t.abortedAfter e⟩

/-- The flag and the controller follow the newest operation. -/
structure FollowsNewest (t : WatchedTab) : Prop where
  isLoading : t.tab.ops ≠ [] → t.tab.store.isLoading = true
  abortController : ∀ id, t.lastSend = some id → (∃ p ∈ t.tab.ops, p.id = id) →
    t.aborted = false → t.tab.store.abortController = some id

/-- An operation that ends is the only one in flight. -/
def EndsAlone (t : WatchedTab) (e : Event) : Prop :=
  t.tab.finishes e = true → ∀ p ∈ t.tab.ops, e.action.completes p.id = true

instance (t : WatchedTab) (e : Event) : Decidable (t.EndsAlone e) := by
  unfold EndsAlone
  infer_instance

end WatchedTab

/-! ### What the actions do to the flag -/

variable {s s' : ChatStoreState}

theorem isLoading_abortActiveRequest (s : ChatStoreState) :
    s.abortActiveRequest.isLoading = s.isLoading := by
  unfold ChatStoreState.abortActiveRequest
  split <;> rfl

theorem isLoading_startNewConversation (s : ChatStoreState) (preserveDocument : Bool) :
    (s.startNewConversation preserveDocument).isLoading = s.isLoading := by
  unfold ChatStoreState.startNewConversation
  split_ifs <;> exact isLoading_abortActiveRequest s

/-- What a completion does to the flag and the controller. -/
inductive Leaves {O : Type} (s : ChatStoreState) (ends opens : Bool) (s' : ChatStoreState) :
    Option O → Prop
  /-- The operation ends and takes back the flag. -/
  | ended : ends = true → s'.isLoading = false → Leaves s ends opens s' none
  /-- The operation goes on; the controller is forgotten only if it opens a conversation. -/
  | waiting (op : O) : ends = false → s'.isLoading = s.isLoading →
      (opens = false → s'.abortController = s.abortController) → Leaves s ends opens s' (some op)

theorem SendOp.leaves {op : SendOp} {now : ℤ} {answer : Completion} {next : Option SendOp}
    (h : op.complete now s answer = some (s', next)) :
    Leaves s (op.ends answer) false s' next := by
  obtain ⟨request, phase⟩ := op
  cases phase <;> cases answer <;> try cases h
  case reading.chunk l chunk =>
    refine .waiting _ rfl ?_ fun _ => ?_ <;> split_ifs <;> rfl
  case reading.done => exact .ended rfl rfl
  case reading.failed => exact .ended rfl rfl
  case painting.frame => exact .waiting _ rfl rfl fun _ => rfl
  case closing.closed => exact .ended rfl rfl
  case asking.reply data => exact .ended rfl rfl
  case asking.failed attempt err =>
    cases hretries : retries attempt err with
    | true =>
      simp only [complete, hretries, if_true] at h
      cases h
      exact .waiting _ (by simp [ends, hretries]) rfl fun _ => rfl
    | false =>
      simp only [complete, hretries, Bool.false_eq_true, if_false] at h
      cases h
      exact .ended (by simp [ends, hretries]) rfl
  case backoff.timer => exact .waiting _ rfl rfl fun _ => rfl

/-- A round of polling without a text goes on unless it was the last one. -/
theorem UploadOp.leaves_pollAgain {op : UploadOp} {opens : Bool} {documentId : JsString}
    {attempts : ℕ} {next : Option UploadOp} (h : op.pollAgain s documentId attempts = (s', next)) :
    Leaves s (maxAttempts ≤ attempts + 1) opens s' next := by
  unfold pollAgain at h
  split_ifs at h with hlast
  · cases h
    exact .waiting _ (decide_eq_false (Nat.not_le.2 hlast)) rfl fun _ => rfl
  · cases h
    exact .ended (decide_eq_true (Nat.not_lt.1 hlast)) rfl

theorem UploadOp.leaves {op : UploadOp} {now : ℤ} {answer : Completion} {next : Option UploadOp}
    (h : op.complete now s answer = some (s', next)) :
    Leaves s (op.ends answer) ((Op.upload op).opens answer) s' next := by
  obtain ⟨file, phase⟩ := op
  cases phase <;> cases answer <;> try cases h
  case uploading.uploaded response =>
    exact .waiting _ rfl (isLoading_startNewConversation s false) fun h => (by cases h)
  case uploading.failed => exact .ended rfl rfl
  case polling.ocr documentId attempts result =>
    cases htext : result.filter (·.fullText ≠ []) with
    | some text =>
      simp only [complete, htext] at h
      cases h
      exact .ended (by simp only [ends, htext, Option.isSome_some, Bool.true_or]) rfl
    | none =>
      simp only [complete, htext] at h
      simp only [ends, htext, Option.isSome_none, Bool.false_or]
      exact leaves_pollAgain (Option.some.inj h)
  case polling.failed documentId attempts err =>
    cases hfound : isNotFound err with
    | true =>
      simp only [complete, hfound, if_true] at h
      simp only [ends, hfound, Bool.not_true, Bool.false_or]
      exact leaves_pollAgain (Option.some.inj h)
    | false =>
      simp only [complete, hfound, Bool.false_eq_true, if_false] at h
      cases h
      exact .ended (by simp only [ends, hfound, Bool.not_false, Bool.true_or]) rfl
  case sleeping.timer => exact .waiting _ rfl rfl fun _ => rfl

theorem Leaves.map {O O' : Type} {ends opens : Bool} {next : Option O}
    (h : Leaves s ends opens s' next) (f : O → O') : Leaves s ends opens s' (next.map f) := by
  cases h with
  | ended he hl => exact .ended he hl
  | waiting op he hl hc => exact .waiting (f op) he hl hc

/-- **A completion** ends its operation and takes back the flag, or does neither. -/
theorem Op.leaves {op : Op} {now : ℤ} {answer : Completion} {next : Option Op}
    (h : op.complete now s answer = some (s', next)) :
    Leaves s (op.ends answer) (op.opens answer) s' next := by
  cases op with
  | send op =>
    obtain ⟨⟨s₁, next₁⟩, hc, heq⟩ := Option.map_eq_some_iff.1 h
    cases heq
    have := (SendOp.leaves hc).map Op.send
    cases answer <;> exact this
  | upload op =>
    obtain ⟨⟨s₁, next₁⟩, hc, heq⟩ := Option.map_eq_some_iff.1 h
    cases heq
    exact (UploadOp.leaves hc).map Op.upload

/-! ### One event -/

namespace WatchedTab

variable {t t' : WatchedTab} {e : Event}

theorem step_eq_some (h : t.step e = some t') :
    ∃ u, t.tab.act e = some u ∧ t'.tab.ops = u.ops ∧ t'.tab.store = u.store ∧
      t'.lastSend = t.lastSendAfter e ∧ t'.aborted = t.abortedAfter e := by
  obtain ⟨tab, htab, rfl⟩ := Option.map_eq_some_iff.1 h
  obtain ⟨u, hu, rfl⟩ := Tab.step_eq_some htab
  exact ⟨u, hu, rfl, rfl, rfl, rfl⟩

/-- The flag is down: nothing may be in flight. -/
theorem followsNewest_iff_of_idle (h : t.tab.store.isLoading = false) :
    t.FollowsNewest ↔ t.tab.ops = [] := by
  constructor
  · intro hp
    by_contra hne
    have := hp.isLoading hne
    rw [h] at this
    cases this
  · intro hnil
    refine ⟨fun hne => absurd hnil hne, ?_⟩
    rintro _ - ⟨q, hq, -⟩ -
    rw [hnil] at hq
    cases hq

/-- A completion keeps the flag and the controller in step exactly when its operation does not end
while another one is in flight. -/
theorem followsNewest_complete {id : ℕ} {answer : Completion} (hp : t.FollowsNewest)
    (he : e.action = .complete id answer) (h : t.step e = some t') :
    t'.FollowsNewest ↔ t.EndsAlone e := by
  obtain ⟨u, hu, hops, hstore, hlast, habort⟩ := step_eq_some h
  obtain ⟨p, store, next, hfind, hc, rfl⟩ := Tab.act_complete he hu
  have hfinishes : t.tab.finishes e = p.op.ends answer := by
    rw [Tab.finishes, he]
    dsimp only
    rw [hfind, Option.any_some]
  have hcompletes (q : Pending) : e.action.completes q.id = true ↔ q.id = id := by
    simp [he, Action.completes, eq_comm]
  have hleaves := Op.leaves hc
  generalize hends : p.op.ends answer = ends at hleaves
  generalize hopens : p.op.opens answer = opens at hleaves
  cases hleaves with
  | ended hend hload =>
    have hiff : t'.tab.ops = [] ↔ ∀ q ∈ t.tab.ops, q.id = id := by
      rw [hops, List.filterMap_eq_nil_iff]
      refine forall₂_congr fun q _ => ?_
      by_cases hq : q.id = id <;> simp [hq, Tab.advance]
    have hguard : t.EndsAlone e ↔ t'.tab.ops = [] := by
      simp only [EndsAlone, hfinishes, hends, hend, hcompletes, forall_true_left, hiff]
    rw [hguard]
    exact followsNewest_iff_of_idle (hstore ▸ hload)
  | waiting op hend hload hcontroller =>
    refine iff_of_true ⟨?_, ?_⟩ ?_
    · intro hne
      rw [hstore, hload]
      refine hp.isLoading ?_
      intro hnil
      rw [hops, hnil] at hne
      exact hne rfl
    · rintro last hlast' ⟨q, hq, rfl⟩ hnot
      have hnot' : opens = false ∧ t.aborted = false := by
        rw [habort, abortedAfter, he] at hnot
        dsimp only at hnot
        rw [hfind, Option.any_some, hopens] at hnot
        exact Bool.or_eq_false_iff.1 hnot
      rw [hlast, lastSendAfter, he] at hlast'
      rw [hstore, hcontroller hnot'.1]
      refine hp.abortController _ hlast' ?_ hnot'.2
      rw [hops] at hq
      rcases Tab.mem_ops_complete hq with ⟨hq, -⟩ | ⟨r, hr, hrid, hqid, -⟩
      · exact ⟨q, hq, rfl⟩
      · exact ⟨r, hr, hrid.trans hqid.symm⟩
    · intro hf
      rw [hfinishes, hends, hend] at hf
      cases hf

/-- An event that neither starts nor completes an operation leaves the flag, and the controller
unless it aborts. -/
structure Idles (t : WatchedTab) (e : Event) (u : Tab) : Prop where
  ops : u.ops = t.tab.ops
  isLoading : u.store.isLoading = t.tab.store.isLoading
  lastSend : t.lastSendAfter e = t.lastSend
  abortController : t.abortedAfter e = true ∨
    t.abortedAfter e = t.aborted ∧ u.store.abortController = t.tab.store.abortController
  finishes : t.tab.finishes e = false

theorem followsNewest_of_idles {u : Tab} (hp : t.FollowsNewest) (hu : t.tab.act e = some u)
    (h : t.step e = some t') (hi : Idles t e u) : t'.FollowsNewest ↔ t.EndsAlone e := by
  obtain ⟨u', hu', hops, hstore, hlast, habort⟩ := step_eq_some h
  obtain rfl := Option.some.inj (hu.symm.trans hu')
  refine iff_of_true ⟨?_, ?_⟩ ?_
  · intro hne
    rw [hstore, hi.isLoading]
    refine hp.isLoading ?_
    rwa [hops, hi.ops] at hne
  · intro id hid hmem hnot
    rw [hlast, hi.lastSend] at hid
    rw [hops, hi.ops] at hmem
    rw [habort] at hnot
    rcases hi.abortController with htrue | ⟨hsame, hcontroller⟩
    · rw [htrue] at hnot
      cases hnot
    · rw [hstore, hcontroller]
      exact hp.abortController id hid hmem (hsame ▸ hnot)
  · intro hf
    rw [hi.finishes] at hf
    cases hf

/-- The last `sendMessage` has an id that has been given out. -/
def SendIssued (t : WatchedTab) : Prop := ∀ id, t.lastSend = some id → id < t.tab.nextOp

theorem sendIssued_step (ht : t.SendIssued) (h : t.step e = some t') : t'.SendIssued := by
  obtain ⟨tab, htab, rfl⟩ := Option.map_eq_some_iff.1 h
  obtain ⟨u, hu, rfl⟩ := Tab.step_eq_some htab
  show ∀ id, t.lastSendAfter e = some id → id < u.nextOp
  have hkept (hlast : t.lastSendAfter e = t.lastSend) (hnext : t.tab.nextOp ≤ u.nextOp) (id : ℕ)
      (hid : t.lastSendAfter e = some id) : id < u.nextOp :=
    (ht id (hlast.symm.trans hid)).trans_le hnext
  obtain ⟨now, a⟩ := e
  cases a with
  | complete id answer =>
    obtain ⟨_, _, _, -, -, rfl⟩ := Tab.act_complete rfl hu
    exact hkept rfl le_rfl
  | reload =>
    intro id hid
    cases hid
  | sendMessage content streaming =>
    obtain rfl := Option.some.inj hu
    intro id hid
    cases hid
    exact Nat.lt_succ_self _
  | uploadAndProcessFile file =>
    rcases Tab.act_ops (fun _ => rfl) hu with ⟨hreload, -⟩ | ⟨-, -, hnext⟩ | ⟨_, -, hnext, -⟩
    · cases hreload
    · exact hkept rfl hnext.ge
    · exact hkept rfl (hnext ▸ Nat.le_succ _)
  | _ =>
    obtain rfl := Option.some.inj hu
    exact hkept rfl le_rfl

/-- What `uploadAndProcessFile` does before it awaits anything. -/
theorem upload_cases (s : ChatStoreState) (file : File) :
    (rejects file = true ∧ ∃ s', s.uploadAndProcessFile file = (s', none) ∧
      s'.isLoading = false) ∨
    (rejects file = false ∧ s.uploadAndProcessFile file =
      ({ s with error := none, isLoading := true }, some ⟨file, .uploading⟩)) := by
  unfold ChatStoreState.uploadAndProcessFile rejects
  by_cases hsize : file.size > maxSize
  · exact .inl ⟨by simp [hsize], _, if_pos hsize, rfl⟩
  · by_cases htype : file.type ∈ allowedTypes
    · refine .inr ⟨by simp [hsize, htype], ?_⟩
      exact (if_neg hsize).trans (if_neg (not_not.2 htype))
    · exact .inl ⟨by simp [htype], _, (if_neg hsize).trans (if_pos htype), rfl⟩

/-- An upload that starts sets the flag, and one that is turned down takes it back. -/
theorem followsNewest_upload {file : File} (ht : t.SendIssued) (hp : t.FollowsNewest)
    (he : e.action = .uploadAndProcessFile file) (h : t.step e = some t') :
    t'.FollowsNewest ↔ t.EndsAlone e := by
  obtain ⟨u, hu, hops, hstore, hlast, habort⟩ := step_eq_some h
  rw [Tab.act, he] at hu
  dsimp only at hu
  have hfinishes : t.tab.finishes e = rejects file := by
    rw [Tab.finishes, he]
  rcases upload_cases t.tab.store file with ⟨hrejects, s', hupload, hload⟩ | ⟨hrejects, hupload⟩
  · rw [hupload] at hu
    obtain rfl := Option.some.inj hu
    have hguard : t.EndsAlone e ↔ t'.tab.ops = [] := by
      simp [EndsAlone, hfinishes, hrejects, he, Action.completes, hops,
        List.eq_nil_iff_forall_not_mem]
    rw [hguard]
    exact followsNewest_iff_of_idle (hstore ▸ hload)
  · rw [hupload] at hu
    obtain rfl := Option.some.inj hu
    refine iff_of_true ⟨fun _ => by rw [hstore]; rfl, ?_⟩ ?_
    · intro id hid hmem hnot
      rw [hlast, lastSendAfter, he] at hid
      rw [habort, abortedAfter, he] at hnot
      rw [hstore]
      refine hp.abortController id hid ?_ hnot
      obtain ⟨q, hq, hqid⟩ := hmem
      rw [hops] at hq
      rcases List.mem_cons.1 hq with rfl | hq
      -- the id of the upload is new, so it is not that of the last `sendMessage`
      · exact absurd hqid (ht id hid).ne'
      · exact ⟨q, hq, hqid⟩
    · intro hf
      rw [hfinishes, hrejects] at hf
      cases hf

/-- **One event** keeps the flag and the controller in step with the newest operation exactly when
it does not end an operation while another one is in flight. -/
theorem followsNewest_step (ht : t.SendIssued) (hp : t.FollowsNewest) (h : t.step e = some t') :
    t'.FollowsNewest ↔ t.EndsAlone e := by
  obtain ⟨now, a⟩ := e
  cases a with
  | complete id answer => exact followsNewest_complete hp rfl h
  | reload =>
    obtain ⟨u, hu, hops, hstore, hlast, habort⟩ := step_eq_some h
    obtain rfl := Option.some.inj hu
    refine iff_of_true ⟨fun hne => absurd hops hne, ?_⟩ fun hf => (by cases hf)
    rintro id - ⟨q, hq, -⟩ -
    rw [hops] at hq
    cases hq
  | sendMessage content streaming =>
    obtain ⟨u, hu, hops, hstore, hlast, habort⟩ := step_eq_some h
    obtain rfl := Option.some.inj hu
    refine iff_of_true ⟨fun _ => ?_, ?_⟩ fun hf => (by cases hf)
    · rw [hstore]
      cases streaming <;> rfl
    · intro id hid _ _
      rw [hlast] at hid
      rw [hstore, ← hid]
      cases streaming <;> rfl
  | uploadAndProcessFile file => exact followsNewest_upload ht hp rfl h
  | abortActiveRequest =>
    exact followsNewest_of_idles hp rfl h
      ⟨rfl, isLoading_abortActiveRequest _, rfl, .inl rfl, rfl⟩
  | startNewConversation preserveDocument =>
    exact followsNewest_of_idles hp rfl h
      ⟨rfl, isLoading_startNewConversation _ _, rfl, .inl rfl, rfl⟩
  | loadSessionFromStorage documentId =>
    have hsame : (t.tab.store.loadSessionFromStorage t.tab.storage now documentId).isLoading =
          t.tab.store.isLoading ∧
        (t.tab.store.loadSessionFromStorage t.tab.storage now documentId).abortController =
          t.tab.store.abortController := by
      unfold ChatStoreState.loadSessionFromStorage
      split <;> exact ⟨rfl, rfl⟩
    exact followsNewest_of_idles hp rfl h ⟨rfl, hsame.1, rfl, .inr ⟨rfl, hsame.2⟩, rfl⟩
  | selectConversation sessionId =>
    have hsame : (t.tab.store.selectConversation t.tab.storage now sessionId).isLoading =
          t.tab.store.isLoading ∧
        (t.tab.store.selectConversation t.tab.storage now sessionId).abortController =
          t.tab.store.abortController := by
      unfold ChatStoreState.selectConversation
      split <;> exact ⟨rfl, rfl⟩
    exact followsNewest_of_idles hp rfl h ⟨rfl, hsame.1, rfl, .inr ⟨rfl, hsame.2⟩, rfl⟩
  | _ => exact followsNewest_of_idles hp rfl h ⟨rfl, rfl, rfl, .inr ⟨rfl, rfl⟩, rfl⟩

/-- **The flag and the controller follow the newest operation** in every state that is passed
exactly when no operation ends while another one is in flight. -/
theorem followsNewest_iff {storage : LocalStorage} {es : List Event}
    (h : AnyRun step (loaded storage) es t) :
    Run step EndsAlone (loaded storage) es t ↔
      Run.Always step FollowsNewest (loaded storage) es := by
  refine h.guarded_iff_always (I := SendIssued) ?_ ⟨fun hne => absurd rfl hne, ?_⟩ ?_ ?_
  · intro id hid
    cases hid
  · rintro id hid - -
    cases hid
  · exact fun _ _ _ ht hst => sendIssued_step ht hst
  · exact fun _ _ _ ht hp hst => followsNewest_step ht hp hst

/-- A question is answered, and then one is asked behind another. -/
def threeQuestions : List Event :=
  [⟨0, .sendMessage (js "a") true⟩, ⟨1, .complete 0 .done⟩, ⟨2, .sendMessage (js "b") true⟩,
    ⟨3, .sendMessage (js "c") false⟩]

theorem followsNewest_iff_threeQuestions : ∃ t, AnyRun step (loaded {}) threeQuestions t ∧
    t.tab.ops.length = 2 ∧ Run.Always step FollowsNewest (loaded {}) threeQuestions := by
  have hrun : Run step EndsAlone (loaded {}) threeQuestions _ :=
    .cons (by decide) rfl (.cons (by decide) rfl (.cons (by decide) rfl
      (.single (by decide) rfl)))
  exact ⟨_, hrun.any, rfl, (followsNewest_iff hrun.any).1 hrun⟩

/-- **The flag and the controller are lost**: a second question is asked, and then the answer to the
first one arrives. -/
theorem flag_lost : ∃ t, AnyRun step (loaded {})
      [⟨0, .sendMessage (js "a") true⟩, ⟨1, .sendMessage (js "b") true⟩, ⟨2, .complete 0 .done⟩] t ∧
    t.tab.ops.map (·.id) = [1] ∧ t.lastSend = some 1 ∧ t.aborted = false ∧
    t.tab.store.isLoading = false ∧ t.tab.store.abortController = none ∧ ¬ FollowsNewest t := by
  refine ⟨_, .cons trivial rfl (.cons trivial rfl (.single trivial rfl)), rfl, rfl, rfl, rfl, rfl,
    ?_⟩
  intro h
  have := h.isLoading (List.cons_ne_nil _ _)
  cases this

end WatchedTab

end Client

end StudyOasis
