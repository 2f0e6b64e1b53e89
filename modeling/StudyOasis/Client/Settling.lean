import StudyOasis.Client.Conversations
import StudyOasis.Runs.Basic

/-!
# Operations come to an end

The store says on five fields that something is going on: `isLoading`, `isStreaming`, `isThinking`,
`streamingContent` and `abortController`.  Retries and polling are bounded.

* `exists_of_lit` : **nothing is shown as going on that is not in flight**, whatever the user does
  and in whatever order the operations are completed;
* `settles` : a tab in which nothing more is started takes at most 120 completions for each of its
  operations (and two for each chunk of a stream) until none is in flight, and until then it is
  waiting for one.
-/

namespace StudyOasis

namespace Client

/-! ### What the page shows as going on -/

/-- The fields of the store that say that something is going on. -/
inductive Light where
  | isLoading | isStreaming | isThinking | streamingContent | abortController
  deriving DecidableEq, Repr

/-- The field says so. -/
def ChatStoreState.lit (s : ChatStoreState) : Light → Bool
  | .isLoading => s.isLoading
  | .isStreaming => s.isStreaming
  | .isThinking => s.isThinking
  | .streamingContent => s.streamingContent ≠ []
  | .abortController => s.abortController.isSome

/-- The phases of the streaming branch. -/
def SendPhase.streams : SendPhase → Bool
  | .reading _ => true
  | .painting _ _ => true
  | .closing _ => true
  | .asking _ => false
  | .backoff _ => false

/-- The operation is one of those that the field is about. -/
def Light.shows : Light → Op → Bool
  | .isLoading, _ => true
  | .abortController, .send _ => true
  | .abortController, .upload _ => false
  | _, .send op => op.phase.streams
  | _, .upload _ => false

/-! ### How long an operation can go on -/

/-- How many completions can follow, if the stream yields no further chunk. -/
def SendPhase.left : SendPhase → ℕ
  | .reading _ => 1
  | .painting _ _ => 2
  | .closing _ => 1
  | .asking attempt => 2 * (maxRetries - attempt) + 1
  | .backoff attempt => 2 * (maxRetries - (attempt + 1)) + 2

/-- How many completions can follow: an answer and a `delay` for each attempt but the last. -/
def UploadPhase.left : UploadPhase → ℕ
  | .uploading => 2 * maxAttempts
  | .polling _ attempts => 2 * (maxAttempts - (attempts + 1)) + 1
  | .sleeping _ attempts => 2 * (maxAttempts - (attempts + 1)) + 2

/-- How many completions the operation can take. -/
def Op.left : Op → ℕ
  | .send op => op.phase.left
  | .upload op => op.phase.left

/-- The answer is a chunk of a stream. -/
def Completion.isChunk : Completion → Bool
  | .chunk _ => true
  | _ => false

/-- The event is a completion. -/
def Action.isComplete : Action → Bool
  | .complete _ _ => true
  | _ => false

/-- The event may start an operation. -/
def Action.starts : Action → Bool
  | .sendMessage _ _ => true
  | .uploadAndProcessFile _ => true
  | _ => false

/-- The event is a chunk of a stream. -/
def Action.isChunk : Action → Bool
  | .complete _ answer => answer.isChunk
  | _ => false

/-- How many completions the operations can take together. -/
def work : List Pending → ℕ
  | [] => 0
  | p :: ops => p.op.left + work ops

theorem Op.left_pos (op : Op) : 0 < op.left := by
  obtain ⟨request, phase⟩ | ⟨file, phase⟩ := op <;> cases phase <;>
    simp [left, SendPhase.left, UploadPhase.left, maxAttempts]

theorem Op.left_le (op : Op) : op.left ≤ 120 := by
  obtain ⟨request, phase⟩ | ⟨file, phase⟩ := op <;> cases phase <;>
    simp only [left, SendPhase.left, UploadPhase.left, maxAttempts, maxRetries] <;> omega

theorem work_le (ops : List Pending) : work ops ≤ 120 * ops.length := by
  induction ops with
  | nil => exact le_rfl
  | cons p ops ih =>
    have hleft := p.op.left_le
    rw [work, List.length_cons, Nat.mul_succ]
    omega

/-! ### One completion -/

/-- What a completion does: a field that is set belongs to an operation that goes on, and the fields
of one that ends are taken back. -/
structure Tended (s : ChatStoreState) (op : Op) (answer : Completion) (s' : ChatStoreState)
    (next : Option Op) : Prop where
  lit (l : Light) : s'.lit l = true →
    (s.lit l = true ∧ (next = none → l.shows op = false)) ∨ (next ≠ none ∧ l.shows op = true)
  shows : ∀ op' ∈ next, ∀ l : Light, l.shows op' = l.shows op
  left : (next.elim 0 Op.left) + 1 ≤ op.left + if answer.isChunk then 2 else 0

variable {s s' : ChatStoreState}

theorem Tended.ended {op : Op} {answer : Completion}
    (hlit : ∀ l, s'.lit l = true → s.lit l = true ∧ l.shows op = false) :
    Tended s op answer s' none where
  lit l hl := .inl ⟨(hlit l hl).1, fun _ => (hlit l hl).2⟩
  shows := nofun
  left := Nat.le_add_right_of_le op.left_pos

theorem Tended.waiting {op op' : Op} {answer : Completion}
    (hlit : ∀ l, s'.lit l = true → s.lit l = true ∨ l.shows op = true)
    (hshows : ∀ l : Light, l.shows op' = l.shows op)
    (hleft : op'.left + 1 ≤ op.left + if answer.isChunk then 2 else 0) :
    Tended s op answer s' (some op') where
  lit l hl := (hlit l hl).imp (fun h => ⟨h, nofun⟩) fun h => ⟨nofun, h⟩
  shows _ hop := Option.some.inj hop ▸ hshows
  left := hleft

/-- A stream has ended: every field is taken back. -/
theorem SendOp.tended_stream {op : SendOp} {answer : Completion} (h : ∀ l, s'.lit l = false) :
    Tended s (.send op) answer s' none :=
  .ended fun l hl => absurd ((h l).symm.trans hl) nofun

theorem lt_of_retries {attempt : ℕ} {err : JsError} (h : retries attempt err = true) :
    attempt < maxRetries := by
  cases err with
  | api message statusCode => exact of_decide_eq_true (Bool.and_eq_true_iff.1 h).1
  | _ => cases h

theorem SendOp.tended {op : SendOp} {now : ℤ} {answer : Completion} {next : Option SendOp}
    (h : op.complete now s answer = some (s', next)) :
    Tended s (.send op) answer s' (next.map .send) := by
  obtain ⟨request, phase⟩ := op
  cases phase <;> cases answer <;> try cases h
  case reading.chunk l chunk =>
    refine .waiting (fun l hl => .inl ?_) (fun l => by cases l <;> rfl) le_rfl
    split_ifs at hl
    · cases l <;> first | exact hl | cases hl
    · exact hl
  case reading.done => exact tended_stream fun l => by cases l <;> rfl
  case reading.failed => exact tended_stream fun l => by cases l <;> rfl
  case painting.frame l complete =>
    refine .waiting (fun l hl => ?_) (fun l => ?_) ?_
    · cases l <;> first | exact .inl hl | exact .inr rfl
    · cases complete <;> cases l <;> rfl
    · cases complete <;> exact le_rfl
  case closing.closed => exact tended_stream fun l => by cases l <;> rfl
  case asking.reply data =>
    refine .ended fun l hl => ?_
    simp only [ChatStoreState.replied] at hl
    split at hl <;> cases l <;> first | exact ⟨hl, rfl⟩ | cases hl
  case asking.failed attempt err =>
    cases hretries : retries attempt err with
    | true =>
      simp only [complete, hretries, if_true] at h
      cases h
      refine .waiting (fun l hl => .inl hl) (fun l => by cases l <;> rfl) ?_
      have hlt := lt_of_retries hretries
      show 2 * (maxRetries - (attempt + 1)) + 2 + 1 ≤ 2 * (maxRetries - attempt) + 1
      omega
    | false =>
      simp only [complete, hretries, Bool.false_eq_true, if_false] at h
      cases h
      exact .ended fun l hl => by cases l <;> first | exact ⟨hl, rfl⟩ | cases hl
  case backoff.timer attempt =>
    refine .waiting (fun l hl => .inl hl) (fun l => by cases l <;> rfl) ?_
    exact le_rfl

/-- A round of polling without a text uses up an attempt. -/
theorem UploadOp.tended_pollAgain {op : UploadOp} {answer : Completion} {documentId : JsString}
    {attempts : ℕ} {next : Option UploadOp} (hop : op.phase = .polling documentId attempts)
    (h : op.pollAgain s documentId attempts = (s', next)) :
    Tended s (.upload op) answer s' (next.map .upload) := by
  unfold pollAgain at h
  split_ifs at h with hlast
  · cases h
    refine .waiting (fun l hl => .inl hl) (fun l => by cases l <;> rfl) ?_
    simp only [Op.left, UploadPhase.left, hop]
    omega
  · cases h
    exact .ended fun l hl => by cases l <;> first | exact ⟨hl, rfl⟩ | cases hl

theorem lit_abortActiveRequest {l : Light} (h : s.abortActiveRequest.lit l = true) :
    s.lit l = true := by
  unfold ChatStoreState.abortActiveRequest at h
  split at h
  · cases l <;> first | exact h | cases h
  · exact h

theorem lit_startNewConversation {preserveDocument : Bool} {l : Light}
    (h : (s.startNewConversation preserveDocument).lit l = true) : s.lit l = true := by
  refine lit_abortActiveRequest ?_
  unfold ChatStoreState.startNewConversation at h
  split_ifs at h <;> cases l <;> first | exact h | cases h

theorem UploadOp.tended {op : UploadOp} {now : ℤ} {answer : Completion} {next : Option UploadOp}
    (h : op.complete now s answer = some (s', next)) :
    Tended s (.upload op) answer s' (next.map .upload) := by
  obtain ⟨file, phase⟩ := op
  cases phase <;> cases answer <;> try cases h
  case uploading.uploaded response =>
    refine .waiting (fun l hl => .inl ?_) (fun l => by cases l <;> rfl) le_rfl
    exact @lit_startNewConversation s false l (by cases l <;> exact hl)
  case uploading.failed =>
    exact .ended fun l hl => by cases l <;> first | exact ⟨hl, rfl⟩ | cases hl
  case polling.ocr documentId attempts result =>
    cases htext : result.filter (·.fullText ≠ []) with
    | some text =>
      simp only [complete, htext] at h
      cases h
      exact .ended fun l hl => by cases l <;> first | exact ⟨hl, rfl⟩ | cases hl
    | none =>
      simp only [complete, htext] at h
      exact tended_pollAgain rfl (Option.some.inj h)
  case polling.failed documentId attempts err =>
    cases hfound : isNotFound err with
    | true =>
      simp only [complete, hfound, if_true] at h
      exact tended_pollAgain rfl (Option.some.inj h)
    | false =>
      simp only [complete, hfound, Bool.false_eq_true, if_false] at h
      cases h
      exact .ended fun l hl => by cases l <;> first | exact ⟨hl, rfl⟩ | cases hl
  case sleeping.timer =>
    exact .waiting (fun l hl => .inl hl) (fun l => by cases l <;> rfl) le_rfl

theorem Op.tended {op : Op} {now : ℤ} {answer : Completion} {next : Option Op}
    (h : op.complete now s answer = some (s', next)) : Tended s op answer s' next := by
  cases op with
  | send op =>
    obtain ⟨⟨s₁, next₁⟩, hc, heq⟩ := Option.map_eq_some_iff.1 h
    cases heq
    exact SendOp.tended hc
  | upload op =>
    obtain ⟨⟨s₁, next₁⟩, hc, heq⟩ := Option.map_eq_some_iff.1 h
    cases heq
    exact UploadOp.tended hc

/-- An operation is always waiting for something that can come. -/
theorem Op.exists_complete (op : Op) :
    ∃ answer, ∀ now s, (op.complete now s answer).isSome = true := by
  obtain ⟨request, phase⟩ | ⟨file, phase⟩ := op <;> cases phase
  case send.reading => exact ⟨.done, fun _ _ => rfl⟩
  case send.painting => exact ⟨.frame, fun _ _ => rfl⟩
  case send.closing => exact ⟨.closed, fun _ _ => rfl⟩
  case send.asking =>
    exact ⟨.failed (.api [] 0), fun _ _ => by simp [complete, SendOp.complete, retries]⟩
  case send.backoff => exact ⟨.timer, fun _ _ => rfl⟩
  case upload.uploading => exact ⟨.failed (.api [] 0), fun _ _ => rfl⟩
  case upload.polling => exact ⟨.failed (.api [] 0), fun _ _ => rfl⟩
  case upload.sleeping => exact ⟨.timer, fun _ _ => rfl⟩

/-! ### One event -/

namespace Tab

variable {t t' : Tab} {e : Event}

/-- Every field that is set belongs to an operation in flight. -/
def Honest (t : Tab) : Prop := ∀ l, t.store.lit l = true → ∃ p ∈ t.ops, l.shows p.op = true

/-- What a completion leaves of the operations, for one that has a field of its own. -/
theorem mem_advanced {ops : List Pending} {p : Pending} {next : Option Op} {opened : Option ℕ}
    {op : Op} (hp : p ∈ ops) (hnext : next = some op) :
    { p with op, conversation := opened.getD p.conversation } ∈
      ops.filterMap fun q => if q.id = p.id then advance q next opened else some q := by
  refine List.mem_filterMap.2 ⟨p, hp, ?_⟩
  rw [if_pos rfl, advance, hnext, Option.map_some]

theorem honest_complete {id : ℕ} {answer : Completion} (ht : t.Honest) (hfresh : FreshIds t)
    (he : e.action = .complete id answer) (h : t.act e = some t') : t'.Honest := by
  obtain ⟨p, store, next, hfind, hc, rfl⟩ := act_complete he h
  have hp : p ∈ t.ops := List.mem_of_find?_eq_some hfind
  obtain rfl : p.id = id := by simpa using List.find?_some hfind
  have hsame {q : Pending} (hq : q ∈ t.ops) (hid : q.id = p.id) : q = p := by
    have hfound := hfresh.find_eq hq
    rw [hid, hfind] at hfound
    exact (Option.some.inj hfound).symm
  have htended := Op.tended hc
  intro l hl
  cases next with
  | none =>
    rcases htended.lit l hl with ⟨hlit, hend⟩ | ⟨hne, -⟩
    · obtain ⟨q, hq, hshows⟩ := ht l hlit
      have hother : q.id ≠ p.id := by
        intro hid
        rw [hsame hq hid, hend rfl] at hshows
        cases hshows
      exact ⟨q, List.mem_filterMap.2 ⟨q, hq, if_neg hother⟩, hshows⟩
    · exact absurd rfl hne
  | some op =>
    have hkept := htended.shows op rfl l
    have hadvanced := @mem_advanced t.ops p (some op)
      (if p.op.opens answer then some (t.moment + 1) else none) op hp rfl
    rcases htended.lit l hl with ⟨hlit, -⟩ | ⟨-, hshows⟩
    · obtain ⟨q, hq, hshows⟩ := ht l hlit
      by_cases hid : q.id = p.id
      · rw [hsame hq hid] at hshows
        exact ⟨_, hadvanced, hkept.trans hshows⟩
      · exact ⟨q, List.mem_filterMap.2 ⟨q, hq, if_neg hid⟩, hshows⟩
    · exact ⟨_, hadvanced, hkept.trans hshows⟩

/-- An event that completes nothing sets a field only for an operation that it starts. -/
theorem lit_act (he : ∀ id, e.action.completes id = false) (h : t.act e = some t') {l : Light}
    (hl : t'.store.lit l = true) :
    t.store.lit l = true ∨ ∃ p ∈ t'.ops, l.shows p.op = true := by
  obtain ⟨now, a⟩ := e
  cases a with
  | complete id answer => simpa [Action.completes] using he id
  | sendMessage content streaming =>
    obtain rfl := Option.some.inj h
    cases streaming with
    | true => exact .inr ⟨_, List.mem_cons_self, by cases l <;> rfl⟩
    | false =>
      cases l with
      | isLoading => exact .inr ⟨_, List.mem_cons_self, rfl⟩
      | abortController => exact .inr ⟨_, List.mem_cons_self, rfl⟩
      | _ => exact .inl (lit_abortActiveRequest hl)
  | uploadAndProcessFile file =>
    simp only [act, ChatStoreState.uploadAndProcessFile] at h
    split_ifs at h with hsize htype
    · obtain rfl := Option.some.inj h
      exact .inl (by cases l <;> first | exact hl | cases hl)
    · obtain rfl := Option.some.inj h
      cases l with
      | isLoading => exact .inr ⟨_, List.mem_cons_self, rfl⟩
      | _ => exact .inl hl
    · obtain rfl := Option.some.inj h
      exact .inl (by cases l <;> first | exact hl | cases hl)
  | reload =>
    obtain rfl := Option.some.inj h
    cases l <;> cases hl
  | abortActiveRequest =>
    obtain rfl := Option.some.inj h
    exact .inl (lit_abortActiveRequest hl)
  | startNewConversation preserveDocument =>
    obtain rfl := Option.some.inj h
    exact .inl (lit_startNewConversation hl)
  | loadSessionFromStorage documentId =>
    obtain rfl := Option.some.inj h
    refine .inl ?_
    simp only [ChatStoreState.loadSessionFromStorage] at hl
    split at hl <;> cases l <;> exact hl
  | selectConversation sessionId =>
    obtain rfl := Option.some.inj h
    refine .inl ?_
    simp only [ChatStoreState.selectConversation] at hl
    split at hl <;> cases l <;> exact hl
  | _ =>
    obtain rfl := Option.some.inj h
    exact .inl (by cases l <;> first | exact hl | cases hl)

theorem honest_step (ht : t.Honest) (hfresh : FreshIds t) (h : t.step e = some t') :
    t'.Honest := by
  obtain ⟨u, hu, rfl⟩ := step_eq_some h
  rcases e.action.complete_or with ⟨id, answer, he⟩ | he
  · have hkept : u.Honest := honest_complete ht hfresh he hu
    exact hkept
  · by_cases hreload : e.action = .reload
    · rw [act, hreload] at hu
      obtain rfl := Option.some.inj hu
      intro l hl
      cases l <;> cases hl
    intro l hl
    rcases lit_act he hu hl with hlit | hshows
    · obtain ⟨p, hp, hshows⟩ := ht l hlit
      have hcomp : e.action.completes p.id = false := he p.id
      exact ⟨p, mem_ops_of_step h hp hreload hcomp, hshows⟩
    · exact hshows

theorem freshIds_of_run {config : Option StorageConfig} {es : List Event}
    (h : AnyRun step (opened config) es t) : FreshIds t :=
  h.invariant (I := FreshIds) ⟨.nil, nofun⟩ fun _ _ _ ht _ hst => freshIds_step ht hst

theorem honest_of_run {config : Option StorageConfig} {es : List Event}
    (h : AnyRun step (opened config) es t) : t.Honest := by
  have hhonest : t.Honest ∧ FreshIds t := by
    refine h.invariant (I := fun t => t.Honest ∧ FreshIds t) ⟨?_, .nil, nofun⟩ ?_
    · intro l hl
      cases l <;> cases hl
    · exact fun _ _ _ ht _ hst => ⟨honest_step ht.1 ht.2 hst, freshIds_step ht.2 hst⟩
  exact hhonest.1

/-- **Nothing is shown as going on that is not in flight**: a field of the store that says that
something is going on belongs to an operation that has not ended. -/
theorem exists_of_lit {config : Option StorageConfig} {es : List Event}
    (h : AnyRun step (opened config) es t) {l : Light} (hl : t.store.lit l = true) :
    ∃ p ∈ t.ops, l.shows p.op = true :=
  honest_of_run h l hl

/-! ### A tab in which nothing more is started -/

theorem work_complete {ops : List Pending} {p : Pending}
    (hd : ops.Pairwise fun p q => p.id ≠ q.id) (hp : p ∈ ops) (next : Option Op)
    (opened : Option ℕ) :
    work (ops.filterMap fun q => if q.id = p.id then advance q next opened else some q) +
      p.op.left = work ops + next.elim 0 Op.left := by
  induction ops with
  | nil => cases hp
  | cons q ops ih =>
    obtain ⟨hq, hd⟩ := List.pairwise_cons.1 hd
    rcases List.mem_cons.1 hp with rfl | hp
    · have hrest : (ops.filterMap fun q => if q.id = p.id then advance q next opened else some q) =
          ops :=
        (List.filterMap_congr fun r hr => if_neg (hq r hr).symm).trans List.filterMap_some
      cases next with
      | none =>
        rw [List.filterMap_cons_none (by rw [if_pos rfl]; rfl), hrest, work]
        exact Nat.add_comm _ _
      | some op =>
        rw [List.filterMap_cons_some (by rw [if_pos rfl]; rfl), hrest, work, work]
        dsimp only [Option.elim_some]
        omega
    · have hrest := ih hd hp
      simp only [List.filterMap_cons, if_neg (hq p hp), work]
      omega

/-- A completion uses up one of those that are left, or is a chunk; what starts no operation adds
nothing to them. -/
theorem work_step (hfresh : FreshIds t) (he : e.action.starts = false) (h : t.step e = some t') :
    work t'.ops + (if e.action.isComplete then 1 else 0) ≤
      work t.ops + if e.action.isChunk then 2 else 0 := by
  obtain ⟨u, hu, rfl⟩ := step_eq_some h
  obtain ⟨now, a⟩ := e
  cases a with
  | complete id answer =>
    obtain ⟨p, store, next, hfind, hc, rfl⟩ := act_complete rfl hu
    obtain rfl : p.id = id := by simpa using List.find?_some hfind
    have hleft := (Op.tended hc).left
    have hwork := work_complete hfresh.distinct (List.mem_of_find?_eq_some hfind) next
      (if p.op.opens answer then some (t.moment + 1) else none)
    show work _ + 1 ≤ work t.ops + if answer.isChunk then 2 else 0
    dsimp only
    omega
  | sendMessage content streaming => cases he
  | uploadAndProcessFile file => cases he
  | reload =>
    obtain rfl := Option.some.inj hu
    exact Nat.zero_le _
  | _ =>
    obtain rfl := Option.some.inj hu
    exact le_rfl

/-- Some operation is waiting for something that can come. -/
theorem exists_complete (hfresh : FreshIds t) (hne : t.ops ≠ []) :
    ∃ id answer, ∀ now, (t.step ⟨now, .complete id answer⟩).isSome = true := by
  obtain ⟨p, hp⟩ := List.exists_mem_of_ne_nil t.ops hne
  obtain ⟨answer, hanswer⟩ := p.op.exists_complete
  refine ⟨p.id, answer, fun now => ?_⟩
  obtain ⟨⟨store, next⟩, hc⟩ := Option.isSome_iff_exists.1 (hanswer now t.store)
  exact Option.isSome_iff_exists.2 ⟨_, step_complete (hfresh.find_eq hp) hc⟩

/-- **A tab in which nothing more is started comes to rest**, whatever else happens in it: its
operations take at most 120 completions each, and two for each chunk of a stream; until none is in
flight, there is one that can come, and then the store says of nothing that it is going on. -/
theorem settles {config : Option StorageConfig} {es es' : List Event}
    (h : AnyRun step (opened config) es t)
    (h' : Run step (fun _ e => e.action.starts = false) t es' t') :
    es'.countP (·.action.isComplete) ≤
        120 * t.ops.length + 2 * es'.countP (·.action.isChunk) ∧
      ((t'.ops = [] ∧ ∀ l, t'.store.lit l = false) ∨
        ∃ id answer, ∀ now, (t'.step ⟨now, .complete id answer⟩).isSome = true) := by
  have hrun := h.append h'.any
  constructor
  · have hcount := h'.countP_add_le (f := fun t => work t.ops) (freshIds_of_run h)
      (fun _ _ _ ht _ hst => freshIds_step ht hst) fun _ _ _ ht he hst => work_step ht he hst
    have hbound := work_le t.ops
    omega
  · by_cases hnil : t'.ops = []
    · refine .inl ⟨hnil, fun l => ?_⟩
      by_contra hl
      obtain ⟨p, hp, -⟩ := honest_of_run hrun l (Bool.not_eq_false _ ▸ hl)
      rw [hnil] at hp
      cases hp
    · exact .inr (exists_complete (freshIds_of_run hrun) hnil)

/-- A message and an upload that overlap. -/
def messageAndUpload : List Event :=
  [⟨0, .sendMessage (js "hi") true⟩,
    ⟨1, .uploadAndProcessFile { name := js "a.txt", size := 1, type := js "text/plain" }⟩]

/-- What they wait for, in turn; the page saves the conversation in between. -/
def sixAnswers : List Event :=
  [⟨2, .complete 1 (.uploaded { id := js "u", filename := js "a.txt", url := js "/a" })⟩,
    ⟨3, .complete 0 (.chunk { token := js "yes", complete := true, conversationId := none })⟩,
    ⟨4, .complete 1 (.failed (.api [] 404))⟩, ⟨5, .complete 0 .frame⟩,
    ⟨6, .complete 0 .closed⟩, ⟨7, .persistSession {} (js "r")⟩, ⟨8, .complete 1 .timer⟩]

theorem exists_of_lit_messageAndUpload :
    ∃ t, AnyRun step (opened none) messageAndUpload t ∧ t.store.lit .isStreaming = true ∧
      ∃ p ∈ t.ops, Light.isStreaming.shows p.op = true := by
  have hrun : AnyRun step (opened none) messageAndUpload _ := .of_foldlM rfl
  exact ⟨_, hrun, rfl, exists_of_lit hrun rfl⟩

theorem settles_sixAnswers :
    ∃ t t', AnyRun step (opened none) messageAndUpload t ∧
      Run step (fun _ e => e.action.starts = false) t sixAnswers t' ∧
      sixAnswers.countP (·.action.isComplete) ≤
        120 * t.ops.length + 2 * sixAnswers.countP (·.action.isChunk) ∧
      ((t'.ops = [] ∧ ∀ l, t'.store.lit l = false) ∨
        ∃ id answer, ∀ now, (t'.step ⟨now, .complete id answer⟩).isSome = true) := by
  have hboth : ((messageAndUpload.foldlM step (opened none)).bind fun t =>
      sixAnswers.foldlM (Run.guarded step fun _ e => e.action.starts = false) t) = some _ := rfl
  obtain ⟨t, ht, hanswers⟩ := Option.bind_eq_some_iff.1 hboth
  exact ⟨t, _, .of_foldlM ht, .of_guarded hanswers, settles (.of_foldlM ht) (.of_guarded hanswers)⟩

end Tab

end Client

end StudyOasis
