import StudyOasis.Client.Tab

/-!
# Conversations do not mix, if one waits

An operation works for the conversation in which it was started (an upload for the one it opens
when the file has arrived), but its completions write into whatever the store shows by then.  A
message, the streaming text or the conversation id of one conversation therefore reaches another
one as soon as the page moves on while an operation is in flight.

* `no_cross_talk` : as long as the conversation that is shown is left only while no other
  operation is in flight (`Settled`), every completion writes into its own conversation;
* `cross_talk_of_stale` : an operation that is left behind can always write into the conversation
  that is shown then.
-/

namespace StudyOasis

namespace Client

/-- What belongs to a conversation in the store. -/
def ChatStoreState.conversationView (s : ChatStoreState) :
    List Message × JsString × Option JsString :=
  (s.messages, s.streamingContent, s.conversationId)

/-- In the event, an operation writes only if its conversation is shown. -/
def NoCrossTalk (t : Tab) (e : Event) : Prop :=
  ∀ t', t.step e = some t' → ∀ p ∈ t.ops, e.action.completes p.id = true →
    t'.store.conversationView ≠ t.store.conversationView → p.conversation = t.shown

/-- The event shows another conversation only while no other operation is in flight. -/
def Settled (t : Tab) (e : Event) : Prop :=
  e.action = .reload ∨ t.shownAfter e = t.shown ∨ ∀ p ∈ t.ops, e.action.completes p.id = true

instance (t : Tab) (e : Event) : Decidable (Settled t e) :=
  inferInstanceAs (Decidable (e.action = .reload ∨ t.shownAfter e = t.shown ∨
    ∀ p ∈ t.ops, e.action.completes p.id = true))

/-- Every operation in flight works for the conversation that is shown. -/
def Attended (t : Tab) : Prop := ∀ p ∈ t.ops, p.conversation = t.shown

open Tab

variable {t t' : Tab} {e : Event}

theorem attended_step (ht : Attended t) (hG : Settled t e) (h : t.step e = some t') :
    Attended t' := by
  obtain ⟨u, hu, rfl⟩ := step_eq_some h
  intro q hq
  show q.conversation = t.shownAfter e
  rcases e.action.complete_or with ⟨id, answer, he⟩ | he
  · obtain ⟨p, store, next, hp, -, rfl⟩ := act_complete he hu
    have hshown := shownAfter_complete he hp
    rcases mem_ops_complete hq with ⟨hq, hid⟩ | ⟨r, hr, -, -, hconv⟩
    · -- another operation is in flight, so the conversation stays
      rcases hG with hG | hG | hG
      · rw [he] at hG
        cases hG
      · rw [hG, ht q hq]
      · exact absurd (hG q hq) (by simpa [Action.completes, he] using Ne.symm hid)
    · rw [hconv, hshown]
      split_ifs
      · rfl
      · exact ht r hr
  · rcases act_ops he hu with ⟨-, hops⟩ | ⟨hne, hops, -⟩ | ⟨op, hops, -, hshown⟩
    · rw [hops] at hq
      exact absurd hq List.not_mem_nil
    · rw [hops] at hq
      rcases hG with hG | hG | hG
      · exact absurd hG hne
      · rw [hG, ht q hq]
      · exact absurd (hG q hq) (by simp [he])
    · rw [hops] at hq
      rw [hshown]
      rcases List.mem_cons.1 hq with rfl | hq
      · rfl
      · exact ht q hq

theorem attended_opened (config : Option StorageConfig) : Attended (Tab.opened config) :=
  fun _ hp => absurd hp List.not_mem_nil

theorem attended_of_run {config : Option StorageConfig} {es : List Event}
    (h : Run Tab.step Settled (Tab.opened config) es t) : Attended t :=
  h.invariant (attended_opened config) fun _ _ _ => attended_step

/-- **No cross-talk**: in a run that leaves the conversation that is shown only while no other
operation is in flight, an operation writes messages, the streaming text or the conversation id
only while its own conversation is shown. -/
theorem no_cross_talk {config : Option StorageConfig} {es : List Event}
    (h : Run Tab.step Settled (Tab.opened config) es t) (e : Event) : NoCrossTalk t e :=
  fun _ _ p hp _ _ => attended_of_run h p hp

/-- A question is answered, the page moves on to a new conversation, and a question is asked there;
its reply is written by the last completion. -/
theorem no_cross_talk_moved : ∃ es t e t',
    Run Tab.step Settled (Tab.opened none) es t ∧ t.step e = some t' ∧
      t'.shown ≠ (Tab.opened none).shown ∧ t'.store.messages.length = 2 ∧ NoCrossTalk t e := by
  let chunk : StreamChunk := { token := js "a", complete := true, conversationId := some (js "c") }
  have h : Run Tab.step Settled (Tab.opened none)
      [⟨0, .sendMessage (js "q") true⟩, ⟨1, .complete 0 (.chunk chunk)⟩,
        ⟨2, .complete 0 .frame⟩, ⟨3, .complete 0 .closed⟩, ⟨4, .startNewConversation true⟩,
        ⟨5, .sendMessage (js "r") true⟩, ⟨6, .complete 1 (.chunk chunk)⟩,
        ⟨7, .complete 1 .frame⟩] _ :=
    .cons (by decide) rfl (.cons (by decide) rfl (.cons (by decide) rfl (.cons (by decide) rfl
      (.cons (by decide) rfl (.cons (by decide) rfl (.cons (by decide) rfl
        (.single (by decide) rfl)))))))
  exact ⟨_, _, ⟨8, .complete 1 .closed⟩, _, h, rfl, by decide, rfl, no_cross_talk h _⟩

/-- The page moves on while a question is answered; the reply is written into the new
conversation. -/
theorem reply_in_new_conversation :
    ¬ ∀ (config : Option StorageConfig) (es : List Event) (t : Tab) (e : Event),
      AnyRun Tab.step (Tab.opened config) es t → NoCrossTalk t e := by
  intro h
  let chunk : StreamChunk := { token := js "a", complete := true, conversationId := some (js "c") }
  have hrun : AnyRun Tab.step (Tab.opened none)
      [⟨0, .sendMessage (js "q") true⟩, ⟨1, .startNewConversation true⟩,
        ⟨2, .complete 0 (.chunk chunk)⟩, ⟨3, .complete 0 .frame⟩] _ :=
    .cons trivial rfl (.cons trivial rfl (.cons trivial rfl (.single trivial rfl)))
  have hbad := h none _ _ ⟨4, .complete 0 .closed⟩ hrun _ rfl _ List.mem_cons_self (by decide)
    (by decide)
  exact absurd hbad (by decide)

/-! ### The condition is needed -/

/-- The operations in flight have different ids, below the next one. -/
structure FreshIds (t : Tab) : Prop where
  distinct : t.ops.Pairwise fun p q => p.id ≠ q.id
  below : ∀ p ∈ t.ops, p.id < t.nextOp

theorem freshIds_step (ht : FreshIds t) (h : t.step e = some t') : FreshIds t' := by
  obtain ⟨u, hu, rfl⟩ := step_eq_some h
  rcases e.action.complete_or with ⟨id, answer, he⟩ | he
  · obtain ⟨p, store, next, -, -, rfl⟩ := act_complete he hu
    refine ⟨List.pairwise_filterMap.2 (ht.distinct.imp ?_), ?_⟩
    · intro a b hab q hq r hr
      -- what a completion leaves of an operation has its id
      have key {a q : Pending} {opened : Option ℕ}
          (hq : (if a.id = id then advance a next opened else some a) = some q) : q.id = a.id := by
        split_ifs at hq
        · obtain ⟨op, -, rfl⟩ := Option.map_eq_some_iff.1 hq
          rfl
        · rw [Option.some.inj hq]
      rw [key hq, key hr]
      exact hab
    · intro q hq
      rcases mem_ops_complete hq with ⟨hq, -⟩ | ⟨r, hr, hrid, hqid, -⟩
      · exact ht.below q hq
      · rw [hqid, ← hrid]
        exact ht.below r hr
  · rcases act_ops he hu with ⟨-, hops⟩ | ⟨-, hops, hnext⟩ | ⟨op, hops, hnext, -⟩
    · constructor
      · rw [hops]
        exact .nil
      · intro q hq
        rw [hops] at hq
        cases hq
    · constructor
      · rw [hops]
        exact ht.distinct
      · intro q hq
        rw [hops] at hq
        rw [hnext]
        exact ht.below q hq
    · constructor
      · rw [hops]
        exact .cons (fun q hq => (ht.below q hq).ne') ht.distinct
      · intro q hq
        rw [hops] at hq
        rw [hnext]
        rcases List.mem_cons.1 hq with rfl | hq
        · exact Nat.lt_succ_self _
        · exact Nat.lt_succ_of_lt (ht.below q hq)

theorem FreshIds.find_eq (ht : FreshIds t) {p : Pending} (hp : p ∈ t.ops) :
    t.ops.find? (·.id = p.id) = some p := by
  obtain ⟨pre, post, hops⟩ := List.append_of_mem hp
  have hd := ht.distinct
  rw [hops, List.pairwise_append] at hd
  rw [hops, List.find?_append, List.find?_eq_none.2 fun q hq => ?_]
  · simp
  · simpa using hd.2.2 q hq p List.mem_cons_self

/-- A completion of an operation whose conversation is not shown, and that writes. -/
theorem cross_talk_of_write {p : Pending} {now : ℤ} {answer : Completion} {store : ChatStoreState}
    {next : Option Op} (hp : t.ops.find? (·.id = p.id) = some p) (hne : p.conversation ≠ t.shown)
    (hc : p.op.complete now t.store answer = some (store, next))
    (hw : store.messages ≠ t.store.messages) : ¬ NoCrossTalk t ⟨now, .complete p.id answer⟩ := by
  intro h
  exact hne (h _ (step_complete hp hc) p (List.mem_of_find?_eq_some hp) (by simp [Action.completes])
    fun hv => hw (congrArg Prod.fst hv))

theorem append_ne_self {α : Type*} (xs : List α) (x : α) : xs ++ [x] ≠ xs := by
  intro h
  simpa using congrArg List.length h

theorem ChatStoreState.messages_replied (s : ChatStoreState) (request : ChatRequest)
    (data : ChatResponse) : ∃ m, (s.replied request data).messages = s.messages ++ [m] := by
  unfold replied
  split <;> exact ⟨_, rfl⟩

/-- An operation that is left behind can write into the conversation that is shown: the reply of
a `sendMessage`, the document or the text of an upload. -/
theorem cross_talk_of_stale {p : Pending} (hp : t.ops.find? (·.id = p.id) = some p)
    (hne : p.conversation ≠ t.shown) :
    ∃ es u e, AnyRun Tab.step t es u ∧ (∀ e' ∈ es ++ [e], e'.action.completes p.id = true) ∧
      ¬ NoCrossTalk u e := by
  -- one completion writes, or one completion leads to where the next one writes
  have now (time : ℤ) (answer : Completion) {store : ChatStoreState} {next : Option Op}
      (hc : p.op.complete time t.store answer = some (store, next))
      (hw : store.messages ≠ t.store.messages) :
      ∃ es u e, AnyRun Tab.step t es u ∧ (∀ e' ∈ es ++ [e], e'.action.completes p.id = true) ∧
        ¬ NoCrossTalk u e :=
    ⟨[], t, _, .nil t, by simp [Action.completes], cross_talk_of_write hp hne hc hw⟩
  have later (answer answer' : Completion) {op : Op} {store store' : ChatStoreState}
      {next : Option Op} (hopens : p.op.opens answer = false)
      (hc : p.op.complete 0 t.store answer = some (store, some op))
      (hc' : op.complete 0 store answer' = some (store', next))
      (hw : store'.messages ≠ store.messages) :
      ∃ es u e, AnyRun Tab.step t es u ∧ (∀ e' ∈ es ++ [e], e'.action.completes p.id = true) ∧
        ¬ NoCrossTalk u e := by
    obtain ⟨u, hst, rfl, hshown, hfind⟩ := step_of_waiting 0 answer hp hopens hc
    exact ⟨[_], u, _, .single trivial hst, by simp [Action.completes],
      cross_talk_of_write (p := { p with op }) hfind (by rw [hshown]; exact hne) hc' hw⟩
  have hreply (s : ChatStoreState) (request : ChatRequest) (data : ChatResponse) :
      (s.replied request data).messages ≠ s.messages := by
    obtain ⟨m, hm⟩ := s.messages_replied request data
    rw [hm]
    exact append_ne_self _ _
  let data : ChatResponse := { reply := [], hintLevel := .one, timestamp := 0 }
  let text : OcrResult :=
    { fullText := [0], confidence := none, language := [], pageCount := none }
  obtain ⟨id, conversation, op⟩ := p
  rcases op with ⟨request, phase⟩ | ⟨file, phase⟩
  · cases phase with
    | reading l => exact now 0 .done rfl (append_ne_self _ _)
    | painting l complete =>
      cases complete with
      | true => exact later .frame .closed rfl rfl rfl (append_ne_self _ _)
      | false => exact later .frame .done rfl rfl rfl (append_ne_self _ _)
    | closing l => exact now 0 .closed rfl (append_ne_self _ _)
    | asking attempt => exact now 0 (.reply data) rfl (hreply _ _ _)
    | backoff attempt => exact later .timer (.reply data) rfl rfl rfl (hreply _ _ _)
  · cases phase with
    | uploading =>
      -- the time of the message tells it from the one that is shown, if there is one
      let response : UploadResponse := { id := [], filename := [], url := [] }
      by_cases h : (t.store.uploaded 0 file response []).messages = t.store.messages
      · refine now 1 (.uploaded response) rfl ?_
        intro h'
        have := h.trans h'.symm
        simp [ChatStoreState.uploaded, ChatStoreState.startNewConversation,
          ChatStoreState.append] at this
      · exact now 0 (.uploaded response) rfl h
    | polling documentId attempts => exact now 0 (.ocr (some text)) rfl (append_ne_self _ _)
    | sleeping documentId attempts =>
      exact later .timer (.ocr (some text)) rfl rfl rfl (append_ne_self _ _)

/-- **The condition is exact**: an event that leaves the conversation while another operation is
in flight can be followed by completions of that operation alone that write into the conversation
that is shown then. -/
theorem cross_talk_of_not_settled {config : Option StorageConfig} {es : List Event}
    (h : Run Tab.step Settled (Tab.opened config) es t) (hst : t.step e = some t')
    (he : ¬ Settled t e) : ∃ es' u e', AnyRun Tab.step t' es' u ∧ ¬ NoCrossTalk u e' := by
  have hids : FreshIds t' := freshIds_step (h.invariant
    ⟨.nil, fun _ hp => absurd hp List.not_mem_nil⟩ fun _ _ _ ht _ => freshIds_step ht) hst
  obtain ⟨hreload, hshown, hops⟩ := not_or.1 he |>.imp_right not_or.1
  push Not at hops
  obtain ⟨p, hp, hcomp⟩ := hops
  have hp' : p ∈ t'.ops := mem_ops_of_step hst hp hreload (by simpa using hcomp)
  -- the operation worked for the conversation that the event has left
  have hne : p.conversation ≠ t'.shown := by
    rw [attended_of_run h p hp]
    obtain ⟨u, -, rfl⟩ := step_eq_some hst
    exact Ne.symm hshown
  obtain ⟨es', u, e', hrun, -, hbad⟩ := cross_talk_of_stale (hids.find_eq hp') hne
  exact ⟨es', u, e', hrun, hbad⟩

end Client

end StudyOasis
